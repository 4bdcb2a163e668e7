import Folio.Page.Builder
import Folio.Page.Error
import Folio.Proofs.Figure.Embedded
import Folio.Proofs.Page.Headings

/-!
# What a built pipeline guarantees

However the settings came about, a pipeline that has been built has a depth that headings can have,
and somewhere to read images from if it is to embed figures. So when a document is enriched, all its
figures are embedded. The passes behind the one for figures leave images alone.
-/

namespace Folio

open Figure Token
open Emphasis (bind_eq_ok_iff)

/-! ## Calls -/

inductive BuilderCall where
  | config (config : PipelineConfig)
  /-- The settings of a file, in the file tree as it is at the call. -/
  | configFile (t : FileTree) (path : String)
  | sourceRoot (root : String)
  | resources (resources : Provider)
  | emphasizer (emphasizer : Emphasizer)
  | tocMaxLevel (level : UInt8)
  | bionic (enabled : Bool)
  | codeWrapping (enabled : Bool)
  | figureEmbedding (enabled : Bool)

namespace PipelineBuilder

/-- What has been chosen once a call is made. Only the settings of a file can fail to be had. -/
def call (b : PipelineBuilder) : BuilderCall → Except ConfigLoadError PipelineBuilder
  | .config config => .ok (b.withConfig config)
  | .configFile t path => b.withConfigFile t path
  | .sourceRoot root => .ok (b.withSourceRoot root)
  | .resources resources => .ok (b.withResources resources)
  | .emphasizer emphasizer => .ok (b.withEmphasizer emphasizer)
  | .tocMaxLevel level => .ok (b.withTocMaxLevel level)
  | .bionic enabled => .ok (b.withBionic enabled)
  | .codeWrapping enabled => .ok (b.withCodeWrapping enabled)
  | .figureEmbedding enabled => .ok (b.withFigureEmbedding enabled)

def ofCalls (calls : List BuilderCall) : Except ConfigLoadError PipelineBuilder :=
  calls.foldlM call new

/-- Whether a pipeline is what has been chosen, and can do what it is asked for. -/
structure Builds (b : PipelineBuilder) (t : FileTree) (p : Pipeline) : Prop where
  valid : b.config.isValid = true
  provider : b.provider? t = .ok p.resources
  source : b.config.embedFigures = true → p.resources.isSome = true
  config : p.config = b.config
  tocMaxLevel : p.tocMaxLevel = b.config.tocMaxLevel
  emphasizer : p.emphasizer = b.emphasizer.getD Bionic.emphasizer

theorem builds_of_build {b : PipelineBuilder} {t : FileTree} {p : Pipeline}
    (h : b.build t = .ok p) : b.Builds t p := by
  obtain ⟨config, hvalid, h⟩ := bind_eq_ok_iff.mp h
  obtain ⟨resources, hprovider, h⟩ := bind_eq_ok_iff.mp h
  have hconfig : b.config.isValid = true ∧ b.config = config := by
    unfold PipelineConfig.validate at hvalid
    split at hvalid
    · rename_i hisValid
      exact ⟨hisValid, Except.ok.inj hvalid⟩
    · simp at hvalid
  obtain ⟨hisValid, rfl⟩ := hconfig
  split at h
  · simp at h
  · rename_i hsource
    obtain rfl := Except.ok.inj h
    refine ⟨hisValid, hprovider, ?_, rfl, rfl, rfl⟩
    intro hembed
    cases resources with
    | none => simp [hembed] at hsource
    | some resources => rfl

end PipelineBuilder

def Pipeline.ofCalls (calls : List BuilderCall) (t : FileTree) : Except PageError Pipeline := do
  let b ← (PipelineBuilder.ofCalls calls).mapError .settings
  (b.build t).mapError .ofConfig

theorem mapError_eq_ok_iff {ε ε' α : Type} {f : ε → ε'} {x : Except ε α} {a : α} :
    x.mapError f = .ok a ↔ x = .ok a := by
  cases x <;> simp [Except.mapError]

theorem Pipeline.builds_of_ofCalls {calls : List BuilderCall} {t : FileTree} {p : Pipeline}
    (h : ofCalls calls t = .ok p) :
    ∃ b, PipelineBuilder.ofCalls calls = .ok b ∧ b.Builds t p := by
  obtain ⟨b, hcalls, hbuild⟩ := bind_eq_ok_iff.mp h
  rw [mapError_eq_ok_iff] at hcalls hbuild
  exact ⟨b, hcalls, PipelineBuilder.builds_of_build hbuild⟩

/-! ## Images of the first pass -/

/-- Whether two sequences of siblings have the same images in the same places, and siblings of the
same kinds. -/
structure SamePlaced (ts us : List Token) : Prop where
  kinds : us.map kind = ts.map kind
  images : ∀ alone, placedImages alone us = placedImages alone ts

theorem SamePlaced.trans {ts us vs : List Token} (h : SamePlaced ts us) (h' : SamePlaced us vs) :
    SamePlaced ts vs :=
  ⟨h'.kinds.trans h.kinds, fun alone => (h'.images alone).trans (h.images alone)⟩

theorem congruence_samePlaced : Congruence SamePlaced where
  refl _ := ⟨rfl, fun _ => rfl⟩
  append := by
    intro ts ts' us us' h h'
    refine ⟨?_, fun alone => ?_⟩
    · rw [List.map_append, List.map_append, h.kinds, h'.kinds]
    · rw [placedImages_append, placedImages_append, h.images, h'.images]
  children t us h := by
    have hfigure : isFigure { t with children := us } = isFigure t := by
      rw [isFigure_eq, isFigure_eq, h.kinds]
    refine ⟨rfl, fun alone => ?_⟩
    rw [placedImages_singleton, placedImages_singleton, tokenImages_eq, tokenImages_eq, hfigure,
      h.images]
    rfl

theorem Heading.samePlaced_assignAnchors (doc : Document) :
    SamePlaced doc.tokens (assignAnchors doc).2.tokens := by
  refine related_assignAnchors congruence_samePlaced SamePlaced.trans ?_ doc
  intro t id hopening
  have hkind : isImageKind t.kind = false := by
    cases hkind : t.kind <;> simp_all [isOpening, Kind.isHeadingOpen, isImageKind]
  refine ⟨rfl, fun alone => ?_⟩
  rw [placedImages_singleton, placedImages_singleton, tokenImages_eq, tokenImages_eq, hkind]
  have hset : isImageKind (t.setAttr "id" id).kind = false := hkind
  rw [hset]
  rfl

/-! ## Enriching -/

namespace Pipeline

variable {p : Pipeline} {doc : Document}

theorem figurePass_eq {resources : Provider} (hresources : p.resources = some resources)
    (hembed : p.config.embedFigures = true) :
    p.figurePass doc = embedAll resources doc := by
  simp [figurePass, hresources, hembed]

/-- A document that is enriched by a pipeline with a provider has its figures embedded and
counted. -/
theorem enrich_embeds {resources : Provider} {report : EnrichReport} {enriched : Document}
    (hresources : p.resources = some resources) (hembed : p.config.embedFigures = true)
    (h : p.enrich doc = (.ok report, enriched)) :
    report.figures = doc.inOrder.countP isFigure ∧
      List.Forall₂ (Becomes resources) (placedImages false doc.tokens) (images enriched) := by
  obtain ⟨figures, figured, codeSpans, wrapped, stats, hfigure, hcode, hemphasis⟩ :=
    enrich_ok_cases h
  have hreport := h.symm.trans (enrich_of_passes hfigure hcode hemphasis)
  obtain rfl := Except.ok.inj (Prod.mk.inj hreport).1
  rw [figurePass_eq hresources hembed] at hfigure
  -- The pass in front of this one changes openings of headings only, those behind it code and text.
  have hplaced := (Heading.samePlaced_assignAnchors doc).images false
  have hcount := (embedAll_ok hfigure).1
  have hbecomes := (embedded_embedAll hfigure).becomes
  have hwrapped : SamePicked isImageKind figured.tokens (p.codePass figured).2.tokens :=
    samePicked_codePass rfl p figured
  have hspliced : SamePicked isImageKind wrapped.tokens enriched.tokens :=
    samePicked_emphasisPass rfl rfl hemphasis
  rw [hcode] at hwrapped
  have himages : images enriched = picked isImageKind figured.tokens := hwrapped.trans hspliced
  have hfigures : (anchored doc).inOrder.countP isFigure = doc.inOrder.countP isFigure := by
    rw [← countP_alone, ← countP_alone, ← hplaced]
    rfl
  refine ⟨hcount.trans hfigures, ?_⟩
  rw [himages, ← hplaced]
  exact hbecomes

/-- A pipeline that has been built after any sequence of calls has a depth that headings can have,
for its tables of contents too. If it is to embed figures, it has something to read images from, and
when a document is enriched, every image that is the only child of an inline container carries its
bytes in the end. -/
theorem ofCalls_embeds {calls : List BuilderCall} {t : FileTree} {p : Pipeline}
    (h : ofCalls calls t = .ok p) :
    1 ≤ p.config.tocMaxLevel ∧ p.config.tocMaxLevel ≤ 6 ∧
      p.tocMaxLevel = p.config.tocMaxLevel ∧
      (p.config.embedFigures = true → ∃ resources, p.resources = some resources ∧
        ∀ doc report enriched, p.enrich doc = (.ok report, enriched) →
          report.figures = doc.inOrder.countP isFigure ∧
            (placedImages false doc.tokens).countP (·.2) = report.figures ∧
            List.Forall₂ (Becomes resources) (placedImages false doc.tokens) (images enriched) ∧
            ∀ (i : Nat) (image : Token), (placedImages false doc.tokens)[i]? = some (image, true) →
              ∃ final rest, (images enriched)[i]? = some final ∧
                final.attr? "src" = some ("data:" ++ rest)) := by
  obtain ⟨b, -, hbuilds⟩ := builds_of_ofCalls h
  have hvalid : 1 ≤ p.config.tocMaxLevel ∧ p.config.tocMaxLevel ≤ 6 := by
    simpa [hbuilds.config, PipelineConfig.isValid] using hbuilds.valid
  have hlevel : p.tocMaxLevel = p.config.tocMaxLevel := by
    rw [hbuilds.tocMaxLevel, hbuilds.config]
  refine ⟨hvalid.1, hvalid.2, hlevel, ?_⟩
  intro hembed
  obtain ⟨resources, hresources⟩ :=
    Option.isSome_iff_exists.mp (hbuilds.source (hbuilds.config ▸ hembed))
  refine ⟨resources, hresources, ?_⟩
  intro doc report enriched henrich
  obtain ⟨hcount, hbecomes⟩ := enrich_embeds hresources hembed henrich
  refine ⟨hcount, (countP_alone doc).trans hcount.symm, hbecomes, ?_⟩
  intro i image himage
  obtain ⟨hi, hget⟩ := List.getElem?_eq_some_iff.mp himage
  have hlater : i < (images enriched).length := hbecomes.length_eq ▸ hi
  have hfinal := hbecomes.get hi hlater
  rw [List.get_eq_getElem, hget] at hfinal
  obtain ⟨rest, hrest⟩ := hfinal.source
  exact ⟨_, rest, List.getElem?_eq_getElem hlater, hrest⟩

/-- Calls that turn figures off, ask for a depth that no heading has and name no directory, all of
which later calls make up for. -/
def overridingCalls : List BuilderCall :=
  [.figureEmbedding false, .tocMaxLevel 9,
    .config { PipelineConfig.default with sourceRoot := some "missing", tocMaxLevel := 2 },
    .resources threeOctets]

def overridden : Pipeline where
  config := { PipelineConfig.default with sourceRoot := some "missing", tocMaxLevel := 2 }
  tocMaxLevel := 2
  resources := some threeOctets
  emphasizer := Bionic.emphasizer

/-- A figure, and an image beside text that cannot be loaded. -/
def figuredDocument : Document where
  tokens := [.ofKind .paragraphOpen, .inline "Three" [.image "a.png" "Three"],
    .ofKind .paragraphClose, .inline "See b" [.text "See ", .image "b.png" "b"]]

theorem ofCalls_embeds_overridden :
    ofCalls overridingCalls (.emptyAt []) = .ok overridden ∧
      overridden.config.embedFigures = true ∧
      1 ≤ overridden.config.tocMaxLevel ∧ overridden.config.tocMaxLevel ≤ 6 ∧
      overridden.tocMaxLevel = overridden.config.tocMaxLevel ∧
      ∃ resources enriched, overridden.resources = some resources ∧
        overridden.enrich figuredDocument = (.ok ⟨0, 1, 0, 1, 1, 0⟩, enriched) ∧
        1 = figuredDocument.inOrder.countP isFigure ∧
        List.Forall₂ (Becomes resources) (placedImages false figuredDocument.tokens)
          (images enriched) := by
  have hcalls : ofCalls overridingCalls (.emptyAt []) = .ok overridden := rfl
  have hreport : (overridden.enrich figuredDocument).1 = .ok ⟨0, 1, 0, 1, 1, 0⟩ := by
    decide +kernel
  have henrich : overridden.enrich figuredDocument =
      (.ok ⟨0, 1, 0, 1, 1, 0⟩, (overridden.enrich figuredDocument).2) :=
    Prod.ext hreport rfl
  obtain ⟨hlow, hhigh, hlevel, hfigures⟩ := ofCalls_embeds hcalls
  obtain ⟨resources, hresources, henriched⟩ := hfigures rfl
  obtain ⟨hcount, -, hbecomes, -⟩ := henriched _ _ _ henrich
  exact ⟨hcalls, rfl, hlow, hhigh, hlevel, resources, _, hresources, henrich, hcount, hbecomes⟩

example : (images (overridden.enrich figuredDocument).2).map (·.attr? "src") =
    [some "data:image/png;base64,AQID", some "b.png"] := by
  decide +kernel

end Pipeline

end Folio
