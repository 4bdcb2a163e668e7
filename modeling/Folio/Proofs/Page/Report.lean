import Folio.Proofs.Emphasis.Words
import Folio.Proofs.Markdown.Counts
import Folio.Proofs.Markdown.HeadingEntries
import Folio.Proofs.Markdown.PlainText
import Folio.Proofs.Markdown.QuietPage
import Folio.Proofs.Page.EnrichErrors
import Folio.Proofs.Page.Gists

/-!
# What the report counts

Each number of a report is counted by the pass it belongs to, on the page as the passes before have
left it. All of them can be read off the page as it was parsed, and most off its events: headings
and paragraphs by their beginnings, spans of code outside of images. The emphasized spans are the
words of the paragraphs, where a figure is read with the caption that it is given.
-/

namespace Folio

open Token Markdown Emphasis Text

/-! ## Tokens of a page -/

theorem countP_siblingsInOrder_page {ts : List Token} (h : ∀ t ∈ ts, t.IsPageToken)
    (counted : Token → Bool) :
    (siblingsInOrder ts).countP counted =
      ts.countP counted + (ts.flatMap (·.children)).countP counted := by
  induction ts with
  | nil => rfl
  | cons t rest ih =>
    obtain ⟨ht, hrest⟩ := List.forall_mem_cons.mp h
    rw [siblingsInOrder_cons_of_page ht, List.countP_append, List.countP_append, ih hrest,
      List.flatMap_cons, List.countP_append, List.countP_singleton, List.countP_cons]
    omega

theorem Document.IsPage.countP_top {doc : Document} (h : doc.IsPage) {counted : Token → Bool}
    (hleaf : ∀ t, t.kind.isLeaf = true → counted t = false) :
    doc.inOrder.countP counted = doc.tokens.countP counted := by
  have hnone : (doc.tokens.flatMap (·.children)).countP counted = 0 := by
    apply List.countP_eq_zero.mpr
    intro c hc
    obtain ⟨t, ht, hc⟩ := List.mem_flatMap.mp hc
    simp [hleaf c ((h t ht).leaves c hc).isLeaf]
  rw [Document.inOrder, countP_siblingsInOrder_page h, hnone, Nat.add_zero]

theorem Document.IsPage.countP_below {doc : Document} (h : doc.IsPage) {counted : Token → Bool}
    (hleaf : ∀ t, t.kind.isLeaf = false → counted t = false) :
    doc.inOrder.countP counted = (doc.tokens.flatMap (·.children)).countP counted := by
  have hnone : doc.tokens.countP counted = 0 := by
    apply List.countP_eq_zero.mpr
    intro t ht
    simp [hleaf t (h t ht).notLeaf]
  rw [Document.inOrder, countP_siblingsInOrder_page h, hnone, Nat.zero_add]

/-! ## Figures and code -/

theorem Figure.countP_isFigure_of_sameGists {doc other : Document} (hdoc : doc.IsPage)
    (hother : other.IsPage) (h : SameGists doc.tokens other.tokens) :
    other.inOrder.countP isFigure = doc.inOrder.countP isFigure := by
  have hgists : ∀ ts : List Token, ts.countP isFigure = (ts.map gists).countP Gist.isFigure := by
    intro ts
    rw [List.countP_map]
    exact List.countP_congr fun t _ => by simp [isFigure_gists]
  rw [hother.countP_top isFigure_of_isLeaf, hdoc.countP_top isFigure_of_isLeaf, hgists, hgists, h]

theorem Heading.isOpening_of_isLeaf (t : Token) (h : t.kind.isLeaf = true) :
    isOpening t = false := by
  cases hkind : t.kind <;> simp_all [isOpening, Kind.isHeadingOpen, Kind.isLeaf]

theorem Code.isSpan_of_not_leaf (t : Token) (h : t.kind.isLeaf = false) : isSpan t = false := by
  cases hkind : t.kind <;> simp_all [isSpan, Kind.isLeaf]

theorem codeCount_gists (ts : List Token) :
    codeCount ts = ((ts.map gists).flatMap (·.2)).countP (·.kind == .codeInline) := by
  induction ts with
  | nil => rfl
  | cons t rest ih =>
    have hfirst : codeCount [t] = t.gists.2.countP (·.kind == .codeInline) := by
      rw [gists, List.countP_map, codeCount, List.flatMap_singleton]
      rfl
    rw [List.map_cons, List.flatMap_cons, List.countP_append, ← ih, ← hfirst]
    exact codeCount_append [t] rest

theorem codeCount_captioned {ts us : List Token}
    (h : us.map gists = ts.map fun t => Gist.captioned t.gists) : codeCount us = codeCount ts := by
  have hcaption : ∀ image : Gist, (Gist.caption image).countP (·.kind == .codeInline) = 0 :=
    fun _ => rfl
  have htoken : ∀ t : Token, (Gist.captioned t.gists).2.countP (·.kind == .codeInline) =
      t.gists.2.countP (·.kind == .codeInline) := by
    intro t
    rw [Gist.captioned, List.countP_append]
    split
    · simp [List.countP_flatMap, Function.comp_def, hcaption]
    · rfl
  rw [codeCount_gists, codeCount_gists, h]
  simp [List.countP_flatMap, List.flatMap_map, Function.comp_def, htoken]

/-! ## Paragraphs -/

def Gist.texts (gists : List Gist) : List String :=
  (gists.filter (·.kind == .text)).map words

theorem leafTexts_eq {t : Token} (ht : t.IsPageToken) (hkind : t.kind = .inline) :
    leafTexts [t] = Gist.texts t.gists.2 := by
  have hself : (t.kind == .text) = false := by simp [hkind]
  rw [leafTexts, siblingsInOrder_cons_of_page ht, siblingsInOrder, List.append_nil,
    List.singleton_append, List.filter_cons_of_neg (by simp [hself]), Gist.texts, gists,
    List.filter_map, List.map_map]
  apply List.map_congr_left
  intro c hc
  have hc : c.kind = .text := by simpa using (List.mem_filter.mp hc).2
  simp [gist, hc]

/-- The texts of a container, with the caption that it is given if it is a figure. -/
def spokenTexts (container : Token) : List String :=
  leafTexts [container] ++
    if Figure.isFigure container then container.children.map Figure.caption else []

/-- Whether the label of a container is the text that stands for the table of contents, in any case
and with blanks around it. -/
def labelsPlace (container : Token) : Bool :=
  eqIgnoringCase (trim container.content.toList) placeholderText

theorem isPlaceholder_singleton (container : Token) :
    isPlaceholder [container] = labelsPlace container := by
  simp [isPlaceholder, labelsPlace]

/-- Whether a token has come to stand where another stood on a page, with a caption if that one was
a figure. -/
structure Follows (t u : Token) : Prop where
  before : t.IsPageToken
  after : u.IsPageToken
  gists : u.gists = Gist.captioned t.gists

namespace Follows

variable {t u : Token}

theorem gist_eq (h : Follows t u) : u.gist = t.gist :=
  congrArg Prod.fst h.gists

theorem kind_eq (h : Follows t u) : u.kind = t.kind :=
  congrArg Gist.kind h.gist_eq

theorem labelsPlace_eq (h : Follows t u) (hkind : t.kind = .inline) :
    labelsPlace u = labelsPlace t := by
  have hwords := congrArg Gist.words h.gist_eq
  simp only [gist, h.kind_eq, hkind] at hwords
  rw [labelsPlace, labelsPlace, hwords]

theorem leafTexts_eq (h : Follows t u) (hkind : t.kind = .inline) :
    leafTexts [u] = spokenTexts t := by
  have hfigure := Figure.isFigure_gists t
  rw [Folio.leafTexts_eq h.after (h.kind_eq.trans hkind), h.gists, spokenTexts,
    Folio.leafTexts_eq h.before hkind, Gist.captioned, hfigure]
  cases hcase : Figure.isFigure t with
  | false => simp
  | true =>
    obtain ⟨image, hchildren, himage⟩ := Figure.exists_image_of_isFigure hcase
    have himage := gist_image himage
    simp [Gist.texts, Gist.caption, Token.gists, hchildren, himage]

end Follows

theorem follows_of_map_eq {ts us : List Token} (hts : ∀ t ∈ ts, t.IsPageToken)
    (hus : ∀ u ∈ us, u.IsPageToken) (h : us.map gists = ts.map fun t => Gist.captioned t.gists) :
    List.Forall₂ Follows ts us := by
  induction ts generalizing us with
  | nil =>
    obtain rfl : us = [] := by simpa using h
    exact .nil
  | cons t rest ih =>
    cases us with
    | nil => simp at h
    | cons u us =>
      obtain ⟨ht, hrest⟩ := List.forall_mem_cons.mp hts
      obtain ⟨hu, hus⟩ := List.forall_mem_cons.mp hus
      obtain ⟨hfirst, hlater⟩ := List.cons.inj h
      exact .cons ⟨ht, hu, hfirst⟩ (ih hrest hus hlater)

/-- The body of every paragraph of a page is one container, before and after the passes. -/
theorem Paragraphed.bodies_eq {ts us : List Token} (h : Paragraphed ts)
    (hfollows : List.Forall₂ Follows ts us) :
    ∃ containers followers, paragraphBodies none ts = containers.map (fun c => [c]) ∧
      paragraphBodies none us = followers.map (fun c => [c]) ∧
      List.Forall₂ Follows containers followers ∧ (∀ c ∈ containers, c.kind = .inline) ∧
      containers.length = ts.countP (·.kind == .paragraphOpen) := by
  induction h generalizing us with
  | nil =>
    cases hfollows
    exact ⟨[], [], rfl, rfl, .nil, by simp, rfl⟩
  | @other t rest hopen hclose _ ih =>
    cases hfollows with
    | cons hfirst hlater =>
      obtain ⟨containers, followers, hbefore, hafter, hall, hkinds, hlength⟩ := ih hlater
      refine ⟨containers, followers, ?_, ?_, hall, hkinds, ?_⟩
      · rw [paragraphBodies]
        simp only [if_neg hopen, hbefore]
      · rw [paragraphBodies]
        simp only [hfirst.kind_eq, if_neg hopen, hafter]
      · rw [hlength, List.countP_cons_of_neg (by simpa using hopen)]
  | @paragraph opening container close rest hopen hcontainer hclose _ ih =>
    obtain _ | ⟨hopening, _ | ⟨hinner, _ | ⟨hclosing, hlater⟩⟩⟩ := hfollows
    obtain ⟨containers, followers, hbefore, hafter, hall, hkinds, hlength⟩ := ih hlater
    rename_i opening' container' close' us
    -- The three tokens keep their kinds, so the paragraph closes at the same token as before.
    have hbody : HasNoClosing [container] := by simp [HasNoClosing, hcontainer]
    have hbody' : HasNoClosing [container'] := by
      simp [HasNoClosing, hinner.kind_eq, hcontainer]
    have hbefore' := paragraphBodies_closed hopen hbody hclose rest
    have hafter' := paragraphBodies_closed (hopening.kind_eq.trans hopen) hbody'
      (hclosing.kind_eq.trans hclose) us
    rw [hbefore] at hbefore'
    rw [hafter] at hafter'
    refine ⟨container :: containers, container' :: followers, hbefore', hafter',
      .cons hinner hall, List.forall_mem_cons.mpr ⟨hcontainer, hkinds⟩, ?_⟩
    simp [hopen, hcontainer, hclose, hlength]

theorem countBodies_followers {containers followers : List Token}
    (h : List.Forall₂ Follows containers followers) (hkinds : ∀ c ∈ containers, c.kind = .inline) :
    countBodies (followers.map fun c => [c]) =
      { paragraphs := containers.countP (!labelsPlace ·)
        skipped := containers.countP labelsPlace
        spans := wordCount ((containers.filter (!labelsPlace ·)).flatMap spokenTexts) } := by
  induction h with
  | nil => rfl
  | @cons t u containers followers hfirst _ ih =>
    obtain ⟨ht, hkinds⟩ := List.forall_mem_cons.mp hkinds
    have hplace : isPlaceholder [u] = labelsPlace t :=
      (isPlaceholder_singleton u).trans (hfirst.labelsPlace_eq ht)
    have htexts := hfirst.leafTexts_eq ht
    rw [List.map_cons, countBodies_cons, ih hkinds]
    cases hcase : labelsPlace t <;>
      simp [countBodies, SpliceStats.add, hplace, htexts, hcase, wordCount, Nat.add_comm]

/-! ## The report -/

/-- Whether the settings ask for every pass, and there is something to read images from. -/
structure Pipeline.RunsAll (p : Pipeline) : Prop where
  figures : p.config.embedFigures = true
  code : p.config.wrapInlineCode = true
  emphasis : p.config.bionic = true
  resources : p.resources.isSome = true

/-- Whether a report accounts for the page of the events, whose paragraphs hold the containers. -/
structure EnrichReport.AccountsFor (report : EnrichReport) (events : List Event)
    (containers : List Token) : Prop where
  headings : report.headings = (ParsedPage.ofEvents events).toc.length
  headingStarts : report.headings = events.countP Event.beginsHeading
  codeSpans : report.codeSpans = codeOutside 0 events
  figures : report.figures =
    (ParsedPage.ofEvents events).document.inOrder.countP Figure.isFigure
  bodies : paragraphBodies none (ParsedPage.ofEvents events).document.tokens =
    containers.map fun c => [c]
  inline : ∀ c ∈ containers, c.kind = .inline
  paragraphStarts : containers.length = events.count (.enter .paragraph)
  paragraphs : report.paragraphs + report.skippedParagraphs = events.count (.enter .paragraph)
  skipped : report.skippedParagraphs = containers.countP labelsPlace
  spans : report.spans = wordCount ((containers.filter (!labelsPlace ·)).flatMap spokenTexts)

namespace Pipeline

variable {p : Pipeline} {doc : Document}

/-- The page before the emphasis stands where the parsed one stood, its figures with captions. What
is counted up to there is counted on the parsed page. -/
theorem counts_beforeEmphasis (hp : p.RunsAll) (hpage : doc.IsPage) {figures codeSpans : Nat}
    {figured wrapped : Document} (hfigure : p.figurePass (anchored doc) = (.ok figures, figured))
    (hcode : p.codePass figured = (.ok codeSpans, wrapped)) :
    figures = doc.inOrder.countP Figure.isFigure ∧ codeSpans = codeCount doc.tokens ∧
      wrapped.IsPage ∧ List.Forall₂ Follows doc.tokens wrapped.tokens := by
  obtain ⟨resources, hresources⟩ := Option.isSome_iff_exists.mp hp.resources
  have hanchored : (anchored doc).IsPage := Heading.isPage_setAnchors hpage _
  have hfigured : figured.IsPage := by
    have hpass := (figurePass_page p hanchored).2
    rwa [hfigure] at hpass
  have hwrapped : wrapped.IsPage := by
    have hpass := (codePass_page p hfigured).2
    rwa [hcode] at hpass
  have hembed : Figure.embedAll resources (anchored doc) = (.ok figures, figured) := by
    simpa [figurePass, hresources, hp.figures] using hfigure
  have hwrap : Code.wrapAll figured = (.ok codeSpans, wrapped) := by
    simpa [codePass, hp.code] using hcode
  have hsame : SameGists doc.tokens (anchored doc).tokens := Heading.sameGists_assignAnchors doc
  have hkept := Code.sameGists_wrapAll figured
  rw [hwrap] at hkept
  obtain ⟨hfigures, hcaptions⟩ := Figure.gists_embedAll hanchored hembed
  have hcaptioned : figured.tokens.map gists = doc.tokens.map fun t => Gist.captioned t.gists := by
    have hcomposed := congrArg (List.map Gist.captioned) hsame
    rw [List.map_map, List.map_map] at hcomposed
    exact hcaptions.trans hcomposed
  refine ⟨?_, ?_, hwrapped, follows_of_map_eq hpage hwrapped ?_⟩
  · rw [hfigures]
    exact Figure.countP_isFigure_of_sameGists hpage hanchored hsame
  · rw [Code.wrapAll_count hwrap, hfigured.countP_below Code.isSpan_of_not_leaf]
    exact codeCount_captioned hcaptioned
  · exact Eq.trans hkept hcaptioned

/-- With every pass and the emphasizer for bionic reading, a report accounts for its page. The events
are nested as for a valid page, with no block in a heading or a paragraph. -/
theorem enrich_accounts {events : List Event} {report : EnrichReport} {enriched : Document}
    (hp : p.RunsAll) (hemphasizer : p.emphasizer = Bionic.emphasizer)
    (hnested : WellNested barsForShape events)
    (h : p.enrich (ParsedPage.ofEvents events).document = (.ok report, enriched)) :
    ∃ containers, report.AccountsFor events containers := by
  have hpage := isPage_ofEvents events
  have hblocks := blocks_ofEvents hnested
  have hentries := (listed_of_blocks hblocks).countP_isOpening
  have hheadings := (hpage.countP_top Heading.isOpening_of_isLeaf).trans hentries
  obtain ⟨figures, figured, codeSpans, wrapped, stats, hfigure, hcode, hemphasis⟩ :=
    enrich_ok_cases h
  obtain rfl : report = _ :=
    Except.ok.inj (Prod.mk.inj (h.symm.trans (enrich_of_passes hfigure hcode hemphasis))).1
  obtain ⟨hfigures, hspans, hwrapped, hfollows⟩ := counts_beforeEmphasis hp hpage hfigure hcode
  obtain ⟨containers, followers, hbefore, hafter, hall, hkinds, hlength⟩ :=
    hblocks.paragraphed.bodies_eq hfollows
  have hsplice : spliceAll Bionic.emphasizer wrapped = (.ok stats, enriched) := by
    simpa [emphasisPass, hp.emphasis, hemphasizer] using hemphasis
  have hstats : stats = _ := stats_spliceAll hwrapped hsplice
  rw [hafter, countBodies_followers hall hkinds] at hstats
  have hstarts := hlength.trans (countP_paragraphOpen_ofEvents events)
  have hplaces := List.length_eq_countP_add_countP labelsPlace (l := containers)
  refine ⟨containers, ?_⟩
  exact {
    headings := (Heading.assignAnchors_count _).trans hheadings
    headingStarts := (Heading.assignAnchors_count _).trans <| hheadings.trans <|
      hentries.symm.trans (countP_isOpening_ofEvents events)
    codeSpans := hspans.trans (codeCount_ofEvents hnested)
    figures := hfigures
    bodies := hbefore
    inline := hkinds
    paragraphStarts := hstarts
    paragraphs := by
      rw [← hstarts, hplaces, hstats, Nat.add_comm]
      simp
    skipped := by rw [hstats]
    spans := by rw [hstats] }

def imageful : Pipeline :=
  { imageless with resources := some Figure.threeOctets }

/-- A heading with code, the place of the table of contents, a figure with code in its alternative
text, and a paragraph with code. -/
def reportedEvents : List Event :=
  [.enter (.heading .h2), .text "Two ", .code "a_b", .leave (.heading .h2),
    .enter .paragraph, .text " [ToC]", .leave .paragraph,
    .enter .paragraph, .enter (.image "a.png" ""), .text "Fig. ", .code "c_d",
    .leave (.image "a.png" ""), .leave .paragraph,
    .enter .paragraph, .text "don't ", .code "e_f", .text " 7", .leave .paragraph]

def mixedReport : EnrichReport where
  headings := 1
  figures := 1
  codeSpans := 2
  paragraphs := 2
  spans := 6
  skippedParagraphs := 1

theorem enrich_accounts_mixed :
    imageful.RunsAll ∧ imageful.emphasizer = Bionic.emphasizer ∧
      WellNested barsForShape reportedEvents ∧
      ∃ enriched containers,
        imageful.enrich (ParsedPage.ofEvents reportedEvents).document =
            (.ok mixedReport, enriched) ∧
          mixedReport.AccountsFor reportedEvents containers := by
  have hp : imageful.RunsAll := ⟨rfl, rfl, rfl, rfl⟩
  have hnested : WellNested barsForShape reportedEvents := by decide
  have hreport : (imageful.enrich (ParsedPage.ofEvents reportedEvents).document).1 =
      .ok mixedReport := by decide +kernel
  have henrich : imageful.enrich (ParsedPage.ofEvents reportedEvents).document =
      (.ok mixedReport,
        (imageful.enrich (ParsedPage.ofEvents reportedEvents).document).2) :=
    Prod.ext hreport rfl
  obtain ⟨containers, haccounts⟩ := enrich_accounts hp rfl hnested henrich
  exact ⟨hp, rfl, hnested, _, containers, henrich, haccounts⟩

end Pipeline

end Folio
