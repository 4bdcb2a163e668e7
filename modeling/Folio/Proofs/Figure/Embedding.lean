import Folio.Figure.Embedding
import Folio.Proofs.Document.Congruence

/-!
# One figure after the other

The pass for figures is a loop over paths that stops at the first figure that cannot be embedded.
Embedding puts tokens behind the image and moves none, so the figures that are still to come stay
figures, and what one round keeps, the whole pass keeps.
-/

namespace Folio.Figure

/-- A figure is known by its kind and the kinds of its children. -/
theorem isFigure_eq (t : Token) :
    isFigure t = (t.kind == .inline && t.children.map Token.kind == [.image]) := by
  unfold isFigure
  congr 1
  match t.children with
  | [] => rfl
  | [image] => cases hkind : image.kind <;> simp [hkind]
  | image :: other :: rest => simp

theorem embed_cases {resources : Provider} {figure embedded : Token}
    (h : embed resources figure = .ok embedded) :
    (∃ image source, figure.children = [image] ∧
        embedded = { figure with children := withCaption source image }) ∨ embedded = figure := by
  unfold embed at h
  split at h
  · rename_i image hchildren
    cases hsource : embeddedSource resources image with
    | error e => simp [hsource, Except.map] at h
    | ok source =>
      simp only [hsource, Except.map, Except.ok.injEq] at h
      exact .inl ⟨image, source, hchildren, h.symm⟩
  · exact .inr (Except.ok.inj h).symm

theorem embedAll_eq (resources : Provider) (doc : Document) :
    embedAll resources doc =
      let paths := (Outline.ofDocument doc).pathsWhere doc isFigure
      let result := embedAt resources doc paths
      (result.1.elim (.ok paths.length) .error, result.2) := by
  unfold embedAll
  simp only
  cases embedAt resources doc ((Outline.ofDocument doc).pathsWhere doc isFigure) with
  | mk e? embedded => cases e? <;> rfl

variable {resources : Provider} {doc : Document} {path : Path} {rest : List Path}

theorem embedAt_cons_none (h : doc.get? path = none) :
    embedAt resources doc (path :: rest) = embedAt resources doc rest := by
  simp [embedAt, h]

theorem embedAt_cons_error {figure : Token} {e : EnrichError} (h : doc.get? path = some figure)
    (hembed : embed resources figure = .error e) :
    embedAt resources doc (path :: rest) = (some e, doc) := by
  simp [embedAt, h, hembed]

theorem embedAt_cons_ok {figure embedded : Token} (h : doc.get? path = some figure)
    (hembed : embed resources figure = .ok embedded) :
    embedAt resources doc (path :: rest) =
      embedAt resources (doc.modify path fun _ => embedded) rest := by
  simp [embedAt, h, hembed]

/-! ## The figures still to come -/

/-- Whether the token has an image for a child if it has one child only. -/
def HasImage (figure : Token) : Prop :=
  ∀ image, figure.children = [image] → image.kind = .image

def LeadToFigures (doc : Document) (paths : List Path) : Prop :=
  ∀ path ∈ paths, path ≠ [] ∧ (doc.get? (path ++ [0])).map Token.kind = some .image

theorem leadToFigures_pathsWhere (doc : Document) :
    LeadToFigures doc ((Outline.ofDocument doc).pathsWhere doc isFigure) := by
  intro path hpath
  obtain ⟨hmem, hholds⟩ := List.mem_filter.mp hpath
  have hne : path ≠ [] := ne_nil_of_mem_pathsFrom hmem
  obtain ⟨t, ht⟩ := doc.get?_isSome_of_mem hmem
  have hfigure : isFigure t = true := by simpa [Outline.holdsAt, ht] using hholds
  have hchild : doc.get? (path ++ [0]) = t.children[0]? := by
    show tokenAt? doc.tokens (path ++ [0]) = t.children[0]?
    rw [tokenAt?_child _ hne, show tokenAt? doc.tokens path = some t from ht, Option.bind_some]
  refine ⟨hne, ?_⟩
  rw [hchild]
  unfold isFigure at hfigure
  split at hfigure
  · rename_i image hchildren
    simp only [Bool.and_eq_true, beq_iff_eq] at hfigure
    simp [hchildren, hfigure.2]
  · simp at hfigure

theorem LeadToFigures.hasImage {paths : List Path} {figure : Token} (h : LeadToFigures doc paths)
    (hpath : path ∈ paths) (hfigure : doc.get? path = some figure) : HasImage figure := by
  intro image hchildren
  obtain ⟨hne, himage⟩ := h path hpath
  have hchild : doc.get? (path ++ [0]) = some image := by
    show tokenAt? doc.tokens (path ++ [0]) = some image
    rw [tokenAt?_child _ hne, show tokenAt? doc.tokens path = some figure from hfigure,
      Option.bind_some, hchildren]
    rfl
  simpa [hchild] using himage

theorem keepsKinds_embed {figure embedded : Token}
    (hembed : embed resources figure = .ok embedded) : KeepsKinds [figure] [embedded] := by
  obtain ⟨image, source, hchildren, rfl⟩ | rfl := embed_cases hembed
  · refine ⟨rfl, ?_⟩
    intro path t ht
    -- What stands below the image stays below it, and every other path has led nowhere.
    match path with
    | [] => simp [tokenAt?] at ht
    | [0] =>
      obtain rfl : figure = t := by simpa [tokenAt?] using ht
      rfl
    | [0, 0] =>
      obtain rfl : image = t := by simpa [tokenAt?, hchildren] using ht
      rfl
    | 0 :: 0 :: i :: path =>
      have hbelow : tokenAt? image.children (i :: path) = some t := by
        simpa [tokenAt?, hchildren] using ht
      have hkept : tokenAt? [{ figure with children := withCaption source image }]
          (0 :: 0 :: i :: path) = tokenAt? image.children (i :: path) := rfl
      rw [hkept, hbelow, Option.map_some]
    | 0 :: (i + 1) :: path => cases path <;> simp [tokenAt?, hchildren] at ht
    | (i + 1) :: path => cases path <;> simp [tokenAt?] at ht
  · exact congruence_keepsKinds.refl _

theorem LeadToFigures.embed {paths : List Path} {figure embedded : Token}
    (h : LeadToFigures doc paths) (hfigure : doc.get? path = some figure)
    (hembed : embed resources figure = .ok embedded) :
    LeadToFigures (doc.modify path fun _ => embedded) paths := by
  have hkept : KeepsKinds doc.tokens (doc.modify path fun _ => embedded).tokens := by
    apply congruence_keepsKinds.modifyAt
    intro t ht
    obtain rfl : figure = t := Option.some.inj (hfigure.symm.trans ht)
    exact keepsKinds_embed hembed
  intro other hother
  obtain ⟨hne, himage⟩ := h other hother
  obtain ⟨image, hget, hkind⟩ := Option.map_eq_some_iff.mp himage
  refine ⟨hne, ?_⟩
  rw [← hkind]
  exact hkept.kindAt _ image hget

theorem embedAt_induction (holds : Document → Prop)
    (hembed : ∀ {doc : Document} {path : Path} {figure embedded : Token},
      doc.get? path = some figure → HasImage figure → embed resources figure = .ok embedded →
        holds doc → holds (doc.modify path fun _ => embedded))
    {paths : List Path} (hfigures : LeadToFigures doc paths) (h : holds doc) :
    holds (embedAt resources doc paths).2 := by
  induction paths generalizing doc with
  | nil => exact h
  | cons path rest ih =>
    have hrest : LeadToFigures doc rest := fun p hp => hfigures p (by simp [hp])
    cases hfigure : doc.get? path with
    | none =>
      rw [embedAt_cons_none hfigure]
      exact ih hrest h
    | some figure =>
      cases hresult : embed resources figure with
      | error e =>
        rw [embedAt_cons_error hfigure hresult]
        exact h
      | ok embedded =>
        have himage : HasImage figure := hfigures.hasImage (by simp) hfigure
        rw [embedAt_cons_ok hfigure hresult]
        exact ih (hrest.embed hfigure hresult) (hembed hfigure himage hresult h)

theorem related_embedAll {R : List Token → List Token → Prop} (hR : Congruence R)
    (htrans : ∀ {ts us vs}, R ts us → R us vs → R ts vs)
    (hembed : ∀ {figure embedded : Token}, HasImage figure →
      embed resources figure = .ok embedded → R [figure] [embedded]) (doc : Document) :
    R doc.tokens (embedAll resources doc).2.tokens := by
  rw [embedAll_eq]
  refine embedAt_induction (fun d => R doc.tokens d.tokens) ?_ (leadToFigures_pathsWhere doc)
    (hR.refl _)
  intro d path figure embedded hfigure himage hresult hd
  refine htrans hd (hR.modifyAt ?_)
  intro t ht
  obtain rfl : figure = t := Option.some.inj (hfigure.symm.trans ht)
  exact hembed himage hresult

end Folio.Figure
