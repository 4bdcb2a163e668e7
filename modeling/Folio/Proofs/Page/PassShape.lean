import Folio.Heading.Anchoring
import Folio.Proofs.Code.WrapPoint
import Folio.Proofs.Figure.Embedding
import Folio.Proofs.Markdown.PageShape

/-!
# Passes keep the shape of a page

The passes for headings, figures and code leave a page flat: what they put in the place of a
top-level token is a top-level token, and what they put in the place of a leaf is a leaf. On a flat
page no pass meets a leaf with children, and every figure has an image with a source.
-/

namespace Folio

/-- Whether one token can stand on a page where another stands. -/
structure Token.FitsFor (u t : Token) : Prop where
  top : t.IsPageToken → u.IsPageToken
  leaf : t.IsTextLeaf → u.IsTextLeaf

/-- Whether siblings can stand where others stand: on a page if those can, among leaves if those are,
and below a token without children only if there are none. -/
structure Stands (ts us : List Token) : Prop where
  page : (∀ t ∈ ts, t.IsPageToken) → ∀ u ∈ us, u.IsPageToken
  leaves : (∀ t ∈ ts, t.IsTextLeaf) → ∀ u ∈ us, u.IsTextLeaf
  nil : ts = [] → us = []

theorem Token.FitsFor.stands {t u : Token} (h : u.FitsFor t) : Stands [t] [u] :=
  ⟨by simpa using h.top, by simpa using h.leaf, by simp⟩

theorem Stands.fitsFor {t : Token} {us : List Token} (h : Stands t.children us) :
    ({ t with children := us } : Token).FitsFor t where
  top ht := ⟨ht.notLeaf, h.leaves ht.leaves, fun hkind => h.nil (ht.childless hkind)⟩
  leaf ht := ⟨ht.isLeaf, h.nil ht.children, ht.source⟩

theorem congruence_stands : Congruence Stands where
  refl _ := ⟨id, id, id⟩
  append := by
    intro ts ts' us us' h h'
    refine ⟨?_, ?_, ?_⟩
    · intro hall
      rw [List.forall_mem_append] at hall ⊢
      exact ⟨h.page hall.1, h'.page hall.2⟩
    · intro hall
      rw [List.forall_mem_append] at hall ⊢
      exact ⟨h.leaves hall.1, h'.leaves hall.2⟩
    · intro hnil
      rw [List.append_eq_nil_iff] at hnil ⊢
      exact ⟨h.nil hnil.1, h'.nil hnil.2⟩
  children _ _ h := h.fitsFor.stands

/-! ## Paths of a page -/

theorem tokenAt?_nil (path : Path) : tokenAt? [] path = none := by
  match path with
  | [] => rfl
  | [i] => rfl
  | i :: j :: path => rfl

theorem tokenAt?_leaves {ts : List Token} (h : ∀ t ∈ ts, t.IsTextLeaf) {path : Path} {t : Token}
    (ht : tokenAt? ts path = some t) : t.IsTextLeaf := by
  match path with
  | [] => simp [tokenAt?] at ht
  | [i] => exact h t (List.mem_of_getElem? ht)
  | i :: j :: path =>
    obtain ⟨u, hu, ht⟩ := Option.bind_eq_some_iff.mp ht
    rw [(h u (List.mem_of_getElem? hu)).children, tokenAt?_nil] at ht
    simp at ht

namespace Document.IsPage

variable {doc : Document}

theorem get?_cases (h : doc.IsPage) {path : Path} {t : Token} (ht : doc.get? path = some t) :
    (∃ i, path = [i] ∧ t.IsPageToken) ∨ t.IsTextLeaf := by
  match path with
  | [] => simp [Document.get?, tokenAt?] at ht
  | [i] => exact .inl ⟨i, rfl, h t (List.mem_of_getElem? ht)⟩
  | i :: j :: path =>
    obtain ⟨u, hu, ht⟩ := Option.bind_eq_some_iff.mp ht
    exact .inr (tokenAt?_leaves (h u (List.mem_of_getElem? hu)).leaves ht)

/-- A change at a path that puts a token in a place where it can stand keeps the page flat. -/
theorem modify (h : doc.IsPage) {path : Path} {change : Token → Token}
    (hchange : ∀ t, doc.get? path = some t → (change t).FitsFor t) :
    (doc.modify path change).IsPage :=
  (congruence_stands.modifyAt fun t ht => (hchange t ht).stands).page h

end Document.IsPage

/-! ## What the passes put in place of a token -/

theorem Token.fitsFor_setAttr (key value : String) (t : Token) : (t.setAttr key value).FitsFor t where
  top h := ⟨h.notLeaf, h.leaves, h.childless⟩
  leaf h := ⟨h.isLeaf, h.children, fun hkind => by
    obtain ⟨path, hpath⟩ := h.source hkind
    by_cases hkey : "src" = key
    · exact ⟨value, by rw [attr?_setAttr, if_pos hkey]⟩
    · exact ⟨path, by rw [attr?_setAttr, if_neg hkey, hpath]⟩⟩

theorem Token.fitsFor_refl (t : Token) : t.FitsFor t :=
  ⟨id, id⟩

theorem Heading.isPage_setAnchors {doc : Document} (h : doc.IsPage)
    (assigned : List (Path × Anchor)) : (setAnchors doc assigned).IsPage := by
  induction assigned generalizing doc with
  | nil => exact h
  | cons entry rest ih =>
    obtain ⟨path, a⟩ := entry
    exact ih (h.modify fun t _ => t.fitsFor_setAttr "id" a.name)

namespace Code

theorem fitsFor_wrap (t : Token) : (wrap t).FitsFor t where
  top h := ⟨h.notLeaf, h.leaves, h.childless⟩
  leaf h := ⟨h.isLeaf, h.children, fun hkind => by
    obtain ⟨path, hpath⟩ := h.source hkind
    have hsource : t.attrs.lookup "src" = some path := hpath
    refine ⟨path, ?_⟩
    show (t.attrs ++ [("class", wrappableClass)]).lookup "src" = some path
    rw [List.lookup_append, hsource]
    rfl⟩

theorem wrapAt_page {doc : Document} (h : doc.IsPage) (paths : List Path) :
    (wrapAt doc paths).1 = none ∧ (wrapAt doc paths).2.IsPage := by
  induction paths generalizing doc with
  | nil => exact ⟨rfl, h⟩
  | cons path rest ih =>
    unfold wrapAt
    cases hspan : doc.get? path with
    | none => exact ih h
    | some span =>
      have hchildless : span.isMalformedLeaf = false := by
        rcases h.get?_cases hspan with ⟨i, -, htop⟩ | hleaf
        · simp [Token.isMalformedLeaf, htop.notLeaf]
        · simp [Token.isMalformedLeaf, hleaf.children]
      simpa [hchildless] using ih (h.modify fun t _ => fitsFor_wrap t)

theorem wrapAll_page {doc : Document} (h : doc.IsPage) :
    (∃ count, (wrapAll doc).1 = .ok count) ∧ (wrapAll doc).2.IsPage := by
  obtain ⟨hnone, hpage⟩ := wrapAt_page h ((Outline.ofDocument doc).pathsWhere doc isSpan)
  rw [wrapAll_eq]
  exact ⟨⟨_, by simp only [hnone]; rfl⟩, hpage⟩

end Code

namespace Figure

theorem fitsFor_embed {resources : Provider} {figure embedded : Token}
    (h : embed resources figure = .ok embedded) : embedded.FitsFor figure := by
  obtain ⟨image, source, hchildren, rfl⟩ | rfl := embed_cases h
  · refine ⟨fun htop => ⟨htop.notLeaf, ?_, ?_⟩, fun hleaf => ?_⟩
    · have himage := htop.leaves image (by simp [hchildren])
      have hembedded := (Token.fitsFor_setAttr "src" source image).leaf himage
      intro c hc
      simp only [withCaption, List.mem_cons, List.not_mem_nil, or_false] at hc
      rcases hc with rfl | rfl | rfl | rfl
      · exact (Token.fitsFor_setAttr "id" _ _).leaf hembedded
      · exact Token.isTextLeaf_inlineHtml _
      · exact Token.isTextLeaf_text _
      · exact Token.isTextLeaf_inlineHtml _
    · intro hkind
      simp [htop.childless hkind] at hchildren
    · simp [hleaf.children] at hchildren
  · exact Token.fitsFor_refl _

/-- The errors that the pass for figures can end with on a page: an image cannot be read, or it is
of no known type. -/
def IsImageError (e : EnrichError) : Prop :=
  (∃ cause, e = .resource cause) ∨ ∃ path extension, e = .unknownExtension path extension

theorem embed_error {resources : Provider} {figure : Token} {e : EnrichError}
    (hleaves : ∀ c ∈ figure.children, c.IsTextLeaf) (himage : HasImage figure)
    (h : embed resources figure = .error e) : IsImageError e := by
  unfold embed at h
  split at h
  · rename_i image hchildren
    obtain ⟨source, hsource⟩ :=
      (hleaves image (by simp [hchildren])).source (himage image hchildren)
    unfold embeddedSource at h
    rw [hsource] at h
    simp only at h
    split at h
    · rename_i cause _
      exact .inl ⟨cause, (Except.error.inj h).symm⟩
    · split at h
      · exact .inr ⟨_, _, (Except.error.inj h).symm⟩
      · simp [Except.map] at h
  · simp at h

theorem embedAt_page (resources : Provider) {doc : Document} {paths : List Path} (h : doc.IsPage)
    (hpaths : LeadToFigures doc paths) :
    (∀ e, (embedAt resources doc paths).1 = some e → IsImageError e) ∧
      (embedAt resources doc paths).2.IsPage := by
  induction paths generalizing doc with
  | nil => exact ⟨by simp [embedAt], h⟩
  | cons path rest ih =>
    have hrest : LeadToFigures doc rest := fun p hp => hpaths p (by simp [hp])
    cases hfigure : doc.get? path with
    | none =>
      rw [embedAt_cons_none hfigure]
      exact ih h hrest
    | some figure =>
      have himage : HasImage figure := hpaths.hasImage (by simp) hfigure
      have hleaves : ∀ c ∈ figure.children, c.IsTextLeaf := by
        rcases h.get?_cases hfigure with ⟨i, -, htop⟩ | hleaf
        · exact htop.leaves
        · simp [hleaf.children]
      cases hembed : embed resources figure with
      | error e =>
        rw [embedAt_cons_error hfigure hembed]
        refine ⟨?_, h⟩
        rintro _ ⟨⟩
        exact embed_error hleaves himage hembed
      | ok embedded =>
        rw [embedAt_cons_ok hfigure hembed]
        apply ih
        · apply h.modify
          intro t ht
          obtain rfl : figure = t := Option.some.inj (hfigure.symm.trans ht)
          exact fitsFor_embed hembed
        · exact hrest.embed hfigure hembed

theorem embedAll_page (resources : Provider) {doc : Document} (h : doc.IsPage) :
    (∀ e, (embedAll resources doc).1 = .error e → IsImageError e) ∧
      (embedAll resources doc).2.IsPage := by
  obtain ⟨herror, hpage⟩ := embedAt_page resources h (leadToFigures_pathsWhere doc)
  rw [embedAll_eq]
  refine ⟨?_, hpage⟩
  intro e he
  apply herror
  cases hresult : (embedAt resources doc ((Outline.ofDocument doc).pathsWhere doc isFigure)).1 with
  | none => simp [hresult] at he
  | some cause =>
    simp only [hresult, Option.elim_some, Except.error.injEq] at he
    rw [he]

end Figure

end Folio
