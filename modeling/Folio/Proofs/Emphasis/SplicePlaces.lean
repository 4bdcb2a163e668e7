import Folio.Proofs.Emphasis.Decoration
import Folio.Proofs.Emphasis.Paragraphs
import Folio.Proofs.Emphasis.SpliceTags
import Folio.Proofs.Page.PassShape
import Folio.Proofs.Toc.KeptPlaces

/-!
# Emphasis keeps the place

Splicing passes over a paragraph whose label is the bracketed word once it is trimmed. That is every
paragraph that is the place, as its label is its text. And it makes no place of another paragraph: if
nothing but leaves of text comes out of it, nothing but the same text has gone in.
-/

namespace Folio

open Html Toc

namespace Emphasis

variable {emphasizer : Emphasizer}

/-! ## Text without spans -/

/-- Leaves of text are no tags of spans, so all that they hold is left without those. -/
theorem content_withoutSpans_of_plainText? {ts : List Token} {cs : List Char}
    (h : plainText? ts = some cs) :
    (siblingsWithoutSpans ts).flatMap (·.content.toList) = cs := by
  induction ts generalizing cs with
  | nil =>
    obtain rfl : [] = cs := Option.some.inj h
    rfl
  | cons t rest ih =>
    by_cases ht : t.kind = .text
    · rw [plainText?, if_pos ht] at h
      obtain ⟨behind, hbehind, rfl⟩ := Option.map_eq_some_iff.mp h
      have htag : isSpanTag t = false := by simp [isSpanTag, ht]
      simp [siblingsWithoutSpans, htag, Token.withoutSpans_eq, ih hbehind]
    · simp [plainText?, ht] at h

/-- Whether nothing but text has come of nothing but the same text. -/
def GivesNoText (ts us : List Token) : Prop :=
  ∀ cs, plainText? us = some cs → plainText? ts = some cs

theorem congruence_givesNoText : Congruence GivesNoText where
  refl _ _ := id
  append := by
    intro ts ts' us us' h h' cs hcs
    rw [plainText?_append] at hcs ⊢
    obtain ⟨front, hfront, hcs⟩ := Option.bind_eq_some_iff.mp hcs
    obtain ⟨behind, hbehind, rfl⟩ := Option.map_eq_some_iff.mp hcs
    rw [h front hfront, h' behind hbehind]
    rfl
  children _ _ _ _ := id

theorem relatesText_givesNoText (hkeeps : emphasizer.KeepsText) :
    RelatesText GivesNoText emphasizer := by
  intro t spliced count hkind _ hspliced cs hcs
  have hcontent := (spells_emphasizeText hkeeps hspliced).content
  rw [content_withoutSpans_of_plainText? hcs] at hcontent
  rw [plainText?, if_pos hkind, hcontent]
  simp [plainText?]

/-! ## Shape and tags -/

theorem IsPiece.isTextLeaf {t : Token} (h : IsPiece t) : t.IsTextLeaf := by
  cases h with
  | text content => exact Token.isTextLeaf_text content
  | spanOpen | spanClose => exact Token.isTextLeaf_inlineHtml _

theorem IsPiece.isQuiet {t : Token} (h : IsPiece t) : t.IsQuiet := by
  cases h with
  | text content => trivial
  | spanOpen =>
    have hmarkup : IsMarkup spanOpenHtml := by
      rw [spanOpenHtml_eq]
      exact isMarkup_startTag (by decide) knownAttrs_span
    exact hmarkup
  | spanClose =>
    have hmarkup : IsMarkup spanCloseHtml := by
      rw [spanCloseHtml_eq]
      exact isMarkup_endTag (by decide)
    exact hmarkup

theorem relatesText_stands (emphasizer : Emphasizer) : RelatesText Stands emphasizer := by
  intro t spliced count hkind _ hspliced
  refine ⟨fun hpage => ?_, fun _ u hu => ?_, by simp⟩
  · have hleaf := (hpage t (by simp)).notLeaf
    simp [hkind, Kind.isLeaf] at hleaf
  · exact (isPiece_emphasizeText hspliced u hu).isTextLeaf

theorem relatesText_keepsQuiet (emphasizer : Emphasizer) : RelatesText KeepsQuiet emphasizer := by
  intro t spliced count _ _ hspliced _
  have hpieces := isPiece_emphasizeText hspliced
  rw [siblingsInOrder_of_leaves fun u hu => (hpieces u hu).isTextLeaf]
  exact fun u hu => (hpieces u hu).isQuiet

/-! ## Paragraphs -/

theorem isPlaceholder_of_holdsPlace {container : Token} (hlabelled : container.IsLabelled)
    (h : container.holdsPlace = true) : isPlaceholder [container] = true := by
  obtain ⟨hkind, cs, hcs, hplace⟩ := Token.holdsPlace_iff.mp h
  have hcontent : [container].flatMap (·.content.toList) = cs := by
    simpa using hlabelled hkind cs hcs
  rw [isPlaceholder, hcontent, trim_placeText hplace]
  exact hplace

theorem spliceParagraph_single {t : Token} (ht : t.kind ≠ .text) {body : List Token}
    {stats : SpliceStats} (h : spliceParagraph emphasizer [t] = .ok (body, stats)) :
    body = [t] ∨ isPlaceholder [t] = false ∧ ∃ result : List Token × MarkCount,
      spliceBody emphasizer t.children = .ok result ∧ body = [{ t with children := result.1 }] := by
  unfold spliceParagraph at h
  split at h
  · exact .inl (Prod.mk.inj (Except.ok.inj h)).1.symm
  · rename_i hplace
    obtain ⟨spliced, hspliced, h⟩ := bind_eq_ok_iff.mp h
    have hbody : body = spliced.1 := by
      simp only at h
      split at h
      · exact (Prod.mk.inj (Except.ok.inj h)).1.symm
      · simp at h
    obtain ⟨first, hfirst, hspliced⟩ := bind_eq_ok_iff.mp hspliced
    obtain ⟨others, hothers, hspliced⟩ := bind_eq_ok_iff.mp hspliced
    obtain rfl : _ = others := Except.ok.inj hothers
    obtain rfl : _ = spliced := Except.ok.inj hspliced
    cases t with
    | mk kind tag content attrs children nesting =>
      rw [spliceToken, if_neg ht] at hfirst
      obtain ⟨below, hbelow, hfirst⟩ := bind_eq_ok_iff.mp hfirst
      obtain rfl : _ = first := Except.ok.inj hfirst
      exact .inr ⟨by simpa using hplace, below, hbelow, by simpa using hbody⟩

theorem holdsPlace_spliceParagraph (hkeeps : emphasizer.KeepsText) {container : Token}
    (hkind : container.kind = .inline) (hlabelled : container.IsLabelled) {body : List Token}
    {stats : SpliceStats} (h : spliceParagraph emphasizer [container] = .ok (body, stats)) :
    ∃ spliced : Token, body = [spliced] ∧ spliced.kind = .inline ∧
      spliced.holdsPlace = container.holdsPlace := by
  obtain rfl | ⟨hplace, result, hresult, rfl⟩ := spliceParagraph_single (by simp [hkind]) h
  · exact ⟨container, rfl, hkind, rfl⟩
  · refine ⟨_, rfl, hkind, ?_⟩
    have hnot : container.holdsPlace = false := by
      by_contra hholds
      simp [isPlaceholder_of_holdsPlace hlabelled (by simpa using hholds)] at hplace
    have htext : GivesNoText container.children result.1 :=
      related_spliceBody congruence_givesNoText (relatesText_givesNoText hkeeps) hresult
    rw [hnot]
    by_contra hholds
    obtain ⟨-, cs, hcs, hword⟩ := Token.holdsPlace_iff.mp (by simpa using hholds)
    have hbefore := Token.holdsPlace_iff.mpr ⟨hkind, cs, htext cs hcs, hword⟩
    simp [hnot] at hbefore

/-! ## Pages -/

theorem placeAt?_spliceSiblings (hkeeps : emphasizer.KeepsText) {ts : List Token}
    (h : Paragraphed ts) (hpage : ∀ t ∈ ts, t.IsPageToken) (hlabelled : ∀ t ∈ ts, t.IsLabelled)
    (hok : (spliceSiblings emphasizer none ts).error? = none) :
    Paragraphed (spliceSiblings emphasizer none ts).tokens ∧
      placeAt? (spliceSiblings emphasizer none ts).tokens = placeAt? ts := by
  -- A paragraph holds one container, so the pass is back between paragraphs after three tokens, where
  -- the induction hypothesis applies.
  induction h with
  | nil => exact ⟨.nil, rfl⟩
  | @other t rest hopen hclose _ ih =>
    rw [List.forall_mem_cons] at hpage hlabelled
    rw [spliceSiblings_below hopen (spliceBelow_page hpage.1)] at hok ⊢
    obtain ⟨hparagraphed, hplace⟩ := ih hpage.2 hlabelled.2 hok
    refine ⟨.other hopen hclose hparagraphed, ?_⟩
    rw [placeAt?_cons hopen, ← hplace]
    exact placeAt?_cons hopen _
  | @paragraph opening container close rest hopen hcontainer hclose _ ih =>
    simp only [List.forall_mem_cons] at hpage hlabelled
    rw [spliceSiblings_open hopen, spliceSiblings_within (by simp [hcontainer])] at hok ⊢
    cases hbody : spliceParagraph emphasizer [container].reverse with
    | error e => simp [spliceSiblings_close_error hclose hbody, Spliced.failed] at hok
    | ok result =>
      obtain ⟨body, stats⟩ := result
      rw [spliceSiblings_close hclose hbody] at hok ⊢
      obtain ⟨hparagraphed, hplace⟩ := ih hpage.2.2.2 hlabelled.2.2.2 hok
      obtain ⟨spliced, rfl, hkind, hholds⟩ :=
        holdsPlace_spliceParagraph hkeeps hcontainer hlabelled.2.1 hbody
      refine ⟨.paragraph hopen hkind hclose hparagraphed, ?_⟩
      rw [placeAt?_paragraph hopen hcontainer hclose, ← hholds, ← hplace]
      exact placeAt?_paragraph hopen hkind hclose _

/-- A page whose containers are labelled is one that can be searched after splicing too, and its place
is where it was. -/
theorem isQuietPage_spliceAll (hkeeps : emphasizer.KeepsText) {doc spliced : Document}
    {stats : SpliceStats} (h : IsQuietPage doc.tokens) (hlabelled : ∀ t ∈ doc.tokens, t.IsLabelled)
    (hsplice : spliceAll emphasizer doc = (.ok stats, spliced)) :
    IsQuietPage spliced.tokens ∧ placeAt? spliced.tokens = placeAt? doc.tokens := by
  obtain ⟨hok, htokens⟩ := spliceSiblings_of_spliceAll hsplice
  obtain ⟨hparagraphed, hplace⟩ := placeAt?_spliceSiblings hkeeps h.paragraphs h.page hlabelled hok
  rw [← htokens] at hparagraphed hplace
  have hstands := related_spliceAll congruence_stands (relatesText_stands emphasizer) hsplice
  have hquiet := related_spliceAll congruence_keepsQuiet (relatesText_keepsQuiet emphasizer) hsplice
  exact ⟨⟨hstands.page h.page, hquiet h.quiet, hparagraphed⟩, hplace⟩

end Emphasis

end Folio
