import Mathlib.Data.List.TakeWhile
import Folio.Proofs.Code.Wrapping
import Folio.Proofs.Emphasis.Unseen

/-!
# Emphasis around wrapped code

Wrapping code and splicing emphasis may be done in either order, since splicing does not see the
change. Wrapping does rewrite labels, but only behind an underscore, and a label with an underscore
holds no place of the table of contents, before and after.
-/

namespace Folio

open Token Text

/-! ## Labels with underscores -/

theorem Text.mem_dropWhile_of_not {p : Char → Bool} {c : Char} {cs : List Char} (h : c ∈ cs)
    (hc : p c = false) : c ∈ cs.dropWhile p := by
  rw [← List.takeWhile_append_dropWhile (p := p) (l := cs), List.mem_append] at h
  rcases h with h | h
  · simp [List.mem_takeWhile_imp h] at hc
  · exact h

theorem Text.mem_trim {c : Char} {cs : List Char} (h : c ∈ cs) (hc : isBlank c = false) :
    c ∈ trim cs := by
  rw [trim, List.mem_reverse]
  apply mem_dropWhile_of_not _ hc
  rw [List.mem_reverse]
  exact mem_dropWhile_of_not h hc

namespace Emphasis

theorem isPlaceholder_of_underscore {body : List Token}
    (h : '_' ∈ body.flatMap (·.content.toList)) : isPlaceholder body = false := by
  have hlower : '_' ∈ (trim (body.flatMap (·.content.toList))).map asciiLower :=
    List.mem_map.mpr ⟨'_', mem_trim h (by decide), by decide⟩
  have hplace : '_' ∉ placeholderText.map asciiLower := by decide
  rw [isPlaceholder, eqIgnoringCase, beq_eq_false_iff_ne]
  intro heq
  exact hplace (heq ▸ hlower)

end Emphasis

namespace Code

theorem wrapped_of_ne {t : Token} (h : t.kind ≠ .codeInline) : wrapped t = t :=
  if_neg h

theorem wrapped_kind (t : Token) : (wrapped t).kind = t.kind := by
  unfold wrapped
  split <;> rfl

theorem wrapped_changeAll_content (t : Token) :
    (t.changeAll wrapped).content = (wrapped t).content := by
  cases t
  rw [changeAll, wrapped, wrapped]
  split <;> rfl

/-- Wrapping a token leaves its content as it is, unless there is an underscore in it, which stays. -/
theorem wrapped_content_cases (t : Token) :
    (wrapped t).content = t.content ∨
      '_' ∈ (wrapped t).content.toList ∧ '_' ∈ t.content.toList := by
  by_cases hkind : t.kind = .codeInline
  · have hchars : (wrapped t).content.toList = wrapChars t.content.toList := by
      rw [← wrap_eq_wrapped hkind]
      exact String.toList_ofList
    by_cases hmem : '_' ∈ t.content.toList
    · refine .inr ⟨?_, hmem⟩
      rw [hchars, wrapChars]
      exact List.mem_flatMap.mpr ⟨'_', hmem, by simp⟩
    · refine .inl (String.toList_inj.mp ?_)
      rw [hchars]
      exact wrapChars_of_not_mem hmem
  · exact .inl (congrArg Token.content (wrapped_of_ne hkind))

theorem label_wrapped_cases (body : List Token) :
    (changeSiblings wrapped body).flatMap (·.content.toList) = body.flatMap (·.content.toList) ∨
      '_' ∈ (changeSiblings wrapped body).flatMap (·.content.toList) ∧
        '_' ∈ body.flatMap (·.content.toList) := by
  induction body with
  | nil => exact .inl rfl
  | cons t rest ih =>
    rw [changeSiblings, List.flatMap_cons, List.flatMap_cons, wrapped_changeAll_content]
    rcases wrapped_content_cases t with ht | ⟨hnew, hold⟩
    · rcases ih with hrest | ⟨hnew, hold⟩
      · exact .inl (by rw [ht, hrest])
      · exact .inr ⟨List.mem_append_right _ hnew, List.mem_append_right _ hold⟩
    · exact .inr ⟨List.mem_append_left _ hnew, List.mem_append_left _ hold⟩

open Emphasis

theorem isUnseen_wrapped : IsUnseen wrapped where
  bare := concernsBare_wrapped
  kind := wrapped_kind
  piece h := wrapped_of_ne (by rcases h with h | h <;> simp [h])
  place body := by
    rcases label_wrapped_cases body with hsame | ⟨hnew, hold⟩
    · rw [isPlaceholder, isPlaceholder, hsame]
    · rw [isPlaceholder_of_underscore hnew, isPlaceholder_of_underscore hold]

end Code

/-! ## Code that splicing meets -/

namespace Emphasis

open Code

/-- Whether spans of code have no children among siblings if they have none among others, and there
are no siblings if there are none of those. -/
structure KeepsSpans (ts us : List Token) : Prop where
  leaves : SpansAreLeaves (siblingsInOrder ts) → SpansAreLeaves (siblingsInOrder us)
  nil : ts = [] → us = []

theorem spansAreLeaves_append {ts us : List Token} :
    SpansAreLeaves (ts ++ us) ↔ SpansAreLeaves ts ∧ SpansAreLeaves us :=
  List.forall_mem_append

theorem congruence_keepsSpans : Congruence KeepsSpans where
  refl _ := ⟨id, id⟩
  append := by
    intro ts ts' us us' h h'
    refine ⟨?_, ?_⟩
    · intro hleaves
      rw [siblingsInOrder_append, spansAreLeaves_append] at hleaves ⊢
      exact ⟨h.leaves hleaves.1, h'.leaves hleaves.2⟩
    · intro hnil
      rw [List.append_eq_nil_iff] at hnil ⊢
      exact ⟨h.nil hnil.1, h'.nil hnil.2⟩
  children t us h := by
    have horder : ∀ u : Token, siblingsInOrder [u] = u :: siblingsInOrder u.children := by
      intro u
      rw [siblingsInOrder, siblingsInOrder, List.append_nil, Token.inOrder_eq]
    refine ⟨?_, nofun⟩
    rw [horder, horder]
    intro hleaves
    obtain ⟨ht, hbelow⟩ := List.forall_mem_cons.mp hleaves
    exact List.forall_mem_cons.mpr ⟨fun hkind => h.nil (ht hkind), h.leaves hbelow⟩

theorem relatesText_keepsSpans (emphasizer : Emphasizer) :
    RelatesText KeepsSpans emphasizer := by
  intro t spliced count hkind hchildren hspliced
  have hpieces : ∀ u ∈ spliced, IsPiece u := isPiece_emphasizeText hspliced
  have hflat : siblingsInOrder spliced = spliced :=
    siblingsInOrder_of_childless fun u hu => (hpieces u hu).children
  refine ⟨?_, nofun⟩
  intro _ u hu _
  rw [hflat] at hu
  exact (hpieces u hu).children

theorem countP_isSpan_spliceAll {emphasizer : Emphasizer} {doc spliced : Document}
    {stats : SpliceStats} (h : spliceAll emphasizer doc = (.ok stats, spliced)) :
    spliced.inOrder.countP isSpan = doc.inOrder.countP isSpan := by
  have hcode : SamePicked (· == .codeInline) doc.tokens spliced.tokens :=
    samePicked_spliceAll rfl rfl h
  exact hcode.countP_eq

/-! ## Either order -/

/-- If the code of a document can be wrapped, splicing the wrapped document gives the same counts and
the same document as splicing it first and wrapping then, and each succeeds exactly if the other
does. -/
theorem spliceAll_wrapped_iff {emphasizer : Emphasizer} {doc wrappedDoc : Document} {count : Nat}
    (hwrap : wrapAll doc = (.ok count, wrappedDoc)) {stats : SpliceStats} {final : Document} :
    spliceAll emphasizer wrappedDoc = (.ok stats, final) ↔
      ∃ spliced, spliceAll emphasizer doc = (.ok stats, spliced) ∧
        wrapAll spliced = (.ok count, final) := by
  obtain ⟨hleaves, rfl, rfl⟩ := wrapAll_eq_ok_iff.mp hwrap
  have hunseen := isUnseen_wrapped.spliceAll_changeAll emphasizer doc
  have hwrapped : ∀ {spliced : Document}, spliceAll emphasizer doc = (.ok stats, spliced) →
      wrapAll spliced = (.ok (doc.inOrder.countP isSpan), spliced.changeAll wrapped) := by
    intro spliced hsplice
    have hkept := related_spliceAll congruence_keepsSpans (relatesText_keepsSpans emphasizer) hsplice
    exact wrapAll_eq_ok_iff.mpr
      ⟨hkept.leaves hleaves, (countP_isSpan_spliceAll hsplice).symm, rfl⟩
  rw [hunseen, Prod.mk.injEq]
  constructor
  · rintro ⟨hstats, rfl⟩
    have hsplice : spliceAll emphasizer doc = (.ok stats, (spliceAll emphasizer doc).2) :=
      Prod.ext hstats rfl
    exact ⟨_, hsplice, hwrapped hsplice⟩
  · rintro ⟨spliced, hsplice, hrest⟩
    rw [hwrapped hsplice, Prod.mk.injEq] at hrest
    rw [hsplice]
    exact ⟨rfl, hrest.2⟩

/-- Two spans of code among words, a label that holds the place only as code, and one that does not
hold it because of an underscore. -/
def codedDocument : Document where
  tokens := [.ofKind .paragraphOpen,
    .inline "Use a_b or c_" [.text "Use ", .codeInline "a_b", .text " or ", .codeInline "c_"],
    .ofKind .paragraphClose,
    .ofKind .paragraphOpen, .codeInline " [TOC]", .ofKind .paragraphClose,
    .ofKind .paragraphOpen, .codeInline "_", .inline "[toc]" [.text "[toc]"],
    .ofKind .paragraphClose]

theorem spliceAll_wrapped_iff_coded :
    ∃ wrappedDoc final spliced,
      wrapAll codedDocument = (.ok 4, wrappedDoc) ∧
        spliceAll Bionic.emphasizer wrappedDoc = (.ok ⟨2, 1, 3⟩, final) ∧
        spliceAll Bionic.emphasizer codedDocument = (.ok ⟨2, 1, 3⟩, spliced) ∧
        wrapAll spliced = (.ok 4, final) := by
  have hcount : (wrapAll codedDocument).1 = .ok 4 := by decide +kernel
  have hstats : (spliceAll Bionic.emphasizer (wrapAll codedDocument).2).1 = .ok ⟨2, 1, 3⟩ := by
    decide +kernel
  have hwrap : wrapAll codedDocument = (.ok 4, (wrapAll codedDocument).2) := Prod.ext hcount rfl
  have hsplice : spliceAll Bionic.emphasizer (wrapAll codedDocument).2 =
      (.ok ⟨2, 1, 3⟩, (spliceAll Bionic.emphasizer (wrapAll codedDocument).2).2) :=
    Prod.ext hstats rfl
  obtain ⟨spliced, hfirst, hthen⟩ := (spliceAll_wrapped_iff hwrap).mp hsplice
  exact ⟨_, _, spliced, hwrap, hsplice, hfirst, hthen⟩

end Emphasis

end Folio
