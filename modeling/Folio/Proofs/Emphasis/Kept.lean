import Folio.Proofs.Document.Picked
import Folio.Proofs.Emphasis.Splicing

/-!
# What splicing keeps

Splicing replaces leaves of text by tokens, and takes everything else over. So a congruence that holds
between every leaf and the tokens that replace it holds between a document and the spliced one, as
long as the pass comes to its end: a paragraph that fails loses its body.
-/

namespace Folio.Emphasis

variable {R : List Token → List Token → Prop} {emphasizer : Emphasizer}

/-- Whether every leaf of text is related to the tokens that take its place. -/
def RelatesText (R : List Token → List Token → Prop) (emphasizer : Emphasizer) : Prop :=
  ∀ (t : Token) (spliced : List Token) (count : MarkCount), t.kind = .text → t.children = [] →
    emphasizeText emphasizer t.content = .ok (spliced, count) → R [t] spliced

/-! ## Bodies of paragraphs -/

mutual

theorem related_spliceToken (hR : Congruence R) (htext : RelatesText R emphasizer) {t : Token}
    {result : List Token × MarkCount} (h : spliceToken emphasizer t = .ok result) :
    R [t] result.1 := by
  match t with
  | ⟨kind, tag, content, attrs, children, nesting⟩ =>
    simp only [spliceToken] at h
    split at h
    · rename_i hkind
      split at h
      · rename_i hchildren
        exact htext _ result.1 result.2 hkind (List.isEmpty_iff.mp hchildren) h
      · simp at h
    · obtain ⟨below, hbelow, hresult⟩ := bind_eq_ok_iff.mp h
      rw [← Except.ok.inj hresult]
      have hchildren : R children below.1 := related_spliceBody hR htext hbelow
      exact hR.children ⟨kind, tag, content, attrs, children, nesting⟩ hchildren

theorem related_spliceBody (hR : Congruence R) (htext : RelatesText R emphasizer) {ts : List Token}
    {result : List Token × MarkCount} (h : spliceBody emphasizer ts = .ok result) :
    R ts result.1 := by
  match ts with
  | [] =>
    rw [← Except.ok.inj h]
    exact hR.refl []
  | t :: rest =>
    simp only [spliceBody] at h
    obtain ⟨first, hfirst, h⟩ := bind_eq_ok_iff.mp h
    obtain ⟨others, hothers, hresult⟩ := bind_eq_ok_iff.mp h
    rw [← Except.ok.inj hresult]
    have ht : R [t] first.1 := related_spliceToken hR htext hfirst
    have hrest : R rest others.1 := related_spliceBody hR htext hothers
    exact hR.append ht hrest

end

theorem related_spliceParagraph (hR : Congruence R) (htext : RelatesText R emphasizer)
    {body : List Token} {result : List Token × SpliceStats}
    (h : spliceParagraph emphasizer body = .ok result) : R body result.1 := by
  unfold spliceParagraph at h
  split at h
  · rw [← Except.ok.inj h]
    exact hR.refl body
  · obtain ⟨⟨spliced, count⟩, hspliced, h⟩ := bind_eq_ok_iff.mp h
    simp only at h
    split at h
    · rw [← Except.ok.inj h]
      exact related_spliceBody hR htext hspliced
    · simp at h

/-! ## Documents -/

/-- The tokens of a sequence of siblings that have been read since a paragraph was opened. -/
def pending : Option (Token × List Token) → List Token
  | none => []
  | some (opening, reversed) => opening :: reversed.reverse

mutual

theorem related_spliceBelow (hR : Congruence R) (htext : RelatesText R emphasizer) {t : Token}
    (hok : (spliceBelow emphasizer t).2.2 = none) : R [t] [(spliceBelow emphasizer t).1] := by
  match t with
  | ⟨kind, tag, content, attrs, children, nesting⟩ =>
    simp only [spliceBelow] at hok ⊢
    have hchildren := related_spliceSiblings hR htext none children hok
    exact hR.children ⟨kind, tag, content, attrs, children, nesting⟩ hchildren

/-- Splicing siblings keeps them related, together with those read before them. -/
theorem related_spliceSiblings (hR : Congruence R) (htext : RelatesText R emphasizer)
    (before : Option (Token × List Token)) (ts : List Token)
    (hok : (spliceSiblings emphasizer before ts).error? = none) :
    R (pending before ++ ts) (spliceSiblings emphasizer before ts).tokens := by
  -- A paragraph that fails loses its body, so the cases that end in an error are ruled out by `hok`.
  match ts with
  | [] =>
    cases before with
    | none => exact hR.refl []
    | some before =>
      rw [List.append_nil]
      exact hR.refl _
  | t :: rest =>
    cases before with
    | none =>
      by_cases hkind : t.kind = .paragraphOpen
      · rw [spliceSiblings_open hkind] at hok ⊢
        exact related_spliceSiblings hR htext (some (t, [])) rest hok
      · cases hbelow : spliceBelow emphasizer t with
        | mk spliced result =>
          obtain ⟨stats, e?⟩ := result
          cases e? with
          | some e => simp [spliceSiblings_below_error hkind hbelow, Spliced.failed] at hok
          | none =>
            have hspliced := related_spliceBelow hR htext (t := t) (by simp [hbelow])
            rw [hbelow] at hspliced
            rw [spliceSiblings_below hkind hbelow] at hok ⊢
            exact hR.cons hspliced (related_spliceSiblings hR htext none rest hok)
    | some before =>
      obtain ⟨opening, reversed⟩ := before
      by_cases hkind : t.kind = .paragraphClose
      · cases hbody : spliceParagraph emphasizer reversed.reverse with
        | error e => simp [spliceSiblings_close_error hkind hbody, Spliced.failed] at hok
        | ok result =>
          obtain ⟨body, stats⟩ := result
          rw [spliceSiblings_close hkind hbody] at hok ⊢
          have hspliced := related_spliceParagraph hR htext hbody
          have hopened := hR.cons (hR.refl [opening]) hspliced
          have hrest := hR.cons (hR.refl [t]) (related_spliceSiblings hR htext none rest hok)
          simpa [pending, Spliced.after] using hR.append hopened hrest
      · rw [spliceSiblings_within hkind] at hok ⊢
        have hlater := related_spliceSiblings hR htext (some (opening, t :: reversed)) rest hok
        simpa [pending] using hlater

end

theorem spliceSiblings_of_spliceAll {doc spliced : Document} {stats : SpliceStats}
    (h : spliceAll emphasizer doc = (.ok stats, spliced)) :
    (spliceSiblings emphasizer none doc.tokens).error? = none ∧
      spliced.tokens = (spliceSiblings emphasizer none doc.tokens).tokens := by
  simp only [spliceAll, Prod.mk.injEq] at h
  obtain ⟨hresult, rfl⟩ := h
  refine ⟨?_, rfl⟩
  cases herror : (spliceSiblings emphasizer none doc.tokens).error? with
  | none => rfl
  | some e => simp [herror] at hresult

theorem related_spliceAll (hR : Congruence R) (htext : RelatesText R emphasizer)
    {doc spliced : Document} {stats : SpliceStats}
    (h : spliceAll emphasizer doc = (.ok stats, spliced)) : R doc.tokens spliced.tokens := by
  obtain ⟨hok, htokens⟩ := spliceSiblings_of_spliceAll h
  rw [htokens]
  exact related_spliceSiblings hR htext none doc.tokens hok

/-! ## Tokens of other kinds -/

section
variable {wanted : Kind → Bool} (htext : wanted .text = false) (hhtml : wanted .inlineHtml = false)
include htext hhtml

theorem picked_pieces {ts : List Token} (h : ∀ t ∈ ts, IsPiece t) : picked wanted ts = [] := by
  have hnone : ts.filter (fun t => wanted t.kind) = [] := by
    apply List.filter_eq_nil_iff.mpr
    intro t ht
    cases h t ht with
    | text => simp [Token.text, Token.ofKind, htext]
    | spanOpen => simp [Token.inlineHtml, Token.ofKind, hhtml]
    | spanClose => simp [Token.inlineHtml, Token.ofKind, hhtml]
  rw [picked, siblingsInOrder_of_childless fun t ht => (h t ht).children, hnone]
  rfl

theorem samePicked_spliceAll {doc spliced : Document} {stats : SpliceStats}
    (h : spliceAll emphasizer doc = (.ok stats, spliced)) :
    SamePicked wanted doc.tokens spliced.tokens := by
  refine related_spliceAll (congruence_samePicked wanted) ?_ h
  intro t pieces count hkind hchildren hpieces
  unfold SamePicked
  rw [picked_pieces htext hhtml (isPiece_emphasizeText hpieces), picked_singleton, hkind, htext,
    hchildren]
  rfl

end

end Folio.Emphasis
