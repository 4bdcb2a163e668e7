import Folio.Code.WrapPoint
import Folio.Proofs.Document.Picked

/-!
# One span of code after the other

The pass for code is a loop over the paths of spans. Wrapping a span changes the bare token only, so
the tokens at all paths keep their kind and their children, and what one round keeps, the whole pass
keeps.
-/

namespace Folio.Code

theorem wrapAll_eq (doc : Document) :
    wrapAll doc =
      let paths := (Outline.ofDocument doc).pathsWhere doc isSpan
      let result := wrapAt doc paths
      (result.1.elim (.ok paths.length) .error, result.2) := by
  unfold wrapAll
  simp only
  cases wrapAt doc ((Outline.ofDocument doc).pathsWhere doc isSpan) with
  | mk e? wrapped => cases e? <;> rfl

theorem wrapAll_count {doc wrapped : Document} {n : Nat} (h : wrapAll doc = (.ok n, wrapped)) :
    n = doc.inOrder.countP isSpan := by
  rw [wrapAll_eq] at h
  cases herror : (wrapAt doc ((Outline.ofDocument doc).pathsWhere doc isSpan)).1 with
  | some e => simp [herror] at h
  | none =>
    simp only [herror, Option.elim_none, Prod.mk.injEq, Except.ok.injEq] at h
    rw [← h.1, doc.length_pathsWhere]

theorem concernsBare_wrap : Token.ConcernsBare wrap :=
  fun _ => rfl

def LeadToSpans (doc : Document) (paths : List Path) : Prop :=
  ∀ path ∈ paths, ∀ t, doc.get? path = some t → t.kind = .codeInline

theorem leadToSpans_pathsWhere (doc : Document) :
    LeadToSpans doc ((Outline.ofDocument doc).pathsWhere doc isSpan) := by
  intro path hpath t ht
  have hholds := (List.mem_filter.mp hpath).2
  simpa [Outline.holdsAt, ht, isSpan] using hholds

theorem LeadToSpans.wrap {doc : Document} {paths : List Path} (h : LeadToSpans doc paths)
    (path : Path) : LeadToSpans (doc.modify path wrap) paths := by
  intro other hother t ht
  obtain ⟨u, hu, hkind⟩ := Document.get?_modify_kind concernsBare_wrap (fun _ => rfl) ht
  exact hkind ▸ h other hother u hu

/-- A property of documents that wrapping one span keeps is kept by the loop over spans. -/
theorem wrapAt_induction (holds : Document → Prop)
    (hwrap : ∀ {doc : Document} {path : Path} {span : Token}, doc.get? path = some span →
      span.kind = .codeInline → holds doc → holds (doc.modify path wrap))
    {doc : Document} {paths : List Path} (hspans : LeadToSpans doc paths) (h : holds doc) :
    holds (wrapAt doc paths).2 := by
  induction paths generalizing doc with
  | nil => exact h
  | cons path rest ih =>
    have hrest : LeadToSpans doc rest := fun p hp => hspans p (by simp [hp])
    unfold wrapAt
    cases hspan : doc.get? path with
    | none => exact ih hrest h
    | some span =>
      simp only
      split
      · exact h
      · exact ih (hrest.wrap path) (hwrap hspan (hspans path (by simp) span hspan) h)

/-- A congruence between every span and the wrapped one holds between the documents. -/
theorem related_wrapAll {R : List Token → List Token → Prop} (hR : Congruence R)
    (htrans : ∀ {ts us vs}, R ts us → R us vs → R ts vs)
    (hwrap : ∀ {span : Token}, span.kind = .codeInline → R [span] [wrap span]) (doc : Document) :
    R doc.tokens (wrapAll doc).2.tokens := by
  rw [wrapAll_eq]
  refine wrapAt_induction (fun d => R doc.tokens d.tokens) ?_ (leadToSpans_pathsWhere doc)
    (hR.refl _)
  intro d path span hspan hkind hd
  refine htrans hd (hR.modifyAt ?_)
  intro t ht
  obtain rfl : span = t := Option.some.inj (hspan.symm.trans ht)
  exact hwrap hkind

theorem samePicked_wrapAll {wanted : Kind → Bool} (hcode : wanted .codeInline = false)
    (doc : Document) : SamePicked wanted doc.tokens (wrapAll doc).2.tokens := by
  refine related_wrapAll (congruence_samePicked wanted) SamePicked.trans ?_ doc
  intro span hkind
  have hspan : wanted span.kind = false := hkind ▸ hcode
  exact samePicked_of_unwanted hspan hspan rfl

end Folio.Code
