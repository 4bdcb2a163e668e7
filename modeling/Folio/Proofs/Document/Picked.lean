import Folio.Proofs.Document.Congruence

/-!
# Tokens of some kinds

What a document holds of some kinds is the list of its bare tokens of these kinds, in document order.
It depends on the parts of the tree one by one, and tokens of other kinds may come and go.
-/

namespace Folio

open Token

/-- The bare tokens of the wanted kinds among siblings and below them, in document order. -/
def picked (wanted : Kind → Bool) (ts : List Token) : List Token :=
  ((siblingsInOrder ts).filter fun t => wanted t.kind).map bare

def SamePicked (wanted : Kind → Bool) (ts us : List Token) : Prop :=
  picked wanted us = picked wanted ts

variable {wanted : Kind → Bool}

@[simp] theorem picked_append (ts us : List Token) :
    picked wanted (ts ++ us) = picked wanted ts ++ picked wanted us := by
  simp [picked]

theorem picked_singleton (t : Token) :
    picked wanted [t] = (if wanted t.kind then [t.bare] else []) ++ picked wanted t.children := by
  by_cases ht : wanted t.kind <;> simp [picked, siblingsInOrder, Token.inOrder_eq, ht]

theorem length_picked (wanted : Kind → Bool) (ts : List Token) :
    (picked wanted ts).length = (siblingsInOrder ts).countP fun t => wanted t.kind := by
  rw [picked, List.length_map, List.countP_eq_length_filter]

theorem congruence_samePicked (wanted : Kind → Bool) : Congruence (SamePicked wanted) where
  refl _ := rfl
  append := by
    intro ts ts' us us' h h'
    unfold SamePicked at h h' ⊢
    rw [picked_append, picked_append, h, h']
  children t us h := by
    unfold SamePicked at h ⊢
    rw [picked_singleton, picked_singleton, h]
    rfl

theorem SamePicked.trans {ts us vs : List Token} (h : SamePicked wanted ts us)
    (h' : SamePicked wanted us vs) : SamePicked wanted ts vs :=
  Eq.trans h' h

theorem SamePicked.countP_eq {ts us : List Token} (h : SamePicked wanted ts us) :
    (siblingsInOrder us).countP (fun t => wanted t.kind) =
      (siblingsInOrder ts).countP fun t => wanted t.kind := by
  rw [← length_picked, ← length_picked, h]

/-- A token of another kind may take the place of one with the same children. -/
theorem samePicked_of_unwanted {t u : Token} (ht : wanted t.kind = false)
    (hu : wanted u.kind = false) (hchildren : u.children = t.children) :
    SamePicked wanted [t] [u] := by
  simp [SamePicked, picked_singleton, ht, hu, hchildren]

end Folio
