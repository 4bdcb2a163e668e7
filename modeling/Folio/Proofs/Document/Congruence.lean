import Folio.Proofs.Document.Change

/-!
# Congruences of siblings

Two sequences of siblings are compared by a relation that goes through concatenation and through the
children of a token. Such a relation holds between a sequence and what becomes of it when a token
somewhere in the tree is changed, if it holds between that token and the changed one. Passes that
change one token after the other keep whatever a congruence compares.

One such relation compares kinds by path: a path that leads to a token goes on leading to one of the
same kind, though more paths may lead somewhere afterwards.
-/

namespace Folio

/-- A reflexive relation of siblings that goes through concatenation and through children. -/
structure Congruence (R : List Token → List Token → Prop) : Prop where
  refl (ts : List Token) : R ts ts
  append {ts ts' us us' : List Token} (h : R ts us) (h' : R ts' us') : R (ts ++ ts') (us ++ us')
  children (t : Token) {us : List Token} (h : R t.children us) : R [t] [{ t with children := us }]

namespace Congruence

variable {R : List Token → List Token → Prop} {ts us : List Token}

theorem cons (hR : Congruence R) {t u : Token} (h : R [t] [u]) (hrest : R ts us) :
    R (t :: ts) (u :: us) :=
  hR.append h hrest

theorem modify (hR : Congruence R) {change : Token → Token} {i : Nat}
    (hchange : ∀ t, ts[i]? = some t → R [t] [change t]) : R ts (ts.modify i change) := by
  induction ts generalizing i with
  | nil =>
    rw [List.modify_nil]
    exact hR.refl []
  | cons t rest ih =>
    cases i with
    | zero =>
      rw [List.modify_zero_cons]
      exact hR.cons (hchange t rfl) (hR.refl rest)
    | succ i =>
      rw [List.modify_succ_cons]
      have hrest := ih fun u hu => hchange u (by simpa using hu)
      exact hR.cons (hR.refl [t]) hrest

theorem modifyAt (hR : Congruence R) {change : Token → Token} {path : Path}
    (hchange : ∀ t, tokenAt? ts path = some t → R [t] [change t]) :
    R ts (modifyAt change ts path) := by
  induction path generalizing ts with
  | nil => exact hR.refl ts
  | cons i path ih =>
    cases path with
    | nil => exact hR.modify hchange
    | cons j path =>
      apply hR.modify
      intro t ht
      apply hR.children
      apply ih
      intro u hu
      exact hchange u (by simp [tokenAt?, ht, hu])

end Congruence

theorem congruence_eq : Congruence Eq where
  refl _ := rfl
  append := by
    rintro ts _ us _ rfl rfl
    rfl
  children := by
    rintro ⟨⟩ _ rfl
    rfl

theorem Document.modify_eq_self {doc : Document} {path : Path} {change : Token → Token}
    (h : ∀ t, doc.get? path = some t → change t = t) : doc.modify path change = doc :=
  congrArg Document.mk (congruence_eq.modifyAt fun t ht => congrArg (fun u => [u]) (h t ht).symm).symm

/-! ## Kinds at paths -/

/-- Whether there are as many siblings, and every path that leads to a token of the first leads to one
of the same kind of the others. -/
structure KeepsKinds (ts us : List Token) : Prop where
  length : us.length = ts.length
  kindAt : ∀ path t, tokenAt? ts path = some t → (tokenAt? us path).map Token.kind = some t.kind

theorem tokenAt?_append_left {ts us : List Token} {i : Nat} (h : i < ts.length) (path : Path) :
    tokenAt? (ts ++ us) (i :: path) = tokenAt? ts (i :: path) := by
  cases path <;> simp [tokenAt?, List.getElem?_append_left h]

theorem tokenAt?_append_right {ts us : List Token} {i : Nat} (h : ts.length ≤ i) (path : Path) :
    tokenAt? (ts ++ us) (i :: path) = tokenAt? us ((i - ts.length) :: path) := by
  cases path <;> simp [tokenAt?, List.getElem?_append_right h]

theorem tokenAt?_append (ts : List Token) {path other : Path} (hpath : path ≠ [])
    (hother : other ≠ []) :
    tokenAt? ts (path ++ other) = (tokenAt? ts path).bind fun t => tokenAt? t.children other := by
  induction path generalizing ts with
  | nil => exact absurd rfl hpath
  | cons i path ih =>
    cases path with
    | nil => exact tokenAt?_cons hother
    | cons j path => simp [tokenAt?, Option.bind_assoc, ← ih]

theorem tokenAt?_child (ts : List Token) {path : Path} (h : path ≠ []) (i : Nat) :
    tokenAt? ts (path ++ [i]) = (tokenAt? ts path).bind fun t => t.children[i]? :=
  tokenAt?_append ts h (List.cons_ne_nil i [])

theorem congruence_keepsKinds : Congruence KeepsKinds where
  refl ts := ⟨rfl, fun path t ht => by rw [ht, Option.map_some]⟩
  append := by
    intro ts ts' us us' h h'
    refine ⟨by simp [h.length, h'.length], ?_⟩
    intro path t ht
    cases path with
    | nil => simp [tokenAt?] at ht
    | cons i path =>
      by_cases hi : i < ts.length
      · rw [tokenAt?_append_left hi] at ht
        rw [tokenAt?_append_left (h.length ▸ hi)]
        exact h.kindAt _ t ht
      · rw [tokenAt?_append_right (by omega)] at ht
        rw [tokenAt?_append_right (by rw [h.length]; omega), h.length]
        exact h'.kindAt _ t ht
  children t us h := by
    refine ⟨rfl, ?_⟩
    intro path u hu
    match path with
    | [] => simp [tokenAt?] at hu
    | [0] =>
      obtain rfl : t = u := by simpa [tokenAt?] using hu
      rfl
    | 0 :: j :: path => exact h.kindAt (j :: path) u (by simpa [tokenAt?] using hu)
    | (i + 1) :: path => cases path <;> simp [tokenAt?] at hu

end Folio
