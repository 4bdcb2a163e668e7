import Folio.Proofs.Document.Congruence

/-!
# Changes are local

A change of the token at a path reaches the tokens above it only through their children, and no token
beside it. The tokens below it stay where they are if the change at most adds children behind those
there were. So a path that led to a token before goes on doing so, and the order of two changes beside
each other does not matter.
-/

namespace Folio

open Token

/-- Whether a token has become another by no more than other content, other attributes, and children
added behind those it has. -/
structure Token.Extends (t u : Token) : Prop where
  kind : u.kind = t.kind
  tag : u.tag = t.tag
  nesting : u.nesting = t.nesting
  children : t.children <+: u.children

variable {ts us : List Token} {path other : Path}

/-! ## Paths in two parts -/

theorem ne_nil_of_tokenAt? {t : Token} (h : tokenAt? ts path = some t) : path ≠ [] := by
  rintro rfl
  simp [tokenAt?] at h

theorem tokenAt?_of_isPrefix {t : Token} (h : ts <+: us) (ht : tokenAt? ts path = some t) :
    tokenAt? us path = some t := by
  obtain ⟨more, rfl⟩ := h
  cases path with
  | nil => simp [tokenAt?] at ht
  | cons i path =>
    have hi : i < ts.length := by
      by_contra hlong
      have hnone : ts[i]? = none := List.getElem?_eq_none (Nat.le_of_not_lt hlong)
      cases path <;> simp [tokenAt?, hnone] at ht
    rw [tokenAt?_append_left hi, ht]

theorem modifyAt_cons (change : Token → Token) (ts : List Token) (i : Nat) (hpath : path ≠ []) :
    modifyAt change ts (i :: path) =
      ts.modify i fun t => { t with children := modifyAt change t.children path } := by
  cases path with
  | nil => exact absurd rfl hpath
  | cons j path => rfl

theorem exists_modifyAt_cons (change : Token → Token) (i : Nat) (path : Path) :
    ∃ f, ∀ ts, modifyAt change ts (i :: path) = ts.modify i f := by
  cases path with
  | nil => exact ⟨change, fun _ => rfl⟩
  | cons j path => exact ⟨_, fun _ => rfl⟩

theorem tokenAt?_congr {i : Nat} (h : ts[i]? = us[i]?) (path : Path) :
    tokenAt? ts (i :: path) = tokenAt? us (i :: path) := by
  cases path <;> simp [tokenAt?, h]

/-- Whether two paths part, so that none of them leads through what the other leads to. -/
inductive Beside : Path → Path → Prop
  | here {i j : Nat} (hij : i ≠ j) (left right : Path) : Beside (i :: left) (j :: right)
  | child (i : Nat) {left right : Path} (h : Beside left right) : Beside (i :: left) (i :: right)

theorem Beside.symm (h : Beside path other) : Beside other path := by
  induction h with
  | here hij left right => exact .here hij.symm right left
  | child i _ ih => exact .child i ih

theorem Beside.ne_nil (h : Beside path other) : path ≠ [] := by
  cases h <;> simp

theorem beside_of_not_isPrefix (hpath : ¬path <+: other) (hother : ¬other <+: path) :
    Beside path other := by
  induction path generalizing other with
  | nil => exact absurd List.nil_prefix hpath
  | cons i path ih =>
    cases other with
    | nil => exact absurd List.nil_prefix hother
    | cons j other =>
      by_cases hij : i = j
      · subst hij
        refine .child i (ih ?_ ?_)
        · exact fun h => hpath (List.cons_prefix_cons.mpr ⟨rfl, h⟩)
        · exact fun h => hother (List.cons_prefix_cons.mpr ⟨rfl, h⟩)
      · exact .here hij path other

/-! ## At the path, above it and beside it -/

theorem tokenAt?_modifyAt_self (change : Token → Token) (ts : List Token) (path : Path) :
    tokenAt? (modifyAt change ts path) path = (tokenAt? ts path).map change := by
  induction path generalizing ts with
  | nil => rfl
  | cons i path ih =>
    cases path with
    | nil => simp [modifyAt, tokenAt?]
    | cons j path =>
      simp only [modifyAt, tokenAt?, List.getElem?_modify_eq]
      cases ts[i]? with
      | none => rfl
      | some t => exact ih t.children

/-- Above the path, the change is one among the children. -/
theorem tokenAt?_modifyAt_above (change : Token → Token) (ts : List Token) {above below : Path}
    (habove : above ≠ []) (hbelow : below ≠ []) :
    tokenAt? (modifyAt change ts (above ++ below)) above =
      (tokenAt? ts above).map fun t => { t with children := modifyAt change t.children below } := by
  induction above generalizing ts with
  | nil => exact absurd rfl habove
  | cons i above ih =>
    rw [List.cons_append, modifyAt_cons change ts i (by simp [hbelow])]
    cases above with
    | nil => simp [tokenAt?]
    | cons j above =>
      simp only [tokenAt?, List.getElem?_modify_eq]
      cases ts[i]? with
      | none => rfl
      | some t => exact ih t.children (by simp)

theorem tokenAt?_modifyAt_beside (change : Token → Token) (h : Beside path other)
    (ts : List Token) : tokenAt? (modifyAt change ts path) other = tokenAt? ts other := by
  induction h generalizing ts with
  | here hij left right =>
    obtain ⟨f, hf⟩ := exists_modifyAt_cons change _ left
    rw [hf]
    exact tokenAt?_congr (List.getElem?_modify_ne f ts hij) right
  | child i h ih =>
    rw [modifyAt_cons change ts i h.ne_nil, tokenAt?_cons h.symm.ne_nil, tokenAt?_cons h.symm.ne_nil,
      List.getElem?_modify_eq]
    cases ts[i]? with
    | none => rfl
    | some t => exact ih t.children

/-- Changes at paths beside each other commute. -/
theorem modifyAt_comm (change change' : Token → Token) (h : Beside path other) (ts : List Token) :
    modifyAt change' (modifyAt change ts path) other =
      modifyAt change (modifyAt change' ts other) path := by
  induction h generalizing ts with
  | here hij left right =>
    obtain ⟨f, hf⟩ := exists_modifyAt_cons change _ left
    obtain ⟨g, hg⟩ := exists_modifyAt_cons change' _ right
    rw [hf, hg, hg, hf, List.modify_modify_ne f g ts hij]
  | child i h ih =>
    rw [modifyAt_cons change ts i h.ne_nil, modifyAt_cons change' ts i h.symm.ne_nil,
      modifyAt_cons change' _ i h.symm.ne_nil, modifyAt_cons change _ i h.ne_nil,
      List.modify_modify_eq, List.modify_modify_eq]
    congr 1
    funext t
    simp [ih]

/-! ## Changes that extend a token -/

namespace Document

variable {doc : Document} {change : Token → Token} {t u : Token}

/-- Below the path of a token that is extended, and beside it, everything stays. -/
theorem get?_modify_of_not_above (ht : doc.get? path = some t) (h : t.Extends (change t))
    (hu : doc.get? other = some u) (hother : ¬other <+: path) :
    (doc.modify path change).get? other = some u := by
  by_cases hpath : path <+: other
  · obtain ⟨below, rfl⟩ := hpath
    have hbelow : below ≠ [] := by
      rintro rfl
      simp at hother
    have hne := ne_nil_of_tokenAt? ht
    have hself := tokenAt?_modifyAt_self change doc.tokens path
    rw [get?] at ht hu
    rw [tokenAt?_append _ hne hbelow, ht, Option.bind_some] at hu
    rw [get?, modify, tokenAt?_append _ hne hbelow, hself, ht, Option.map_some, Option.bind_some]
    exact tokenAt?_of_isPrefix h.children hu
  · exact (tokenAt?_modifyAt_beside change (beside_of_not_isPrefix hpath hother) doc.tokens).trans hu

/-- A token above the path keeps all but what is below it. -/
theorem get?_modify_above (change : Token → Token) (hu : doc.get? other = some u)
    (hother : other <+: path) (hne : other ≠ path) :
    ∃ v, (doc.modify path change).get? other = some v ∧ v.node = u.node := by
  obtain ⟨below, rfl⟩ := hother
  have hbelow : below ≠ [] := by
    rintro rfl
    simp at hne
  have habove := tokenAt?_modifyAt_above change doc.tokens (ne_nil_of_tokenAt? hu) hbelow
  rw [get?] at hu
  rw [hu, Option.map_some] at habove
  exact ⟨_, habove, by simp [node, bare, length_modifyAt]⟩

/-- After a change that at most gives a token other content, other attributes or more children behind
those it has, its path leads to the changed token, and every path that led to a token before still
does: to the same one, unless it leads to the changed token or above it, and above it to one that is
the same without its children and has as many. Two changes at paths of which none leads through the
other give the same document in either order. -/
theorem modify_local (ht : doc.get? path = some t) (h : t.Extends (change t)) :
    (doc.modify path change).get? path = some (change t) ∧
      (∀ other u, doc.get? other = some u → ∃ v, (doc.modify path change).get? other = some v) ∧
      (∀ other u, doc.get? other = some u → ¬other <+: path →
        (doc.modify path change).get? other = some u) ∧
      (∀ other u, doc.get? other = some u → other <+: path → other ≠ path →
        ∃ v, (doc.modify path change).get? other = some v ∧ v.node = u.node) ∧
      ∀ other change', ¬path <+: other → ¬other <+: path →
        (doc.modify path change).modify other change' =
          (doc.modify other change').modify path change := by
  have hself : (doc.modify path change).get? path = some (change t) := by
    rw [get?] at ht
    rw [get?, modify, tokenAt?_modifyAt_self, ht, Option.map_some]
  refine ⟨hself, ?_, fun _ _ hu => get?_modify_of_not_above ht h hu,
    fun _ _ => get?_modify_above change, ?_⟩
  · intro other u hu
    by_cases hother : other <+: path
    · by_cases hne : other = path
      · exact ⟨change t, hne ▸ hself⟩
      · obtain ⟨v, hv, -⟩ := get?_modify_above change hu hother hne
        exact ⟨v, hv⟩
    · exact ⟨u, get?_modify_of_not_above ht h hu hother⟩
  · intro other change' hpath hother
    exact congrArg Document.mk
      (modifyAt_comm change change' (beside_of_not_isPrefix hpath hother) doc.tokens)

def annotate (t : Token) : Token :=
  { t.setAttr "id" "a" with content := t.content ++ "!", children := t.children ++ [.text "more"] }

/-- A container below a block, and another block behind it. -/
def sheltered : Document :=
  ⟨[{ Token.blockOpen "div" with children := [.inline "a" [.text "a"]] }, .block "hr" ""]⟩

theorem modify_local_sheltered :
    Token.Extends (.inline "a" [.text "a"]) (annotate (.inline "a" [.text "a"])) ∧
      (sheltered.modify [0, 0] annotate).get? [0, 0, 0] = some (.text "a") ∧
      (sheltered.modify [0, 0] annotate).get? [1] = some (.block "hr" "") ∧
      (∃ v, (sheltered.modify [0, 0] annotate).get? [0] = some v ∧
        v.node = ((Token.blockOpen "div").bare, 1)) ∧
      (sheltered.modify [0, 0] annotate).modify [1] annotate =
        (sheltered.modify [1] annotate).modify [0, 0] annotate := by
  have hcontainer : sheltered.get? [0, 0] = some (.inline "a" [.text "a"]) := rfl
  have hextends : Token.Extends (.inline "a" [.text "a"]) (annotate (.inline "a" [.text "a"])) :=
    ⟨rfl, rfl, rfl, List.prefix_append _ _⟩
  obtain ⟨-, -, hkept, habove, hcomm⟩ := modify_local hcontainer hextends
  exact ⟨hextends, hkept [0, 0, 0] _ rfl (by decide), hkept [1] _ rfl (by decide),
    habove [0] _ rfl (by decide) (by decide), hcomm [1] annotate (by decide) (by decide)⟩

end Document

end Folio
