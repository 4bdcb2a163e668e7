import Folio.Proofs.Document.Order

/-!
# Changes at a path

A change of one token leaves every other token as it is, apart from the children of the tokens above
it. A token without its children is called bare here, and a node with no more than their number. A
change that only concerns the bare token is seen at its own path and nowhere else, and it keeps the
outline of the document.
-/

namespace Folio

namespace Token

def bare (t : Token) : Token :=
  { t with children := [] }

/-- The bare token and the number of its children. -/
def node (t : Token) : Token × Nat :=
  (t.bare, t.children.length)

@[simp] theorem bare_kind (t : Token) : t.bare.kind = t.kind := rfl

@[simp] theorem bare_attr? (t : Token) (key : String) : t.bare.attr? key = t.attr? key := rfl

/-- Whether a change of tokens passes the children on and does not look at them. -/
def ConcernsBare (change : Token → Token) : Prop :=
  ∀ t, change t = { change t.bare with children := t.children }

theorem lookup_replaceAttr (key value other : String) (attrs : List (String × String)) :
    (replaceAttr key value attrs).lookup other =
      if other = key then some value else attrs.lookup other := by
  have hlookup : ∀ (k v : String) (rest : List (String × String)),
      ((k, v) :: rest).lookup other = if other = k then some v else rest.lookup other := by
    intro k v rest
    by_cases hk : other = k
    · simp [hk]
    · have hne : (other == k) = false := by simpa using hk
      rw [List.lookup_cons, hne, if_neg hk]
  induction attrs with
  | nil => rw [replaceAttr, hlookup]
  | cons entry rest ih =>
    obtain ⟨k, v⟩ := entry
    by_cases hk : k = key
    · subst hk
      simp only [replaceAttr, beq_self_eq_true, if_true, hlookup]
      by_cases hother : other = k <;> simp [hother]
    · have hne : (k == key) = false := by simpa using hk
      simp only [replaceAttr, hne, Bool.false_eq_true, if_false, hlookup, ih]
      by_cases hother : other = k
      · simp [hother, hk]
      · simp [hother]

theorem attr?_setAttr (key value other : String) (t : Token) :
    (t.setAttr key value).attr? other = if other = key then some value else t.attr? other :=
  lookup_replaceAttr key value other t.attrs

theorem setAttr_of_attr? {key value : String} {t : Token} (h : t.attr? key = some value) :
    t.setAttr key value = t := by
  have hattrs : ∀ attrs : List (String × String), attrs.lookup key = some value →
      replaceAttr key value attrs = attrs := by
    intro attrs hlookup
    induction attrs with
    | nil => simp at hlookup
    | cons entry rest ih =>
      obtain ⟨k, v⟩ := entry
      by_cases hk : key = k
      · obtain rfl : v = value := by simpa [hk] using hlookup
        simp [replaceAttr, hk]
      · have hlater : rest.lookup key = some value := by
          rwa [List.lookup_cons, beq_false_of_ne hk] at hlookup
        rw [replaceAttr, if_neg (by simpa using Ne.symm hk), ih hlater]
  rw [setAttr, hattrs t.attrs h]
  cases t
  rfl

theorem concernsBare_setAttr (key value : String) : ConcernsBare (setAttr key value) :=
  fun _ => rfl

theorem ConcernsBare.children {change : Token → Token} (h : ConcernsBare change) (t : Token) :
    (change t).children = t.children := by
  rw [h t]

end Token

open Token

/-! ## What is seen elsewhere -/

theorem map_modify_of_eq {α β : Type} (g : α → β) {f : α → α} (h : ∀ x, g (f x) = g x)
    (xs : List α) (i : Nat) : (xs.modify i f).map g = xs.map g := by
  apply List.ext_getElem?
  intro j
  rw [List.getElem?_map, List.getElem?_map, List.getElem?_modify]
  cases xs[j]? with
  | none => rfl
  | some x =>
    by_cases hij : i = j
    · simp [hij, h]
    · simp [hij]

theorem pathsFrom_congr {ts us : List Token} (h : ts.map Token.paths = us.map Token.paths)
    (i : Nat) : pathsFrom i ts = pathsFrom i us := by
  induction ts generalizing us i with
  | nil =>
    cases us with
    | nil => rfl
    | cons u us => simp at h
  | cons t rest ih =>
    cases us with
    | nil => simp at h
    | cons u us =>
      simp only [List.map_cons, List.cons.injEq] at h
      simp [pathsFrom, h.1, ih h.2]

theorem pathsFrom_modifyAt {change : Token → Token} (h : ConcernsBare change) (i : Nat)
    (ts : List Token) (path : Path) :
    pathsFrom i (modifyAt change ts path) = pathsFrom i ts := by
  induction path generalizing i ts with
  | nil => rfl
  | cons j path ih =>
    apply pathsFrom_congr
    cases path with
    | nil =>
      apply map_modify_of_eq
      intro t
      rw [Token.paths_eq, Token.paths_eq, h.children]
    | cons k path =>
      apply map_modify_of_eq
      intro t
      rw [Token.paths_eq, Token.paths_eq, ih]

theorem length_modifyAt (change : Token → Token) (ts : List Token) (path : Path) :
    (modifyAt change ts path).length = ts.length := by
  match path with
  | [] => rfl
  | [i] => exact List.length_modify ..
  | i :: j :: path => exact List.length_modify ..

/-- A change that concerns bare tokens is seen at its own path only. -/
theorem tokenAt?_modifyAt_node {change : Token → Token} (h : ConcernsBare change)
    (ts : List Token) (path other : Path) :
    (tokenAt? (modifyAt change ts path) other).map node =
      (tokenAt? ts other).map fun t => if other = path then (change t).node else t.node := by
  induction path generalizing ts other with
  | nil => cases other <;> simp [modifyAt, tokenAt?]
  | cons i path ih =>
    cases other with
    | nil => simp [tokenAt?]
    | cons j other =>
      cases path with
      | nil =>
        cases other with
        | nil =>
          simp only [modifyAt, tokenAt?, List.getElem?_modify, List.cons.injEq, and_true,
            eq_comm (a := j)]
          cases ts[j]? <;> by_cases hij : i = j <;> simp [hij]
        | cons k other =>
          simp only [modifyAt, tokenAt?, List.getElem?_modify, List.cons.injEq, reduceCtorEq,
            and_false, if_false]
          cases ts[j]? with
          | none => rfl
          | some t => by_cases hij : i = j <;> simp [hij, h.children]
      | cons k path =>
        cases other with
        | nil =>
          simp only [modifyAt, tokenAt?, List.getElem?_modify, List.cons.injEq, reduceCtorEq,
            and_false, if_false]
          cases ts[j]? with
          | none => rfl
          | some t => by_cases hij : i = j <;> simp [hij, node, bare, length_modifyAt]
        | cons l other =>
          simp only [modifyAt, tokenAt?, List.getElem?_modify]
          cases ts[j]? with
          | none => rfl
          | some t =>
            by_cases hij : i = j
            · simp [hij, ih]
            · simp [hij, Ne.symm hij]

namespace Document

theorem outline_modify {change : Token → Token} (h : ConcernsBare change) (doc : Document)
    (path : Path) : Outline.ofDocument (doc.modify path change) = Outline.ofDocument doc := by
  simp [Outline.ofDocument, modify, pathsFrom_modifyAt h]

theorem get?_modify_node {change : Token → Token} (h : ConcernsBare change) (doc : Document)
    (path other : Path) :
    ((doc.modify path change).get? other).map node =
      (doc.get? other).map fun t => if other = path then (change t).node else t.node :=
  tokenAt?_modifyAt_node h doc.tokens path other

theorem get?_modify_bare {change : Token → Token} (h : ConcernsBare change) (doc : Document)
    (path other : Path) :
    ((doc.modify path change).get? other).map bare =
      (doc.get? other).map fun t => if other = path then (change t).bare else t.bare := by
  have hnode := congrArg (Option.map Prod.fst) (doc.get?_modify_node h path other)
  rw [Option.map_map, Option.map_map] at hnode
  rw [show bare = Prod.fst ∘ node from rfl, hnode]
  congr 1
  funext t
  exact apply_ite Prod.fst (other = path) (change t).node t.node

theorem get?_modify_kind {change : Token → Token} (h : ConcernsBare change)
    (hkind : ∀ t, (change t).kind = t.kind) {doc : Document} {path other : Path} {t : Token}
    (ht : (doc.modify path change).get? other = some t) :
    ∃ u, doc.get? other = some u ∧ u.kind = t.kind := by
  have hbare := doc.get?_modify_bare h path other
  rw [ht] at hbare
  cases hu : doc.get? other with
  | none => simp [hu] at hbare
  | some u =>
    refine ⟨u, rfl, ?_⟩
    simp only [hu, Option.map_some, Option.some.injEq] at hbare
    have heq := congrArg Token.kind hbare
    by_cases hother : other = path
    · simpa [hother, hkind] using heq.symm
    · simpa [hother] using heq.symm

end Document

end Folio
