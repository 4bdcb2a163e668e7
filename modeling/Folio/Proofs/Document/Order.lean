import Folio.Document.Outline
import Mathlib.Data.List.Nodup

/-!
# Tokens in document order

The outline of a document lists paths, and a path may lead nowhere. The list of the tokens
themselves is proved here to be what the paths of the outline lead to, one by one, and no path is
listed twice. Statements about the order of a document are made about the list of tokens.
-/

namespace Folio

mutual

/-- A token and all tokens below it, in document order. -/
def Token.inOrder (t : Token) : List Token :=
  match t with
  | ⟨kind, tag, content, attrs, children, nesting⟩ =>
    ⟨kind, tag, content, attrs, children, nesting⟩ :: siblingsInOrder children

def siblingsInOrder : List Token → List Token
  | [] => []
  | t :: rest => t.inOrder ++ siblingsInOrder rest

end

def Document.inOrder (doc : Document) : List Token :=
  siblingsInOrder doc.tokens

theorem Token.inOrder_eq (t : Token) : t.inOrder = t :: siblingsInOrder t.children := by
  cases t
  simp [Token.inOrder]

theorem Token.paths_eq (t : Token) : t.paths = [] :: pathsFrom 0 t.children := by
  cases t
  simp [Token.paths]

theorem Token.sizeOf_children_lt (t : Token) : sizeOf t.children < sizeOf t := by
  cases t
  simp
  omega

@[simp] theorem siblingsInOrder_append (xs ys : List Token) :
    siblingsInOrder (xs ++ ys) = siblingsInOrder xs ++ siblingsInOrder ys := by
  induction xs with
  | nil => simp [siblingsInOrder]
  | cons t rest ih => simp [siblingsInOrder, ih]

theorem siblingsInOrder_of_childless {ts : List Token} (h : ∀ t ∈ ts, t.children = []) :
    siblingsInOrder ts = ts := by
  induction ts with
  | nil => rfl
  | cons t rest ih =>
    obtain ⟨ht, hrest⟩ := List.forall_mem_cons.mp h
    rw [siblingsInOrder, Token.inOrder_eq, ht, ih hrest]
    rfl

theorem mem_siblingsInOrder_iff {ts : List Token} {u : Token} :
    u ∈ siblingsInOrder ts ↔ ∃ t ∈ ts, u ∈ t.inOrder := by
  induction ts with
  | nil => simp [siblingsInOrder]
  | cons t rest ih => simp [siblingsInOrder, ih]

theorem mem_siblingsInOrder_of_mem {ts : List Token} {t : Token} (h : t ∈ ts) :
    t ∈ siblingsInOrder ts :=
  mem_siblingsInOrder_iff.mpr ⟨t, h, by simp [Token.inOrder_eq]⟩

theorem mem_siblingsInOrder_of_children {ts : List Token} {t c : Token} (h : t ∈ ts)
    (hc : c ∈ t.children) : c ∈ siblingsInOrder ts := by
  refine mem_siblingsInOrder_iff.mpr ⟨t, h, ?_⟩
  rw [Token.inOrder_eq]
  exact List.mem_cons_of_mem t (mem_siblingsInOrder_of_mem hc)

/-! ## Paths of siblings -/

theorem exists_of_mem_pathsFrom {i : Nat} {ts : List Token} {path : Path}
    (h : path ∈ pathsFrom i ts) :
    ∃ j t below, i ≤ j ∧ ts[j - i]? = some t ∧ below ∈ t.paths ∧ path = j :: below := by
  induction ts generalizing i with
  | nil => simp [pathsFrom] at h
  | cons t rest ih =>
    simp only [pathsFrom, List.mem_append, List.mem_map] at h
    rcases h with ⟨below, hbelow, rfl⟩ | h
    · exact ⟨i, t, below, Nat.le_refl i, by simp, hbelow, rfl⟩
    · obtain ⟨j, u, below, hj, hu, hbelow, rfl⟩ := ih h
      refine ⟨j, u, below, by omega, ?_, hbelow, rfl⟩
      rw [show j - i = (j - (i + 1)) + 1 by omega, List.getElem?_cons_succ]
      exact hu

theorem ne_nil_of_mem_pathsFrom {i : Nat} {ts : List Token} {path : Path}
    (h : path ∈ pathsFrom i ts) : path ≠ [] := by
  obtain ⟨j, t, below, -, -, -, rfl⟩ := exists_of_mem_pathsFrom h
  simp

theorem tokenAt?_cons {ts : List Token} {i : Nat} {path : Path} (h : path ≠ []) :
    tokenAt? ts (i :: path) = ts[i]?.bind fun t => tokenAt? t.children path := by
  cases path with
  | nil => exact absurd rfl h
  | cons j path => simp [tokenAt?]

mutual

/-- The paths of a token lead to it and to the tokens below it, in document order. -/
theorem Token.paths_map_tokenAt? (t : Token) {ts : List Token} {i : Nat} (ht : ts[i]? = some t) :
    t.paths.map (fun path => tokenAt? ts (i :: path)) = t.inOrder.map some := by
  match t with
  | ⟨kind, tag, content, attrs, children, nesting⟩ =>
    have hbelow : (pathsFrom 0 children).map (fun path => tokenAt? ts (i :: path)) =
        (pathsFrom 0 children).map (tokenAt? children) := by
      apply List.map_congr_left
      intro path hpath
      rw [tokenAt?_cons (ne_nil_of_mem_pathsFrom hpath), ht]
      rfl
    have hchildren := pathsFrom_map_tokenAt? children [] rfl
    simp only [List.nil_append, List.length_nil] at hchildren
    simp [Token.paths, Token.inOrder, hbelow, hchildren, tokenAt?, ht]

theorem pathsFrom_map_tokenAt? (ts : List Token) {i : Nat} (front : List Token)
    (hfront : front.length = i) :
    (pathsFrom i ts).map (tokenAt? (front ++ ts)) = (siblingsInOrder ts).map some := by
  match ts with
  | [] => simp [pathsFrom, siblingsInOrder]
  | t :: rest =>
    have ht : (front ++ t :: rest)[i]? = some t := by
      simp [← hfront]
    have hrest := pathsFrom_map_tokenAt? rest (i := i + 1) (front ++ [t]) (by simp [hfront])
    rw [List.append_assoc, List.singleton_append] at hrest
    simp only [pathsFrom, siblingsInOrder, List.map_append, List.map_map, hrest]
    rw [← Token.paths_map_tokenAt? t ht]
    rfl

end

theorem Document.outline_map_get? (doc : Document) :
    (Outline.ofDocument doc).paths.map doc.get? = doc.inOrder.map some :=
  pathsFrom_map_tokenAt? doc.tokens [] rfl

theorem Document.length_pathsWhere (doc : Document) (property : Token → Bool) :
    ((Outline.ofDocument doc).pathsWhere doc property).length = doc.inOrder.countP property := by
  have hcount := congrArg (List.countP (Option.any property)) doc.outline_map_get?
  rw [List.countP_map, List.countP_map] at hcount
  rw [Outline.pathsWhere, ← List.countP_eq_length_filter]
  exact hcount

theorem Document.get?_isSome_of_mem {doc : Document} {path : Path}
    (h : path ∈ (Outline.ofDocument doc).paths) : ∃ t, doc.get? path = some t := by
  have hmem : doc.get? path ∈ doc.inOrder.map some := by
    rw [← doc.outline_map_get?]
    exact List.mem_map_of_mem h
  obtain ⟨t, -, ht⟩ := List.mem_map.mp hmem
  exact ⟨t, ht.symm⟩

mutual

theorem Token.paths_nodup (t : Token) : t.paths.Nodup := by
  match t with
  | ⟨_, _, _, _, children, _⟩ =>
    have hnil : [] ∉ pathsFrom 0 children := fun h => ne_nil_of_mem_pathsFrom h rfl
    simpa [Token.paths, hnil] using pathsFrom_nodup 0 children

theorem pathsFrom_nodup (i : Nat) (ts : List Token) : (pathsFrom i ts).Nodup := by
  match ts with
  | [] => simp [pathsFrom]
  | t :: rest =>
    have hfirst : (t.paths.map (i :: ·)).Nodup :=
      (Token.paths_nodup t).map (List.cons_injective)
    refine List.nodup_append.mpr ⟨hfirst, pathsFrom_nodup (i + 1) rest, ?_⟩
    intro path hpath other hother heq
    obtain ⟨below, -, rfl⟩ := List.mem_map.mp hpath
    obtain ⟨j, u, below', hj, -, -, rfl⟩ := exists_of_mem_pathsFrom hother
    have hij : i = j := (List.cons.inj heq).1
    omega

end

theorem Document.outline_nodup (doc : Document) : (Outline.ofDocument doc).paths.Nodup :=
  pathsFrom_nodup 0 doc.tokens

end Folio
