import Folio.Proofs.Document.Order
import Mathlib.Data.List.Lex
import Mathlib.Order.Bounds.Defs

/-!
# The outline as an enumeration

The outline of a document lists every path that leads to a token, each once, and in document order:
a token before those below it, and siblings with all below them one after the other. The content
behind a position is looked for from the back of the outline; what is found is the first position
behind it whose token has content.
-/

namespace Folio

/-- Whether a path comes before another in document order: it leads to a token above the other, or
at the place where the two part it takes the earlier child. -/
def Precedes (path other : Path) : Prop :=
  (path <+: other ∧ path ≠ other) ∨
    ∃ front i j, i < j ∧ front ++ [i] <+: path ∧ front ++ [j] <+: other

namespace Precedes

variable {path other : Path}

protected theorem lt (h : Precedes path other) : path < other := by
  rcases h with ⟨⟨below, rfl⟩, hne⟩ | ⟨front, i, j, hij, ⟨left, rfl⟩, ⟨right, rfl⟩⟩
  · cases below with
    | nil => simp at hne
    | cons i below =>
      have hbelow : path ++ [] < path ++ i :: below := List.append_left_lt (List.nil_lt_cons i below)
      rwa [List.append_nil] at hbelow
  · rw [List.append_assoc, List.append_assoc]
    exact List.append_left_lt (List.cons_lt_cons_iff.mpr (.inl hij))

protected theorem asymm (h : Precedes path other) : ¬Precedes other path :=
  fun hback => lt_asymm h.lt hback.lt

protected theorem ne (h : Precedes path other) : path ≠ other :=
  ne_of_lt h.lt

protected theorem cons (i : Nat) (h : Precedes path other) : Precedes (i :: path) (i :: other) := by
  rcases h with ⟨hinitial, hne⟩ | ⟨front, j, k, hjk, hleft, hright⟩
  · exact .inl ⟨List.cons_prefix_cons.mpr ⟨rfl, hinitial⟩, by simpa using hne⟩
  · exact .inr ⟨i :: front, j, k, hjk, List.cons_prefix_cons.mpr ⟨rfl, hleft⟩,
      List.cons_prefix_cons.mpr ⟨rfl, hright⟩⟩

end Precedes

theorem precedes_of_nil {path : Path} (h : path ≠ []) : Precedes [] path :=
  .inl ⟨List.nil_prefix, h.symm⟩

theorem precedes_of_lt {i j : Nat} (h : i < j) (left right : Path) :
    Precedes (i :: left) (j :: right) :=
  .inr ⟨[], i, j, h, List.prefix_append [i] left, List.prefix_append [j] right⟩

/-! ## Which paths are listed -/

theorem mem_pathsFrom {i j : Nat} {ts : List Token} {t : Token} {below : Path}
    (ht : ts[j]? = some t) (hbelow : below ∈ t.paths) : (i + j) :: below ∈ pathsFrom i ts := by
  induction ts generalizing i j with
  | nil => simp at ht
  | cons first rest ih =>
    rw [pathsFrom, List.mem_append, List.mem_map]
    cases j with
    | zero =>
      obtain rfl : first = t := by simpa using ht
      exact .inl ⟨below, hbelow, rfl⟩
    | succ j =>
      have hlater := ih (i := i + 1) (by simpa using ht)
      rw [Nat.add_assoc, Nat.add_comm 1 j] at hlater
      exact .inr hlater

theorem mem_pathsFrom_of_tokenAt? {ts : List Token} {path : Path} {t : Token}
    (h : tokenAt? ts path = some t) : path ∈ pathsFrom 0 ts := by
  induction path generalizing ts with
  | nil => simp [tokenAt?] at h
  | cons i path ih =>
    rw [← Nat.zero_add i]
    cases path with
    | nil => exact mem_pathsFrom h (by simp [Token.paths_eq])
    | cons j path =>
      obtain ⟨u, hu, hbelow⟩ := Option.bind_eq_some_iff.mp h
      refine mem_pathsFrom hu ?_
      rw [Token.paths_eq]
      exact List.mem_cons_of_mem [] (ih hbelow)

/-- The outline lists the paths that lead to tokens, and no other. -/
theorem Document.mem_outline_iff {doc : Document} {path : Path} :
    path ∈ (Outline.ofDocument doc).paths ↔ ∃ t, doc.get? path = some t :=
  ⟨doc.get?_isSome_of_mem, fun ⟨_, h⟩ => mem_pathsFrom_of_tokenAt? h⟩

/-! ## In which order they are listed -/

mutual

theorem Token.paths_pairwise (t : Token) : t.paths.Pairwise Precedes := by
  match t with
  | ⟨_, _, _, _, children, _⟩ =>
    rw [Token.paths, List.pairwise_cons]
    exact ⟨fun path hpath => precedes_of_nil (ne_nil_of_mem_pathsFrom hpath),
      pathsFrom_pairwise 0 children⟩

theorem pathsFrom_pairwise (i : Nat) (ts : List Token) : (pathsFrom i ts).Pairwise Precedes := by
  match ts with
  | [] => exact .nil
  | t :: rest =>
    rw [pathsFrom, List.pairwise_append, List.pairwise_map]
    refine ⟨(Token.paths_pairwise t).imp (Precedes.cons i), pathsFrom_pairwise (i + 1) rest, ?_⟩
    intro path hpath other hother
    obtain ⟨left, -, rfl⟩ := List.mem_map.mp hpath
    obtain ⟨j, _, right, hj, -, -, rfl⟩ := exists_of_mem_pathsFrom hother
    exact precedes_of_lt hj left right

end

theorem Outline.lt_iff_precedes {doc : Document} {i j : Nat} {path other : Path}
    (hi : (ofDocument doc).path? i = some path) (hj : (ofDocument doc).path? j = some other) :
    i < j ↔ Precedes path other := by
  have hforward : ∀ {m n : Nat} {left right : Path}, (ofDocument doc).path? m = some left →
      (ofDocument doc).path? n = some right → m < n → Precedes left right := by
    intro m n left right hm hn hlt
    obtain ⟨hmsize, rfl⟩ := List.getElem?_eq_some_iff.mp hm
    obtain ⟨hnsize, rfl⟩ := List.getElem?_eq_some_iff.mp hn
    exact List.pairwise_iff_getElem.mp (pathsFrom_pairwise 0 doc.tokens) m n hmsize hnsize hlt
  refine ⟨hforward hi hj, fun hprecedes => ?_⟩
  rcases Nat.lt_trichotomy i j with hlt | rfl | hgt
  · exact hlt
  · exact absurd (Option.some.inj (hi.symm.trans hj)) hprecedes.ne
  · exact absurd (hforward hj hi hgt) hprecedes.asymm

/-! ## The next position with content -/

theorem length_nextMarked (i : Nat) (marks : List Bool) :
    (nextMarked i marks).1.length = marks.length := by
  induction marks generalizing i with
  | nil => rfl
  | cons marked rest ih => simp [nextMarked, ih]

theorem nextMarked_snd (i : Nat) (marks : List Bool) :
    (nextMarked i marks).2 = (marks.findIdx? id).map (i + ·) := by
  induction marks generalizing i with
  | nil => rfl
  | cons marked rest ih =>
    cases marked with
    | true => simp [nextMarked, List.findIdx?_cons]
    | false =>
      simp [nextMarked, ih, List.findIdx?_cons, Function.comp_def, Nat.add_comm, Nat.add_left_comm]

/-- What is known of a position is the first marked one of those behind it. -/
theorem nextMarked_fst_getElem? (i : Nat) (marks : List Bool) {k : Nat} (hk : k < marks.length) :
    (nextMarked i marks).1[k]? = some (nextMarked (i + k + 1) (marks.drop (k + 1))).2 := by
  induction marks generalizing i k with
  | nil => simp at hk
  | cons marked rest ih =>
    cases k with
    | zero => simp [nextMarked]
    | succ k =>
      have hlater := ih (i + 1) (Nat.lt_of_succ_lt_succ hk)
      simpa [nextMarked, Nat.add_assoc, Nat.add_comm 1] using hlater

/-- Whether a position is the first behind another that has a property, or there is none and none
has it. -/
def IsNextAfter (holds : Nat → Prop) (i : Nat) : Option Nat → Prop
  | none => ∀ j, i < j → ¬holds j
  | some j => IsLeast {k | i < k ∧ holds k} j

/-- The first marked position behind another is found among the marks that are left behind it. -/
theorem isNextAfter_findIdx? (marks : List Bool) (i : Nat) :
    IsNextAfter (fun k => marks[k]? = some true) i
      (((marks.drop (i + 1)).findIdx? id).map (i + 1 + ·)) := by
  have hbehind : ∀ {k}, i < k → (marks.drop (i + 1))[k - (i + 1)]? = marks[k]? := by
    intro k hk
    rw [List.getElem?_drop, Nat.add_sub_cancel' hk]
  cases hfound : (marks.drop (i + 1)).findIdx? id with
  | none =>
    intro k hk hmarked
    have hmem : true ∈ marks.drop (i + 1) := List.mem_of_getElem? ((hbehind hk).trans hmarked)
    simpa using List.findIdx?_eq_none_iff.mp hfound true hmem
  | some n =>
    obtain ⟨hn, hmarked, hfirst⟩ := List.findIdx?_eq_some_iff_getElem.mp hfound
    show IsLeast {k | i < k ∧ marks[k]? = some true} (i + 1 + n)
    refine ⟨⟨by omega, ?_⟩, ?_⟩
    · rw [← List.getElem?_drop, List.getElem?_eq_getElem hn]
      exact congrArg some hmarked
    · rintro k ⟨hk, hkmarked⟩
      by_contra hlt
      have hearlier := (hbehind hk).trans hkmarked
      exact hfirst (k - (i + 1)) (by omega) (List.getElem?_eq_some_iff.mp hearlier).2

namespace Outline

variable {doc : Document}

def HasContentAt (doc : Document) (position : Nat) : Prop :=
  ∃ path t, (ofDocument doc).path? position = some path ∧ doc.get? path = some t ∧ t.content ≠ ""

def contentMarks (doc : Document) : List Bool :=
  (ofDocument doc).paths.map (holdsAt doc (!·.content.isEmpty))

theorem length_contentMarks (doc : Document) :
    (contentMarks doc).length = (ofDocument doc).size := by
  simp [contentMarks, size]

theorem contentMarks_getElem? {position : Nat} :
    (contentMarks doc)[position]? = some true ↔ HasContentAt doc position := by
  rw [contentMarks, List.getElem?_map, Option.map_eq_some_iff]
  refine exists_congr fun path => ?_
  rw [exists_and_left]
  refine and_congr_right fun _ => ?_
  simp [holdsAt, Option.any_eq_true]

theorem length_nextWithContent (doc : Document) :
    ((ofDocument doc).nextWithContent doc).length = (ofDocument doc).size := by
  rw [nextWithContent, ← contentMarks, length_nextMarked, length_contentMarks]

theorem isNextAfter_nextWithContent {i : Nat} {next : Option Nat}
    (h : ((ofDocument doc).nextWithContent doc)[i]? = some next) :
    IsNextAfter (HasContentAt doc) i next := by
  have hi : i < (contentMarks doc).length := by
    rw [length_contentMarks, ← length_nextWithContent]
    exact (List.getElem?_eq_some_iff.mp h).1
  rw [nextWithContent, ← contentMarks, nextMarked_fst_getElem? 0 _ hi, nextMarked_snd,
    Nat.zero_add] at h
  obtain rfl := Option.some.inj h
  simpa only [contentMarks_getElem?] using isNextAfter_findIdx? (contentMarks doc) i

/-- The outline of a document lists the paths that lead to tokens and no other, none of them twice,
and one stands before another exactly if it precedes it in document order. What is known of each
position is the least one behind it whose token has content, if there is any. -/
theorem ofDocument_enumerates (doc : Document) :
    (∀ path, path ∈ (ofDocument doc).paths ↔ ∃ t, doc.get? path = some t) ∧
      (ofDocument doc).paths.Nodup ∧
      (∀ i j path other, (ofDocument doc).path? i = some path →
        (ofDocument doc).path? j = some other → (i < j ↔ Precedes path other)) ∧
      ((ofDocument doc).nextWithContent doc).length = (ofDocument doc).size ∧
      ∀ i next, ((ofDocument doc).nextWithContent doc)[i]? = some next →
        IsNextAfter (HasContentAt doc) i next :=
  ⟨fun _ => Document.mem_outline_iff, doc.outline_nodup, fun _ _ _ _ => lt_iff_precedes,
    length_nextWithContent doc, fun _ _ => isNextAfter_nextWithContent⟩

/-- A document with tokens below tokens and between them some without content. -/
def branching : Document :=
  ⟨[{ Token.blockOpen "div" with children := [.text "", .inline "a" [.codeInline "a"]] },
    .ofKind .paragraphOpen, .text "b", .ofKind .paragraphClose]⟩

theorem ofDocument_enumerates_branching :
    [0, 1, 0] ∈ (ofDocument branching).paths ∧
      (ofDocument branching).path? 2 = some [0, 1] ∧ (ofDocument branching).path? 4 = some [1] ∧
      Precedes [0, 1] [1] ∧
      IsLeast {k | 0 < k ∧ HasContentAt branching k} 2 ∧
      (∀ j, 5 < j → ¬HasContentAt branching j) := by
  obtain ⟨hlisted, -, horder, -, hnext⟩ := ofDocument_enumerates branching
  have hdeep : branching.get? [0, 1, 0] = some (.codeInline "a") := rfl
  have hsecond : (ofDocument branching).path? 2 = some [0, 1] := rfl
  have hfourth : (ofDocument branching).path? 4 = some [1] := rfl
  exact ⟨(hlisted _).mpr ⟨_, hdeep⟩, hsecond, hfourth,
    (horder 2 4 _ _ hsecond hfourth).mp (by decide), hnext 0 (some 2) rfl, hnext 5 none rfl⟩

end Outline

end Folio
