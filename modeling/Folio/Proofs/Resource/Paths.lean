import Folio.Resource.SourceRoot

/-!
# Names of paths

A path that is joined from names is split into the same names again, as long as no name holds a
slash. The names that a document path is cleaned to are such names, and none of them leads upwards.
-/

namespace Folio

namespace FilePath

/-! ## Splitting and joining -/

theorem splitSlash_ne_nil (cs : List Char) : splitSlash cs ≠ [] := by
  cases cs with
  | nil => simp [splitSlash]
  | cons c rest =>
    by_cases hc : c = '/'
    · simp [splitSlash, hc]
    · rw [splitSlash, if_neg hc]
      split <;> simp

theorem splitSlash_append (xs ys : List Char) :
    splitSlash (xs ++ '/' :: ys) = splitSlash xs ++ splitSlash ys := by
  induction xs with
  | nil => simp [splitSlash]
  | cons c rest ih =>
    by_cases hc : c = '/'
    · simp [splitSlash, hc, ih]
    · cases hrest : splitSlash rest with
      | nil => exact absurd hrest (splitSlash_ne_nil rest)
      | cons piece pieces => simp [splitSlash, hc, ih, hrest]

theorem splitSlash_of_no_slash {cs : List Char} (h : '/' ∉ cs) : splitSlash cs = [cs] := by
  induction cs with
  | nil => rfl
  | cons c rest ih =>
    simp only [List.mem_cons, not_or] at h
    rw [splitSlash, if_neg (Ne.symm h.1), ih h.2]

theorem no_slash_of_mem_splitSlash {cs piece : List Char} (h : piece ∈ splitSlash cs) :
    '/' ∉ piece := by
  induction cs generalizing piece with
  | nil =>
    obtain rfl : piece = [] := by simpa [splitSlash] using h
    simp
  | cons c rest ih =>
    by_cases hc : c = '/'
    · rw [splitSlash, if_pos hc] at h
      rcases List.mem_cons.mp h with rfl | h
      · simp
      · exact ih h
    · rw [splitSlash, if_neg hc] at h
      cases hrest : splitSlash rest with
      | nil => exact absurd hrest (splitSlash_ne_nil rest)
      | cons first pieces =>
        rw [hrest] at h
        simp only [List.mem_cons] at h
        rcases h with rfl | h
        · have hfirst := ih (by rw [hrest]; exact List.mem_cons_self)
          simp [Ne.symm hc, hfirst]
        · exact ih (by rw [hrest]; exact List.mem_cons_of_mem first h)

theorem names_join (base path : String) : names (base ++ "/" ++ path) = names base ++ names path := by
  simp [names, splitSlash_append]

theorem names_ne_nil (path : String) : names path ≠ [] := by
  simp [names, splitSlash_ne_nil]

/-- Whether a name stands for one place below a directory: it is not empty, no dot and no two dots,
and it holds no slash. -/
structure IsPlainName (name : String) : Prop where
  notEmpty : name ≠ ""
  notCurrent : name ≠ "."
  notParent : name ≠ ".."
  noSlash : '/' ∉ name.toList

theorem names_of_no_slash {name : String} (h : '/' ∉ name.toList) : names name = [name] := by
  simp [names, splitSlash_of_no_slash h]

theorem names_intercalate {list : List String} (hne : list ≠ []) (h : ∀ name ∈ list, IsPlainName name) :
    names ("/".intercalate list) = list := by
  induction list with
  | nil => exact absurd rfl hne
  | cons name rest ih =>
    have hname := names_of_no_slash (h name (by simp)).noSlash
    cases rest with
    | nil => simpa using hname
    | cons next rest =>
      have hrest := ih (by simp) fun other hother => h other (by simp [hother])
      rw [String.intercalate_cons_cons, names_join, hname, hrest]
      rfl

theorem IsPlainName.head {name : String} (h : IsPlainName name) :
    ∃ c rest, name.toList = c :: rest ∧ c ≠ '/' := by
  cases hchars : name.toList with
  | nil => exact absurd (String.toList_eq_nil_iff.mp hchars) h.notEmpty
  | cons c rest =>
    refine ⟨c, rest, rfl, ?_⟩
    rintro rfl
    exact h.noSlash (by simp [hchars])

theorem not_isAbsolute_intercalate {list : List String} (h : ∀ name ∈ list, IsPlainName name) :
    isAbsolute ("/".intercalate list) = false := by
  cases list with
  | nil => rfl
  | cons name rest =>
    obtain ⟨c, chars, hchars, hc⟩ := (h name (by simp)).head
    cases rest with
    | nil => simp [isAbsolute, hchars, hc]
    | cons next rest => simp [isAbsolute, String.intercalate_cons_cons, hchars, hc]

/-- The names along a root and then along a relative path are those of the root, but for an empty
one at its end, and those of the path. -/
theorem exists_names_join {base path : String} (hbase : base ≠ "") (hpath : isAbsolute path = false) :
    ∃ front, names (join base path) = front ++ names path ∧
      (names base = front ∨ names base = front ++ [""]) := by
  have hnonempty : base.isEmpty = false := by simpa using hbase
  rw [join, if_neg (by simp [hpath])]
  by_cases hslash : base.toList.getLast? = some '/'
  · obtain ⟨chars, hchars⟩ := List.getLast?_eq_some_iff.mp hslash
    refine ⟨(splitSlash chars).map String.ofList, ?_, .inr ?_⟩
    · rw [if_pos (by simp [hslash])]
      simp [names, hchars, splitSlash_append]
    · simp [names, hchars, splitSlash_append, splitSlash]
  · refine ⟨names base, ?_, .inl rfl⟩
    rw [if_neg (by simp [hnonempty, hslash]), names_join]

theorem exists_join_eq (base : String) {path : String} (hpath : isAbsolute path = false) :
    ∃ rest, join base path = base ++ rest := by
  rw [join, if_neg (by simp [hpath])]
  split
  · exact ⟨path, rfl⟩
  · exact ⟨"/" ++ path, String.append_assoc⟩

theorem isAbsolute_append {base : String} (hbase : base ≠ "") (path : String) :
    isAbsolute (base ++ path) = isAbsolute base := by
  cases hchars : base.toList with
  | nil => exact absurd (String.toList_eq_nil_iff.mp hchars) hbase
  | cons c chars => simp [isAbsolute, hchars]

/-! ## Clean names -/

theorem component?_eq_normal {name other : String} (h : component? name = some (.normal other)) :
    name = other ∧ other ≠ "" ∧ other ≠ "." ∧ other ≠ ".." := by
  unfold component? at h
  split at h
  · simp at h
  · simp at h
  · simp at h
  · rename_i hempty hcurrent hparent
    obtain rfl : name = other := by simpa using h
    exact ⟨rfl, hempty, hcurrent, hparent⟩

theorem isPlainName_of_component? (path : String) {name other : String} (hname : name ∈ names path)
    (h : component? name = some (.normal other)) : IsPlainName other := by
  obtain ⟨rfl, hempty, hcurrent, hparent⟩ := component?_eq_normal h
  obtain ⟨piece, hpiece, rfl⟩ := List.mem_map.mp hname
  exact ⟨hempty, hcurrent, hparent, by simpa using no_slash_of_mem_splitSlash hpiece⟩

theorem isPlainName_of_mem_components {path name : String} (h : .normal name ∈ components path) :
    IsPlainName name := by
  unfold components at h
  split at h
  · simp at h
  · rename_i first rest hnames
    rcases List.mem_append.mp h with h | h
    · have hstart : component? first = some (.normal name) := by
        split at h
        · simp at h
        · split at h
          · simp at h
          · simpa using h
      exact isPlainName_of_component? path (by simp [hnames]) hstart
    · obtain ⟨other, hother, hcomponent⟩ := List.mem_filterMap.mp h
      exact isPlainName_of_component? path (by simp [hnames, hother]) hcomponent

end FilePath

namespace SourceRoot

open FilePath

theorem exists_of_mem_filterMapM {α β : Type} {f : α → Option (Option β)} {xs : List α} {ys : List β}
    (h : xs.filterMapM (m := Option) f = some ys) {y : β} (hy : y ∈ ys) :
    ∃ x ∈ xs, f x = some (some y) := by
  induction xs generalizing ys with
  | nil =>
    obtain rfl : [] = ys := by simpa using h
    simp at hy
  | cons x rest ih =>
    simp only [List.filterMapM_cons, Option.bind_eq_bind, Option.bind_eq_some_iff] at h
    obtain ⟨first, hfirst, h⟩ := h
    cases first with
    | none =>
      obtain ⟨z, hz, hfz⟩ := ih h hy
      exact ⟨z, by simp [hz], hfz⟩
    | some z =>
      simp only [Option.bind_eq_some_iff] at h
      obtain ⟨others, hothers, h⟩ := h
      obtain rfl : z :: others = ys := by simpa using h
      rcases List.mem_cons.mp hy with rfl | hy
      · exact ⟨x, by simp, hfirst⟩
      · obtain ⟨w, hw, hfw⟩ := ih hothers hy
        exact ⟨w, by simp [hw], hfw⟩

/-- The names that a document path is cleaned to lead neither upwards nor to the root. -/
theorem cleanNames?_plain {path : String} {list : List String} (h : cleanNames? path = some list) :
    ∀ name ∈ list, IsPlainName name := by
  intro name hname
  obtain ⟨component, hcomponent, hkept⟩ := exists_of_mem_filterMapM h hname
  cases component with
  | normal other =>
    obtain rfl : other = name := by simpa using hkept
    exact isPlainName_of_mem_components hcomponent
  | root | current | parent => simp at hkept

end SourceRoot

end Folio
