import Folio.Proofs.Resource.Containment

/-!
# Spellings of document paths

A document path is read as steps between slashes. A step upwards is refused, and so is a path without
a step to a name, whatever the file tree holds. Of any other path only the names count, in their
order: slashes at the beginning, at the end or next to each other, and single dots, change nothing but
the path that a failure quotes.
-/

namespace Folio

def ResourceError.quoting (path : String) : ResourceError → ResourceError
  | .notFound _ => .notFound path
  | .loadFailed _ cause => .loadFailed path cause
  | .invalidPath _ => .invalidPath path
  | .io cause => .io cause

namespace FilePath

/-! ## Steps and names -/

def Component.name? : Component → Option String
  | .normal name => some name
  | .root | .current | .parent => none

@[simp] theorem Component.name?_normal (name : String) : (normal name).name? = some name := rfl

@[simp] theorem Component.name?_current : current.name? = none := rfl

@[simp] theorem Component.name?_parent : parent.name? = none := rfl

/-- Whether what stands between two slashes says nothing. -/
def IsSilent (name : String) : Prop :=
  name = "" ∨ name = "."

instance (name : String) : Decidable (IsSilent name) :=
  inferInstanceAs (Decidable (name = "" ∨ name = "."))

theorem component?_eq (name : String) :
    component? name =
      if IsSilent name then none else if name = ".." then some .parent else some (.normal name) := by
  unfold component?
  split
  · exact (if_pos (.inl rfl)).symm
  · exact (if_pos (.inr rfl)).symm
  · rw [if_neg (by decide), if_pos rfl]
  · rename_i hempty hcurrent hparent
    have hspeaks : ¬IsSilent name := by
      rintro (h | h)
      · exact hempty h
      · exact hcurrent h
    rw [if_neg hspeaks, if_neg hparent]

theorem component?_eq_none_iff {name : String} : component? name = none ↔ IsSilent name := by
  rw [component?_eq]
  split
  · simp_all
  · split <;> simp_all

theorem component?_eq_parent_iff {name : String} :
    component? name = some .parent ↔ name = ".." := by
  rw [component?_eq]
  by_cases hparent : name = ".."
  · subst hparent
    simp [IsSilent]
  · split <;> simp [hparent]

theorem component?_bind_name? (name : String) :
    (component? name).bind Component.name? =
      if ¬IsSilent name ∧ name ≠ ".." then some name else none := by
  rw [component?_eq]
  by_cases hsilent : IsSilent name
  · simp [hsilent]
  · by_cases hparent : name = ".." <;> simp [hsilent, hparent]

theorem component?_ne (name : String) :
    component? name ≠ some .root ∧ component? name ≠ some .current := by
  rw [component?_eq]
  split
  · simp
  · split <;> simp

/-- But for a step that stays at its beginning, a relative path has the steps of its names. -/
theorem components_relative {path : String} (h : isAbsolute path = false) :
    components path = (names path).filterMap component? ∨
      components path = .current :: (names path).filterMap component? := by
  cases hnames : names path with
  | nil => exact absurd hnames (names_ne_nil path)
  | cons first rest =>
    by_cases hdot : first = "."
    · subst hdot
      have hfirst : component? "." = none := rfl
      exact .inr (by simp [components, hnames, h, hfirst])
    · refine .inl ?_
      cases hfirst : component? first <;> simp [components, hnames, h, hdot, hfirst]

end FilePath

namespace SourceRoot

open FilePath

variable {document other : String}

/-! ## Steps of document paths -/

def relativePart (document : String) : String :=
  String.ofList (document.toList.dropWhile (· == '/'))

def steps (document : String) : List Component :=
  components (relativePart document)

def stepNames (document : String) : List String :=
  (steps document).filterMap Component.name?

/-- Whether a document path has a step upwards, or no step but such as stay where they are. -/
def IsRefused (document : String) : Prop :=
  .parent ∈ steps document ∨ ∀ step ∈ steps document, step = .current

instance (document : String) : Decidable (IsRefused document) :=
  inferInstanceAs (Decidable (_ ∨ _))

theorem not_isAbsolute_relativePart (document : String) :
    isAbsolute (relativePart document) = false := by
  rw [isAbsolute, relativePart, String.toList_ofList]
  cases hchars : document.toList.dropWhile (· == '/') with
  | nil => rfl
  | cons c rest =>
    have hhead := List.head?_dropWhile_not (· == '/') document.toList
    rw [hchars] at hhead
    simpa using hhead

/-- Slashes at the beginning only add empty names. -/
theorem exists_names_eq (document : String) :
    ∃ n, names document = List.replicate n "" ++ names (relativePart document) := by
  have hchars : ∀ cs : List Char, ∃ n,
      splitSlash cs = List.replicate n [] ++ splitSlash (cs.dropWhile (· == '/')) := by
    intro cs
    induction cs with
    | nil => exact ⟨0, rfl⟩
    | cons c rest ih =>
      by_cases hc : c = '/'
      · obtain ⟨n, hn⟩ := ih
        refine ⟨n + 1, ?_⟩
        simp [splitSlash, hc, hn, List.replicate_succ]
      · exact ⟨0, by simp [hc]⟩
  obtain ⟨n, hn⟩ := hchars document.toList
  exact ⟨n, by simp [names, relativePart, hn]⟩

theorem filterMap_names (document : String) :
    (names (relativePart document)).filterMap component? = (names document).filterMap component? := by
  obtain ⟨n, hn⟩ := exists_names_eq document
  have hempty : (List.replicate n "").filterMap component? = [] := by
    rw [List.filterMap_replicate_of_none]
    exact component?_eq_none_iff.mpr (.inl rfl)
  rw [hn, List.filterMap_append, hempty, List.nil_append]

/-- But for one that stays at the beginning, the steps are those of the names between the slashes. -/
theorem steps_cases (document : String) :
    steps document = (names document).filterMap component? ∨
      steps document = .current :: (names document).filterMap component? := by
  rw [← filterMap_names]
  exact components_relative (not_isAbsolute_relativePart document)

theorem mem_steps_iff {step : Component} (h : step ≠ .current) :
    step ∈ steps document ↔ ∃ name ∈ names document, component? name = some step := by
  rcases steps_cases document with hsteps | hsteps <;> simp [hsteps, h]

theorem root_not_mem_steps (document : String) : .root ∉ steps document := by
  rw [mem_steps_iff (by decide)]
  rintro ⟨name, -, hname⟩
  exact (component?_ne name).1 hname

/-- A document path is refused if two dots stand between slashes, or nothing but what is silent. -/
theorem isRefused_iff :
    IsRefused document ↔ ".." ∈ names document ∨ ∀ name ∈ names document, IsSilent name := by
  have hparent : .parent ∈ steps document ↔ ".." ∈ names document := by
    rw [mem_steps_iff (by decide)]
    simp [component?_eq_parent_iff]
  have hcurrent : (∀ step ∈ steps document, step = .current) ↔
      ∀ name ∈ names document, IsSilent name := by
    have hall : (∀ step ∈ (names document).filterMap component?, step = .current) ↔
        ∀ name ∈ names document, IsSilent name := by
      simp only [List.mem_filterMap, ← component?_eq_none_iff]
      constructor
      · intro h name hname
        cases hstep : component? name with
        | none => rfl
        | some step =>
          obtain rfl := h step ⟨name, hname, hstep⟩
          exact absurd hstep (component?_ne name).2
      · rintro h step ⟨name, hname, hstep⟩
        rw [h name hname] at hstep
        cases hstep
    rcases steps_cases document with hsteps | hsteps <;> simpa [hsteps] using hall
  rw [IsRefused, hparent, hcurrent]

theorem stepNames_eq (document : String) :
    stepNames document =
      (names document).filter fun name => ¬IsSilent name ∧ name ≠ ".." := by
  have hnames : stepNames document =
      ((names document).filterMap component?).filterMap Component.name? := by
    rcases steps_cases document with hsteps | hsteps <;> simp [stepNames, hsteps, List.filterMap_cons]
  rw [hnames, List.filterMap_filterMap, ← List.filterMap_eq_filter]
  congr 1
  funext name
  rw [component?_bind_name?]
  simp [Option.guard]

/-! ## Cleaning -/

/-- Steps none of which is to the root are read to their names, unless one of them leads upwards. -/
theorem filterMapM_steps {read? : Component → Option (Option String)} {list : List Component}
    (hnormal : ∀ name, read? (.normal name) = some (some name))
    (hcurrent : read? .current = some none) (hparent : read? .parent = none)
    (hroot : .root ∉ list) :
    list.filterMapM read? =
      if .parent ∈ list then none else some (list.filterMap Component.name?) := by
  induction list with
  | nil => rfl
  | cons step rest ih =>
    simp only [List.mem_cons, not_or] at hroot
    have hrest := ih hroot.2
    cases step with
    | root => exact absurd rfl hroot.1
    | parent => simp [List.filterMapM_cons, hparent]
    | current => simpa [List.filterMapM_cons, List.filterMap_cons, hcurrent] using hrest
    | normal name =>
      simp only [List.filterMapM_cons, hnormal, hrest]
      by_cases hupwards : .parent ∈ rest <;> simp [hupwards]

theorem cleanNames?_eq (document : String) :
    cleanNames? document =
      if .parent ∈ steps document then none else some (stepNames document) :=
  filterMapM_steps (fun _ => rfl) rfl rfl (root_not_mem_steps document)

theorem cleanNames?_of_not_refused (h : ¬IsRefused document) :
    cleanNames? document = some (stepNames document) := by
  rw [cleanNames?_eq, if_neg fun hparent => h (.inl hparent)]

/-! ## Loads -/

variable (root : SourceRoot) (t : FileTree)

theorem resolve?_of_refused (h : IsRefused document) : root.resolve? t document = none := by
  rw [resolve?, cleanNames?_eq]
  by_cases hparent : .parent ∈ steps document
  · rw [if_pos hparent]
    rfl
  · have hcurrent := h.resolve_left hparent
    have hnames : stepNames document = [] := by
      rw [stepNames, List.filterMap_eq_nil_iff]
      intro step hstep
      rw [hcurrent step hstep]
      rfl
    rw [if_neg hparent, hnames]
    rfl

theorem load_of_refused (h : IsRefused document) :
    root.load t document = .error (.invalidPath document) := by
  rw [load, resolve?_of_refused root t h]

/-- Of a document path, a load looks at the names only, and quotes it in its failures. -/
theorem load_of_cleanNames? (h : cleanNames? other = cleanNames? document) :
    root.load t other = (root.load t document).mapError (·.quoting other) := by
  have hresolve : root.resolve? t other = root.resolve? t document := by
    rw [resolve?, resolve?, h]
  rw [load, load, hresolve]
  cases root.resolve? t document with
  | none => rfl
  | some full =>
    cases hread : t.read full with
    | ok bytes =>
      simp only [hread]
      rfl
    | error cause => cases cause <;> simp only [hread] <;> rfl

/-- A document path with a step upwards, and one that leads through no name, is refused whatever the
file tree holds. Any other two document paths with the same names in the same order, which are what
stands between the slashes but for what is silent, give the same bytes or the same failure, with only
the path in it that was asked for. -/
theorem load_spelling (root : SourceRoot) (t : FileTree) (document : String) :
    (IsRefused document → root.load t document = .error (.invalidPath document)) ∧
      (¬IsRefused document → ∀ other, ¬IsRefused other → stepNames other = stepNames document →
        root.load t other = (root.load t document).mapError (·.quoting other)) ∧
      (IsRefused document ↔
        ".." ∈ names document ∨ ∀ name ∈ names document, IsSilent name) ∧
      stepNames document = (names document).filter fun name => ¬IsSilent name ∧ name ≠ ".." := by
  refine ⟨load_of_refused root t, ?_, isRefused_iff, stepNames_eq document⟩
  intro hdocument other hother hnames
  apply load_of_cleanNames?
  rw [cleanNames?_of_not_refused hother, cleanNames?_of_not_refused hdocument, hnames]

/-- A link that leads out of the root, under two spellings of its path and one that is refused for
its own sake. -/
theorem load_spelling_linked :
    ¬IsRefused "a.png" ∧ ¬IsRefused "/.//./a.png/" ∧
      stepNames "/.//./a.png/" = stepNames "a.png" ∧ IsRefused "docs/../a.png" ∧
      (atPath withLinkingRoot "docs").load withLinkingRoot "a.png" =
        .error (.invalidPath "a.png") ∧
      (atPath withLinkingRoot "docs").load withLinkingRoot "/.//./a.png/" =
        .error (.invalidPath "/.//./a.png/") ∧
      (atPath withLinkingRoot "docs").load withLinkingRoot "docs/../a.png" =
        .error (.invalidPath "docs/../a.png") := by
  have hplain : ¬IsRefused "a.png" := by decide +kernel
  have hspelled : ¬IsRefused "/.//./a.png/" := by decide +kernel
  have hnames : stepNames "/.//./a.png/" = stepNames "a.png" := by decide +kernel
  have hupwards : IsRefused "docs/../a.png" := by decide +kernel
  have hjoined : spelled? "docs" "a.png" = some "docs/a.png" := by decide +kernel
  have hleaves : (atPath withLinkingRoot "docs").leavesRoot withLinkingRoot "docs/a.png" = true := by
    rw [leavesRoot, resolve_secret, atPath, resolve_withLinkingRoot]
    rfl
  have hload : (atPath withLinkingRoot "docs").load withLinkingRoot "a.png" =
      .error (.invalidPath "a.png") := by
    rw [load]
    cases hresolve : (atPath withLinkingRoot "docs").resolve? withLinkingRoot "a.png" with
    | none => rfl
    | some full =>
      obtain ⟨hfull, hstays⟩ := resolve?_eq_some_iff.mp hresolve
      obtain rfl : "docs/a.png" = full := Option.some.inj (hjoined.symm.trans hfull)
      rw [hleaves] at hstays
      cases hstays
  obtain ⟨-, hsame, -⟩ := load_spelling (atPath withLinkingRoot "docs") withLinkingRoot "a.png"
  obtain ⟨hrefused, -⟩ :=
    load_spelling (atPath withLinkingRoot "docs") withLinkingRoot "docs/../a.png"
  refine ⟨hplain, hspelled, hnames, hupwards, hload, ?_, hrefused hupwards⟩
  rw [hsame hplain _ hspelled hnames, hload]
  rfl

end SourceRoot

end Folio
