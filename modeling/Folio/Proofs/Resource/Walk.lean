import Folio.Proofs.Resource.Paths

/-!
# Walks through a file tree

A walk along one path and then along another ends where the second leads from the end of the first.
So the place of a file below a root is reached from the place of the root, whatever links are
followed on the way to either.
-/

namespace Folio

namespace FileTree

open FilePath

/-- Whether a name is looked up in the directory it is met in, instead of being passed over or
leading upwards. -/
structure IsLookedUp (name : String) : Prop where
  notSilent : ¬(name = "" ∨ name = ".")
  notParent : name ≠ ".."
  short : ¬nameLimit < name.utf8ByteSize

/-- A step of a walk at a name: the number of links that may be followed before it and behind it,
the place it leads to, and the names that it puts in front of those still to come. -/
inductive Step (t : FileTree) (place : Place) (name : String) :
    Nat → Nat → Place → List String → Prop where
  | silent (links : Nat) (hname : name = "" ∨ name = ".") : Step t place name links links place []
  | parent (links : Nat) (hname : name = "..") : Step t place name links links place.dropLast []
  | enter (links : Nat) {node : Node} (hname : IsLookedUp name)
      (hnode : t.node? (place ++ [name]) = some node) (hlink : ∀ target, node ≠ .link target) :
      Step t place name links links (place ++ [name]) []
  | follow (links : Nat) {target : String} (hname : IsLookedUp name)
      (hnode : t.node? (place ++ [name]) = some (.link target)) :
      Step t place name (links + 1) links (if isAbsolute target then [] else place) (names target)

/-- A walk that arrives: from a place along names to the last place, with the number of links that
may be followed at its start and the number that is left at its end. -/
inductive Arrives (t : FileTree) : Nat → Place → List String → Nat → Place → Prop where
  | here (links : Nat) (place : Place) : Arrives t links place [] links place
  | step {links links' left : Nat} {place place' last : Place} {name : String}
      {front rest : List String} (hplace : t.isDirectoryAt place = true)
      (hstep : t.Step place name links links' place' front)
      (h : Arrives t links' place' (front ++ rest) left last) :
      Arrives t links place (name :: rest) left last

variable {t : FileTree} {links links' left : Nat} {place place' last : Place} {name : String}
  {front xs ys : List String}

theorem Step.walk (hplace : t.isDirectoryAt place = true)
    (h : t.Step place name links links' place' front) (rest : List String) :
    t.walk links place (name :: rest) = t.walk links' place' (front ++ rest) := by
  rw [FileTree.walk]
  cases h with
  | silent links hname =>
    simp only [hplace, hname, Bool.not_true, Bool.false_eq_true, if_false, if_true, List.nil_append]
  | parent links hname => simp [hplace, hname]
  | enter links hname hnode hlink =>
    simp only [hplace, hname.notSilent, hname.notParent, hname.short, hnode, Bool.not_true,
      Bool.false_eq_true, if_false, List.nil_append]
  | follow links hname hnode =>
    simp only [hplace, hname.notSilent, hname.notParent, hname.short, hnode, Bool.not_true,
      Bool.false_eq_true, if_false]

theorem Arrives.walk (h : t.Arrives links place xs left last) :
    t.walk links place xs = .ok last := by
  induction h with
  | here links place => rw [FileTree.walk]
  | step hplace hstep h ih => rw [hstep.walk hplace, ih]

theorem arrives_of_walk (h : t.walk links place xs = .ok last) :
    ∃ left, t.Arrives links place xs left last := by
  induction links, place, xs using FileTree.walk.induct t with
  | case1 links place =>
    rw [FileTree.walk] at h
    cases h
    exact ⟨links, .here links last⟩
  | case2 links place name rest hplace =>
    rw [FileTree.walk, if_pos hplace] at h
    cases h
  | case3 links place name rest hplace hsilent ih =>
    rw [FileTree.walk, if_neg hplace, if_pos hsilent] at h
    obtain ⟨left, h⟩ := ih h
    exact ⟨left, .step (by simpa using hplace) (.silent links hsilent) h⟩
  | case4 links place rest hplace hnotSilent ih =>
    rw [FileTree.walk, if_neg hplace, if_neg hnotSilent, if_pos rfl] at h
    obtain ⟨left, h⟩ := ih h
    exact ⟨left, .step (by simpa using hplace) (.parent links rfl) h⟩
  | case5 links place name rest hplace hnotSilent hparent hlong =>
    rw [FileTree.walk, if_neg hplace, if_neg hnotSilent, if_neg hparent, if_pos hlong] at h
    cases h
  | case6 links place name rest hplace hnotSilent hparent hshort hnode =>
    rw [FileTree.walk, if_neg hplace, if_neg hnotSilent, if_neg hparent, if_neg hshort, hnode] at h
    cases h
  | case7 place name rest hplace hnotSilent hparent hshort target hnode =>
    rw [FileTree.walk, if_neg hplace, if_neg hnotSilent, if_neg hparent, if_neg hshort, hnode] at h
    cases h
  | case8 place name rest hplace hnotSilent hparent hshort target hnode links ih =>
    rw [FileTree.walk, if_neg hplace, if_neg hnotSilent, if_neg hparent, if_neg hshort, hnode] at h
    simp only [dite_eq_ite] at ih
    obtain ⟨left, h⟩ := ih h
    have hname : IsLookedUp name := ⟨hnotSilent, hparent, hshort⟩
    exact ⟨left, .step (by simpa using hplace) (.follow links hname hnode) h⟩
  | case9 links place name rest hplace hnotSilent hparent hshort node hlink hnode ih =>
    rw [FileTree.walk, if_neg hplace, if_neg hnotSilent, if_neg hparent, if_neg hshort, hnode] at h
    obtain ⟨left, h⟩ := ih (by cases node <;> first | exact h | exact absurd rfl (hlink _))
    have hname : IsLookedUp name := ⟨hnotSilent, hparent, hshort⟩
    exact ⟨left, .step (by simpa using hplace) (.enter links hname hnode hlink) h⟩

theorem walk_eq_ok_iff :
    t.walk links place xs = .ok last ↔ ∃ left, t.Arrives links place xs left last :=
  ⟨arrives_of_walk, fun ⟨_, h⟩ => h.walk⟩

theorem resolve_eq_ok_iff {path : String} : t.resolve path = .ok place ↔
    '\x00' ∉ path.toList ∧ path.utf8ByteSize < pathLimit ∧ path ≠ "" ∧
      ∃ left, t.Arrives linkLimit (if isAbsolute path then [] else t.workingDirectory) (names path)
        left place := by
  rw [← walk_eq_ok_iff, resolve]
  by_cases hnul : '\x00' ∈ path.toList
  · simp [hnul]
  by_cases hlong : pathLimit ≤ path.utf8ByteSize
  · have hlimit : ¬path.utf8ByteSize < pathLimit := by omega
    simp [hnul, hlong, hlimit]
  by_cases hempty : path = ""
  · simp [hempty, pathLimit]
  have hshort : path.utf8ByteSize < pathLimit := by omega
  simp [hnul, hlong, hempty, hshort]

/-! ## One path behind another -/

theorem Arrives.split (h : t.Arrives links place (xs ++ ys) left last) :
    ∃ between mid, t.Arrives links place xs between mid ∧ t.Arrives between mid ys left last := by
  generalize hnames : xs ++ ys = both at h
  induction h generalizing xs with
  | here links place =>
    obtain ⟨rfl, rfl⟩ := List.append_eq_nil_iff.mp hnames
    exact ⟨links, place, .here links place, .here links place⟩
  | @step links links' left place place' last name front rest hplace hstep h ih =>
    cases xs with
    | nil =>
      rw [List.nil_append] at hnames
      subst hnames
      exact ⟨links, place, .here links place, .step hplace hstep h⟩
    | cons x xs =>
      -- The names that the step adds stand before what is left of the first path.
      obtain ⟨rfl, rfl⟩ := List.cons.inj hnames
      obtain ⟨between, mid, hfirst, hsecond⟩ := ih (List.append_assoc front xs ys)
      exact ⟨between, mid, .step hplace hstep hfirst, hsecond⟩

theorem Arrives.append {between : Nat} {mid : Place} (hfirst : t.Arrives links place xs between mid)
    (hsecond : t.Arrives between mid ys left last) : t.Arrives links place (xs ++ ys) left last := by
  induction hfirst with
  | here links place => exact hsecond
  | step hplace hstep h ih =>
    have hrest := ih hsecond
    rw [List.append_assoc] at hrest
    exact .step hplace hstep hrest

theorem Arrives.isDirectoryAt (h : t.Arrives links place xs left last) (hne : xs ≠ []) :
    t.isDirectoryAt place = true := by
  cases h with
  | here => exact absurd rfl hne
  | step hplace => exact hplace

/-! ## Below a directory -/

def LinkFree (t : FileTree) (place : Place) : Prop :=
  ∀ names target, t.node? (place ++ names) ≠ some (.link target)

theorem LinkFree.below (h : t.LinkFree place) (name : String) : t.LinkFree (place ++ [name]) := by
  intro names target
  rw [List.append_assoc]
  exact h ([name] ++ names) target

/-- Without links, a plain name leads one place down. -/
theorem Step.of_linkFree (h : t.Step place name links links' place' front)
    (hfree : t.LinkFree place) (hname : IsPlainName name) : place' = place ++ [name] ∧ front = [] := by
  cases h with
  | silent links hsilent =>
    rcases hsilent with hsilent | hsilent
    · exact absurd hsilent hname.notEmpty
    · exact absurd hsilent hname.notCurrent
  | parent links hparent => exact absurd hparent hname.notParent
  | enter links hlooked hnode hlink => exact ⟨rfl, rfl⟩
  | follow links hlooked hnode => exact absurd hnode (hfree [name] _)

theorem Arrives.of_linkFree (h : t.Arrives links place xs left last) (hfree : t.LinkFree place)
    (hplain : ∀ name ∈ xs, IsPlainName name) : last = place ++ xs := by
  induction h with
  | here links place => simp
  | @step links links' left place place' last name front rest hplace hstep h ih =>
    obtain ⟨rfl, rfl⟩ := hstep.of_linkFree hfree (hplain name List.mem_cons_self)
    have hrest : ∀ other ∈ rest, IsPlainName other :=
      fun other hother => hplain other (List.mem_cons_of_mem name hother)
    rw [ih (hfree.below name) hrest, List.append_assoc]
    rfl

end FileTree

end Folio
