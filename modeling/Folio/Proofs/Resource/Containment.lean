import Folio.Proofs.Resource.Walk

/-!
# Containment in the source root

A load reads the place that the root and the clean names lead to. The names cannot lead out of the
root, but links below it can. A file that lies outside is refused where the root denoted the same
directory when it was chosen; a root that denoted nothing then, or another directory, lets it
through.
-/

namespace Folio

open FilePath

/-- The place of the directory at which a root path begins. The empty path stands for the working
directory. -/
def FileTree.rootPlace? (t : FileTree) (path : String) : Option Place :=
  if path.isEmpty then some t.workingDirectory else (t.resolve path).toOption

/-- Whether a place lies inside the directory that a root path denotes. -/
def FileTree.IsInside (t : FileTree) (path : String) (place : Place) : Prop :=
  ∃ base, t.rootPlace? path = some base ∧ t.isDirectoryAt base = true ∧ base <+: place

theorem FileTree.rootPlace?_of_resolve {t : FileTree} {path : String} {base : Place}
    (h : t.resolve path = .ok base) : t.rootPlace? path = some base := by
  have hpath := (FileTree.resolve_eq_ok_iff.mp h).2.2.1
  simp [rootPlace?, hpath, h, Except.toOption]

namespace SourceRoot

/-- The file path that a root and a document path spell, whatever stands there. -/
def spelled? (path document : String) : Option String :=
  match cleanNames? document with
  | none | some [] => none
  | some names => some (join path ("/".intercalate names))

def readPlace? (root : SourceRoot) (t : FileTree) (document : String) : Option Place :=
  (root.resolve? t document).bind fun full => (t.resolve full).toOption

variable {root : SourceRoot} {t : FileTree} {path document full : String} {place : Place}

theorem spelled?_eq_some_iff : spelled? path document = some full ↔
    ∃ names, cleanNames? document = some names ∧ names ≠ [] ∧
      full = join path ("/".intercalate names) := by
  unfold spelled?
  cases cleanNames? document with
  | none => simp
  | some names =>
    cases names with
    | nil => simp
    | cons name rest => simp [eq_comm]

theorem resolve?_eq_some_iff : root.resolve? t document = some full ↔
    spelled? root.path document = some full ∧ root.leavesRoot t full = false := by
  rw [resolve?]
  unfold spelled?
  cases cleanNames? document with
  | none => simp
  | some names =>
    cases names with
    | nil => simp
    | cons name rest =>
      simp only [Option.bind_eq_bind, Option.bind_some, List.isEmpty_cons, Bool.false_eq_true,
        if_false]
      by_cases hleaves : root.leavesRoot t (join root.path ("/".intercalate (name :: rest))) = true
      · rw [if_pos hleaves]
        constructor
        · rintro ⟨⟩
        · rintro ⟨⟨⟩, hstays⟩
          rw [hleaves] at hstays
          cases hstays
      · rw [if_neg hleaves]
        constructor
        · rintro ⟨⟩
          exact ⟨rfl, by simpa using hleaves⟩
        · rintro ⟨h, -⟩
          exact h

theorem readPlace?_eq_some_iff : root.readPlace? t document = some place ↔
    ∃ full, spelled? root.path document = some full ∧ t.resolve full = .ok place ∧
      root.leavesRoot t full = false := by
  rw [readPlace?]
  simp only [Option.bind_eq_some_iff, resolve?_eq_some_iff, and_assoc]
  refine exists_congr fun full => and_congr_right fun _ => ?_
  rw [and_comm]
  refine and_congr_left fun _ => ?_
  cases t.resolve full <;> simp [Except.toOption]

/-- A load gives the bytes of the file at the place it reads. -/
theorem load_eq_ok_iff {bytes : List UInt8} : root.load t document = .ok bytes ↔
    ∃ place, root.readPlace? t document = some place ∧ t.readAt place = .ok bytes := by
  rw [load, readPlace?]
  cases root.resolve? t document with
  | none => simp
  | some full =>
    have hread : t.read full = (t.resolve full).bind t.readAt := rfl
    simp only [hread, Option.bind_some]
    cases t.resolve full with
    | error cause => cases cause <;> simp [Except.bind, Except.toOption]
    | ok place =>
      simp only [Except.bind, Except.toOption, Option.some.injEq, exists_eq_left']
      cases t.readAt place with
      | error cause => cases cause <;> simp
      | ok found => simp

/-! ## What the guard knows -/

/-- The guard of a root lets a file pass if the root denoted nothing when it was chosen, or a
directory that the file lies in. -/
theorem leavesRoot_atPath_eq_false_iff {t₀ : FileTree} (hfull : t.resolve full = .ok place) :
    (atPath t₀ path).leavesRoot t full = false ↔
      ∀ known, t₀.resolve path = .ok known → known <+: place := by
  rw [leavesRoot, hfull]
  cases hknown : t₀.resolve path with
  | error cause => simp [atPath, hknown, Except.toOption]
  | ok known => simp [atPath, hknown, Except.toOption]

/-! ## Below the root -/

/-- What a relative path leads to below a root is reached from the place of the root. -/
theorem exists_arrives_of_resolve_join {relative : String} (hrelative : isAbsolute relative = false)
    (h : t.resolve (join path relative) = .ok place) :
    ∃ base links left, t.rootPlace? path = some base ∧
      t.Arrives links base (names relative) left place := by
  obtain ⟨hnul, hshort, -, left, harrives⟩ := FileTree.resolve_eq_ok_iff.mp h
  by_cases hpath : path = ""
  · have hjoin : join path relative = relative := by simp [join, hpath]
    rw [hjoin, if_neg (by simp [hrelative])] at harrives
    exact ⟨t.workingDirectory, _, left, by simp [FileTree.rootPlace?, hpath], harrives⟩
  obtain ⟨rest, hjoin⟩ := exists_join_eq path hrelative
  obtain ⟨front, hboth, hfront⟩ := exists_names_join hpath hrelative
  rw [hboth, hjoin, isAbsolute_append hpath] at harrives
  obtain ⟨links, base, hbase, hbelow⟩ := harrives.split
  have hdirectory := hbelow.isDirectoryAt (names_ne_nil relative)
  have hroot : t.resolve path = .ok base := by
    rw [hjoin] at hnul hshort
    simp only [String.toList_append, List.mem_append, not_or] at hnul
    rw [String.utf8ByteSize_append] at hshort
    refine FileTree.resolve_eq_ok_iff.mpr ⟨hnul.1, by omega, hpath, ?_⟩
    rcases hfront with hfront | hfront
    · exact ⟨links, hfront ▸ hbase⟩
    · -- The root path ends in a slash, which makes a last step that stays where it is.
      have hlast : t.Arrives links base [""] links base :=
        .step hdirectory (.silent links (.inl rfl)) (.here links base)
      exact ⟨links, hfront ▸ hbase.append hlast⟩
  exact ⟨base, links, left, FileTree.rootPlace?_of_resolve hroot, hbelow⟩

/-- A file that a document path spells is reached from the directory that the root denotes. -/
theorem exists_root_of_spelled (hspelled : spelled? path document = some full)
    (hfull : t.resolve full = .ok place) :
    ∃ base, t.rootPlace? path = some base ∧ t.isDirectoryAt base = true ∧
      (t.LinkFree base → base <+: place) := by
  obtain ⟨list, hclean, hne, rfl⟩ := spelled?_eq_some_iff.mp hspelled
  have hplain := cleanNames?_plain hclean
  obtain ⟨base, links, left, hbase, harrives⟩ :=
    exists_arrives_of_resolve_join (not_isAbsolute_intercalate hplain) hfull
  rw [names_intercalate hne hplain] at harrives
  refine ⟨base, hbase, harrives.isDirectoryAt hne, fun hfree => ?_⟩
  rw [harrives.of_linkFree hfree hplain]
  exact List.prefix_append base list

/-! ## The files that are read -/

/-- Below a root without links, a load reads inside the root, whether or not the root existed when
it was chosen. -/
theorem isInside_of_linkFree {bytes : List UInt8} (hload : root.load t document = .ok bytes)
    (hfree : ∀ base, t.rootPlace? root.path = some base → t.LinkFree base) :
    ∃ place, root.readPlace? t document = some place ∧ t.readAt place = .ok bytes ∧
      t.IsInside root.path place := by
  obtain ⟨place, hplace, hbytes⟩ := load_eq_ok_iff.mp hload
  obtain ⟨full, hspelled, hfull, -⟩ := readPlace?_eq_some_iff.mp hplace
  obtain ⟨base, hbase, hdirectory, hinside⟩ := exists_root_of_spelled hspelled hfull
  exact ⟨place, hplace, hbytes, base, hbase, hdirectory, hinside (hfree base hbase)⟩

/-- Under a root that denotes the directory it denoted when it was chosen, a load reads inside the
root. -/
theorem isInside_of_unmoved {t₀ : FileTree} {bytes : List UInt8} {base : Place}
    (hload : (atPath t₀ path).load t document = .ok bytes) (hbefore : t₀.resolve path = .ok base)
    (hnow : t.resolve path = .ok base) :
    ∃ place, (atPath t₀ path).readPlace? t document = some place ∧ t.readAt place = .ok bytes ∧
      t.IsInside path place := by
  obtain ⟨place, hplace, hbytes⟩ := load_eq_ok_iff.mp hload
  obtain ⟨full, hspelled, hfull, hguard⟩ := readPlace?_eq_some_iff.mp hplace
  obtain ⟨found, hfound, hdirectory, -⟩ := exists_root_of_spelled hspelled hfull
  have hbase := FileTree.rootPlace?_of_resolve hnow
  obtain rfl : base = found := Option.some.inj (hbase.symm.trans hfound)
  have hinside := (leavesRoot_atPath_eq_false_iff hfull).mp hguard base hbefore
  exact ⟨place, hplace, hbytes, base, hbase, hdirectory, hinside⟩

/-- A load reads a file outside of its root exactly if the document path spells a file that lies
outside of the directory the root denotes now, and the root denoted nothing when it was chosen, or a
directory that the file lies in. -/
theorem load_escapes_iff (t₀ t : FileTree) (path document : String) :
    (∃ bytes place, (atPath t₀ path).load t document = .ok bytes ∧
      (atPath t₀ path).readPlace? t document = some place ∧ ¬t.IsInside path place) ↔
    ∃ full place bytes base, spelled? path document = some full ∧ t.resolve full = .ok place ∧
      t.readAt place = .ok bytes ∧ t.rootPlace? path = some base ∧ ¬base <+: place ∧
      ∀ known, t₀.resolve path = .ok known → known <+: place := by
  constructor
  · rintro ⟨bytes, place, hload, hplace, houtside⟩
    obtain ⟨found, hfound, hbytes⟩ := load_eq_ok_iff.mp hload
    obtain rfl : place = found := Option.some.inj (hplace.symm.trans hfound)
    obtain ⟨full, hspelled, hfull, hguard⟩ := readPlace?_eq_some_iff.mp hplace
    obtain ⟨base, hbase, hdirectory, -⟩ := exists_root_of_spelled hspelled hfull
    have hleaves : ¬base <+: place := fun hinside => houtside ⟨base, hbase, hdirectory, hinside⟩
    exact ⟨full, place, bytes, base, hspelled, hfull, hbytes, hbase, hleaves,
      (leavesRoot_atPath_eq_false_iff hfull).mp hguard⟩
  · rintro ⟨full, place, bytes, base, hspelled, hfull, hbytes, hbase, hleaves, hknown⟩
    have hguard := (leavesRoot_atPath_eq_false_iff hfull).mpr hknown
    have hplace : (atPath t₀ path).readPlace? t document = some place :=
      readPlace?_eq_some_iff.mpr ⟨full, hspelled, hfull, hguard⟩
    refine ⟨bytes, place, load_eq_ok_iff.mpr ⟨place, hplace, hbytes⟩, hplace, ?_⟩
    rintro ⟨other, hother, -, hinside⟩
    obtain rfl : base = other := Option.some.inj (hbase.symm.trans hother)
    exact hleaves hinside

/-! ## A root that comes late -/

/-- A tree that holds a file beside the place of a root, and no root yet. -/
def beforeRoot : FileTree where
  nodes := [(["secret.png"], .file [115])]
  workingDirectory := []

/-- The same tree with the root, and in the root a link to the file. -/
def withLinkingRoot : FileTree where
  nodes := [(["docs"], .directory), (["docs", "a.png"], .link "../secret.png"),
    (["secret.png"], .file [115])]
  workingDirectory := []

theorem resolve_beforeRoot (known : Place) : beforeRoot.resolve "docs" ≠ .ok known := by
  intro h
  obtain ⟨-, -, -, left, harrives⟩ := FileTree.resolve_eq_ok_iff.mp h
  have hnames : names "docs" = ["docs"] := by decide
  rw [hnames, if_neg (by decide)] at harrives
  have hwalk := harrives.walk
  rw [FileTree.walk] at hwalk
  cases hwalk

theorem isLookedUp_docs : FileTree.IsLookedUp "docs" :=
  ⟨by decide, by decide, by decide⟩

theorem arrives_docs (links : Nat) {left : Nat} {last : Place} {rest : List String}
    (h : withLinkingRoot.Arrives links ["docs"] rest left last) :
    withLinkingRoot.Arrives links [] ("docs" :: rest) left last := by
  have hnode : withLinkingRoot.node? ([] ++ ["docs"]) = some .directory := rfl
  exact .step rfl (.enter links isLookedUp_docs hnode nofun) h

theorem resolve_withLinkingRoot : withLinkingRoot.resolve "docs" = .ok ["docs"] := by
  refine FileTree.resolve_eq_ok_iff.mpr ⟨by decide, by decide, by decide, 40, ?_⟩
  have hnames : names "docs" = ["docs"] := by decide
  rw [if_neg (by decide), hnames]
  exact arrives_docs 40 (.here 40 _)

theorem resolve_secret : withLinkingRoot.resolve "docs/a.png" = .ok ["secret.png"] := by
  refine FileTree.resolve_eq_ok_iff.mpr ⟨by decide, by decide, by decide, 39, ?_⟩
  have hnames : names "docs/a.png" = ["docs", "a.png"] := by decide
  have htarget : names "../secret.png" = ["..", "secret.png"] := by decide
  have hlink : withLinkingRoot.node? (["docs"] ++ ["a.png"]) = some (.link "../secret.png") := rfl
  have hfile : withLinkingRoot.node? ([] ++ ["secret.png"]) = some (.file [115]) := rfl
  rw [if_neg (by decide), hnames]
  have himage : FileTree.IsLookedUp "a.png" := ⟨by decide, by decide, by decide⟩
  have hsecret : FileTree.IsLookedUp "secret.png" := ⟨by decide, by decide, by decide⟩
  have hend := FileTree.Arrives.here (t := withLinkingRoot) 39 ["secret.png"]
  refine arrives_docs 40 (.step rfl (.follow 39 himage hlink) ?_)
  rw [if_neg (by decide), htarget]
  exact .step rfl (.parent 39 rfl) (.step rfl (.enter 39 hsecret hfile nofun) hend)

/-- A root that does not exist when it is chosen lets a link in it lead out of it. -/
theorem load_escapes_late_root :
    (atPath beforeRoot "docs").load withLinkingRoot "a.png" = .ok [115] ∧
      (atPath beforeRoot "docs").readPlace? withLinkingRoot "a.png" = some ["secret.png"] ∧
      withLinkingRoot.rootPlace? "docs" = some ["docs"] ∧
      ¬withLinkingRoot.IsInside "docs" ["secret.png"] := by
  have hspelled : spelled? "docs" "a.png" = some "docs/a.png" := by decide +kernel
  have hguard : (atPath beforeRoot "docs").leavesRoot withLinkingRoot "docs/a.png" = false :=
    (leavesRoot_atPath_eq_false_iff resolve_secret).mpr fun known h =>
      absurd h (resolve_beforeRoot known)
  have hplace :
      (atPath beforeRoot "docs").readPlace? withLinkingRoot "a.png" = some ["secret.png"] :=
    readPlace?_eq_some_iff.mpr ⟨"docs/a.png", hspelled, resolve_secret, hguard⟩
  have hbytes : withLinkingRoot.readAt ["secret.png"] = .ok [115] := rfl
  have hroot := FileTree.rootPlace?_of_resolve resolve_withLinkingRoot
  refine ⟨load_eq_ok_iff.mpr ⟨["secret.png"], hplace, hbytes⟩, hplace, hroot, ?_⟩
  rintro ⟨base, hbase, -, hinside⟩
  obtain rfl : ["docs"] = base := Option.some.inj (hroot.symm.trans hbase)
  exact absurd hinside (by decide)

end SourceRoot

end Folio
