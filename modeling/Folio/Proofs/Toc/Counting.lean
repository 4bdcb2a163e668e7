import Folio.Toc.Basic

/-!
# Counting open lists

A table of contents can be written by a walk over the entries that begins and ends lists one at a
time and counts those that are open: once by an octet, as the level it has reached, and once by a
machine word, to end them all when the entries are through. The walk never has to count past an end
of either, also at the last level, and it writes the table.
-/

namespace Folio.Toc

theorem times_succ (n : Nat) (s : String) : times (n + 1) s = s ++ times n s := by
  simp [times, List.replicate_succ, String.join_cons]

/-- Where a walk over entries stands: the text written, the level reached, counted by an octet, and
the number of open lists, counted by a machine word. -/
structure Walk where
  html : String
  level : UInt8
  openLists : USize

namespace Walk

/-- Begins a list, if both counts can go on. -/
def descend? (w : Walk) : Option Walk :=
  if w.level.toNat + 1 < UInt8.size ∧ w.openLists.toNat + 1 < USize.size then
    some ⟨w.html ++ listOpen, w.level + 1, w.openLists + 1⟩
  else none

def ascend? (w : Walk) : Option Walk :=
  if 0 < w.level.toNat ∧ 0 < w.openLists.toNat then
    some ⟨w.html ++ listClose, w.level - 1, w.openLists - 1⟩
  else none

theorem level_of_descend? {w next : Walk} (h : w.descend? = some next) :
    next.level.toNat = w.level.toNat + 1 := by
  unfold descend? at h
  split at h
  · rename_i hroom
    obtain rfl := Option.some.inj h
    have hlt : w.level.toNat + 1 < 2 ^ 8 := hroom.1
    simp only [UInt8.toNat_add, UInt8.toNat_one, Nat.mod_eq_of_lt hlt]
  · cases h

theorem level_of_ascend? {w next : Walk} (h : w.ascend? = some next) :
    next.level.toNat + 1 = w.level.toNat := by
  unfold ascend? at h
  split at h
  · rename_i hroom
    obtain rfl := Option.some.inj h
    have hone : (1 : UInt8) ≤ w.level := UInt8.le_iff_toNat_le.mpr hroom.1
    have hsub := UInt8.toNat_sub_of_le _ _ hone
    simp only [hsub, UInt8.toNat_one]
    omega
  · cases h

def descendTo? (level : UInt8) (w : Walk) : Option Walk :=
  if w.level < level then
    match _ : w.descend? with
    | none => none
    | some next => next.descendTo? level
  else some w
termination_by level.toNat - w.level.toNat
decreasing_by
  have hnext := level_of_descend? ‹w.descend? = some next›
  have hlt := UInt8.lt_iff_toNat_lt.mp ‹w.level < level›
  omega

def ascendTo? (level : UInt8) (w : Walk) : Option Walk :=
  if level < w.level then
    match _ : w.ascend? with
    | none => none
    | some next => next.ascendTo? level
  else some w
termination_by w.level.toNat - level.toNat
decreasing_by
  have hnext := level_of_ascend? ‹w.ascend? = some next›
  have hlt := UInt8.lt_iff_toNat_lt.mp ‹level < w.level›
  omega

def visit? (maxLevel : UInt8) (w : Walk) (e : TocEntry) : Option Walk :=
  if isListed maxLevel e then
    (w.descendTo? e.level).bind fun w => (w.ascendTo? e.level).map fun w =>
      { w with html := w.html ++ item e }
  else some w

def finish (w : Walk) : String :=
  w.html ++ times w.openLists.toNat listClose

/-- The walk at a level, with as many lists open. -/
def standing (html : String) (level : UInt8) : Walk :=
  ⟨html, level, level.toUSize⟩

theorem descend?_standing (html : String) {level : UInt8} (h : level.toNat + 1 < UInt8.size) :
    (standing html level).descend? = some (standing (html ++ listOpen) (level + 1)) := by
  have hword := USize.le_size
  have hoctet : level.toNat + 1 < 2 ^ 8 := h
  have hroom : level.toNat + 1 < USize.size := by omega
  have hcount : level.toUSize + 1 = (level + 1).toUSize := by
    apply USize.toNat_inj.mp
    rw [USize.toNat_add, UInt8.toNat_toUSize, UInt8.toNat_toUSize, USize.toNat_one, UInt8.toNat_add,
      UInt8.toNat_one, Nat.mod_eq_of_lt hoctet]
    exact Nat.mod_eq_of_lt hroom
  have hboth : level.toNat + 1 < UInt8.size ∧ level.toUSize.toNat + 1 < USize.size := by
    rw [UInt8.toNat_toUSize]
    exact ⟨h, hroom⟩
  simp only [descend?, standing, if_pos hboth, hcount]

theorem ascend?_standing (html : String) {level : UInt8} (h : 0 < level.toNat) :
    (standing html level).ascend? = some (standing (html ++ listClose) (level - 1)) := by
  have hone : (1 : UInt8) ≤ level := UInt8.le_iff_toNat_le.mpr h
  have hpos : 0 < level.toUSize.toNat := by rwa [UInt8.toNat_toUSize]
  have honeWord : (1 : USize) ≤ level.toUSize := by
    rw [USize.le_iff_toNat_le, USize.toNat_one]
    exact hpos
  have hcount : level.toUSize - 1 = (level - 1).toUSize := by
    apply USize.toNat_inj.mp
    rw [USize.toNat_sub_of_le _ _ honeWord, UInt8.toNat_toUSize, UInt8.toNat_toUSize,
      UInt8.toNat_sub_of_le _ _ hone, USize.toNat_one, UInt8.toNat_one]
  simp only [ascend?, standing, h, hpos, and_self, if_true, hcount]

theorem descendTo?_of_le {level : UInt8} {w : Walk} (h : level ≤ w.level) :
    w.descendTo? level = some w := by
  rw [descendTo?, if_neg (UInt8.not_lt.mpr h)]

theorem ascendTo?_of_le {level : UInt8} {w : Walk} (h : w.level ≤ level) :
    w.ascendTo? level = some w := by
  rw [ascendTo?, if_neg (UInt8.not_lt.mpr h)]

/-- Beginning lists comes to an end at the level, and both counts have room up to there. -/
theorem descendTo?_standing (html : String) {level target : UInt8} {n : Nat}
    (h : level.toNat + n = target.toNat) :
    (standing html level).descendTo? target =
      some (standing (html ++ times n listOpen) target) := by
  induction n generalizing html level with
  | zero =>
    obtain rfl : level = target := UInt8.toNat_inj.mp h
    rw [descendTo?_of_le (UInt8.le_refl level)]
    simp [times]
  | succ n ih =>
    have hbound := target.toNat_lt
    have hlt : level < target := UInt8.lt_iff_toNat_lt.mpr (by omega)
    have hroom : level.toNat + 1 < UInt8.size := by
      show level.toNat + 1 < 2 ^ 8
      omega
    have hstep := descend?_standing html hroom
    have hnext := level_of_descend? hstep
    rw [descendTo?, if_pos (show (standing html level).level < target from hlt)]
    split
    · rename_i hnone
      rw [hstep] at hnone
      cases hnone
    · rename_i next hsome
      obtain rfl := Option.some.inj (hstep.symm.trans hsome)
      have hrest : (level + 1).toNat + n = target.toNat := by
        rw [show (level + 1).toNat = level.toNat + 1 from hnext]
        omega
      rw [ih _ hrest, times_succ, String.append_assoc]

/-- Ending lists comes to an end at the level, and both counts stay above zero up to there. -/
theorem ascendTo?_standing (html : String) {level target : UInt8} {n : Nat}
    (h : target.toNat + n = level.toNat) :
    (standing html level).ascendTo? target =
      some (standing (html ++ times n listClose) target) := by
  induction n generalizing html level with
  | zero =>
    obtain rfl : target = level := UInt8.toNat_inj.mp h
    rw [ascendTo?_of_le (UInt8.le_refl target)]
    simp [times]
  | succ n ih =>
    have hlt : target < level := UInt8.lt_iff_toNat_lt.mpr (by omega)
    have hstep := ascend?_standing html (show 0 < level.toNat by omega)
    have hnext := level_of_ascend? hstep
    rw [ascendTo?, if_pos (show target < (standing html level).level from hlt)]
    split
    · rename_i hnone
      rw [hstep] at hnone
      cases hnone
    · rename_i next hsome
      obtain rfl := Option.some.inj (hstep.symm.trans hsome)
      have hrest : target.toNat + n = (level - 1).toNat := by
        have hback : (level - 1).toNat + 1 = level.toNat := hnext
        omega
      rw [ih _ hrest, times_succ, String.append_assoc]

theorem visit?_standing {maxLevel : UInt8} {html : String} {level : UInt8} {e : TocEntry}
    (h : isListed maxLevel e = true) :
    (standing html level).visit? maxLevel e =
      some (standing (html ++ (times (e.level.toNat - level.toNat) listOpen ++
        times (level.toNat - e.level.toNat) listClose ++ item e)) e.level) := by
  rw [visit?, if_pos h]
  rcases Nat.le_total level.toNat e.level.toNat with hle | hle
  · have hdown := descendTo?_standing html
      (show level.toNat + (e.level.toNat - level.toNat) = e.level.toNat by omega)
    have hup : (standing (html ++ times (e.level.toNat - level.toNat) listOpen) e.level).ascendTo?
        e.level = _ := ascendTo?_of_le (UInt8.le_refl e.level)
    have hnone : level.toNat - e.level.toNat = 0 := by omega
    rw [hdown, Option.bind_some, hup, hnone]
    simp [standing, times, String.append_assoc]
  · have hdown : (standing html level).descendTo? e.level = _ :=
      descendTo?_of_le (UInt8.le_iff_toNat_le.mpr hle)
    have hup := ascendTo?_standing html
      (show e.level.toNat + (level.toNat - e.level.toNat) = level.toNat by omega)
    have hnone : e.level.toNat - level.toNat = 0 := by omega
    rw [hdown, Option.bind_some, hup, hnone]
    simp [standing, times, String.append_assoc]

/-- From a level on, the walk writes the listed items and ends all lists. -/
theorem foldlM_visit?_standing (maxLevel : UInt8) (html : String) (level : UInt8)
    (entries : List TocEntry) :
    (entries.foldlM (visit? maxLevel) (standing html level)).map finish =
      some (html ++ itemsFrom level.toNat (entries.filter (isListed maxLevel))) := by
  induction entries generalizing html level with
  | nil => simp [finish, standing, itemsFrom]
  | cons e rest ih =>
    cases hlisted : isListed maxLevel e with
    | false =>
      have hvisit : (standing html level).visit? maxLevel e = some (standing html level) := by
        simp [visit?, hlisted]
      rw [List.foldlM_cons, hvisit, List.filter_cons_of_neg (by simp [hlisted])]
      exact ih html level
    | true =>
      rw [List.foldlM_cons, visit?_standing hlisted, List.filter_cons_of_pos hlisted, itemsFrom]
      refine (ih _ e.level).trans ?_
      simp [String.append_assoc]

end Walk

/-- The table of contents down to a level, unless a count of the walk would pass an end. -/
def renderCounting? (maxLevel : UInt8) (entries : List TocEntry) : Option String :=
  (entries.foldlM (Walk.visit? maxLevel) ⟨"", 0, 0⟩).map Walk.finish

theorem renderCounting?_eq (maxLevel : UInt8) (entries : List TocEntry) :
    renderCounting? maxLevel entries = some (render maxLevel entries) := by
  have hstart : (⟨"", 0, 0⟩ : Walk) = Walk.standing "" 0 := rfl
  rw [renderCounting?, hstart, Walk.foldlM_visit?_standing, String.empty_append]
  rfl

end Folio.Toc
