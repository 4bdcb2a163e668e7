import Folio.Json.Value

/-!
# Fields that were written

A record that was written has each of its fields once, or not at all if it was left out for being
empty. So a field is read as the one member of its name, or else as what stands for a missing one.
-/

namespace Folio.Json

/-! ## Heights -/

theorem height_le_membersHeight {m : String × Json} {members : List (String × Json)}
    (h : m ∈ members) : m.2.height ≤ membersHeight members := by
  induction members with
  | nil => simp at h
  | cons n rest ih =>
    obtain ⟨name, w⟩ := n
    rw [membersHeight]
    rcases List.mem_cons.mp h with rfl | h
    · exact Nat.le_max_left ..
    · exact Nat.le_trans (ih h) (Nat.le_max_right ..)

theorem within_of_le {α : Type} {read : Json → Option α} {j : Json} {depth : Nat}
    (h : j.height ≤ depth) : within depth read j = read j :=
  if_pos h

/-! ## Numbers and lists -/

theorem uint8?_toNat (n : UInt8) : uint8? (.integer n.toNat) = some n := by
  have hlt : n.toNat < 256 := n.toNat_lt
  have hrange : (0 : Int) ≤ n.toNat ∧ (n.toNat : Int) ≤ 255 := by omega
  rw [uint8?, if_pos hrange]
  simp

theorem int8?_toInt (n : Int8) : int8? (.integer n.toInt) = some n := by
  have hrange : -128 ≤ n.toInt ∧ n.toInt ≤ 127 := ⟨n.le_toInt, by have := n.toInt_lt; omega⟩
  rw [int8?, if_pos hrange, Int8.ofInt_toInt]

theorem inDoubleRange_uint8 (n : UInt8) : inDoubleRange n.toNat 0 = true := by
  have hlt : n.toNat < 256 := n.toNat_lt
  have hlength : n.toNat.repr.length ≤ 3 := (Nat.length_repr_le_iff (by omega)).mpr (by omega)
  have hsmall : (0 : Int) + n.toNat.repr.length < 309 := by omega
  rw [inDoubleRange]
  simp only [Int.natAbs_natCast, hsmall, decide_true, Bool.or_true, if_true]

theorem mapM_map_of_read {α β : Type} {write : α → β} {read : β → Option α}
    (h : ∀ a, read (write a) = some a) (as : List α) : (as.map write).mapM read = some as := by
  induction as with
  | nil => rfl
  | cons a rest ih => simp [h, ih]

/-! ## Fields -/

section Fields

variable {α : Type} {read : Json → Option α} {default a : α} {names : List String}
  {fields : List (String × Json)} {value : Json}

theorem fields?_object (h : ∀ m ∈ fields, m.1 ∈ names) :
    fields? names (.object fields) = some fields := by
  rw [fields?, List.filter_eq_self.mpr (by simpa using h)]

theorem required_of_unique (h : unique? names fields = some (some value)) :
    required read names fields = read value := by
  rw [required, h]
  rfl

theorem optional_of_unique (h : unique? names fields = some (some value)) :
    optional read default names fields = read value := by
  rw [optional, h]
  rfl

/-- A field that was left out for being empty is read as what stands for a missing one. -/
theorem optional_of_left_out {empty : Bool}
    (h : unique? names fields = some (if empty then none else some value))
    (hempty : empty = true → default = a) (hvalue : empty = false → read value = some a) :
    optional read default names fields = some a := by
  cases empty with
  | true =>
    rw [optional, h, hempty rfl]
    rfl
  | false => rw [optional_of_unique h, hvalue rfl]

end Fields

end Folio.Json
