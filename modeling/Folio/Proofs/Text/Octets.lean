import Mathlib.Data.List.Basic
import Folio.Text.Ascii

/-!
# Texts as octets

A text is stored as octets: an ASCII character as one octet below 128, any other character as several
octets from 128 on. So a search for ASCII octets that goes by offsets and not by characters finds what
a search by characters finds, and the offsets it finds are those of characters.
-/

namespace Folio.Text

def octets (cs : List Char) : List UInt8 :=
  cs.flatMap String.utf8EncodeChar

@[simp] theorem octets_nil : octets [] = [] := rfl

@[simp] theorem octets_cons (c : Char) (cs : List Char) :
    octets (c :: cs) = String.utf8EncodeChar c ++ octets cs := rfl

@[simp] theorem octets_append (cs ds : List Char) : octets (cs ++ ds) = octets cs ++ octets ds := by
  simp [octets]

theorem length_octets (s : String) : (octets s.toList).length = s.utf8ByteSize := by
  have hbytes : s.toByteArray = (octets s.toList).toByteArray := by
    conv_lhs => rw [← String.ofList_toList (s := s)]
    rfl
  rw [← String.size_toByteArray, hbytes, List.size_toByteArray]

/-! ## Single characters -/

def octet (c : Char) : UInt8 :=
  c.val.toUInt8

theorem toNat_octet {c : Char} (h : c.toNat < 128) : (octet c).toNat = c.toNat := by
  have hval : c.val.toNat % 2 ^ 8 = c.val.toNat := Nat.mod_eq_of_lt (Nat.lt_trans h (by decide))
  rw [octet, UInt32.toNat_toUInt8]
  exact hval

theorem octet_inj {c d : Char} (hc : c.toNat < 128) (hd : d.toNat < 128) :
    octet c = octet d ↔ c = d := by
  rw [← UInt8.toNat_inj, toNat_octet hc, toNat_octet hd, Char.toNat_inj]

theorem utf8EncodeChar_ascii {c : Char} (h : c.toNat < 128) : String.utf8EncodeChar c = [octet c] := by
  apply String.utf8EncodeChar_eq_singleton
  rw [Char.utf8Size_eq_one_iff, UInt32.le_iff_toNat_le]
  exact Nat.le_of_lt_succ h

/-- No octet of a character outside ASCII is one of an ASCII character. -/
theorem le_of_mem_utf8EncodeChar {c : Char} (h : 128 ≤ c.toNat) {b : UInt8}
    (hb : b ∈ String.utf8EncodeChar c) : 128 ≤ b.toNat := by
  have hval : ¬ c.val.toNat ≤ 127 := Nat.not_le.mpr h
  rw [String.utf8EncodeChar.eq_1] at hb
  simp only [hval, if_false] at hb
  split at hb
  · simp only [List.mem_cons, List.not_mem_nil, or_false] at hb
    rcases hb with rfl | rfl <;> simp <;> omega
  · split at hb
    · simp only [List.mem_cons, List.not_mem_nil, or_false] at hb
      rcases hb with rfl | rfl | rfl <;> simp <;> omega
    · simp only [List.mem_cons, List.not_mem_nil, or_false] at hb
      rcases hb with rfl | rfl | rfl | rfl <;> simp <;> omega

theorem exists_octet (c : Char) : ∃ b bs, String.utf8EncodeChar c = b :: bs :=
  List.exists_cons_of_ne_nil String.utf8EncodeChar_ne_nil

/-! ## Tests -/

/-- Whether a test of octets says of each octet of a character what a test of characters says of the
character. -/
def Agrees (test : UInt8 → Bool) (holds : Char → Bool) : Prop :=
  ∀ c, ∀ b ∈ String.utf8EncodeChar c, test b = holds c

theorem agrees_of_ascii {test : UInt8 → Bool} {holds : Char → Bool}
    (hascii : ∀ c : Char, c.toNat < 128 → test (octet c) = holds c)
    (hoctet : ∀ b : UInt8, 128 ≤ b.toNat → test b = false)
    (hchar : ∀ c : Char, 128 ≤ c.toNat → holds c = false) : Agrees test holds := by
  intro c b hb
  rcases Nat.lt_or_ge c.toNat 128 with hc | hc
  · rw [utf8EncodeChar_ascii hc, List.mem_singleton] at hb
    rw [hb, hascii c hc]
  · rw [hoctet b (le_of_mem_utf8EncodeChar hc hb), hchar c hc]

namespace Agrees

variable {test : UInt8 → Bool} {holds : Char → Bool}

theorem takeWhile (h : Agrees test holds) (cs : List Char) :
    (octets cs).takeWhile test = octets (cs.takeWhile holds) := by
  induction cs with
  | nil => rfl
  | cons c rest ih =>
    cases hc : holds c with
    | true =>
      have hall : ∀ b ∈ String.utf8EncodeChar c, test b = true := fun b hb => (h c b hb).trans hc
      rw [octets_cons, List.takeWhile_append_of_pos hall, ih, List.takeWhile_cons_of_pos hc,
        octets_cons]
    | false =>
      obtain ⟨b, bs, hoctets⟩ := exists_octet c
      have hb : test b = false := (h c b (by simp [hoctets])).trans hc
      rw [octets_cons, hoctets, List.cons_append, List.takeWhile_cons_of_neg (by simp [hb]),
        List.takeWhile_cons_of_neg (by simp [hc]), octets_nil]

theorem head? (h : Agrees test holds) (cs : List Char) :
    (octets cs).head?.any test = cs.head?.any holds := by
  cases cs with
  | nil => rfl
  | cons c rest =>
    obtain ⟨b, bs, hoctets⟩ := exists_octet c
    have hb := h c b (by simp [hoctets])
    simp [hoctets, hb]

end Agrees

/-! ## Offsets -/

/-- An octet of an ASCII character stands where a character begins. -/
theorem exists_split_of_octet {cs : List Char} {offset : Nat} {b : UInt8} {bs : List UInt8}
    (h : (octets cs).drop offset = b :: bs) (hb : b.toNat < 128) :
    ∃ before behind, cs = before ++ behind ∧ (octets before).length = offset := by
  induction cs generalizing offset with
  | nil => simp at h
  | cons c rest ih =>
    rcases Nat.lt_or_ge offset (String.utf8EncodeChar c).length with hlt | hge
    · cases offset with
      | zero => exact ⟨[], c :: rest, rfl, rfl⟩
      | succ offset =>
        -- The character has more than one octet, so it is not in ASCII, and none of its octets is.
        rw [octets_cons, List.drop_append_of_le_length (Nat.le_of_lt hlt)] at h
        have hmem : b ∈ String.utf8EncodeChar c := by
          rw [List.drop_eq_getElem_cons hlt, List.cons_append] at h
          rw [← (List.cons.inj h).1]
          exact List.getElem_mem hlt
        rcases Nat.lt_or_ge c.toNat 128 with hc | hc
        · rw [utf8EncodeChar_ascii hc, List.length_singleton] at hlt
          omega
        · exact absurd (le_of_mem_utf8EncodeChar hc hmem) (Nat.not_le.mpr hb)
    · have hdrop : (octets rest).drop (offset - (String.utf8EncodeChar c).length) = b :: bs := by
        rw [← h, octets_cons, List.drop_append, List.drop_eq_nil_of_le hge, List.nil_append]
      obtain ⟨before, behind, rfl, hlength⟩ := ih hdrop
      refine ⟨c :: before, behind, rfl, ?_⟩
      rw [octets_cons, List.length_append, hlength]
      omega

theorem drop_octets (before behind : List Char) :
    (octets (before ++ behind)).drop (octets before).length = octets behind := by
  rw [octets_append, List.drop_left]

theorem take_octets (before behind : List Char) :
    (octets (before ++ behind)).take (octets before).length = octets before := by
  rw [octets_append, List.take_left]

theorem isValid_offset (before behind : List Char) :
    String.Pos.Raw.IsValid (String.ofList (before ++ behind)) ⟨(octets before).length⟩ := by
  rw [String.Pos.Raw.isValid_iff_exists_append]
  refine ⟨String.ofList before, String.ofList behind, String.ofList_append, ?_⟩
  have hlength := length_octets (String.ofList before)
  rw [String.toList_ofList] at hlength
  rw [hlength]
  rfl

/-! ## Windows -/

def octetLower (b : UInt8) : UInt8 :=
  if 65 ≤ b ∧ b ≤ 90 then b + 32 else b

def startsWithIgnoringCase (needle bs : List UInt8) : Bool :=
  (bs.take needle.length).map octetLower == needle.map octetLower

/-- The offset of the first window that is the octets looked for, up to the case of ASCII letters. -/
def windowOffset? (needle bs : List UInt8) : Option Nat :=
  (List.range (bs.length + 1 - needle.length)).find? fun i =>
    startsWithIgnoringCase needle (bs.drop i)

theorem lower_ascii {c : Char} (h : c.toNat < 128) :
    octetLower (octet c) = octet (asciiLower c) ∧ (asciiLower c).toNat < 128 := by
  have hall : ∀ n < 128, octetLower (octet (Char.ofNat n)) = octet (asciiLower (Char.ofNat n)) ∧
      (asciiLower (Char.ofNat n)).toNat < 128 := by decide
  simpa using hall c.toNat h

theorem asciiLower_other {c : Char} (h : 128 ≤ c.toNat) : asciiLower c = c := by
  have hcapital : ¬ c ≤ 'Z' := by
    rw [Char.le_def, UInt32.le_iff_toNat_le, Nat.not_le]
    exact Nat.lt_of_lt_of_le (by decide) h
  simp [asciiLower, hcapital]

theorem octetLower_other {b : UInt8} (h : 128 ≤ b.toNat) : octetLower b = b := by
  have hcapital : ¬ b ≤ 90 := by
    rw [UInt8.le_iff_toNat_le, Nat.not_le]
    exact Nat.lt_of_lt_of_le (by decide) h
  simp [octetLower, hcapital]

def AllAscii (cs : List Char) : Prop :=
  ∀ c ∈ cs, c.toNat < 128

theorem length_of_eqIgnoringCase {cs ds : List Char} (h : eqIgnoringCase cs ds = true) :
    cs.length = ds.length := by
  rw [eqIgnoringCase, beq_iff_eq] at h
  simpa using congrArg List.length h

theorem AllAscii.of_eqIgnoringCase {cs ds : List Char} (hds : AllAscii ds)
    (h : eqIgnoringCase cs ds = true) : AllAscii cs := by
  rw [eqIgnoringCase, beq_iff_eq] at h
  intro c hc
  by_contra hother
  obtain ⟨d, hd, hlower⟩ := List.mem_map.mp (h ▸ List.mem_map_of_mem hc)
  rw [asciiLower_other (Nat.le_of_not_lt hother)] at hlower
  exact hother (hlower ▸ (lower_ascii (hds d hd)).2)

theorem octets_ascii {cs : List Char} (h : AllAscii cs) : octets cs = cs.map octet := by
  induction cs with
  | nil => rfl
  | cons c rest ih =>
    rw [octets_cons, utf8EncodeChar_ascii (h c (by simp)), ih fun d hd => h d (by simp [hd])]
    rfl

theorem length_octets_ascii {cs : List Char} (h : AllAscii cs) : (octets cs).length = cs.length := by
  rw [octets_ascii h, List.length_map]

theorem startsWithIgnoringCase_octets {needle : List Char} (hneedle : AllAscii needle)
    (cs : List Char) :
    startsWithIgnoringCase (octets needle) (octets cs) =
      eqIgnoringCase (cs.take needle.length) needle := by
  rw [Bool.eq_iff_iff, startsWithIgnoringCase, eqIgnoringCase, beq_iff_eq, beq_iff_eq,
    length_octets_ascii hneedle, octets_ascii hneedle]
  induction needle generalizing cs with
  | nil => simp
  | cons n needle ih =>
    obtain ⟨hlower, hn⟩ := lower_ascii (hneedle n (by simp))
    have hrest := ih fun d hd => hneedle d (by simp [hd])
    cases cs with
    | nil => simp
    | cons c cs =>
      rcases Nat.lt_or_ge c.toNat 128 with hc | hc
      · obtain ⟨hlowerc, hcn⟩ := lower_ascii hc
        simp only [octets_cons, utf8EncodeChar_ascii hc, List.cons_append, List.nil_append,
          List.length_cons, List.take_succ_cons, List.map_cons, List.cons.injEq, hlower, hlowerc,
          octet_inj hcn hn, hrest]
      · obtain ⟨b, bs, hoctets⟩ := exists_octet c
        have hb : 128 ≤ b.toNat := le_of_mem_utf8EncodeChar hc (by simp [hoctets])
        have hfirst : octetLower b ≠ octetLower (octet n) := by
          rw [octetLower_other hb, hlower]
          intro heq
          rw [heq, toNat_octet hn] at hb
          omega
        have hchar : asciiLower c ≠ asciiLower n := by
          rw [asciiLower_other hc]
          rintro rfl
          omega
        simp [hoctets, hfirst, hchar]

/-- A window with ASCII octets begins where a character begins, and is one of these characters. -/
theorem exists_split_of_window {needle cs : List Char} (hneedle : AllAscii needle)
    (hne : needle ≠ []) {offset : Nat}
    (h : startsWithIgnoringCase (octets needle) ((octets cs).drop offset) = true) :
    ∃ before behind, cs = before ++ behind ∧ (octets before).length = offset ∧
      eqIgnoringCase (behind.take needle.length) needle = true := by
  obtain ⟨n, needle, rfl⟩ := List.exists_cons_of_ne_nil hne
  obtain ⟨hlower, hn⟩ := lower_ascii (hneedle n (by simp))
  obtain ⟨b, bs, hdrop, hb⟩ : ∃ b bs, (octets cs).drop offset = b :: bs ∧
      octetLower b = octet (asciiLower n) := by
    rw [startsWithIgnoringCase, beq_iff_eq, octets_ascii hneedle] at h
    cases hoctets : (octets cs).drop offset with
    | nil => simp [hoctets] at h
    | cons b bs =>
      simp only [hoctets, List.length_map, List.length_cons, List.take_succ_cons, List.map_cons,
        List.cons.injEq] at h
      exact ⟨b, bs, rfl, h.1.trans hlower⟩
  have hascii : b.toNat < 128 := by
    by_contra hlarge
    rw [octetLower_other (by omega)] at hb
    rw [hb, toNat_octet hn] at hlarge
    exact hlarge hn
  obtain ⟨before, behind, rfl, rfl⟩ := exists_split_of_octet hdrop hascii
  rw [drop_octets, startsWithIgnoringCase_octets hneedle] at h
  exact ⟨before, behind, rfl, rfl, h⟩

theorem length_le_of_startsWith {needle bs : List UInt8}
    (h : startsWithIgnoringCase needle bs = true) : needle.length ≤ bs.length := by
  rw [startsWithIgnoringCase, beq_iff_eq] at h
  have hlength := congrArg List.length h
  simp only [List.length_map, List.length_take] at hlength
  omega

theorem windowOffset?_eq_some_iff {needle bs : List UInt8} (hne : needle ≠ []) {i : Nat} :
    windowOffset? needle bs = some i ↔
      startsWithIgnoringCase needle (bs.drop i) = true ∧
        ∀ j < i, startsWithIgnoringCase needle (bs.drop j) = false := by
  have hpos : 0 < needle.length := List.length_pos_iff.mpr hne
  rw [windowOffset?, List.find?_range_eq_some, List.mem_range]
  simp only [Bool.not_eq_true']
  constructor
  · rintro ⟨hstarts, -, hleast⟩
    exact ⟨hstarts, hleast⟩
  · rintro ⟨hstarts, hleast⟩
    have hlength := length_le_of_startsWith hstarts
    rw [List.length_drop] at hlength
    exact ⟨hstarts, by omega, hleast⟩

theorem windowOffset?_eq_none_iff {needle bs : List UInt8} (hne : needle ≠ []) :
    windowOffset? needle bs = none ↔ ∀ i, startsWithIgnoringCase needle (bs.drop i) = false := by
  have hpos : 0 < needle.length := List.length_pos_iff.mpr hne
  rw [windowOffset?, List.find?_eq_none]
  simp only [List.mem_range, Bool.not_eq_true]
  constructor
  · intro h i
    by_contra hstarts
    have hlength := length_le_of_startsWith (by simpa using hstarts)
    rw [List.length_drop] at hlength
    exact hstarts (h i (by omega))
  · exact fun h i _ => h i

end Folio.Text
