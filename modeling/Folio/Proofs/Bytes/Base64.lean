import Folio.Bytes.Base64

/-!
# What is encoded can be decoded

Each character of the alphabet stands for the value that it was chosen for, and none of them is the
sign that fills up the last group. So the groups of an encoding are read one by one, and the octets
are found again.
-/

namespace Folio.Base64

theorem value?_digit {n : Nat} (h : n < 64) : value? (digit n) = some n :=
  (by decide : ∀ n < 64, value? (digit n) = some n) n h

theorem digit_ne_padding {n : Nat} (h : n < 64) : digit n ≠ '=' :=
  (by decide : ∀ n < 64, digit n ≠ '=') n h

theorem decode_encode_one (a : UInt8) : decode (encode [a]) = some [a] := by
  have ha := a.toNat_lt
  have hfirst : value? (digit (a.toNat * 16 / 64)) = some (a.toNat * 16 / 64) :=
    value?_digit (by omega)
  have hsecond : value? (digit (a.toNat * 16 % 64)) = some (a.toNat * 16 % 64) :=
    value?_digit (by omega)
  have hjoined : a.toNat * 16 / 64 * 64 + a.toNat * 16 % 64 = a.toNat * 16 := by omega
  simp [encode, decode, hfirst, hsecond, hjoined]

theorem decode_encode_two (a b : UInt8) : decode (encode [a, b]) = some [a, b] := by
  have ha := a.toNat_lt
  have hb := b.toNat_lt
  simp only [encode]
  generalize hn : (a.toNat * 256 + b.toNat) * 4 = n
  have hfirst : value? (digit (n / 4096)) = some (n / 4096) := value?_digit (by omega)
  have hsecond : value? (digit (n / 64 % 64)) = some (n / 64 % 64) := value?_digit (by omega)
  have hthird : value? (digit (n % 64)) = some (n % 64) := value?_digit (by omega)
  have hpadding : digit (n % 64) ≠ '=' := digit_ne_padding (by omega)
  have hjoined : (n / 4096 * 64 + n / 64 % 64) * 64 + n % 64 = n := by omega
  have hn4 : n % 4 = 0 := by omega
  have hhigh : UInt8.ofNat (n / 1024) = a := by
    rw [show n / 1024 = a.toNat by omega, UInt8.ofNat_toNat]
  have hlow : UInt8.ofNat (n / 4 % 256) = b := by
    rw [show n / 4 % 256 = b.toNat by omega, UInt8.ofNat_toNat]
  simp [decode, hfirst, hsecond, hthird, hjoined, hn4, hhigh, hlow]

theorem decode_encode_group (a b c : UInt8) {rest : List UInt8}
    (hrest : decode (encode rest) = some rest) :
    decode (encode (a :: b :: c :: rest)) = some (a :: b :: c :: rest) := by
  have ha := a.toNat_lt
  have hb := b.toNat_lt
  have hc := c.toNat_lt
  simp only [encode]
  generalize hn : (a.toNat * 256 + b.toNat) * 256 + c.toNat = n
  have hfirst : value? (digit (n / 262144)) = some (n / 262144) := value?_digit (by omega)
  have hsecond : value? (digit (n / 4096 % 64)) = some (n / 4096 % 64) := value?_digit (by omega)
  have hthird : value? (digit (n / 64 % 64)) = some (n / 64 % 64) := value?_digit (by omega)
  have hfourth : value? (digit (n % 64)) = some (n % 64) := value?_digit (by omega)
  have hpadding : digit (n % 64) ≠ '=' := digit_ne_padding (by omega)
  have hjoined :
      ((n / 262144 * 64 + n / 4096 % 64) * 64 + n / 64 % 64) * 64 + n % 64 = n := by omega
  have hhigh : UInt8.ofNat (n / 65536) = a := by
    rw [show n / 65536 = a.toNat by omega, UInt8.ofNat_toNat]
  have hmiddle : UInt8.ofNat (n / 256 % 256) = b := by
    rw [show n / 256 % 256 = b.toNat by omega, UInt8.ofNat_toNat]
  have hlow : UInt8.ofNat (n % 256) = c := by
    rw [show n % 256 = c.toNat by omega, UInt8.ofNat_toNat]
  simp [decode, hfirst, hsecond, hthird, hfourth, hpadding, hjoined, hrest, hhigh, hmiddle, hlow]

theorem decode_encode (bytes : List UInt8) : decode (encode bytes) = some bytes := by
  match bytes with
  | [] => rfl
  | [a] => exact decode_encode_one a
  | [a, b] => exact decode_encode_two a b
  | a :: b :: c :: rest => exact decode_encode_group a b c (decode_encode rest)

end Folio.Base64
