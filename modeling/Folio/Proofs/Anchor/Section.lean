import Mathlib.Data.List.TakeWhile
import Folio.Anchor.Basic

/-!
# Anchors of sections

Only the empty text has the anchor that consists of the stem alone. Lower case never makes a text
empty, and neither does choosing its first number.
-/

namespace Folio

open Text

namespace Text

theorem lowerChar_ne_nil (c : Char) : lowerChar c ≠ [] := by
  unfold lowerChar
  split <;> simp

theorem lowerAfter_eq_nil_iff {before cs : List Char} : lowerAfter before cs = [] ↔ cs = [] := by
  cases cs with
  | nil => simp [lowerAfter]
  | cons c rest =>
    by_cases hsigma : c.toNat = 0x3a3
    · simp [lowerAfter, hsigma]
    · simp [lowerAfter, hsigma, lowerChar_ne_nil]

end Text

namespace Numeral

theorem leading_ne_nil {c : Char} (hc : isDigit c = true) (rest : List Char) :
    leading (c :: rest) ≠ [] := by
  cases rest <;> simp [leading, hc]

theorem first?_ne_some_nil (cs : List Char) : first? cs ≠ some [] := by
  unfold first?
  cases hdrop : cs.dropWhile (!isDigit ·) with
  | nil => simp
  | cons c rest =>
    have hc : isDigit c = true := by
      have h := List.dropWhile_get_zero_not (!isDigit ·) cs (by simp [hdrop])
      simpa [hdrop] using h
    simpa using leading_ne_nil hc rest

end Numeral

namespace Anchor

/-- Whatever lower case makes of a text, no character that is replaced is left in it. -/
theorem normalize_avoids (cs : List Char) : ∀ c ∈ normalize cs, c ∉ replacedChars := by
  intro c hc
  obtain ⟨d, -, rfl⟩ := List.mem_map.mp hc
  by_cases hd : d ∈ replacedChars
  · rw [if_pos hd]
    decide
  · rwa [if_neg hd]

theorem normalize_eq_nil_iff {cs : List Char} : normalize cs = [] ↔ cs = [] := by
  simp [normalize, lower, lowerAfter_eq_nil_iff]

theorem chosen_eq_nil_iff {cs : List Char} : (Numeral.first? cs).getD cs = [] ↔ cs = [] := by
  cases hfirst : Numeral.first? cs with
  | none => simp
  | some numeral =>
    have hnumeral : numeral ≠ [] := by
      rintro rfl
      exact Numeral.first?_ne_some_nil cs hfirst
    have hcs : cs ≠ [] := by
      rintro rfl
      simp [Numeral.first?] at hfirst
    simp [hnumeral, hcs]

theorem ofSection_eq_ofSection_empty_iff {content : String} :
    ofSection content = ofSection "" ↔ content = "" := by
  constructor
  · intro h
    have hchars : normalize ((Numeral.first? content.toList).getD content.toList) =
        normalize ((Numeral.first? "".toList).getD "".toList) := by
      simpa [ofSection, sectionStem, String.ofList_inj] using h
    have hempty : normalize ((Numeral.first? "".toList).getD "".toList) = [] := by
      rw [normalize_eq_nil_iff, chosen_eq_nil_iff]
      rfl
    rw [hempty, normalize_eq_nil_iff, chosen_eq_nil_iff] at hchars
    exact String.toList_eq_nil_iff.mp hchars
  · rintro rfl
    rfl

theorem href_eq_iff {a b : Anchor} : a.href = "#" ++ b.name ↔ a = b := by
  cases a
  cases b
  simp [href]

end Anchor

end Folio
