import Folio.Text.Alphanumeric

/-!
# Marked text

An emphasizer marks the spans of a text that are to be emphasized. It gives the text back with a pair
of marks put around each span, and nothing else changed. The marks are two characters for private
use, so they do not occur in text itself.
-/

namespace Folio

open Folio.Text

def spanBegin : Char := '\ue000'

def spanEnd : Char := '\ue001'

def isMark (c : Char) : Bool :=
  c == spanBegin || c == spanEnd

/-- Marks the spans of a text that are to be emphasized. -/
abbrev Emphasizer := String → String

namespace Bionic

/-- A word with its leading half marked, the longer one if it has no middle. -/
def markWord (word : List Char) : List Char :=
  if word.isEmpty then []
  else
    let half := (word.length + 1) / 2
    spanBegin :: word.take half ++ spanEnd :: word.drop half

/-- A word is left out if it is empty. Otherwise it falls into its leading half, which stands between
the marks, and the rest. -/
theorem markWord_cases (word : List Char) :
    (word = [] ∧ markWord word = []) ∨
      word ≠ [] ∧ ∃ head tail, word = head ++ tail ∧ head.length = (word.length + 1) / 2 ∧
        markWord word = spanBegin :: head ++ spanEnd :: tail := by
  unfold markWord
  cases word with
  | nil => exact .inl ⟨rfl, rfl⟩
  | cons c rest =>
    refine .inr ⟨nofun, _, _, (List.take_append_drop _ (c :: rest)).symm, ?_, rfl⟩
    rw [List.length_take, List.length_cons]
    omega

/-- Marks the words of a text that follows the beginning of a word, given in reverse. -/
def markFrom (word : List Char) : List Char → List Char
  | [] => markWord word.reverse
  | c :: rest =>
    if isAlphanumeric c then markFrom (c :: word) rest
    else markWord word.reverse ++ c :: markFrom [] rest

theorem isMark_of_isAlphanumeric {c : Char} (h : isAlphanumeric c = true) : isMark c = false := by
  have hmarks : isAlphanumeric spanBegin = false ∧ isAlphanumeric spanEnd = false := by
    decide +kernel
  have hbegin : c ≠ spanBegin := by
    rintro rfl
    rw [hmarks.1] at h
    cases h
  have hend : c ≠ spanEnd := by
    rintro rfl
    rw [hmarks.2] at h
    cases h
  simp [isMark, hbegin, hend]

/-- What holds of a text and of the text marked is proved piece by piece, from the end: for a word
that no letter or digit follows, and for a character that belongs to no word. -/
theorem markFrom_induction {motive : List Char → List Char → Prop} (nil : motive [] [])
    (append : ∀ {word rest marked}, (∀ c ∈ word, isAlphanumeric c = true) →
      (∀ c, rest.head? = some c → isAlphanumeric c = false) →
      motive rest marked → motive (word ++ rest) (markWord word ++ marked))
    (cons : ∀ {c rest marked}, isMark c = false → isAlphanumeric c = false →
      motive rest marked → motive (c :: rest) (c :: marked))
    {cs : List Char} (hcs : ∀ c ∈ cs, isMark c = false) : motive cs (markFrom [] cs) := by
  -- The word that has begun is followed by letters and digits until `append` takes it up.
  have hfrom : ∀ {word : List Char}, (∀ c ∈ word, isAlphanumeric c = true) →
      motive (word.reverse ++ cs) (markFrom word cs) := by
    induction cs with
    | nil =>
      intro word hword
      rw [markFrom, ← List.append_nil (markWord _)]
      exact append (by simpa using hword) (by simp) nil
    | cons c rest ih =>
      intro word hword
      obtain ⟨hc, hrest⟩ := List.forall_mem_cons.mp hcs
      rw [markFrom]
      cases halphanumeric : isAlphanumeric c with
      | true =>
        have hlonger : ∀ d ∈ c :: word, isAlphanumeric d = true :=
          List.forall_mem_cons.mpr ⟨halphanumeric, hword⟩
        simpa using ih hrest hlonger
      | false =>
        have hlater : motive ([].reverse ++ rest) (markFrom [] rest) := ih hrest (by simp)
        rw [if_neg (by simp)]
        exact append (by simpa using hword) (by simpa using halphanumeric)
          (cons hc halphanumeric hlater)
  exact @hfrom [] (by simp)

/-- The emphasizer for bionic reading: the leading half of every word is marked, where a word is a
longest stretch of letters and digits. -/
def emphasizer : Emphasizer :=
  fun text => String.ofList (markFrom [] text.toList)

end Bionic

end Folio
