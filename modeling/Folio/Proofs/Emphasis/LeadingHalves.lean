import Folio.Proofs.Emphasis.Bionic
import Folio.Proofs.Emphasis.Decoration
import Folio.Proofs.Emphasis.MarkedText

/-!
# Leading halves of words

A word is a stretch of letters and digits that cannot be made longer on either side. Bionic reading
marks one span for each word of a text, in their order: it begins where the word begins and is half
as long, the middle character included. Stretches are counted in the characters of the text itself,
which the marks do not shift.
-/

namespace Folio.Emphasis

open Text

/-- A stretch of a text: how many characters stand in front of it, and how many in it. -/
structure Stretch where
  start : Nat
  length : Nat
  deriving DecidableEq

namespace Stretch

/-- The leading half of a stretch, the longer one if it has no middle. -/
def leadingHalf (s : Stretch) : Stretch :=
  ⟨s.start, (s.length + 1) / 2⟩

def toList (s : Stretch) : List Stretch :=
  if s.length = 0 then [] else [s]

theorem mem_toList {s w : Stretch} : w ∈ s.toList ↔ w = s ∧ s.length ≠ 0 := by
  by_cases h : s.length = 0 <;> simp [toList, h]

end Stretch

/-! ## Words of a text -/

def AlphanumericAt (cs : List Char) (i : Nat) : Prop :=
  ∃ c, cs[i]? = some c ∧ isAlphanumeric c = true

/-- Whether a stretch of letters and digits has none in front of it. -/
structure IsBegun (cs : List Char) (s : Stretch) : Prop where
  inside : ∀ i, s.start ≤ i → i < s.start + s.length → AlphanumericAt cs i
  begins : ∀ i, i + 1 = s.start → ¬ AlphanumericAt cs i

/-- Whether the stretch is a word of the text: it is not empty, and has letters and digits all through
but neither in front of it nor behind it. -/
structure IsWord (cs : List Char) (s : Stretch) : Prop extends IsBegun cs s where
  nonempty : 0 < s.length
  ends : ¬ AlphanumericAt cs (s.start + s.length)

def wordsFrom (s : Stretch) : List Char → List Stretch
  | [] => s.toList
  | c :: rest =>
    if isAlphanumeric c then wordsFrom ⟨s.start, s.length + 1⟩ rest
    else s.toList ++ wordsFrom ⟨s.start + s.length + 1, 0⟩ rest

def wordStretches (cs : List Char) : List Stretch :=
  wordsFrom ⟨0, 0⟩ cs

section Words

variable {cs rest : List Char} {s w : Stretch}

theorem not_alphanumericAt_of_le {i : Nat} (h : cs.length ≤ i) : ¬ AlphanumericAt cs i := by
  rintro ⟨c, hc, -⟩
  rw [List.getElem?_eq_none h] at hc
  cases hc

theorem IsWord.alphanumericAt_start (h : IsWord cs w) : AlphanumericAt cs w.start := by
  have hlength := h.nonempty
  exact h.inside w.start (Nat.le_refl _) (by omega)

theorem IsBegun.longer (h : IsBegun cs s) (hnext : AlphanumericAt cs (s.start + s.length)) :
    IsBegun cs ⟨s.start, s.length + 1⟩ := by
  refine ⟨fun i hstart hi => ?_, h.begins⟩
  simp only at hstart hi
  by_cases hlast : i = s.start + s.length
  · exact hlast ▸ hnext
  · exact h.inside i hstart (by omega)

theorem isBegun_behind {i : Nat} (h : ¬ AlphanumericAt cs i) : IsBegun cs ⟨i + 1, 0⟩ := by
  refine ⟨fun j hstart hj => ?_, fun j hj => ?_⟩
  · simp only at hstart hj
    omega
  · obtain rfl : j = i := Nat.succ.inj hj
    exact h

/-- A stretch that has begun and comes to its end meets no word but itself. -/
theorem IsBegun.eq_of_isWord (h : IsBegun cs s) (hend : ¬ AlphanumericAt cs (s.start + s.length))
    (hword : IsWord cs w) (hstart : s.start ≤ w.start) (hle : w.start ≤ s.start + s.length) :
    w = s ∧ s.length ≠ 0 := by
  have hfirst : w.start ≠ s.start + s.length := fun heq => hend (heq ▸ hword.alphanumericAt_start)
  have hsame : w.start = s.start := by
    refine Nat.le_antisymm (Nat.le_of_not_lt fun hlt => ?_) hstart
    exact hword.begins (w.start - 1) (by omega) (h.inside _ (by omega) (by omega))
  have hlength : w.length = s.length := by
    refine Nat.le_antisymm (Nat.le_of_not_lt fun hlt => ?_) (Nat.le_of_not_lt fun hlt => ?_)
    · exact hend (hword.inside _ (by omega) (by omega))
    · exact hword.ends (h.inside _ (by omega) (by omega))
  refine ⟨?_, by omega⟩
  cases w
  cases s
  simp_all

/-- The words that begin no earlier than a stretch that has begun and comes to its end are this
stretch, if it has characters, and those behind it. -/
theorem IsBegun.isWord_iff (h : IsBegun cs s) (hend : ¬ AlphanumericAt cs (s.start + s.length)) :
    IsWord cs w ∧ s.start ≤ w.start ↔
      w ∈ s.toList ∨ IsWord cs w ∧ s.start + s.length + 1 ≤ w.start := by
  rw [Stretch.mem_toList]
  constructor
  · rintro ⟨hword, hstart⟩
    by_cases hle : w.start ≤ s.start + s.length
    · exact .inl (h.eq_of_isWord hend hword hstart hle)
    · exact .inr ⟨hword, by omega⟩
  · rintro (⟨rfl, hlength⟩ | ⟨hword, hstart⟩)
    · exact ⟨⟨h, Nat.pos_of_ne_zero hlength, hend⟩, Nat.le_refl _⟩
    · exact ⟨hword, by omega⟩

/-- What is found are the words that begin where the stretch does or behind it. -/
theorem mem_wordsFrom (h : IsBegun cs s) (hrest : cs.drop (s.start + s.length) = rest) :
    w ∈ wordsFrom s rest ↔ IsWord cs w ∧ s.start ≤ w.start := by
  induction rest generalizing s with
  | nil =>
    have hall : cs.length ≤ s.start + s.length := List.drop_eq_nil_iff.mp hrest
    rw [wordsFrom, h.isWord_iff (not_alphanumericAt_of_le hall)]
    refine ⟨.inl, fun hw => hw.resolve_right ?_⟩
    rintro ⟨hword, hstart⟩
    exact not_alphanumericAt_of_le (by omega) hword.alphanumericAt_start
  | cons c rest ih =>
    have hc : cs[s.start + s.length]? = some c := by
      rw [← List.head?_drop, hrest, List.head?_cons]
    have hnext : cs.drop (s.start + s.length + 1) = rest := by
      rw [← List.tail_drop, hrest, List.tail_cons]
    rw [wordsFrom]
    split
    · rename_i halphanumeric
      exact ih (h.longer ⟨c, hc, halphanumeric⟩) hnext
    · rename_i hother
      have hend : ¬ AlphanumericAt cs (s.start + s.length) := by
        rintro ⟨d, hd, halphanumeric⟩
        obtain rfl : c = d := Option.some.inj (hc.symm.trans hd)
        exact hother halphanumeric
      rw [h.isWord_iff hend, List.mem_append, ih (isBegun_behind hend) hnext]

theorem mem_wordStretches : w ∈ wordStretches cs ↔ IsWord cs w := by
  have hbegun : IsBegun cs ⟨0, 0⟩ := ⟨by simp, by simp⟩
  have hwords : w ∈ wordsFrom ⟨0, 0⟩ cs ↔ IsWord cs w ∧ 0 ≤ w.start := mem_wordsFrom hbegun rfl
  simpa [wordStretches] using hwords

theorem wordsFrom_alphanumeric {word : List Char} (hword : ∀ c ∈ word, isAlphanumeric c = true) :
    wordsFrom s (word ++ rest) = wordsFrom ⟨s.start, s.length + word.length⟩ rest := by
  induction word generalizing s with
  | nil => rfl
  | cons c word ih =>
    obtain ⟨hc, hword⟩ := List.forall_mem_cons.mp hword
    rw [List.cons_append, wordsFrom, if_pos hc, ih hword, List.length_cons]
    simp only [Nat.add_assoc, Nat.add_comm 1]

theorem wordsFrom_ended (hnext : ∀ c, rest.head? = some c → isAlphanumeric c = false) :
    wordsFrom s rest = s.toList ++ wordsFrom ⟨s.start + s.length, 0⟩ rest := by
  have hnone : ∀ start, (Stretch.mk start 0).toList = [] := fun _ => rfl
  cases rest with
  | nil => rw [wordsFrom, wordsFrom, hnone, List.append_nil]
  | cons c rest =>
    have hc : isAlphanumeric c = false := hnext c rfl
    simp [wordsFrom, hc, hnone]

theorem start_le_of_mem_wordsFrom (h : w ∈ wordsFrom s rest) : s.start ≤ w.start := by
  induction rest generalizing s with
  | nil =>
    obtain ⟨rfl, -⟩ := Stretch.mem_toList.mp h
    exact Nat.le_refl _
  | cons c rest ih =>
    rw [wordsFrom] at h
    split at h
    · have hlonger := ih h
      exact hlonger
    · rcases List.mem_append.mp h with h | h
      · obtain ⟨rfl, -⟩ := Stretch.mem_toList.mp h
        exact Nat.le_refl _
      · have hbehind := ih h
        simp only at hbehind
        omega

/-- Each word comes to its end before the next one begins. -/
theorem pairwise_wordsFrom :
    (wordsFrom s rest).Pairwise fun v w => v.start + v.length < w.start := by
  have hself : ∀ s : Stretch, s.toList.Pairwise fun v w => v.start + v.length < w.start := by
    intro s
    unfold Stretch.toList
    split <;> simp
  induction rest generalizing s with
  | nil => exact hself s
  | cons c rest ih =>
    rw [wordsFrom]
    split
    · exact ih
    · refine List.pairwise_append.mpr ⟨hself s, ih, fun v hv w hw => ?_⟩
      obtain ⟨rfl, -⟩ := Stretch.mem_toList.mp hv
      exact start_le_of_mem_wordsFrom hw

end Words

/-! ## Spans of a marked text -/

/-- The spans that end in the rest of a marked text. `position` characters other than marks come
before the rest, and `begun?` of them before a span that is open. -/
def spansFrom (position : Nat) (begun? : Option Nat) : List Char → List Stretch
  | [] => []
  | c :: rest =>
    if c = spanBegin then spansFrom position (some position) rest
    else if c = spanEnd then
      (begun?.map fun begun => ⟨begun, position - begun⟩).toList ++ spansFrom position none rest
    else spansFrom (position + 1) begun? rest

def markedStretches (cs : List Char) : List Stretch :=
  spansFrom 0 none cs

section Spans

variable {position : Nat} {begun? : Option Nat} {xs rest word cs : List Char}

theorem spansFrom_append_plain (hxs : ∀ c ∈ xs, isMark c = false) :
    spansFrom position begun? (xs ++ rest) = spansFrom (position + xs.length) begun? rest := by
  induction xs generalizing position with
  | nil => rfl
  | cons c xs ih =>
    obtain ⟨hc, hxs⟩ := List.forall_mem_cons.mp hxs
    have hne : c ≠ spanBegin ∧ c ≠ spanEnd := by simpa [isMark] using hc
    rw [List.cons_append, spansFrom, if_neg hne.1, if_neg hne.2, ih hxs, List.length_cons,
      Nat.add_assoc, Nat.add_comm 1]

theorem spansFrom_markWord (hword : ∀ c ∈ word, isMark c = false) :
    spansFrom position none (Bionic.markWord word ++ rest) =
      (Stretch.mk position word.length).toList.map Stretch.leadingHalf ++
        spansFrom (position + word.length) none rest := by
  have hend : spanEnd ≠ spanBegin := by decide
  obtain ⟨rfl, -⟩ | ⟨hne, head, tail, hsplit, hhalf, hmarked⟩ := Bionic.markWord_cases word
  · rfl
  · obtain ⟨hhead, htail⟩ := List.forall_mem_append.mp (hsplit ▸ hword)
    have hlength : word.length = head.length + tail.length := by rw [hsplit, List.length_append]
    have hstretch : (Stretch.mk position word.length).toList.map Stretch.leadingHalf =
        [⟨position, head.length⟩] := by
      rw [Stretch.toList, if_neg (by simpa using hne), List.map_singleton, Stretch.leadingHalf, hhalf]
    rw [hmarked, List.append_assoc, List.cons_append, spansFrom, if_pos rfl,
      spansFrom_append_plain hhead, List.cons_append, spansFrom, if_neg hend, if_pos rfl,
      spansFrom_append_plain htail, hstretch, hlength]
    simp [Nat.add_assoc]

/-- The spans of a text are those of its words. -/
theorem spansFrom_markFrom (hcs : ∀ c ∈ cs, isMark c = false) :
    spansFrom position none (Bionic.markFrom [] cs) =
      (wordsFrom ⟨position, 0⟩ cs).map Stretch.leadingHalf := by
  refine Bionic.markFrom_induction (motive := fun text marked => ∀ position,
    spansFrom position none marked = (wordsFrom ⟨position, 0⟩ text).map Stretch.leadingHalf)
    (fun _ => rfl) ?_ ?_ hcs position
  · intro word rest marked hword hnext ih position
    have hplain : ∀ c ∈ word, isMark c = false := fun c hc =>
      Bionic.isMark_of_isAlphanumeric (hword c hc)
    have hwords : wordsFrom ⟨position, 0⟩ (word ++ rest) =
        (Stretch.mk position word.length).toList ++ wordsFrom ⟨position + word.length, 0⟩ rest := by
      rw [wordsFrom_alphanumeric hword, wordsFrom_ended hnext, Nat.zero_add]
    rw [spansFrom_markWord hplain, ih, hwords, List.map_append]
  · intro c rest marked hc hother ih position
    have hplain : ∀ d ∈ [c], isMark d = false := by simpa using hc
    rw [← List.singleton_append, spansFrom_append_plain hplain, ih, wordsFrom,
      if_neg (by simp [hother])]
    rfl

end Spans

theorem marksSpans_bionic {text : String} (htext : text.toList.any isMark = false) :
    MarksSpans (Bionic.emphasizer text).toList := by
  have houtcome := outcome_emphasizeText Bionic.emphasizer htext
  obtain ⟨hmarked, -⟩ | ⟨result, hresult, -⟩ := emphasizeText_bionic text
  · simp [htext] at hmarked
  · rw [hresult] at houtcome
    cases houtcome with
    | read hspans => exact hspans

/-- Bionic reading puts nothing but marks into a text, and these begin and end one span after the
other. The spans are, one for one and in their order, the leading halves of the words, where the words
are all the stretches of letters and digits that cannot be made longer. -/
theorem emphasizer_marks_leadingHalves (text : String) (htext : text.toList.any isMark = false) :
    unmarked (Bionic.emphasizer text).toList = text.toList ∧
      MarksSpans (Bionic.emphasizer text).toList ∧
      markedStretches (Bionic.emphasizer text).toList =
        (wordStretches text.toList).map Stretch.leadingHalf ∧
      (∀ w, w ∈ wordStretches text.toList ↔ IsWord text.toList w) ∧
      (wordStretches text.toList).Pairwise fun v w => v.start + v.length < w.start := by
  have hplain : ∀ c ∈ text.toList, isMark c = false := by
    simpa using List.any_eq_false.mp htext
  refine ⟨keepsText_bionic text htext, marksSpans_bionic htext, ?_, fun _ => mem_wordStretches,
    pairwise_wordsFrom⟩
  rw [Bionic.emphasizer, String.toList_ofList]
  exact spansFrom_markFrom hplain

theorem emphasizer_marks_leadingHalves_odd :
    "Tea, 4!".toList.any isMark = false ∧
      unmarked (Bionic.emphasizer "Tea, 4!").toList = "Tea, 4!".toList ∧
      markedStretches (Bionic.emphasizer "Tea, 4!").toList = [⟨0, 2⟩, ⟨5, 1⟩] ∧
      IsWord "Tea, 4!".toList ⟨0, 3⟩ ∧ IsWord "Tea, 4!".toList ⟨5, 1⟩ := by
  have htext : "Tea, 4!".toList.any isMark = false := by decide
  have hwords : wordStretches "Tea, 4!".toList = [⟨0, 3⟩, ⟨5, 1⟩] := by decide
  obtain ⟨hkept, -, hspans, hmem, -⟩ := emphasizer_marks_leadingHalves "Tea, 4!" htext
  rw [hwords] at hspans hmem
  exact ⟨htext, hkept, hspans, (hmem _).mp (by simp), (hmem _).mp (by simp)⟩

end Folio.Emphasis
