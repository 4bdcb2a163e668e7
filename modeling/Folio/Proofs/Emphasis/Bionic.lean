import Folio.Proofs.Emphasis.Splicing

/-!
# Marks of bionic reading

A text without marks, marked for bionic reading, is always read back: behind every word the spans
begun and the spans ended are as many as before it, and no span is open. So the only text that
cannot be emphasized for bionic reading is one that holds a mark already.
-/

namespace Folio.Emphasis

variable {marked : String} {position : Nat} {inside : Bool} {segment rest : List Char} {c : Char}
  {count : MarkCount}

theorem readMarked_plain (hc : isMark c = false) :
    readMarked marked position inside segment count (c :: rest) =
      readMarked marked (position + 1) inside (c :: segment) count rest := by
  have hne : c ≠ spanBegin ∧ c ≠ spanEnd := by simpa [isMark] using hc
  rw [readMarked, if_neg hne.1, if_neg hne.2]

theorem readMarked_append_plain {xs : List Char} (hxs : ∀ c ∈ xs, isMark c = false) :
    readMarked marked position inside segment count (xs ++ rest) =
      readMarked marked (position + xs.length) inside (xs.reverse ++ segment) count rest := by
  induction xs generalizing position segment with
  | nil => rfl
  | cons c xs ih =>
    have hrest : ∀ d ∈ xs, isMark d = false := fun d hd => hxs d (by simp [hd])
    have hposition : position + 1 + xs.length = position + (c :: xs).length := by
      rw [List.length_cons]
      omega
    rw [List.cons_append, readMarked_plain (hxs c (by simp)), ih hrest, hposition]
    simp

/-- Whether a marked text is read back outside of any span, with as many spans begun as ended. -/
def IsEven (cs : List Char) : Prop :=
  ∀ marked position segment count, ∃ result,
    readMarked marked position false segment count cs = .ok result ∧
      result.2.begins + count.ends = result.2.ends + count.begins

theorem isEven_nil : IsEven [] := by
  intro marked position segment count
  exact ⟨(textLeaf segment.reverse, count), rfl, Nat.add_comm _ _⟩

theorem IsEven.append_plain {xs cs : List Char} (h : IsEven cs) (hxs : ∀ c ∈ xs, isMark c = false) :
    IsEven (xs ++ cs) := by
  intro marked position segment count
  rw [readMarked_append_plain hxs]
  exact h _ _ _ _

theorem IsEven.append_span {xs cs : List Char} (h : IsEven cs) (hxs : ∀ c ∈ xs, isMark c = false) :
    IsEven (spanBegin :: xs ++ spanEnd :: cs) := by
  intro marked position segment count
  have hend : spanEnd ≠ spanBegin := by decide
  obtain ⟨result, hresult, heven⟩ := h marked (position + 1 + xs.length + 1) []
    ⟨count.begins + 1, count.ends + 1⟩
  refine ⟨(textLeaf segment.reverse ++ (spanTokens xs ++ result.1), result.2), ?_, ?_⟩
  · rw [List.cons_append, readMarked, if_pos rfl, if_neg (by simp), readMarked_append_plain hxs,
      readMarked, if_neg hend, if_pos rfl, if_pos rfl, hresult]
    simp [bind, Except.bind]
  · simp only at heven ⊢
    omega

theorem IsEven.append_word {word cs : List Char} (h : IsEven cs)
    (hword : ∀ c ∈ word, isMark c = false) : IsEven (Bionic.markWord word ++ cs) := by
  obtain ⟨-, hmarked⟩ | ⟨-, head, tail, rfl, -, hmarked⟩ := Bionic.markWord_cases word
  · rwa [hmarked]
  · obtain ⟨hhead, htail⟩ := List.forall_mem_append.mp hword
    simpa [hmarked] using (h.append_plain htail).append_span hhead

/-- The words of a text without marks are marked evenly. -/
theorem isEven_markFrom {cs : List Char} (hcs : ∀ c ∈ cs, isMark c = false) :
    IsEven (Bionic.markFrom [] cs) := by
  refine Bionic.markFrom_induction (motive := fun _ marked => IsEven marked) isEven_nil ?_ ?_ hcs
  · intro word rest marked hword _ ih
    exact ih.append_word fun c hc => Bionic.isMark_of_isAlphanumeric (hword c hc)
  · intro c rest marked hc _ ih
    have hplain : IsEven ([c] ++ marked) := ih.append_plain (by simpa using hc)
    exact hplain

/-- A text is refused for the marks in it only, and otherwise its spans are balanced. -/
theorem emphasizeText_bionic (text : String) :
    (text.toList.any isMark = true ∧
        emphasizeText Bionic.emphasizer text = .error (.sentinelInInput text)) ∨
      ∃ result, emphasizeText Bionic.emphasizer text = .ok result ∧
        result.2.begins = result.2.ends := by
  unfold emphasizeText
  cases hmarks : text.toList.any isMark with
  | true => exact .inl ⟨rfl, by simp⟩
  | false =>
    right
    have hplain : ∀ c ∈ text.toList, isMark c = false := by
      simpa using List.any_eq_false.mp hmarks
    obtain ⟨result, hresult, heven⟩ := isEven_markFrom hplain
      (Bionic.emphasizer text) 0 [] ⟨0, 0⟩
    refine ⟨result, ?_, by simpa using heven⟩
    simpa [Bionic.emphasizer] using hresult

end Folio.Emphasis
