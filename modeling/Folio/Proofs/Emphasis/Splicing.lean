import Folio.Emphasis.Splicing

/-!
# One token after the other

Splicing goes through a sequence of siblings with the paragraph that is open, if one is. What each
token does to it is stated here case by case, for use in place of the definition. The same is done
for the characters of a marked text.
-/

namespace Folio.Emphasis

theorem bind_eq_ok_iff {ε α β : Type} {x : Except ε α} {f : α → Except ε β} {b : β} :
    x >>= f = .ok b ↔ ∃ a, x = .ok a ∧ f a = .ok b := by
  cases x <;> simp [bind, Except.bind]

theorem spliceToken_of_ne {emphasizer : Emphasizer} {t : Token} (ht : t.kind ≠ .text) :
    spliceToken emphasizer t = spliceBody emphasizer t.children >>= fun result =>
      .ok ([{ t with children := result.1 }], result.2) := by
  cases t
  rw [spliceToken, if_neg ht]

theorem spliceBelow_eq (emphasizer : Emphasizer) (t : Token) :
    spliceBelow emphasizer t =
      let below := spliceSiblings emphasizer none t.children
      ({ t with children := below.tokens }, below.stats, below.error?) := by
  cases t
  rw [spliceBelow]

section Siblings

variable {emphasizer : Emphasizer} {t : Token} {rest : List Token}

theorem spliceSiblings_open (ht : t.kind = .paragraphOpen) :
    spliceSiblings emphasizer none (t :: rest) = spliceSiblings emphasizer (some (t, [])) rest := by
  rw [spliceSiblings]
  simp [ht]

theorem spliceSiblings_below {spliced : Token} {stats : SpliceStats}
    (ht : t.kind ≠ .paragraphOpen) (hbelow : spliceBelow emphasizer t = (spliced, stats, none)) :
    spliceSiblings emphasizer none (t :: rest) =
      .after [spliced] stats (spliceSiblings emphasizer none rest) := by
  rw [spliceSiblings]
  simp [ht, hbelow]

theorem spliceSiblings_below_error {spliced : Token} {stats : SpliceStats} {e : EnrichError}
    (ht : t.kind ≠ .paragraphOpen) (hbelow : spliceBelow emphasizer t = (spliced, stats, some e)) :
    spliceSiblings emphasizer none (t :: rest) = .failed (spliced :: rest) e := by
  rw [spliceSiblings]
  simp [ht, hbelow]

variable {opening : Token} {reversed : List Token}

theorem spliceSiblings_within (ht : t.kind ≠ .paragraphClose) :
    spliceSiblings emphasizer (some (opening, reversed)) (t :: rest) =
      spliceSiblings emphasizer (some (opening, t :: reversed)) rest := by
  rw [spliceSiblings]
  simp [ht]

theorem spliceSiblings_close {body : List Token} {stats : SpliceStats}
    (ht : t.kind = .paragraphClose)
    (hbody : spliceParagraph emphasizer reversed.reverse = .ok (body, stats)) :
    spliceSiblings emphasizer (some (opening, reversed)) (t :: rest) =
      .after (opening :: body ++ [t]) stats (spliceSiblings emphasizer none rest) := by
  rw [spliceSiblings]
  simp [ht, hbody]

theorem spliceSiblings_close_error {e : EnrichError} (ht : t.kind = .paragraphClose)
    (hbody : spliceParagraph emphasizer reversed.reverse = .error e) :
    spliceSiblings emphasizer (some (opening, reversed)) (t :: rest) =
      .failed (opening :: t :: rest) e := by
  rw [spliceSiblings]
  simp [ht, hbody]

end Siblings

section Marked

variable {marked : String} {position : Nat} {inside : Bool} {segment rest : List Char} {c : Char}
  {count : MarkCount}

/-- All that can be read at one more character of a marked text. -/
theorem readMarked_cons_cases {result : List Token × MarkCount}
    (h : readMarked marked position inside segment count (c :: rest) = .ok result) :
    (c = spanBegin ∧ inside = false ∧ ∃ others,
        readMarked marked (position + 1) true [] { count with begins := count.begins + 1 } rest =
            .ok others ∧
          result = (textLeaf segment.reverse ++ others.1, others.2)) ∨
      (c = spanEnd ∧ inside = true ∧ ∃ others,
        readMarked marked (position + 1) false [] { count with ends := count.ends + 1 } rest =
            .ok others ∧
          result = (spanTokens segment.reverse ++ others.1, others.2)) ∨
      (isMark c = false ∧
        readMarked marked (position + 1) inside (c :: segment) count rest = .ok result) := by
  unfold readMarked at h
  split at h
  · rename_i hbegin
    split at h
    · simp at h
    · rename_i hinside
      obtain ⟨others, hothers, hresult⟩ := bind_eq_ok_iff.mp h
      exact .inl ⟨hbegin, by simpa using hinside, others, hothers, (Except.ok.inj hresult).symm⟩
  · rename_i hbegin
    split at h
    · rename_i hend
      split at h
      · rename_i hinside
        obtain ⟨others, hothers, hresult⟩ := bind_eq_ok_iff.mp h
        exact .inr (.inl ⟨hend, hinside, others, hothers, (Except.ok.inj hresult).symm⟩)
      · simp at h
    · rename_i hend
      exact .inr (.inr ⟨by simp [isMark, hbegin, hend], h⟩)

/-- The tokens that take the place of a text: leaves of text and the tags of spans. -/
inductive IsPiece : Token → Prop
  | text (content : String) : IsPiece (.text content)
  | spanOpen : IsPiece (.inlineHtml spanOpenHtml)
  | spanClose : IsPiece (.inlineHtml spanCloseHtml)

theorem IsPiece.children {t : Token} (h : IsPiece t) : t.children = [] := by
  cases h <;> rfl

theorem isPiece_textLeaf (cs : List Char) : ∀ t ∈ textLeaf cs, IsPiece t := by
  unfold textLeaf
  split
  · simp
  · simpa using .text (String.ofList cs)

theorem isPiece_spanTokens (cs : List Char) : ∀ t ∈ spanTokens cs, IsPiece t := by
  intro t ht
  rcases List.mem_cons.mp ht with rfl | ht
  · exact .spanOpen
  · rcases List.mem_append.mp ht with ht | ht
    · exact isPiece_textLeaf cs t ht
    · rw [List.mem_singleton.mp ht]
      exact .spanClose

theorem isPiece_readMarked {cs : List Char} {result : List Token × MarkCount}
    (h : readMarked marked position inside segment count cs = .ok result) :
    ∀ t ∈ result.1, IsPiece t := by
  induction cs generalizing position inside segment count result with
  | nil =>
    simp only [readMarked] at h
    split at h
    · simp at h
    · obtain rfl := Except.ok.inj h
      exact isPiece_textLeaf _
  | cons c rest ih =>
    obtain ⟨-, -, others, hothers, rfl⟩ | ⟨-, -, others, hothers, rfl⟩ | ⟨-, hnext⟩ :=
      readMarked_cons_cases h
    · exact List.forall_mem_append.mpr ⟨isPiece_textLeaf _, ih hothers⟩
    · exact List.forall_mem_append.mpr ⟨isPiece_spanTokens _, ih hothers⟩
    · exact ih hnext

theorem isPiece_emphasizeText {emphasizer : Emphasizer} {text : String}
    {result : List Token × MarkCount} (h : emphasizeText emphasizer text = .ok result) :
    ∀ t ∈ result.1, IsPiece t := by
  unfold emphasizeText at h
  split at h
  · simp at h
  · exact isPiece_readMarked h

end Marked

end Folio.Emphasis
