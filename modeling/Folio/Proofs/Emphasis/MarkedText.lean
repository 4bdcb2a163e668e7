import Folio.Proofs.Emphasis.Splicing
import Mathlib.Data.List.Chain

/-!
# Texts that mark spans properly

The marks of a text alternate if they are, from left to right, those that begin and end one span
after the other. A text is read exactly if its marks alternate and the last span is ended. The
pieces that are read are then the whole text, with a tag in place of each mark. A text that is
refused is refused at the first mark that breaks the alternation, or else at its end, within a span.
-/

namespace Folio.Emphasis

/-! ## Alternation -/

def marksOf (cs : List Char) : List Char :=
  cs.filter isMark

def dueMark (marks : Nat) : Char :=
  if marks % 2 = 0 then spanBegin else spanEnd

/-- Whether the marks of a text begin a span and end it in turn. -/
def Alternates (cs : List Char) : Prop :=
  ∀ i c, (marksOf cs)[i]? = some c → c = dueMark i

def countMarks (cs : List Char) : MarkCount :=
  ⟨cs.count spanBegin, cs.count spanEnd⟩

/-- Whether a text marks spans properly: its marks alternate, and the last span is ended. -/
def MarksSpans (cs : List Char) : Prop :=
  Alternates cs ∧ (countMarks cs).begins = (countMarks cs).ends

/-- Whether a text with so many ends of spans marks spans properly but for its own end, which is
within one. -/
def EndsInSpan (cs : List Char) (ends : Nat) : Prop :=
  Alternates cs ∧ countMarks cs = ⟨ends + 1, ends⟩

/-- Whether the alternation of marks holds up to a position and breaks at the character there. -/
def BreaksAt (cs : List Char) (position : Nat) : Prop :=
  Alternates (cs.take position) ∧ ¬ Alternates (cs.take (position + 1))

theorem alternates_nil : Alternates [] := by
  simp [Alternates, marksOf]

theorem Alternates.front {front rest : List Char} (h : Alternates (front ++ rest)) :
    Alternates front := by
  intro i c hi
  apply h i c
  have hlt : i < (marksOf front).length := (List.getElem?_eq_some_iff.mp hi).1
  rw [marksOf, List.filter_append]
  exact (List.getElem?_append_left hlt).trans hi

theorem alternates_concat_plain {front : List Char} {c : Char} (hc : isMark c = false) :
    Alternates (front ++ [c]) ↔ Alternates front := by
  simp [Alternates, marksOf, hc]

theorem alternates_concat_mark {front : List Char} {c : Char} (hc : isMark c = true) :
    Alternates (front ++ [c]) ↔ Alternates front ∧ c = dueMark (marksOf front).length := by
  have hmarks : marksOf (front ++ [c]) = marksOf front ++ [c] := by
    simp [marksOf, hc]
  refine ⟨fun h => ⟨h.front, h _ c (by simp [hmarks])⟩, fun ⟨h, hdue⟩ i d hi => ?_⟩
  rw [hmarks, List.getElem?_append] at hi
  split at hi
  · exact h i d hi
  · rename_i hlt
    obtain ⟨hlast, rfl⟩ := List.getElem?_eq_some_iff.mp hi
    obtain rfl : i = (marksOf front).length := by
      rw [List.length_singleton] at hlast
      omega
    simpa using hdue

theorem BreaksAt.not_alternates {cs : List Char} {position : Nat} (h : BreaksAt cs position) :
    ¬ Alternates cs := by
  intro halternates
  rw [← List.take_append_drop (position + 1) cs] at halternates
  exact h.2 halternates.front

theorem BreaksAt.le {cs : List Char} {p q : Nat} (hp : BreaksAt cs p) (hq : BreaksAt cs q) :
    p ≤ q := by
  apply Nat.le_of_not_lt
  intro hlt
  have hfront : cs.take (q + 1) ++ (cs.take p).drop (q + 1) = cs.take p := by
    have hsplit := List.take_append_drop (q + 1) (cs.take p)
    rwa [List.take_take, Nat.min_eq_left (by omega)] at hsplit
  exact hq.2 (hfront ▸ hp.1).front

theorem BreaksAt.unique {cs : List Char} {p q : Nat} (hp : BreaksAt cs p) (hq : BreaksAt cs q) :
    p = q :=
  Nat.le_antisymm (hp.le hq) (hq.le hp)

theorem EndsInSpan.not_marksSpans {cs : List Char} {ends : Nat} (h : EndsInSpan cs ends) :
    ¬ MarksSpans cs := by
  rintro ⟨-, hbalanced⟩
  rw [h.2] at hbalanced
  exact Nat.succ_ne_self ends hbalanced

theorem breaksAt_length {front rest : List Char} {c : Char} (hfront : Alternates front)
    (hbreak : ¬ Alternates (front ++ [c])) : BreaksAt (front ++ c :: rest) front.length := by
  have hlonger : front ++ c :: rest = (front ++ [c]) ++ rest := by simp
  refine ⟨by simpa using hfront, ?_⟩
  rw [hlonger, List.take_left' (by simp)]
  exact hbreak

/-! ## Acceptance -/

/-- What is known of the characters in front of a position, within a span or not. -/
structure ReadSoFar (front : List Char) (inside : Bool) (count : MarkCount) : Prop where
  alternates : Alternates front
  counted : count = countMarks front
  due : dueMark (marksOf front).length = if inside then spanEnd else spanBegin
  balance : count.begins = count.ends + if inside then 1 else 0

theorem readSoFar_nil : ReadSoFar [] false ⟨0, 0⟩ :=
  ⟨alternates_nil, rfl, rfl, rfl⟩

section Steps

variable {front : List Char} {inside : Bool} {count : MarkCount}

theorem ReadSoFar.plain {c : Char} (h : ReadSoFar front inside count) (hc : isMark c = false) :
    ReadSoFar (front ++ [c]) inside count := by
  have hne : c ≠ spanBegin ∧ c ≠ spanEnd := by simpa [isMark] using hc
  refine ⟨(alternates_concat_plain hc).mpr h.alternates, ?_, ?_, h.balance⟩
  · simp [h.counted, countMarks, List.count_append, hne.1, hne.2]
  · rw [← h.due]
    simp [marksOf, hc]

theorem dueMark_succ (n : Nat) :
    dueMark (n + 1) = if dueMark n = spanBegin then spanEnd else spanBegin := by
  have hne : spanEnd ≠ spanBegin := by decide
  by_cases heven : n % 2 = 0
  · simp [dueMark, heven, show (n + 1) % 2 = 1 by omega]
  · simp [dueMark, heven, hne, show (n + 1) % 2 = 0 by omega]

theorem ReadSoFar.begins (h : ReadSoFar front false count) :
    ReadSoFar (front ++ [spanBegin]) true { count with begins := count.begins + 1 } := by
  have hmark : isMark spanBegin = true := rfl
  have hne : spanBegin ≠ spanEnd := by decide
  have hdue : dueMark (marksOf front).length = spanBegin := h.due
  refine ⟨(alternates_concat_mark hmark).mpr ⟨h.alternates, hdue.symm⟩, ?_, ?_, ?_⟩
  · simp [h.counted, countMarks, List.count_append, hne]
  · rw [marksOf, List.filter_append, List.length_append]
    exact (dueMark_succ _).trans (by rw [← marksOf, hdue]; rfl)
  · simpa using h.balance

theorem ReadSoFar.ends (h : ReadSoFar front true count) :
    ReadSoFar (front ++ [spanEnd]) false { count with ends := count.ends + 1 } := by
  have hmark : isMark spanEnd = true := rfl
  have hne : spanEnd ≠ spanBegin := by decide
  have hdue : dueMark (marksOf front).length = spanEnd := h.due
  refine ⟨(alternates_concat_mark hmark).mpr ⟨h.alternates, hdue.symm⟩, ?_, ?_, ?_⟩
  · simp [h.counted, countMarks, List.count_append, hne]
  · rw [marksOf, List.filter_append, List.length_append]
    exact (dueMark_succ _).trans (by rw [← marksOf, hdue]; rfl)
  · simpa using h.balance

theorem ReadSoFar.breaksAt {c : Char} {rest : List Char} (h : ReadSoFar front inside count)
    (hc : isMark c = true) (hdue : c ≠ if inside then spanEnd else spanBegin) :
    BreaksAt (front ++ c :: rest) front.length := by
  apply breaksAt_length h.alternates
  rw [alternates_concat_mark hc, h.due]
  exact fun hboth => hdue hboth.2

end Steps

inductive Outcome (marked : String) (cs : List Char) :
    Except EnrichError (List Token × MarkCount) → Prop
  | read {tokens : List Token} (hspans : MarksSpans cs) :
      Outcome marked cs (.ok (tokens, countMarks cs))
  | misplaced {position : Nat} (hbreaks : BreaksAt cs position) :
      Outcome marked cs (.error (.misplacedSentinel position marked))
  | unbalanced {ends : Nat} (hends : EndsInSpan cs ends) :
      Outcome marked cs (.error (.unbalancedSentinels (ends + 1) ends))

theorem Outcome.bind {marked : String} {cs : List Char}
    {x : Except EnrichError (List Token × MarkCount)} (h : Outcome marked cs x)
    (front : List Token) :
    Outcome marked cs (x >>= fun (tokens, total) => .ok (front ++ tokens, total)) := by
  cases h with
  | read hspans => exact .read hspans
  | misplaced hbreaks => exact .misplaced hbreaks
  | unbalanced hends => exact .unbalanced hends

/-- Reading on from a position where nothing has been refused. -/
theorem outcome_readMarked {marked : String} {front rest segment : List Char} {inside : Bool}
    {count : MarkCount} (h : ReadSoFar front inside count) :
    Outcome marked (front ++ rest) (readMarked marked front.length inside segment count rest) := by
  induction rest generalizing front inside segment count with
  | nil =>
    have hcount := h.counted
    have hbalance := h.balance
    rw [List.append_nil]
    cases inside with
    | false =>
      rw [hcount] at hbalance ⊢
      exact .read ⟨h.alternates, hbalance⟩
    | true =>
      obtain ⟨begins, ends⟩ := count
      obtain rfl : begins = ends + 1 := hbalance
      exact .unbalanced ⟨h.alternates, hcount.symm⟩
  | cons c rest ih =>
    have hlonger : front ++ c :: rest = (front ++ [c]) ++ rest := by simp
    have hlength : front.length + 1 = (front ++ [c]).length := by simp
    have hne : spanEnd ≠ spanBegin := by decide
    by_cases hbegin : c = spanBegin
    · subst hbegin
      cases inside with
      | true =>
        rw [readMarked, if_pos rfl, if_pos rfl]
        exact .misplaced (h.breaksAt rfl hne.symm)
      | false =>
        rw [readMarked, if_pos rfl, if_neg (by simp), hlonger, hlength]
        exact (ih h.begins).bind _
    · by_cases hend : c = spanEnd
      · subst hend
        cases inside with
        | false =>
          rw [readMarked, if_neg hne, if_pos rfl, if_neg (by simp)]
          exact .misplaced (h.breaksAt rfl hne)
        | true =>
          rw [readMarked, if_neg hne, if_pos rfl, if_pos rfl, hlonger, hlength]
          exact (ih h.ends).bind _
      · have hplain : isMark c = false := by simp [isMark, hbegin, hend]
        rw [readMarked, if_neg hbegin, if_neg hend, hlonger, hlength]
        exact ih (h.plain hplain)

theorem outcome_emphasizeText (emphasizer : Emphasizer) {text : String}
    (htext : text.toList.any isMark = false) :
    Outcome (emphasizer text) (emphasizer text).toList (emphasizeText emphasizer text) := by
  rw [emphasizeText, if_neg (by simp [htext])]
  exact outcome_readMarked readSoFar_nil

/-- As many spans are ended as are begun in any text that is not refused. -/
theorem balanced_emphasizeText {emphasizer : Emphasizer} {text : String}
    {result : List Token × MarkCount} (h : emphasizeText emphasizer text = .ok result) :
    result.2.begins = result.2.ends := by
  cases htext : text.toList.any isMark with
  | true => simp [emphasizeText, htext] at h
  | false =>
    have houtcome := outcome_emphasizeText emphasizer htext
    rw [h] at houtcome
    cases houtcome with
    | read hspans => exact hspans.2

/-! ## Reconstruction -/

/-- The pieces of a marked text, with a tag in place of each mark. The texts among them are not
empty and hold no marks. -/
inductive Written : List Token → List Char → Prop
  | nil : Written [] []
  | text {content : String} {ts : List Token} {cs : List Char} (hcontent : content ≠ "")
      (hplain : content.toList.any isMark = false) (hrest : Written ts cs) :
      Written (.text content :: ts) (content.toList ++ cs)
  | spanBegin {ts : List Token} {cs : List Char} (hrest : Written ts cs) :
      Written (.inlineHtml spanOpenHtml :: ts) (spanBegin :: cs)
  | spanEnd {ts : List Token} {cs : List Char} (hrest : Written ts cs) :
      Written (.inlineHtml spanCloseHtml :: ts) (spanEnd :: cs)

/-- Whether the tokens are the pieces of a marked text, no two texts next to each other. -/
structure Reads (tokens : List Token) (cs : List Char) : Prop where
  written : Written tokens cs
  apart : tokens.IsChain fun t u => ¬ (t.kind = .text ∧ u.kind = .text)

theorem reads_nil : Reads [] [] :=
  ⟨.nil, .nil⟩

theorem Reads.textLeaf_append {ts : List Token} {cs ds : List Char} (h : Reads ts ds)
    (hcs : cs.any isMark = false) (hhead : ∀ t ∈ ts.head?, t.kind ≠ .text) :
    Reads (textLeaf cs ++ ts) (cs ++ ds) := by
  unfold textLeaf
  split
  · rename_i hempty
    rw [List.isEmpty_iff.mp hempty]
    exact h
  · rename_i hempty
    have hcontent : String.ofList cs ≠ "" := by
      simpa [← String.toList_inj] using hempty
    have htext := Written.text hcontent (by simpa using hcs) h.written
    exact ⟨by simpa using htext,
      List.isChain_cons.mpr ⟨fun u hu hboth => hhead u hu hboth.2, h.apart⟩⟩

theorem Reads.tag_cons {t : Token} {ts : List Token} {cs : List Char} {c : Char} (h : Reads ts cs)
    (ht : t.kind ≠ .text) (hwritten : Written (t :: ts) (c :: cs)) : Reads (t :: ts) (c :: cs) :=
  ⟨hwritten, List.isChain_cons.mpr ⟨fun _ _ hboth => ht hboth.1, h.apart⟩⟩

theorem Reads.span {ts : List Token} {cs ds : List Char} (h : Reads ts ds)
    (hcs : cs.any isMark = false) :
    Reads (spanTokens cs ++ ts) (spanBegin :: cs ++ spanEnd :: ds) := by
  have hclose : Reads (.inlineHtml spanCloseHtml :: ts) (spanEnd :: ds) :=
    h.tag_cons nofun (.spanEnd h.written)
  have hbody := hclose.textLeaf_append hcs (by simp [Token.inlineHtml, Token.ofKind])
  have hopen := hbody.tag_cons (t := .inlineHtml spanOpenHtml) nofun (.spanBegin hbody.written)
  simpa [spanTokens] using hopen

/-- What is read from a position on. Within a span, the tag that opens it has yet to come. -/
theorem reads_readMarked {marked : String} {position : Nat} {inside : Bool}
    {segment rest : List Char} {count : MarkCount} {result : List Token × MarkCount}
    (hsegment : segment.any isMark = false)
    (h : readMarked marked position inside segment count rest = .ok result) :
    Reads result.1 ((if inside then [spanBegin] else []) ++ segment.reverse ++ rest) ∧
      (inside = true → ∀ t ∈ result.1.head?, t.kind ≠ .text) := by
  have hreverse : segment.reverse.any isMark = false := by rwa [List.any_reverse]
  induction rest generalizing position inside segment count result with
  | nil =>
    simp only [readMarked] at h
    split at h
    · simp at h
    · rename_i hinside
      obtain rfl := Except.ok.inj h
      have hleaf := reads_nil.textLeaf_append hreverse (by simp)
      exact ⟨by simpa [hinside] using hleaf, fun hopen => absurd hopen hinside⟩
  | cons c rest ih =>
    obtain ⟨rfl, rfl, others, hothers, rfl⟩ | ⟨rfl, rfl, others, hothers, rfl⟩ | ⟨hc, hnext⟩ :=
      readMarked_cons_cases h
    · obtain ⟨hrest, htag⟩ := ih rfl hothers rfl
      exact ⟨by simpa using hrest.textLeaf_append hreverse (htag rfl), by simp⟩
    · obtain ⟨hrest, -⟩ := ih rfl hothers rfl
      refine ⟨by simpa using hrest.span hreverse, fun _ => ?_⟩
      simp [spanTokens, Token.inlineHtml, Token.ofKind]
    · have hlonger : (c :: segment).any isMark = false := by simp [hc, hsegment]
      simpa using ih hlonger hnext (by rwa [List.any_reverse])

theorem reads_emphasizeText {emphasizer : Emphasizer} {text : String}
    {result : List Token × MarkCount} (h : emphasizeText emphasizer text = .ok result) :
    Reads result.1 (emphasizer text).toList := by
  unfold emphasizeText at h
  split at h
  · simp at h
  · simpa using (reads_readMarked rfl h).1

/-! ## The reading of a text -/

/-- A text without marks is emphasized exactly if the marks put into it alternate and are balanced.
The pieces, with a mark written for each tag, are then the marked text, none of them an empty text
and no two texts next to each other. Otherwise the error tells the position of the first mark that
breaks the alternation, or that the text ends within a span. -/
theorem emphasizeText_markup (emphasizer : Emphasizer) (text : String)
    (htext : text.toList.any isMark = false) :
    ((∃ result, emphasizeText emphasizer text = .ok result) ↔
        MarksSpans (emphasizer text).toList) ∧
      (∀ tokens count, emphasizeText emphasizer text = .ok (tokens, count) →
        Reads tokens (emphasizer text).toList ∧ count = countMarks (emphasizer text).toList) ∧
      ∀ e, emphasizeText emphasizer text = .error e ↔
        (∃ position, BreaksAt (emphasizer text).toList position ∧
            e = .misplacedSentinel position (emphasizer text)) ∨
          ∃ ends, EndsInSpan (emphasizer text).toList ends ∧
            e = .unbalancedSentinels (ends + 1) ends := by
  have houtcome := outcome_emphasizeText emphasizer htext
  have hreads : ∀ result, emphasizeText emphasizer text = .ok result →
      Reads result.1 (emphasizer text).toList := fun _ h => reads_emphasizeText h
  generalize emphasizeText emphasizer text = x at houtcome hreads
  cases houtcome with
  | read hspans =>
    refine ⟨by simpa using hspans, ?_, fun e => ⟨nofun, ?_⟩⟩
    · rintro tokens count ⟨⟩
      exact ⟨hreads _ rfl, rfl⟩
    · rintro (⟨position, hbreaks, -⟩ | ⟨ends, hends, -⟩)
      · exact absurd hspans.1 hbreaks.not_alternates
      · exact absurd hspans (hends.not_marksSpans)
  | @misplaced position hbreaks =>
    refine ⟨⟨nofun, fun h => absurd h.1 hbreaks.not_alternates⟩, nofun, fun e => ⟨?_, ?_⟩⟩
    · rintro ⟨⟩
      exact .inl ⟨position, hbreaks, rfl⟩
    · rintro (⟨other, hother, rfl⟩ | ⟨ends, hends, -⟩)
      · rw [hbreaks.unique hother]
      · exact absurd hends.1 hbreaks.not_alternates
  | @unbalanced ends hends =>
    refine ⟨⟨nofun, fun h => absurd h hends.not_marksSpans⟩, nofun, fun e => ⟨?_, ?_⟩⟩
    · rintro ⟨⟩
      exact .inr ⟨ends, hends, rfl⟩
    · rintro (⟨position, hbreaks, -⟩ | ⟨other, hother, rfl⟩)
      · exact absurd hends.1 hbreaks.not_alternates
      · obtain ⟨-, rfl⟩ := MarkCount.mk.inj (hends.2.symm.trans hother.2)
        rfl

theorem emphasizeText_markup_empty :
    "ab".toList.any isMark = false ∧
      emphasizeText (fun _ => "\ue000\ue001a\ue000b\ue001") "ab" =
        .ok ([.inlineHtml spanOpenHtml, .inlineHtml spanCloseHtml, .text "a",
          .inlineHtml spanOpenHtml, .text "b", .inlineHtml spanCloseHtml], ⟨2, 2⟩) ∧
      MarksSpans "\ue000\ue001a\ue000b\ue001".toList := by
  have hplain : "ab".toList.any isMark = false := by decide
  have hresult : emphasizeText (fun _ => "\ue000\ue001a\ue000b\ue001") "ab" =
      .ok ([.inlineHtml spanOpenHtml, .inlineHtml spanCloseHtml, .text "a",
        .inlineHtml spanOpenHtml, .text "b", .inlineHtml spanCloseHtml], ⟨2, 2⟩) := by
    rfl
  exact ⟨hplain, hresult, (emphasizeText_markup _ _ hplain).1.mp ⟨_, hresult⟩⟩

end Folio.Emphasis
