import Folio.Proofs.Anchor.Numerals

/-!
# Numerals by octets

A numeral can be looked for by a scanner that goes over the octets of a text by offsets and never
looks at characters. The scanner cuts the text between characters only, and what it cuts out is the
numeral that reading the characters finds.
-/

namespace Folio.Numeral

open Text

/-! ## The scanner -/

def isDigitOctet (b : UInt8) : Bool :=
  48 ≤ b && b ≤ 57

theorem lt_length_of_any {test : UInt8 → Bool} {bs : List UInt8} {i : Nat}
    (h : bs[i]?.any test = true) : i < bs.length := by
  by_contra hge
  rw [List.getElem?_eq_none (Nat.le_of_not_lt hge)] at h
  cases h

/-- The offset behind all octets from an offset on that pass a test. -/
def passed (test : UInt8 → Bool) (bs : List UInt8) (i : Nat) : Nat :=
  if h : bs[i]?.any test = true then passed test bs (i + 1) else i
termination_by bs.length - i
decreasing_by
  have hlt := lt_length_of_any h
  omega

theorem passed_eq (test : UInt8 → Bool) (bs : List UInt8) (i : Nat) :
    passed test bs i = i + ((bs.drop i).takeWhile test).length := by
  fun_induction passed test bs i with
  | case1 i hpass ih =>
    have hlt : i < bs.length := lt_length_of_any hpass
    have htest : test bs[i] = true := by simpa [hlt] using hpass
    rw [ih, List.drop_eq_getElem_cons hlt, List.takeWhile_cons_of_pos htest, List.length_cons]
    omega
  | case2 i hstop =>
    have hnone : (bs.drop i).takeWhile test = [] := by
      cases hdrop : bs.drop i with
      | nil => rfl
      | cons b behind =>
        rw [← List.head?_drop, hdrop] at hstop
        exact List.takeWhile_cons_of_neg (by simpa using hstop)
    rw [hnone, List.length_nil, Nat.add_zero]

theorem le_passed (test : UInt8 → Bool) (bs : List UInt8) (i : Nat) : i ≤ passed test bs i := by
  rw [passed_eq]
  omega

/-- The offset behind all groups of a dot and digits from an offset on. -/
def groupsEnd (bs : List UInt8) (i : Nat) : Nat :=
  if h : bs[i]?.any (· == 46) = true ∧ bs[i + 1]?.any isDigitOctet = true then
    groupsEnd bs (passed isDigitOctet bs (i + 1))
  else i
termination_by bs.length - i
decreasing_by
  have hlt := lt_length_of_any h.1
  have hle := le_passed isDigitOctet bs (i + 1)
  omega

def numeralEnd (bs : List UInt8) (start : Nat) : Nat :=
  groupsEnd bs (passed isDigitOctet bs start)

def firstSpan? (bs : List UInt8) : Option (Nat × Nat) :=
  (bs.findIdx? isDigitOctet).map fun start => (start, numeralEnd bs start)

/-- The offsets of the numeral of the first figure from an offset on. Behind a mention without a
number the search goes on at the next octet. -/
def figureSpanFrom? (bs : List UInt8) (i : Nat) : Option (Nat × Nat) :=
  if i + figureWord.length ≤ bs.length then
    match windowOffset? (octets figureWord) (bs.drop i) with
    | none => none
    | some found =>
      let cursor := passed (· == 32) bs (i + found + figureWord.length)
      if bs[cursor]?.any isDigitOctet then some (cursor, numeralEnd bs cursor)
      else figureSpanFrom? bs (i + found + 1)
  else
    none
termination_by bs.length - i
decreasing_by
  have hsix : figureWord.length = 6 := rfl
  omega

/-! ## Offsets of characters -/

theorem agrees_isDigit : Agrees isDigitOctet isDigit := by
  refine agrees_of_ascii ?_ ?_ ?_
  · intro c hc
    have hall : ∀ n < 128, isDigitOctet (octet (Char.ofNat n)) = isDigit (Char.ofNat n) := by decide
    simpa using hall c.toNat hc
  · intro b hb
    have hlarge : ¬ b ≤ 57 := by
      rw [UInt8.le_iff_toNat_le, Nat.not_le]
      exact Nat.lt_of_lt_of_le (by decide) hb
    simp [isDigitOctet, hlarge]
  · intro c hc
    by_contra hdigit
    exact absurd (ascii_of_isDigit (by simpa using hdigit)) (Nat.not_lt.mpr hc)

theorem agrees_octet {d : Char} (hd : d.toNat < 128) : Agrees (· == octet d) (· == d) := by
  refine agrees_of_ascii ?_ ?_ ?_
  · intro c hc
    rw [Bool.eq_iff_iff, beq_iff_eq, beq_iff_eq, octet_inj hc hd]
  · intro b hb
    rw [beq_eq_false_iff_ne]
    rintro rfl
    rw [toNat_octet hd] at hb
    omega
  · intro c hc
    rw [beq_eq_false_iff_ne]
    rintro rfl
    omega

theorem agrees_blank : Agrees (· == 32) (· == ' ') := by
  have hblank : octet ' ' = 32 := by decide
  exact hblank ▸ agrees_octet (d := ' ') (by decide)

theorem agrees_dot : Agrees (· == 46) (· == '.') := by
  have hdot : octet '.' = 46 := by decide
  exact hdot ▸ agrees_octet (d := '.') (by decide)

section
variable {test : UInt8 → Bool} {holds : Char → Bool}

theorem any_octets (h : Agrees test holds) (front rest : List Char) :
    (octets (front ++ rest))[(octets front).length]?.any test = rest.head?.any holds := by
  rw [← List.head?_drop, drop_octets, h.head?]

theorem passed_octets (h : Agrees test holds) (front rest : List Char) :
    passed test (octets (front ++ rest)) (octets front).length =
      (octets (front ++ rest.takeWhile holds)).length := by
  rw [passed_eq, drop_octets, h.takeWhile, octets_append, List.length_append]

end

/-! ## The end of a numeral -/

theorem leading_eq (cs : List Char) :
    leading cs = cs.takeWhile isDigit ++ leading (cs.dropWhile isDigit) := by
  induction cs with
  | nil => rfl
  | cons c rest ih =>
    cases hc : isDigit c with
    | true =>
      rw [leading_cons hc, ih, List.takeWhile_cons_of_pos hc, List.dropWhile_cons_of_pos hc,
        List.cons_append]
    | false =>
      rw [List.takeWhile_cons_of_neg (by simp [hc]), List.dropWhile_cons_of_neg (by simp [hc]),
        List.nil_append]

theorem leading_dot {rest : List Char} (h : rest.head?.any isDigit = true) :
    leading ('.' :: rest) = '.' :: leading rest := by
  cases rest with
  | nil => simp at h
  | cons d rest =>
    have hd : isDigit d = true := by simpa using h
    have hdot : isDigit '.' = false := by decide
    simp [leading, hdot, hd]

theorem leading_other {c : Char} {rest : List Char} (hc : isDigit c = false)
    (h : c = '.' → rest.head?.any isDigit = false) : leading (c :: rest) = [] := by
  cases rest with
  | nil => simp [leading, hc]
  | cons d rest =>
    have hstop : ¬ (c = '.' ∧ isDigit d = true) := by
      rintro ⟨rfl, hd⟩
      simp [hd] at h
    simp [leading, hc, hstop]

theorem head?_dropWhile_isDigit (cs : List Char) :
    (cs.dropWhile isDigit).head?.any isDigit = false := by
  have hnot := List.head?_dropWhile_not isDigit cs
  cases hdrop : cs.dropWhile isDigit with
  | nil => rfl
  | cons d _ => simpa [hdrop] using hnot

theorem groupsEnd_octets (front rest : List Char) (hrest : rest.head?.any isDigit = false) :
    groupsEnd (octets (front ++ rest)) (octets front).length =
      (octets (front ++ leading rest)).length := by
  rw [groupsEnd, any_octets agrees_dot]
  cases hcase : rest with
  | nil => simp [leading]
  | cons c more =>
    have hc : isDigit c = false := by simpa [hcase] using hrest
    by_cases hdot : c = '.'
    · subst hdot
      have hnext : (octets front).length + 1 = (octets (front ++ ['.'])).length := by
        rw [octets_append, List.length_append]
        rfl
      rw [hnext, List.append_cons, any_octets agrees_isDigit, passed_octets agrees_isDigit]
      by_cases hdigit : more.head?.any isDigit = true
      · -- The search goes on behind the digits of the group.
        have hgroups := groupsEnd_octets (front ++ ['.'] ++ more.takeWhile isDigit)
          (more.dropWhile isDigit) (head?_dropWhile_isDigit more)
        rw [List.append_assoc _ (more.takeWhile isDigit), List.takeWhile_append_dropWhile,
          List.append_assoc _ (more.takeWhile isDigit), ← leading_eq] at hgroups
        rw [leading_dot hdigit, List.append_cons front '.' (leading more), ← hgroups]
        simp [hdigit]
      · have hstop : more.head?.any isDigit = false := by simpa using hdigit
        rw [leading_other hc fun _ => hstop]
        simp [hstop]
    · rw [leading_other hc fun h => absurd h hdot]
      simp [hdot]
termination_by rest.length
decreasing_by
  have hle := List.length_dropWhile_le isDigit more
  simp only [hcase, List.length_cons]
  omega

theorem numeralEnd_octets (front rest : List Char) :
    numeralEnd (octets (front ++ rest)) (octets front).length =
      (octets (front ++ leading rest)).length := by
  have hgroups := groupsEnd_octets (front ++ rest.takeWhile isDigit) (rest.dropWhile isDigit)
    (head?_dropWhile_isDigit rest)
  rw [List.append_assoc, List.takeWhile_append_dropWhile, List.append_assoc, ← leading_eq] at hgroups
  rw [numeralEnd, passed_octets agrees_isDigit, hgroups]

/-! ## Spans -/

/-- Whether two offsets are those where a part of a text begins and ends. -/
def Spans (cs n : List Char) (span : Nat × Nat) : Prop :=
  ∃ before behind, cs = before ++ (n ++ behind) ∧
    span = ((octets before).length, (octets (before ++ n)).length)

theorem spans_numeral (before : List Char) (rest : List Char) :
    Spans (before ++ rest) (leading rest) ((octets before).length,
      numeralEnd (octets (before ++ rest)) (octets before).length) := by
  obtain ⟨behind, hbehind⟩ := leading_prefix rest
  exact ⟨before, behind, by rw [hbehind], by rw [numeralEnd_octets]⟩

theorem findIdx?_octets {before : List Char} (hbefore : ∀ c ∈ before, isDigit c = false) {d : Char}
    (hd : isDigit d = true) (rest : List Char) :
    (octets (before ++ d :: rest)).findIdx? isDigitOctet = some (octets before).length := by
  have hnone : (octets before).findIdx? isDigitOctet = none := by
    rw [List.findIdx?_eq_none_iff]
    intro b hb
    obtain ⟨c, hc, hbc⟩ := List.mem_flatMap.mp hb
    rw [agrees_isDigit c b hbc, hbefore c hc]
  obtain ⟨b, bs, hoctets⟩ := exists_octet d
  have hb : isDigitOctet b = true := (agrees_isDigit d b (by simp [hoctets])).trans hd
  rw [octets_append, List.findIdx?_append, hnone, octets_cons, hoctets, List.cons_append,
    List.findIdx?_cons, if_pos hb]
  simp

theorem firstSpan?_octets (cs : List Char) :
    Option.Rel (Spans cs) (first? cs) (firstSpan? (octets cs)) := by
  by_cases hdigit : ∃ c ∈ cs, isDigit c = true
  · obtain ⟨before, d, rest, rfl, hbefore, hd, hdrop⟩ := exists_first_digit hdigit
    rw [first?, hdrop, firstSpan?, findIdx?_octets hbefore hd]
    exact .some (spans_numeral before (d :: rest))
  · have hnone : ∀ c ∈ cs, isDigit c = false := by simpa using hdigit
    have hspan : firstSpan? (octets cs) = none := by
      rw [firstSpan?, Option.map_eq_none_iff, List.findIdx?_eq_none_iff]
      intro b hb
      obtain ⟨c, hc, hbc⟩ := List.mem_flatMap.mp hb
      rw [agrees_isDigit c b hbc, hnone c hc]
    rw [first?_eq_none_iff.mpr hnone, hspan]
    exact .none

/-! ## Figures -/

theorem allAscii_figureWord : AllAscii figureWord := by
  simp [AllAscii, figureWord]

theorem octets_figureWord_ne_nil : octets figureWord ≠ [] := by
  decide

theorem startsWith_of_mentions {cs : List Char} (h : Mentions cs) :
    startsWithIgnoringCase (octets figureWord) (octets cs) = true := by
  obtain ⟨word, blanks, d, rest, rfl, hword, -, -⟩ := h
  rw [startsWithIgnoringCase_octets allAscii_figureWord, ← length_of_eqIgnoringCase hword,
    List.take_left]
  exact hword

theorem figure?_append {skipped rest : List Char}
    (h : ∀ front tail, skipped = front ++ tail → tail ≠ [] → ¬ Mentions (tail ++ rest)) :
    figure? (skipped ++ rest) = figure? rest := by
  induction skipped with
  | nil => rfl
  | cons c skipped ih =>
    have hhere : figureHere? (c :: (skipped ++ rest)) = none :=
      figureHere?_eq_none_iff.mpr (h [] (c :: skipped) rfl (by simp))
    rw [List.cons_append, figure?, hhere, Option.none_or]
    exact ih fun front tail hsplit hne => h (c :: front) tail (by rw [hsplit, List.cons_append]) hne

/-- No figure is mentioned before the first window that is the word for one. -/
theorem figure?_window {skipped rest : List Char}
    (h : ∀ j < (octets skipped).length,
      startsWithIgnoringCase (octets figureWord) ((octets (skipped ++ rest)).drop j) = false) :
    figure? (skipped ++ rest) = figure? rest := by
  apply figure?_append
  rintro front tail rfl hne hmentions
  have hlt : (octets front).length < (octets (front ++ tail)).length := by
    obtain ⟨c, tail, rfl⟩ := List.exists_cons_of_ne_nil hne
    obtain ⟨b, bs, hoctets⟩ := exists_octet c
    simp [hoctets]
  have hwindow := h _ hlt
  rw [List.append_assoc, drop_octets, startsWith_of_mentions hmentions] at hwindow
  cases hwindow

theorem exists_word_of_window {cs : List Char} {found : Nat}
    (h : windowOffset? (octets figureWord) (octets cs) = some found) :
    ∃ skipped c word after, cs = skipped ++ c :: (word ++ after) ∧
      (octets skipped).length = found ∧ eqIgnoringCase (c :: word) figureWord = true ∧
      figure? cs = figure? (c :: (word ++ after)) := by
  obtain ⟨hstarts, hearlier⟩ := (windowOffset?_eq_some_iff octets_figureWord_ne_nil).mp h
  obtain ⟨skipped, here, rfl, rfl, hword⟩ :=
    exists_split_of_window allAscii_figureWord (by decide) hstarts
  have hsix := length_of_eqIgnoringCase hword
  obtain ⟨c, word, htake⟩ := List.exists_cons_of_length_pos (l := here.take figureWord.length)
    (by rw [hsix]; decide)
  have hhere : here = c :: (word ++ here.drop figureWord.length) := by
    rw [← List.cons_append, ← htake, List.take_append_drop]
  refine ⟨skipped, c, word, here.drop figureWord.length, by rw [← hhere], rfl, htake ▸ hword, ?_⟩
  rw [← hhere, figure?_window hearlier]

theorem figure?_eq_none_of_window {cs : List Char}
    (h : windowOffset? (octets figureWord) (octets cs) = none) : figure? cs = none := by
  rw [windowOffset?_eq_none_iff octets_figureWord_ne_nil] at h
  rw [figure?_eq_none_iff]
  rintro front rest rfl hmentions
  have hwindow := h (octets front).length
  rw [drop_octets, startsWith_of_mentions hmentions] at hwindow
  cases hwindow

theorem figure?_eq_none_of_short {cs : List Char} (h : (octets cs).length < figureWord.length) :
    figure? cs = none := by
  apply figure?_eq_none_of_window
  rw [windowOffset?_eq_none_iff octets_figureWord_ne_nil]
  intro i
  by_contra hstarts
  have hlength := length_le_of_startsWith (by simpa using hstarts)
  rw [length_octets_ascii allAscii_figureWord, List.length_drop] at hlength
  omega

theorem figure?_word {c : Char} {word : List Char} (after : List Char)
    (hword : eqIgnoringCase (c :: word) figureWord = true) :
    figure? (c :: (word ++ after)) =
      if (after.dropWhile (· == ' ')).head?.any isDigit = true then
        some (leading (after.dropWhile (· == ' ')))
      else figure? (word ++ after) := by
  rw [figure?, figureHere?, ← length_of_eqIgnoringCase hword, ← List.cons_append, List.take_left,
    List.drop_left, if_pos hword]
  cases after.dropWhile (· == ' ') with
  | nil => rfl
  | cons d rest => cases hd : isDigit d <;> simp [hd]

theorem figureSpanFrom?_octets (front rest : List Char) :
    Option.Rel (Spans (front ++ rest)) (figure? rest)
      (figureSpanFrom? (octets (front ++ rest)) (octets front).length) := by
  rw [figureSpanFrom?, drop_octets]
  split
  · cases hwindow : windowOffset? (octets figureWord) (octets rest) with
    | none =>
      rw [figure?_eq_none_of_window hwindow]
      exact .none
    | some found =>
      obtain ⟨skipped, c, word, after, hrest, rfl, hword, hfigure⟩ := exists_word_of_window hwindow
      have hascii := AllAscii.of_eqIgnoringCase allAscii_figureWord hword
      have hcursor : (octets front).length + (octets skipped).length + figureWord.length =
          (octets (front ++ skipped ++ c :: word)).length := by
        rw [octets_append, octets_append, List.length_append, List.length_append,
          length_octets_ascii hascii, length_of_eqIgnoringCase hword]
      have hnext : (octets front).length + (octets skipped).length + 1 =
          (octets (front ++ skipped ++ [c])).length := by
        rw [octets_append, octets_append, List.length_append, List.length_append, octets_cons,
          utf8EncodeChar_ascii (hascii c (by simp))]
        rfl
      have hword' : front ++ rest = front ++ skipped ++ c :: word ++ after := by simp [hrest]
      have hblanks : front ++ rest = front ++ skipped ++ c :: word ++ after.takeWhile (· == ' ') ++
          after.dropWhile (· == ' ') := by
        rw [hword', List.append_assoc _ (after.takeWhile _), List.takeWhile_append_dropWhile]
      have hpassed : passed (· == 32) (octets (front ++ rest))
          ((octets front).length + (octets skipped).length + figureWord.length) =
          (octets (front ++ skipped ++ c :: word ++ after.takeWhile (· == ' '))).length := by
        rw [hcursor, hword', passed_octets agrees_blank]
      simp only [hpassed, hfigure, figure?_word after hword]
      rw [hblanks, any_octets agrees_isDigit]
      split
      · exact .some (spans_numeral _ _)
      · have hlater := figureSpanFrom?_octets (front ++ skipped ++ [c]) (word ++ after)
        rw [hnext, ← hblanks]
        simpa [hrest] using hlater
  · rename_i hshort
    have hnone : figure? rest = none := by
      apply figure?_eq_none_of_short
      rw [octets_append, List.length_append] at hshort
      omega
    rw [hnone]
    exact .none
termination_by rest.length
decreasing_by
  simp only [hrest, List.length_append, List.length_cons]
  omega

/-! ## Texts -/

/-- Whether two offsets are positions of a text between which the characters stand. -/
structure Delimits (text : String) (n : List Char) (span : Nat × Nat) : Prop where
  isValid_start : String.Pos.Raw.IsValid text ⟨span.1⟩
  isValid_end : String.Pos.Raw.IsValid text ⟨span.2⟩
  le : span.1 ≤ span.2
  slice : ((octets text.toList).take span.2).drop span.1 = octets n

theorem Spans.delimits {text : String} {n : List Char} {span : Nat × Nat}
    (h : Spans text.toList n span) : Delimits text n span := by
  obtain ⟨before, behind, htext, rfl⟩ := h
  have hofList : text = String.ofList (before ++ (n ++ behind)) := by
    rw [← htext, String.ofList_toList]
  have hassoc : before ++ (n ++ behind) = before ++ n ++ behind := (List.append_assoc ..).symm
  refine ⟨hofList ▸ isValid_offset before (n ++ behind), ?_, ?_, ?_⟩
  · rw [hofList, hassoc]
    exact isValid_offset (before ++ n) behind
  · simp
  · rw [htext, hassoc, take_octets, drop_octets]

theorem rel_mono {α β : Type} {r s : α → β → Prop} (h : ∀ a b, r a b → s a b) {x : Option α}
    {y : Option β} (hr : Option.Rel r x y) : Option.Rel s x y := by
  cases hr with
  | none => exact .none
  | some hab => exact .some (h _ _ hab)

/-- A text without digits has no numeral, and else the first is the leftmost longest. The numeral of
a figure is the longest behind the leftmost mention by number, and the anchor is that of the whole
caption exactly if there is none. The scanner finds both, and cuts between characters only. -/
theorem numerals_scanned (text : String) :
    (first? text.toList = none ↔ ∀ c ∈ text.toList, isDigit c = false) ∧
    (∀ n, first? text.toList = some n ↔ IsFirst text.toList n) ∧
    Option.Rel (Delimits text) (first? text.toList) (firstSpan? (octets text.toList)) ∧
    (∀ n, figure? text.toList = some n ↔ IsFirstMention text.toList n) ∧
    Option.Rel (Delimits text) (figure? text.toList) (figureSpanFrom? (octets text.toList) 0) ∧
    (∀ n, IsFirstMention text.toList n → Anchor.ofFigure text =
      ⟨Anchor.figureStem ++ String.ofList (Anchor.normalize n)⟩) ∧
    (Anchor.ofFigure text =
        ⟨Anchor.figureStem ++ String.ofList (Anchor.normalize text.toList)⟩ ↔
      ∀ front rest, text.toList = front ++ rest → ¬ Mentions rest) := by
  refine ⟨first?_eq_none_iff, fun n => first?_eq_some_iff, ?_, fun n => figure?_eq_some_iff, ?_, ?_, ?_⟩
  · exact rel_mono (fun _ _ => Spans.delimits) (firstSpan?_octets text.toList)
  · exact rel_mono (fun _ _ => Spans.delimits) (figureSpanFrom?_octets [] text.toList)
  · intro n hn
    rw [Anchor.ofFigure, figure?_eq_some_iff.mpr hn, Option.getD_some]
  · rw [Anchor.ofFigure_eq_whole_iff, figure?_eq_none_iff]

/-- A mention without a number is passed over, and so is a number that no figure is mentioned by. -/
theorem numerals_scanned_later :
    IsFirst "Figure é, 3.: FIGURE  2.10.".toList ['3'] ∧
    IsFirstMention "Figure é, 3.: FIGURE  2.10.".toList ['2', '.', '1', '0'] ∧
    Anchor.ofFigure "Figure é, 3.: FIGURE  2.10." = ⟨"figure_2_10"⟩ := by
  obtain ⟨-, hfirst, -, hfigure, -, hanchor, -⟩ := numerals_scanned "Figure é, 3.: FIGURE  2.10."
  have hmention := (hfigure ['2', '.', '1', '0']).mp (by decide)
  exact ⟨(hfirst ['3']).mp (by decide), hmention, (hanchor _ hmention).trans (by decide)⟩

end Folio.Numeral
