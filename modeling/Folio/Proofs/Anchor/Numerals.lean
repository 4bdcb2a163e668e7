import Folio.Proofs.Anchor.Section
import Folio.Proofs.Text.Octets

/-!
# Numerals in a text

A dotted numeral is defined here by its grammar. The numeral that is read where a text begins with a
digit is the longest that stands there, so the first numeral of a text is the leftmost longest one.
The numeral of a figure stands behind the first mention of a figure by number; a mention without a
number is passed over, and a caption without any keeps its whole text as the anchor.
-/

namespace Folio

open Text

namespace Numeral

/-! ## The grammar -/

/-- Digits, and then any number of groups of a dot and digits. -/
inductive IsNumeral : List Char → Prop
  | digits {ds : List Char} (hne : ds ≠ []) (hds : ∀ d ∈ ds, isDigit d = true) : IsNumeral ds
  | group {n ds : List Char} (h : IsNumeral n) (hne : ds ≠ []) (hds : ∀ d ∈ ds, isDigit d = true) :
      IsNumeral (n ++ '.' :: ds)

/-- Whether all characters are digits, or dots with a digit right behind them. -/
def IsRun : List Char → Prop
  | [] => True
  | [c] => isDigit c = true
  | c :: d :: rest => (isDigit c = true ∨ c = '.' ∧ isDigit d = true) ∧ IsRun (d :: rest)

theorem IsRun.tail {c : Char} {r : List Char} (h : IsRun (c :: r)) : IsRun r := by
  cases r with
  | nil => trivial
  | cons d r => exact h.2

theorem IsRun.cons_digit {c : Char} {r : List Char} (hc : isDigit c = true) (h : IsRun r) :
    IsRun (c :: r) := by
  cases r with
  | nil => exact hc
  | cons d r => exact ⟨.inl hc, h⟩

theorem isRun_digits {ds : List Char} (h : ∀ d ∈ ds, isDigit d = true) : IsRun ds := by
  induction ds with
  | nil => trivial
  | cons d ds ih => exact .cons_digit (h d (by simp)) (ih fun e he => h e (by simp [he]))

theorem IsRun.append {r s : List Char} (hr : IsRun r) (hs : IsRun s) : IsRun (r ++ s) := by
  induction r with
  | nil => exact hs
  | cons c r ih =>
    cases r with
    | nil => exact .cons_digit hr hs
    | cons d r => exact ⟨hr.1, ih hr.2⟩

theorem IsNumeral.append_run {n r : List Char} (h : IsNumeral n) (hr : IsRun r) :
    IsNumeral (n ++ r) := by
  have hdigit : ∀ {m : List Char} {c : Char}, IsNumeral m → isDigit c = true →
      IsNumeral (m ++ [c]) := by
    intro m c hm hc
    cases hm with
    | digits hne hds =>
      refine .digits (by simp) ?_
      rw [List.forall_mem_append]
      exact ⟨hds, by simpa using hc⟩
    | @group m ds hm hne hds =>
      rw [List.append_assoc, List.cons_append]
      refine .group hm (by simp) ?_
      rw [List.forall_mem_append]
      exact ⟨hds, by simpa using hc⟩
  match r with
  | [] => simpa using h
  | [c] => exact hdigit h hr
  | c :: d :: rest =>
    rcases hr.1 with hc | ⟨rfl, hd⟩
    · have hrest := IsNumeral.append_run (hdigit h hc) hr.2
      simpa using hrest
    · have hgroup : IsNumeral (n ++ ['.', d]) := .group h (by simp) (by simpa using hd)
      have hrest := hgroup.append_run hr.2.tail
      simpa using hrest

theorem isNumeral_iff {n : List Char} :
    IsNumeral n ↔ IsRun n ∧ n.head?.any isDigit = true := by
  constructor
  · intro h
    induction h with
    | @digits ds hne hds =>
      obtain ⟨d, ds, rfl⟩ := List.exists_cons_of_ne_nil hne
      exact ⟨isRun_digits hds, by simpa using hds d (by simp)⟩
    | @group n ds _ hne hds ih =>
      obtain ⟨hrun, hfirst⟩ := ih
      obtain ⟨d, ds, rfl⟩ := List.exists_cons_of_ne_nil hne
      have hdots : IsRun ('.' :: d :: ds) := ⟨.inr ⟨rfl, hds d (by simp)⟩, isRun_digits hds⟩
      cases n with
      | nil => simp at hfirst
      | cons c n => exact ⟨hrun.append hdots, by simpa using hfirst⟩
  · rintro ⟨hrun, hfirst⟩
    cases n with
    | nil => simp at hfirst
    | cons c r =>
      have hc : IsNumeral [c] := .digits (by simp) (by simpa using hfirst)
      exact hc.append_run hrun.tail

/-! ## The longest numeral -/

theorem leading_prefix (cs : List Char) : leading cs <+: cs := by
  fun_induction leading cs with
  | case1 => exact List.nil_prefix
  | case2 c _ => exact List.prefix_refl [c]
  | case3 c _ => exact List.nil_prefix
  | case4 c d rest _ ih => exact List.cons_prefix_cons.mpr ⟨rfl, ih⟩
  | case5 c d rest _ _ ih => exact List.cons_prefix_cons.mpr ⟨rfl, ih⟩
  | case6 c d rest _ _ => exact List.nil_prefix

theorem leading_cons {c : Char} (hc : isDigit c = true) (rest : List Char) :
    leading (c :: rest) = c :: leading rest := by
  cases rest <;> simp [leading, hc]

theorem isRun_leading (cs : List Char) : IsRun (leading cs) := by
  fun_induction leading cs with
  | case1 => trivial
  | case2 c hc => exact hc
  | case3 c _ => trivial
  | case4 c d rest hc ih => exact .cons_digit hc ih
  | case5 c d rest _ hdot ih =>
    simp only [Bool.and_eq_true, beq_iff_eq] at hdot
    rw [leading_cons hdot.2] at ih ⊢
    exact ⟨.inr hdot, ih⟩
  | case6 c d rest _ _ => trivial

theorem length_le_leading {r cs : List Char} (hbegins : r <+: cs) (hr : IsRun r) :
    r.length ≤ (leading cs).length := by
  induction cs generalizing r with
  | nil => simp [List.prefix_nil.mp hbegins]
  | cons c rest ih =>
    cases r with
    | nil => simp
    | cons b r =>
      obtain ⟨rfl, hbehind⟩ := List.cons_prefix_cons.mp hbegins
      have hlater := ih hbehind hr.tail
      cases rest with
      | nil =>
        obtain rfl := List.prefix_nil.mp hbehind
        simp [leading, show isDigit b = true from hr]
      | cons d rest =>
        have htaken : isDigit b = true ∨ b = '.' ∧ isDigit d = true := by
          cases r with
          | nil => exact .inl hr
          | cons e r =>
            obtain ⟨rfl, -⟩ := List.cons_prefix_cons.mp hbehind
            exact hr.1
        rcases htaken with hb | ⟨rfl, hd⟩
        · rw [leading_cons hb]
          simpa using hlater
        · have hdot : isDigit '.' = false := by decide
          simpa [leading, hdot, hd] using hlater

theorem isNumeral_leading {c : Char} (hc : isDigit c = true) (rest : List Char) :
    IsNumeral (leading (c :: rest)) := by
  refine isNumeral_iff.mpr ⟨isRun_leading _, ?_⟩
  simpa [leading_cons hc] using hc

/-- Whether a text is divided into a numeral that is the longest at its place, and what follows. -/
structure IsLongest (n behind : List Char) : Prop where
  isNumeral : IsNumeral n
  longest : ∀ m rest, n ++ behind = m ++ rest → IsNumeral m → m.length ≤ n.length

theorem isLongest_iff {c : Char} (hc : isDigit c = true) {rest n behind : List Char}
    (h : c :: rest = n ++ behind) : IsLongest n behind ↔ n = leading (c :: rest) := by
  have hbegins : leading (c :: rest) <+: n ++ behind := h ▸ leading_prefix (c :: rest)
  have hle : ∀ m more, n ++ behind = m ++ more → IsNumeral m →
      m.length ≤ (leading (c :: rest)).length := by
    intro m more hm hnumeral
    refine length_le_leading ?_ (isNumeral_iff.mp hnumeral).1
    rw [h, hm]
    exact List.prefix_append m more
  constructor
  · intro hn
    obtain ⟨more, hmore⟩ := hbegins
    have hlonger := hn.longest _ more hmore.symm (isNumeral_leading hc rest)
    have hshorter := hle n behind rfl hn.isNumeral
    exact (List.append_inj hmore.symm (by omega)).1
  · rintro rfl
    exact ⟨isNumeral_leading hc rest, hle⟩

/-! ## The first numeral -/

/-- Whether a text holds the numeral so that any other begins later, or with it and is no longer. -/
def IsFirst (cs n : List Char) : Prop :=
  ∃ before behind, cs = before ++ (n ++ behind) ∧ IsNumeral n ∧
    ∀ front m rest, cs = front ++ (m ++ rest) → IsNumeral m →
      before.length < front.length ∨ before.length = front.length ∧ m.length ≤ n.length

theorem IsFirst.unique {cs n m : List Char} (h : IsFirst cs n) (h' : IsFirst cs m) : n = m := by
  obtain ⟨before, behind, hn, hnumeral, hfirst⟩ := h
  obtain ⟨front, rest, hm, hnumeral', hfirst'⟩ := h'
  have hle := hfirst front m rest hm hnumeral'
  have hge := hfirst' before n behind hn hnumeral
  obtain ⟨-, hparts⟩ := List.append_inj (hn.symm.trans hm) (by omega)
  exact (List.append_inj hparts (by omega)).1

theorem isFirst_leading {before : List Char} (hbefore : ∀ d ∈ before, isDigit d = false) {c : Char}
    (hc : isDigit c = true) (rest : List Char) :
    IsFirst (before ++ c :: rest) (leading (c :: rest)) := by
  obtain ⟨behind, hbehind⟩ := leading_prefix (c :: rest)
  refine ⟨before, behind, by rw [hbehind], isNumeral_leading hc rest, ?_⟩
  intro front m more hm hnumeral
  have hfirst := (isNumeral_iff.mp hnumeral).2
  rcases List.append_eq_append_iff.mp hm with ⟨middle, rfl, hmiddle⟩ | ⟨middle, rfl, hmiddle⟩
  · cases middle with
    | nil =>
      have hlength := length_le_leading ⟨more, hmiddle.symm⟩ (isNumeral_iff.mp hnumeral).1
      exact .inr ⟨by simp, hlength⟩
    | cons d middle => exact .inl (by simp)
  · cases middle with
    | nil =>
      have hlength := length_le_leading ⟨more, hmiddle⟩ (isNumeral_iff.mp hnumeral).1
      exact .inr ⟨by simp, hlength⟩
    | cons d middle =>
      -- A numeral that begins before the first digit would begin with a character that is none.
      cases m with
      | nil => simp at hfirst
      | cons e m =>
        obtain rfl : e = d := (List.cons.inj hmiddle).1
        have hnone := hbefore e (by simp)
        simp [hnone] at hfirst

theorem exists_first_digit {cs : List Char} (h : ∃ c ∈ cs, isDigit c = true) :
    ∃ before c rest, cs = before ++ c :: rest ∧ (∀ d ∈ before, isDigit d = false) ∧
      isDigit c = true ∧ cs.dropWhile (!isDigit ·) = c :: rest := by
  have hsplit := List.takeWhile_append_dropWhile (p := (!isDigit ·)) (l := cs)
  cases hdrop : cs.dropWhile (!isDigit ·) with
  | nil =>
    obtain ⟨c, hc, hdigit⟩ := h
    have hnone := List.dropWhile_eq_nil_iff.mp hdrop c hc
    simp [hdigit] at hnone
  | cons c rest =>
    have hc := List.head?_dropWhile_not (!isDigit ·) cs
    rw [hdrop] at hc hsplit
    refine ⟨_, c, rest, hsplit.symm, ?_, by simpa using hc, rfl⟩
    intro d hd
    simpa using List.mem_takeWhile_imp hd

theorem first?_eq_none_iff {cs : List Char} :
    first? cs = none ↔ ∀ c ∈ cs, isDigit c = false := by
  unfold first?
  cases hdrop : cs.dropWhile (!isDigit ·) with
  | nil =>
    have hnone := List.dropWhile_eq_nil_iff.mp hdrop
    simpa using hnone
  | cons c rest =>
    have hsome : ¬ ∀ c ∈ cs, isDigit c = false := by
      intro hall
      have hnil : cs.dropWhile (!isDigit ·) = [] := by
        rw [List.dropWhile_eq_nil_iff]
        simpa using hall
      simp [hnil] at hdrop
    simpa using hsome

theorem first?_eq_some_iff {cs n : List Char} : first? cs = some n ↔ IsFirst cs n := by
  by_cases hdigit : ∃ c ∈ cs, isDigit c = true
  · obtain ⟨before, c, rest, rfl, hbefore, hc, hdrop⟩ := exists_first_digit hdigit
    have hfirst := isFirst_leading hbefore hc rest
    rw [first?, hdrop, Option.some.injEq]
    constructor
    · rintro rfl
      exact hfirst
    · exact fun h => hfirst.unique h
  · have hnone : first? cs = none := by
      rw [first?_eq_none_iff]
      simpa using hdigit
    rw [hnone]
    constructor
    · exact fun h => by cases h
    · rintro ⟨before, behind, rfl, hnumeral, -⟩
      have hfirst := (isNumeral_iff.mp hnumeral).2
      cases n with
      | nil => simp at hfirst
      | cons c n =>
        have hc : isDigit c = true := by simpa using hfirst
        exact absurd ⟨c, by simp, hc⟩ hdigit

/-! ## Figures -/

/-- Whether a text begins with the word for a figure, in any case, spaces and a digit. -/
def Mentions (cs : List Char) : Prop :=
  ∃ word blanks d rest, cs = word ++ (blanks ++ d :: rest) ∧
    eqIgnoringCase word figureWord = true ∧ (∀ c ∈ blanks, c = ' ') ∧ isDigit d = true

/-- Whether a text begins with the word for a figure, in any case, spaces and the numeral, which is
the longest there. -/
def MentionsNumber (cs n : List Char) : Prop :=
  ∃ word blanks behind, cs = word ++ (blanks ++ (n ++ behind)) ∧
    eqIgnoringCase word figureWord = true ∧ (∀ c ∈ blanks, c = ' ') ∧ IsLongest n behind

/-- Whether a text mentions a figure by the number, and no figure by any number earlier. -/
def IsFirstMention (cs n : List Char) : Prop :=
  ∃ before here, cs = before ++ here ∧ MentionsNumber here n ∧
    ∀ front rest, cs = front ++ rest → front.length < before.length → ¬ Mentions rest

theorem dropWhile_blanks {blanks rest : List Char} {d : Char} (hblanks : ∀ c ∈ blanks, c = ' ')
    (hd : isDigit d = true) : (blanks ++ d :: rest).dropWhile (· == ' ') = d :: rest := by
  have hdigit : (d == ' ') = false := by
    rw [beq_eq_false_iff_ne]
    rintro rfl
    exact absurd hd (by decide)
  rw [List.dropWhile_append_of_pos (by simpa using hblanks),
    List.dropWhile_cons_of_neg (by simp [hdigit])]

theorem figureHere?_mention {word blanks rest : List Char} {d : Char}
    (hword : eqIgnoringCase word figureWord = true) (hblanks : ∀ c ∈ blanks, c = ' ')
    (hd : isDigit d = true) :
    figureHere? (word ++ (blanks ++ d :: rest)) = some (leading (d :: rest)) := by
  have hlength := length_of_eqIgnoringCase hword
  rw [figureHere?, ← hlength, List.take_left, List.drop_left, if_pos hword,
    dropWhile_blanks hblanks hd]
  exact if_pos hd

theorem mentions_of_figureHere? {cs n : List Char} (h : figureHere? cs = some n) : Mentions cs := by
  unfold figureHere? at h
  split at h
  · rename_i hword
    have hblanks := List.takeWhile_append_dropWhile (p := (· == ' '))
      (l := cs.drop figureWord.length)
    split at h
    · cases h
    · rename_i d rest hdrop
      split at h
      · rename_i hd
        rw [hdrop] at hblanks
        refine ⟨_, (cs.drop figureWord.length).takeWhile (· == ' '), d, rest, ?_, hword, ?_, hd⟩
        · rw [hblanks, List.take_append_drop]
        · intro c hc
          simpa using List.mem_takeWhile_imp hc
      · cases h
  · cases h

theorem figureHere?_eq_none_iff {cs : List Char} : figureHere? cs = none ↔ ¬ Mentions cs := by
  rw [Option.eq_none_iff_forall_ne_some]
  constructor
  · rintro h ⟨word, blanks, d, rest, rfl, hword, hblanks, hd⟩
    exact h _ (figureHere?_mention hword hblanks hd)
  · exact fun h n hn => h (mentions_of_figureHere? hn)

theorem figureHere?_eq_some_iff {cs n : List Char} :
    figureHere? cs = some n ↔ MentionsNumber cs n := by
  constructor
  · intro h
    obtain ⟨word, blanks, d, rest, rfl, hword, hblanks, hd⟩ := mentions_of_figureHere? h
    rw [figureHere?_mention hword hblanks hd, Option.some.injEq] at h
    obtain ⟨behind, hbehind⟩ := leading_prefix (d :: rest)
    rw [h] at hbehind
    exact ⟨word, blanks, behind, by rw [hbehind], hword, hblanks,
      (isLongest_iff hd hbehind.symm).mpr h.symm⟩
  · rintro ⟨word, blanks, behind, rfl, hword, hblanks, hn⟩
    have hfirst := (isNumeral_iff.mp hn.isNumeral).2
    cases hcase : n with
    | nil => simp [hcase] at hfirst
    | cons d more =>
      have hd : isDigit d = true := by simpa [hcase] using hfirst
      have hparts : d :: (more ++ behind) = n ++ behind := by rw [hcase, List.cons_append]
      have hleading := (isLongest_iff hd hparts).mp hn
      rw [List.cons_append, figureHere?_mention hword hblanks hd, ← hleading, hcase]

theorem figure?_eq_none_iff {cs : List Char} :
    figure? cs = none ↔ ∀ front rest, cs = front ++ rest → ¬ Mentions rest := by
  induction cs with
  | nil =>
    refine iff_of_true rfl ?_
    rintro front rest h ⟨word, blanks, d, more, rfl, -⟩
    simp at h
  | cons c cs ih =>
    rw [figure?, Option.or_eq_none_iff, figureHere?_eq_none_iff, ih]
    constructor
    · rintro ⟨hhere, hlater⟩ front rest hsplit
      cases front with
      | nil =>
        rw [List.nil_append] at hsplit
        exact hsplit ▸ hhere
      | cons d front => exact hlater front rest (List.cons.inj hsplit).2
    · intro h
      refine ⟨h [] (c :: cs) rfl, ?_⟩
      exact fun front rest hsplit => h (c :: front) rest (by rw [hsplit, List.cons_append])

theorem figure?_eq_some_iff {cs n : List Char} : figure? cs = some n ↔ IsFirstMention cs n := by
  induction cs with
  | nil =>
    constructor
    · exact fun h => by cases h
    · rintro ⟨before, here, hsplit, ⟨word, blanks, behind, rfl, -, -, hn⟩, -⟩
      have hfirst := (isNumeral_iff.mp hn.isNumeral).2
      obtain ⟨-, -, -, rfl, -⟩ : before = [] ∧ word = [] ∧ blanks = [] ∧ n = [] ∧ behind = [] := by
        simpa using hsplit
      simp at hfirst
  | cons c cs ih =>
    rw [figure?, Option.or_eq_some_iff, figureHere?_eq_some_iff, figureHere?_eq_none_iff, ih]
    constructor
    · rintro (hhere | ⟨hnone, before, here, rfl, hhere, hearlier⟩)
      · exact ⟨[], c :: cs, rfl, hhere, by simp⟩
      · refine ⟨c :: before, here, rfl, hhere, ?_⟩
        intro front rest hsplit hshort
        cases front with
        | nil =>
          rw [List.nil_append] at hsplit
          exact hsplit ▸ hnone
        | cons d front =>
          exact hearlier front rest (List.cons.inj hsplit).2 (Nat.lt_of_succ_lt_succ hshort)
    · rintro ⟨before, here, hsplit, hhere, hearlier⟩
      cases before with
      | nil => exact .inl (by rw [hsplit]; exact hhere)
      | cons d before =>
        obtain ⟨rfl, hcs⟩ := List.cons.inj hsplit
        refine .inr ⟨hearlier [] (c :: cs) rfl (by simp), before, here, hcs, hhere, ?_⟩
        intro front rest hparts hshort
        exact hearlier (c :: front) rest (by rw [hparts, List.cons_append])
          (Nat.succ_lt_succ hshort)

end Numeral

/-! ## Whole captions -/

namespace Text

theorem length_lowerChar {c : Char} (h : c.toNat < 128) : (lowerChar c).length = 1 := by
  have hplain : c.toNat ≠ 0x130 := by omega
  rw [lowerChar, if_neg hplain, List.length_singleton]

theorem length_le_lowerAfter (before cs : List Char) :
    cs.length ≤ (lowerAfter before cs).length := by
  induction cs generalizing before with
  | nil => exact Nat.zero_le _
  | cons c rest ih =>
    have hrest := ih (c :: before)
    have hpos := List.length_pos_iff.mpr (lowerChar_ne_nil c)
    rw [lowerAfter, List.length_append, List.length_cons]
    split
    · rw [List.length_singleton]
      omega
    · omega

theorem length_lowerAfter_ascii (before : List Char) {cs : List Char} (h : AllAscii cs) :
    (lowerAfter before cs).length = cs.length := by
  induction cs generalizing before with
  | nil => rfl
  | cons c rest ih =>
    have hc : c.toNat < 128 := h c (by simp)
    have hsigma : c.toNat ≠ 0x3a3 := by omega
    rw [lowerAfter, if_neg hsigma, List.length_append, length_lowerChar hc,
      ih (c :: before) fun d hd => h d (by simp [hd]), List.length_cons, Nat.add_comm]

theorem ascii_of_isDigit {c : Char} (h : isDigit c = true) : c.toNat < 128 := by
  simp only [isDigit, Bool.and_eq_true, decide_eq_true_eq, Char.le_def, UInt32.le_iff_toNat_le] at h
  exact Nat.lt_of_le_of_lt h.2 (by decide)

end Text

namespace Numeral

theorem IsNumeral.ascii {n : List Char} (h : IsNumeral n) : AllAscii n := by
  have hdigits : ∀ {ds : List Char}, (∀ d ∈ ds, isDigit d = true) → AllAscii ds :=
    fun hds d hd => ascii_of_isDigit (hds d hd)
  induction h with
  | digits _ hds => exact hdigits hds
  | group _ _ hds ih =>
    intro c hc
    rcases List.mem_append.mp hc with hc | hc
    · exact ih c hc
    · rcases List.mem_cons.mp hc with rfl | hc
      · decide
      · exact hdigits hds c hc

end Numeral

namespace Anchor

/-- A numeral is shorter than the caption it stands in, so the two have different anchors. -/
theorem ofFigure_eq_whole_iff {caption : String} :
    ofFigure caption = ⟨figureStem ++ String.ofList (normalize caption.toList)⟩ ↔
      Numeral.figure? caption.toList = none := by
  constructor
  · intro h
    cases hfigure : Numeral.figure? caption.toList with
    | none => rfl
    | some n =>
      obtain ⟨before, here, hcaption, hhere, -⟩ := Numeral.figure?_eq_some_iff.mp hfigure
      obtain ⟨word, blanks, behind, rfl, hword, -, hn⟩ := hhere
      have hnormalized : normalize n = normalize caption.toList := by
        simpa [ofFigure, hfigure, String.ofList_inj] using h
      have hshort : (normalize n).length = n.length := by
        rw [normalize, List.length_map]
        exact length_lowerAfter_ascii [] hn.isNumeral.ascii
      have hlong : caption.toList.length ≤ (normalize caption.toList).length := by
        rw [normalize, List.length_map]
        exact length_le_lowerAfter [] _
      have hsix : word.length = 6 := length_of_eqIgnoringCase hword
      rw [← hnormalized, hshort, hcaption] at hlong
      simp only [List.length_append] at hlong
      omega
  · intro h
    rw [ofFigure, h, Option.getD_none]

end Anchor

end Folio
