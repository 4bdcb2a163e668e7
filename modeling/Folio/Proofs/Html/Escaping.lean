import Folio.Html.Escape

/-!
# Escaped text is read back

Every special character is written as a reference of its own, and no other character begins one. So
an ampersand in escaped text always begins the reference for one character of the text, and reading
the references from the front gives the text back, also if the text looks like a reference already.
-/

namespace Folio.Html

theorem unescapeChars_cons {c : Char} (h : c ≠ '&') (rest : List Char) :
    unescapeChars (c :: rest) = c :: unescapeChars rest := by
  rw [unescapeChars.eq_def]
  split <;> simp_all

theorem unescapeChars_escapeChar_append (c : Char) (rest : List Char) :
    unescapeChars (escapeChar c ++ rest) = c :: unescapeChars rest := by
  unfold escapeChar
  split
  · simp [unescapeChars]
  · simp [unescapeChars]
  · simp [unescapeChars]
  · simp [unescapeChars]
  · simp [unescapeChars]
  · rename_i hamp _ _ _ _
    exact unescapeChars_cons hamp rest

theorem escapeChars_cons (c : Char) (cs : List Char) :
    escapeChars (c :: cs) = escapeChar c ++ escapeChars cs :=
  List.flatMap_cons

theorem unescapeChars_escapeChars (cs : List Char) : unescapeChars (escapeChars cs) = cs := by
  induction cs with
  | nil => rfl
  | cons c rest ih => rw [escapeChars_cons, unescapeChars_escapeChar_append, ih]

theorem unescapeChars_escape (s : String) : unescapeChars (escape s).toList = s.toList := by
  rw [escape_toList, unescapeChars_escapeChars]

theorem escape_injective : Function.Injective escape := by
  intro s u h
  have hread := congrArg (unescapeChars ·.toList) h
  simp only [unescapeChars_escape] at hread
  exact String.toList_inj.mp hread

/-! ## References -/

def references : List String :=
  ["&amp;", "&lt;", "&gt;", "&quot;", "&#39;"]

def isMarkupChar (c : Char) : Bool :=
  c == '<' || c == '>' || c == '\x22' || c == '\x27'

theorem escapeChar_self_or_reference (c : Char) :
    (isSpecial c = false ∧ escapeChar c = [c]) ∨
      ∃ reference ∈ references, escapeChar c = reference.toList := by
  unfold escapeChar
  split
  · exact .inr ⟨"&amp;", by decide, rfl⟩
  · exact .inr ⟨"&lt;", by decide, rfl⟩
  · exact .inr ⟨"&gt;", by decide, rfl⟩
  · exact .inr ⟨"&quot;", by decide, rfl⟩
  · exact .inr ⟨"&#39;", by decide, rfl⟩
  · exact .inl ⟨by simp_all [isSpecial], rfl⟩

theorem isMarkupChar_reference {reference : String} (h : reference ∈ references) :
    ∀ c ∈ reference.toList, isMarkupChar c = false := by
  have hall : ∀ reference ∈ references, reference.toList.all (!isMarkupChar ·) = true := by decide
  simpa using hall reference h

/-- A reference has no ampersand but the one that it begins with. -/
theorem eq_nil_of_reference {reference : String} (h : reference ∈ references)
    {front behind : List Char} (hsplit : reference.toList = front ++ '&' :: behind) :
    front = [] := by
  have htails : ∀ reference ∈ references, '&' ∉ reference.toList.tail := by decide
  cases front with
  | nil => rfl
  | cons c front => exact absurd (by simp [hsplit]) (htails reference h)

theorem isMarkupChar_escapeChars (cs : List Char) :
    ∀ c ∈ escapeChars cs, isMarkupChar c = false := by
  intro c hc
  obtain ⟨d, -, hd⟩ := List.mem_flatMap.mp hc
  rcases escapeChar_self_or_reference d with ⟨hplain, hself⟩ | ⟨reference, hreference, hwritten⟩
  · obtain rfl : c = d := by simpa [hself] using hd
    simp [isSpecial] at hplain
    simp [isMarkupChar, hplain]
  · exact isMarkupChar_reference hreference c (hwritten ▸ hd)

theorem exists_reference_of_ampersand {c : Char} {front behind : List Char}
    (h : escapeChar c = front ++ '&' :: behind) :
    front = [] ∧ ∃ reference ∈ references, escapeChar c = reference.toList := by
  rcases escapeChar_self_or_reference c with ⟨hplain, hself⟩ | ⟨reference, hreference, hwritten⟩
  · have hmem : '&' ∈ [c] := by rw [← hself, h]; simp
    obtain rfl : '&' = c := List.mem_singleton.mp hmem
    exact absurd hplain (by decide)
  · exact ⟨eq_nil_of_reference hreference (hwritten ▸ h), reference, hreference, hwritten⟩

theorem escapeChars_ampersand {cs front behind : List Char}
    (h : escapeChars cs = front ++ '&' :: behind) :
    ∃ before c rest, cs = before ++ c :: rest ∧ front = escapeChars before ∧
      ∃ reference ∈ references, escapeChar c = reference.toList ∧
        '&' :: behind = reference.toList ++ escapeChars rest := by
  induction cs generalizing front with
  | nil => simp [escapeChars] at h
  | cons c cs ih =>
    rw [escapeChars_cons] at h
    rcases List.append_eq_append_iff.mp h with ⟨later, rfl, hlater⟩ | ⟨written, hfirst, hbehind⟩
    · -- The ampersand stands behind what is written for the first character.
      obtain ⟨before, d, rest, rfl, rfl, hd⟩ := ih hlater
      exact ⟨c :: before, d, rest, rfl, (escapeChars_cons c before).symm, hd⟩
    · cases written with
      | nil =>
        obtain ⟨before, d, rest, rfl, hbefore, hd⟩ := @ih [] hbehind.symm
        have hfront : front = escapeChars (c :: before) := by
          rw [escapeChars_cons, hfirst, ← hbefore, List.append_nil, List.append_nil]
        exact ⟨c :: before, d, rest, rfl, hfront, hd⟩
      | cons d written =>
        obtain ⟨rfl, rfl⟩ := List.cons.inj hbehind
        obtain ⟨rfl, reference, hreference, hreads⟩ := exists_reference_of_ampersand hfirst
        refine ⟨[], c, cs, rfl, rfl, reference, hreference, hreads, ?_⟩
        rw [← hreads, hfirst]
        rfl

/-! ## The law of escaping -/

/-- Escaped text is what its characters are written as, one after the other, whether or not one of
them is special. It holds no character of markup, every ampersand in it begins the reference for a
character of the text, and reading the references from the front gives the text back. So two texts
are never escaped to the same, and texts one after the other may be escaped one by one. -/
theorem escape_lossless (s : String) :
    escape s = String.ofList (s.toList.flatMap escapeChar) ∧
      (∀ c ∈ (escape s).toList, c ≠ '<' ∧ c ≠ '>' ∧ c ≠ '\x22' ∧ c ≠ '\x27') ∧
      (∀ front behind, (escape s).toList = front ++ '&' :: behind →
        ∃ before c rest, s.toList = before ++ c :: rest ∧ front = escapeChars before ∧
          ∃ reference ∈ references, escapeChar c = reference.toList ∧
            '&' :: behind = reference.toList ++ escapeChars rest) ∧
      String.ofList (unescapeChars (escape s).toList) = s ∧
      (∀ u, escape u = escape s → u = s) ∧
      ∀ u, escape (s ++ u) = escape s ++ escape u := by
  refine ⟨?_, ?_, ?_, ?_, fun u h => escape_injective h, escape_append s⟩
  · rw [← String.toList_inj, escape_toList, String.toList_ofList, escapeChars]
  · intro c hc
    rw [escape_toList] at hc
    simpa [isMarkupChar, and_assoc] using isMarkupChar_escapeChars s.toList c hc
  · intro front behind h
    rw [escape_toList] at h
    exact escapeChars_ampersand h
  · rw [unescapeChars_escape, String.ofList_toList]

/-- A text that looks like a reference. The ampersand of what it is escaped to begins the reference
for its first character, and what follows is read as text. -/
theorem escape_lossless_lookalike :
    (escape "&lt;").toList = [] ++ '&' :: "amp;lt;".toList ∧
      (∃ before c rest, "&lt;".toList = before ++ c :: rest ∧ [] = escapeChars before ∧
        ∃ reference ∈ references, escapeChar c = reference.toList ∧
          '&' :: "amp;lt;".toList = reference.toList ++ escapeChars rest) ∧
      String.ofList (unescapeChars (escape "&lt;").toList) = "&lt;" := by
  obtain ⟨-, -, hampersand, hread, -⟩ := escape_lossless "&lt;"
  have hwritten : (escape "&lt;").toList = [] ++ '&' :: "amp;lt;".toList := by decide
  exact ⟨hwritten, hampersand _ _ hwritten, hread⟩

end Folio.Html
