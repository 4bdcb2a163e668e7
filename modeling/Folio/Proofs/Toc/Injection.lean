import Folio.Proofs.Text.Octets
import Folio.Proofs.Toc.Tags

/-!
# The place as a window of octets

The place of the table of contents is looked for character by character. It is the first window of
twelve octets that is the placeholder, up to the case of letters, and since the placeholder is in
ASCII, the window begins and ends between characters, whatever the text around it is. The text before
and behind the window stays as it is.
-/

namespace Folio.Toc

open Text

/-! ## The first place in a sequence of characters -/

theorem splitAtPlaceholder?_eq_none_iff {cs : List Char} :
    splitAtPlaceholder? cs = none ↔
      ∀ front rest, cs = front ++ rest → startsWithPlaceholder rest = false := by
  induction cs with
  | nil =>
    refine iff_of_true rfl ?_
    intro front rest h
    obtain ⟨-, rfl⟩ := List.append_eq_nil_iff.mp h.symm
    decide
  | cons c cs ih =>
    rw [splitAtPlaceholder?]
    constructor
    · intro h front rest hsplit
      split at h
      · simp at h
      · rename_i hstarts
        rw [Option.map_eq_none_iff, ih] at h
        cases front with
        | nil =>
          rw [List.nil_append] at hsplit
          rw [← hsplit]
          simpa using hstarts
        | cons d front => exact h front rest (List.cons.inj hsplit).2
    · intro h
      have hhere := h [] (c :: cs) rfl
      rw [hhere, if_neg Bool.false_ne_true, Option.map_eq_none_iff, ih]
      intro front rest hsplit
      exact h (c :: front) rest (by rw [hsplit, List.cons_append])

/-! ## Windows -/

/-- Whether the octets of a page from an offset on begin with the placeholder, up to the case of
letters. -/
def IsWindow (html : String) (offset : Nat) : Prop :=
  startsWithIgnoringCase (octets placeholder) ((octets html.toList).drop offset) = true

theorem ascii_placeholder : AllAscii placeholder := by
  have hall : (placeholder.all fun c => c.toNat < 128) = true := by decide
  simpa [AllAscii] using hall

theorem isWindow_iff {html : String} {offset : Nat} :
    IsWindow html offset ↔ ∃ front rest, html.toList = front ++ rest ∧
      (octets front).length = offset ∧ startsWithPlaceholder rest = true := by
  constructor
  · exact exists_split_of_window ascii_placeholder (by decide)
  · rintro ⟨front, rest, hsplit, rfl, hstarts⟩
    rw [IsWindow, hsplit, drop_octets, startsWithIgnoringCase_octets ascii_placeholder]
    exact hstarts

theorem findPlaceholder?_of_split {html : String} {before behind : List Char}
    (h : splitAtPlaceholder? html.toList = some (before, behind)) :
    findPlaceholder? html = some (octets before).length := by
  have hsize := length_octets (String.ofList before)
  rw [String.toList_ofList] at hsize
  rw [findPlaceholder?, h, Option.map_some, hsize]

theorem findPlaceholder?_eq_windowOffset? (html : String) :
    findPlaceholder? html = windowOffset? (octets placeholder) (octets html.toList) := by
  have hne : octets placeholder ≠ [] := by decide
  cases hsplit : splitAtPlaceholder? html.toList with
  | none =>
    rw [findPlaceholder?_eq_none_iff.mpr hsplit, eq_comm, windowOffset?_eq_none_iff hne]
    intro offset
    by_contra hwindow
    have hfound : IsWindow html offset := eq_true_of_ne_false hwindow
    obtain ⟨front, rest, hparts, -, hstarts⟩ := isWindow_iff.mp hfound
    rw [splitAtPlaceholder?_eq_none_iff.mp hsplit front rest hparts] at hstarts
    exact absurd hstarts Bool.false_ne_true
  | some parts =>
    obtain ⟨before, behind⟩ := parts
    obtain ⟨here, hhtml, hhere, hfirst⟩ := splitAtPlaceholder?_first hsplit
    rw [findPlaceholder?_of_split hsplit, eq_comm, windowOffset?_eq_some_iff hne]
    constructor
    · refine isWindow_iff.mpr ⟨before, here ++ behind, hhtml, rfl, ?_⟩
      have hlength : here.length = placeholder.length := length_of_eqIgnoringCase hhere
      rw [startsWithPlaceholder, ← hlength, List.take_left]
      exact hhere
    · intro offset hlt
      by_contra hwindow
      have hfound : IsWindow html offset := eq_true_of_ne_false hwindow
      obtain ⟨front, rest, hparts, rfl, hstarts⟩ := isWindow_iff.mp hfound
      have hshort : front.length < before.length := by
        by_contra hlong
        have hbegins : before <+: front := List.prefix_of_prefix_length_le ⟨_, hhtml.symm⟩
          ⟨_, hparts.symm⟩ (Nat.le_of_not_lt hlong)
        obtain ⟨more, rfl⟩ := hbegins
        rw [octets_append, List.length_append] at hlt
        omega
      rw [hfirst front rest hparts hshort] at hstarts
      exact absurd hstarts Bool.false_ne_true

/-! ## Replacing the window -/

theorem exists_parts {html : String} {offset : Nat} (h : findPlaceholder? html = some offset) :
    ∃ before here behind, html.toList = before ++ (here ++ behind) ∧
      splitAtPlaceholder? html.toList = some (before, behind) ∧
      (octets before).length = offset ∧ (octets (before ++ here)).length = offset + 12 := by
  cases hsplit : splitAtPlaceholder? html.toList with
  | none =>
    rw [findPlaceholder?_eq_none_iff.mpr hsplit] at h
    cases h
  | some parts =>
    obtain ⟨before, behind⟩ := parts
    rw [findPlaceholder?_of_split hsplit] at h
    obtain rfl := Option.some.inj h
    obtain ⟨here, hhtml, hhere, -⟩ := splitAtPlaceholder?_first hsplit
    have hascii : AllAscii here := ascii_placeholder.of_eqIgnoringCase hhere
    have htwelve : placeholder.length = 12 := by decide
    refine ⟨before, here, behind, hhtml, rfl, rfl, ?_⟩
    rw [octets_append, List.length_append, length_octets_ascii hascii,
      length_of_eqIgnoringCase hhere, htwelve]

/-- The table of contents takes the place of the first window that is the placeholder. The window is
cut out between characters, all other octets stay, and a page without one stays whole, whether or not
the table is made before that is known. -/
theorem injectRendered_window (html : String) :
    (∀ offset, findPlaceholder? html = some offset ↔
        IsWindow html offset ∧ ∀ earlier < offset, ¬ IsWindow html earlier) ∧
      (findPlaceholder? html = none ↔ ∀ offset, ¬ IsWindow html offset) ∧
      (∀ offset, findPlaceholder? html = some offset →
        String.Pos.Raw.IsValid html ⟨offset⟩ ∧ String.Pos.Raw.IsValid html ⟨offset + 12⟩ ∧
          ∀ toc, octets (injectRendered html toc).toList =
            (octets html.toList).take offset ++ octets toc.toList ++
              (octets html.toList).drop (offset + 12)) ∧
      (findPlaceholder? html = none → ∀ toc, injectRendered html toc = html) ∧
      ∀ maxLevel entries,
        inject maxLevel html entries = injectRendered html (render maxLevel entries) ∧
          inject maxLevel html entries =
            if findPlaceholder? html = none then html
            else injectRendered html (render maxLevel entries) := by
  have hne : octets placeholder ≠ [] := by decide
  refine ⟨?_, ?_, ?_, injectRendered_of_none, ?_⟩
  · intro offset
    rw [findPlaceholder?_eq_windowOffset?, windowOffset?_eq_some_iff hne]
    simp only [IsWindow, Bool.not_eq_true]
  · rw [findPlaceholder?_eq_windowOffset?, windowOffset?_eq_none_iff hne]
    simp only [IsWindow, Bool.not_eq_true]
  · intro offset h
    obtain ⟨before, here, behind, hhtml, hsplit, hoffset, hend⟩ := exists_parts h
    have hbefore := isValid_offset before (here ++ behind)
    have hbehind := isValid_offset (before ++ here) behind
    rw [List.append_assoc, ← hhtml, String.ofList_toList, hend] at hbehind
    rw [← hhtml, String.ofList_toList, hoffset] at hbefore
    refine ⟨hbefore, hbehind, ?_⟩
    intro toc
    have hfront := take_octets before (here ++ behind)
    have hback := drop_octets (before ++ here) behind
    rw [← hhtml, hoffset] at hfront
    rw [List.append_assoc, ← hhtml, hend] at hback
    rw [injectRendered, hsplit, hfront, hback]
    simp
  · intro maxLevel entries
    refine ⟨inject_eq maxLevel html entries, ?_⟩
    simp only [inject, Option.isNone_iff_eq_none]

/-- A page in which characters of several octets stand before and behind the place. -/
theorem injectRendered_window_between :
    findPlaceholder? "目录<P>[Toc]</p>é" = some 6 ∧
      String.Pos.Raw.IsValid "目录<P>[Toc]</p>é" ⟨6⟩ ∧
      String.Pos.Raw.IsValid "目录<P>[Toc]</p>é" ⟨18⟩ ∧
      octets (injectRendered "目录<P>[Toc]</p>é" "<ul></ul>").toList =
        (octets "目录<P>[Toc]</p>é".toList).take 6 ++ octets "<ul></ul>".toList ++
          (octets "目录<P>[Toc]</p>é".toList).drop 18 := by
  have hfound : findPlaceholder? "目录<P>[Toc]</p>é" = some 6 := by decide
  obtain ⟨hbefore, hbehind, hpage⟩ := (injectRendered_window "目录<P>[Toc]</p>é").2.2.1 6 hfound
  exact ⟨hfound, hbefore, hbehind, hpage "<ul></ul>"⟩

end Folio.Toc
