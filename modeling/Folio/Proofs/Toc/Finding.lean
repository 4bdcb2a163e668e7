import Folio.Emphasis.Splicing
import Folio.Proofs.Html.Quiet
import Folio.Proofs.Toc.Tags

/-!
# Finding the place in a text

The place of the table of contents is found by looking for a piece of text, from the front. In a text
with known tags none of which begins a paragraph it is not found, and looking on behind such a text
finds what it finds there. A paragraph without attributes is the place exactly if its body is the
bracketed word: a body that only begins with the word goes on with something other than the end of a
paragraph.
-/

namespace Folio

open Html Text Emphasis

namespace Toc

theorem starts_of_take {cs : List Char} (h : startsWithPlaceholder cs = true) :
    ∃ here behind, cs = here ++ behind ∧ eqIgnoringCase here placeholder = true :=
  ⟨cs.take placeholder.length, cs.drop placeholder.length, (List.take_append_drop _ _).symm, h⟩

theorem starts_cases {cs : List Char} (h : startsWithPlaceholder cs = true) :
    ∃ x rest, asciiLower x = 'p' ∧ cs = '<' :: x :: '>' :: rest := by
  obtain ⟨here, behind, rfl, hhere⟩ := starts_of_take h
  obtain ⟨x, y, word, hx, -, -, rfl⟩ := placeholder_cases hhere
  exact ⟨x, _, hx, rfl⟩

theorem splitAtPlaceholder?_cons_of_not {c : Char} {rest : List Char}
    (h : startsWithPlaceholder (c :: rest) = false) :
    splitAtPlaceholder? (c :: rest) =
      (splitAtPlaceholder? rest).map fun (before, behind) => (c :: before, behind) := by
  rw [splitAtPlaceholder?, if_neg (by simp [h])]

def inFront (front : List Char) (found : Option (List Char × List Char)) :
    Option (List Char × List Char) :=
  found.map fun (before, behind) => (front ++ before, behind)

theorem inFront_append (xs ys : List Char) (found : Option (List Char × List Char)) :
    inFront (xs ++ ys) found = inFront xs (inFront ys found) := by
  cases found <;> simp [inFront]

theorem splitAtPlaceholder?_free {front : List Char} (h : ∀ c ∈ front, c ≠ '<') (rest : List Char) :
    splitAtPlaceholder? (front ++ rest) = inFront front (splitAtPlaceholder? rest) := by
  induction front with
  | nil => simp [inFront]
  | cons c front ih =>
    have hnot : startsWithPlaceholder (c :: (front ++ rest)) = false := by
      by_contra hstarts
      obtain ⟨x, _, -, hcs⟩ := starts_cases (by simpa using hstarts)
      exact h c (by simp) (List.cons.inj hcs).1
    have hlater := ih fun d hd => h d (by simp [hd])
    rw [List.cons_append, splitAtPlaceholder?_cons_of_not hnot, hlater]
    cases splitAtPlaceholder? rest <;> rfl

theorem splitAtPlaceholder?_tag {t : Tag} (ht : t.IsKnown) (hopen : ∀ attrs, t ≠ .opening "p" attrs)
    (rest : List Char) :
    splitAtPlaceholder? (t.chars ++ rest) = inFront t.chars (splitAtPlaceholder? rest) := by
  have hchars : t.chars ++ rest = '<' :: (t.inside ++ '>' :: rest) := by simp [Tag.chars]
  have hnot : startsWithPlaceholder ('<' :: (t.inside ++ '>' :: rest)) = false := by
    by_contra hstarts
    obtain ⟨x, more, hx, hcs⟩ := starts_cases (by simpa using hstarts)
    have hbracket : x ≠ '>' := by
      rintro rfl
      simp [asciiLower] at hx
    have hparts : t.inside ++ '>' :: rest = [x] ++ '>' :: more := (List.cons.inj hcs).2
    obtain ⟨hinside, -⟩ := append_bracket_inj (fun c hc => (ht.inside_free c hc).2)
      (by simpa using hbracket) hparts
    obtain ⟨attrs, rfl⟩ := tag_of_letter ht hx hinside
    exact hopen attrs rfl
  have hbehind : ∀ c ∈ t.inside ++ ['>'], c ≠ '<' := by
    rw [List.forall_mem_append]
    exact ⟨fun c hc => (ht.inside_free c hc).1, by simp⟩
  have hlater := splitAtPlaceholder?_free hbehind rest
  rw [List.append_assoc, List.singleton_append] at hlater
  rw [hchars, splitAtPlaceholder?_cons_of_not hnot, hlater]
  cases splitAtPlaceholder? rest <;> simp [inFront, Tag.chars]

/-- Behind a quiet text, the place is found as it is without that text. -/
theorem splitAtPlaceholder?_quiet {front : List Char} (h : Quiet front) (rest : List Char) :
    splitAtPlaceholder? (front ++ rest) = inFront front (splitAtPlaceholder? rest) := by
  obtain ⟨tags, hreads, hnames⟩ := h
  induction hreads with
  | nil => simp [inFront]
  | @char c cs tags hopen _ _ ih =>
    have hfree : ∀ d ∈ [c], d ≠ '<' := by simpa using hopen
    rw [← List.singleton_append, List.append_assoc, splitAtPlaceholder?_free hfree, ih hnames,
      ← inFront_append]
  | @tag t cs tags ht _ ih =>
    have hname : ∀ attrs, t ≠ .opening "p" attrs := by
      rintro attrs rfl
      exact hnames _ List.mem_cons_self rfl
    have hrest := ih fun u hu => hnames u (List.mem_cons_of_mem t hu)
    rw [List.append_assoc, splitAtPlaceholder?_tag ht hname, hrest, ← inFront_append]

/-! ## Paragraphs -/

def paragraphChars (body : List Char) : List Char :=
  (Tag.opening "p" []).chars ++ body ++ (Tag.closing "p").chars

def isPlaceText (cs : List Char) : Bool :=
  eqIgnoringCase cs placeholderText

theorem isPlaceText_of_eqIgnoringCase {x y : Char} {word : List Char}
    (h : eqIgnoringCase ('<' :: x :: '>' :: (word ++ ['<', '/', y, '>'])) placeholder = true) :
    isPlaceText word = true := by
  have hplaceholder : placeholder.map asciiLower =
      ['<', 'p', '>'] ++ (placeholderText.map asciiLower ++ ['<', '/', 'p', '>']) := by decide
  have hlower : word.map asciiLower ++ ['<', '/', y, '>'].map asciiLower =
      placeholderText.map asciiLower ++ ['<', '/', 'p', '>'] := by
    simp only [eqIgnoringCase, hplaceholder, beq_iff_eq, List.map_cons, List.map_append,
      List.cons_append, List.cons.injEq, List.nil_append] at h
    simpa using h.2.2.2
  have hword := (List.append_inj' hlower rfl).1
  simpa [isPlaceText, eqIgnoringCase] using hword

/-- A quiet text that goes on behind the bracketed word does not do so with the end of a paragraph. -/
theorem not_closing_of_quiet {word more : List Char} (h : Quiet (word ++ '<' :: more)) {y : Char}
    (hy : asciiLower y = 'p') {behind rest : List Char} :
    '<' :: '/' :: y :: '>' :: behind ≠ '<' :: more ++ rest := by
  intro heq
  obtain ⟨tags, hreads, hnames⟩ := h
  obtain ⟨first, second, -, hsecond, rfl⟩ := hreads.split
  -- The bracket begins a tag that is complete before `rest` begins.
  generalize hall : '<' :: more = all at hsecond
  cases hsecond with
  | nil => simp at hall
  | char hopen _ _ => exact absurd (List.cons.inj hall).1.symm hopen
  | @tag t cs others ht _ =>
    rw [hall] at heq
    have hbracket : y ≠ '>' := by
      rintro rfl
      simp [asciiLower] at hy
    have hparts : ['/', y] ++ '>' :: behind = t.inside ++ '>' :: (cs ++ rest) := by
      simpa [Tag.chars] using heq
    obtain ⟨hinside, -⟩ := append_bracket_inj (by simpa using hbracket)
      (fun c hc => (ht.inside_free c hc).2) hparts
    obtain rfl := tag_of_slash ht hy hinside.symm
    exact hnames (.closing "p") (by simp) rfl

theorem paragraphChars_eq (body : List Char) :
    paragraphChars body = ['<', 'p', '>'] ++ (body ++ ['<', '/', 'p', '>']) := by
  simp [paragraphChars, Tag.chars, Tag.inside]

theorem map_asciiLower_of_isPlaceText {body : List Char} (h : isPlaceText body = true) :
    (paragraphChars body).map asciiLower = placeholder.map asciiLower := by
  have hlower : body.map asciiLower = placeholderText.map asciiLower := by
    simpa [isPlaceText, eqIgnoringCase] using h
  have hplaceholder : placeholder.map asciiLower =
      ['<', 'p', '>'] ++ (placeholderText.map asciiLower ++ ['<', '/', 'p', '>']) := by decide
  rw [paragraphChars_eq, hplaceholder, List.map_append, List.map_append, hlower]
  rfl

theorem length_of_isPlaceText {body : List Char} (h : isPlaceText body = true) :
    (paragraphChars body).length = placeholder.length := by
  simpa using congrArg List.length (map_asciiLower_of_isPlaceText h)

theorem startsWithPlaceholder_of_isPlaceText {body : List Char} (h : isPlaceText body = true)
    (rest : List Char) : startsWithPlaceholder (paragraphChars body ++ rest) = true := by
  have htake : (paragraphChars body ++ rest).take placeholder.length = paragraphChars body := by
    rw [← length_of_isPlaceText h, List.take_left]
  rw [startsWithPlaceholder, htake, eqIgnoringCase, map_asciiLower_of_isPlaceText h]
  exact beq_self_eq_true _

/-- A paragraph is the place exactly if its body is the bracketed word. -/
theorem startsWithPlaceholder_paragraph {body : List Char} (h : Quiet body) (rest : List Char) :
    startsWithPlaceholder (paragraphChars body ++ rest) = isPlaceText body := by
  cases hplace : isPlaceText body with
  | true => exact startsWithPlaceholder_of_isPlaceText hplace rest
  | false =>
    by_contra hstarts
    obtain ⟨here, behind, hsplit, hhere⟩ := starts_of_take (by simpa using hstarts)
    obtain ⟨x, y, word, -, hy, hword, rfl⟩ := placeholder_cases hhere
    have hisPlace := isPlaceText_of_eqIgnoringCase hhere
    have hbodies : body ++ '<' :: ('/' :: 'p' :: '>' :: rest) =
        word ++ '<' :: ('/' :: y :: '>' :: behind) := by
      have hcs : 'p' :: '>' :: (body ++ '<' :: ('/' :: 'p' :: '>' :: rest)) =
          x :: '>' :: (word ++ '<' :: ('/' :: y :: '>' :: behind)) := by
        simpa [paragraphChars_eq] using hsplit
      exact (List.cons.inj (List.cons.inj hcs).2).2
    have hne : body ≠ word := by
      rintro rfl
      simp [hplace] at hisPlace
    -- Either the body ends within the word, which then holds a bracket, or it goes on behind the word.
    rcases List.append_eq_append_iff.mp hbodies with ⟨middle, rfl, hmiddle⟩ | ⟨middle, rfl, hmiddle⟩
    · cases middle with
      | nil => simp at hne
      | cons c middle =>
        obtain ⟨rfl, -⟩ := List.cons.inj hmiddle
        exact (hword '<' (by simp)).1 rfl
    · cases middle with
      | nil => simp at hne
      | cons c middle =>
        obtain ⟨rfl, -⟩ := List.cons.inj hmiddle
        exact not_closing_of_quiet h hy hmiddle

/-- The place is looked for in a paragraph and then behind it. -/
theorem splitAtPlaceholder?_paragraph {body : List Char} (h : Quiet body) (rest : List Char) :
    splitAtPlaceholder? (paragraphChars body ++ rest) =
      if isPlaceText body then some ([], rest)
      else inFront (paragraphChars body) (splitAtPlaceholder? rest) := by
  have hstarts := startsWithPlaceholder_paragraph h rest
  have hchars : paragraphChars body ++ rest =
      '<' :: (['p', '>'] ++ (body ++ ((Tag.closing "p").chars ++ rest))) := by
    simp [paragraphChars, Tag.chars, Tag.inside]
  cases hplace : isPlaceText body with
  | true =>
    have hdrop : ('<' :: (['p', '>'] ++ (body ++ ((Tag.closing "p").chars ++ rest)))).drop
        placeholder.length = rest := by
      rw [← hchars, ← length_of_isPlaceText hplace, List.drop_left]
    rw [hplace, hchars] at hstarts
    rw [hchars, splitAtPlaceholder?, if_pos hstarts, if_pos rfl, hdrop]
  | false =>
    have hknown : (Tag.closing "p").IsKnown := (by decide : "p" ∈ elementNames)
    have hclosing : ∀ attrs, Tag.closing "p" ≠ .opening "p" attrs := by simp
    rw [hplace, hchars] at hstarts
    rw [hchars, splitAtPlaceholder?_cons_of_not hstarts, splitAtPlaceholder?_free (by simp),
      splitAtPlaceholder?_quiet h, splitAtPlaceholder?_tag hknown hclosing]
    cases splitAtPlaceholder? rest <;> simp [inFront, paragraphChars, Tag.chars, Tag.inside]

/-! ## The bracketed word -/

theorem placeText_lower {cs : List Char} (h : isPlaceText cs = true) :
    cs.map asciiLower = ['[', 't', 'o', 'c', ']'] := by
  have hword : placeholderText.map asciiLower = ['[', 't', 'o', 'c', ']'] := by decide
  simpa [isPlaceText, eqIgnoringCase, hword] using h

theorem mem_placeText {cs : List Char} (h : isPlaceText cs = true) {c : Char} (hc : c ∈ cs) :
    asciiLower c ∈ ['[', 't', 'o', 'c', ']'] := by
  rw [← placeText_lower h]
  exact List.mem_map_of_mem hc

/-- The bracketed word begins and ends with a bracket, so there is nothing to trim. -/
theorem trim_placeText {cs : List Char} (h : isPlaceText cs = true) : trim cs = cs := by
  have hlower := placeText_lower h
  simp only [List.map_eq_cons_iff, List.map_eq_nil_iff] at hlower
  obtain ⟨first, _, rfl, hfirst, _, _, rfl, -, _, _, rfl, -, _, _, rfl, -, last, _, rfl, hlast, rfl⟩ :=
    hlower
  obtain rfl := eq_of_asciiLower_eq hfirst (by decide)
  obtain rfl := eq_of_asciiLower_eq hlast (by decide)
  have hblank : isBlank '[' = false ∧ isBlank ']' = false := by decide
  simp [trim, hblank]

theorem escapeChar_cases (c : Char) :
    escapeChar c = [c] ∨ '&' ∈ escapeChar c ∧ asciiLower c ∉ ['[', 't', 'o', 'c', ']'] := by
  unfold escapeChar
  split
  all_goals first | exact .inr ⟨by simp, by decide⟩ | exact .inl rfl

/-- Escaping neither makes the bracketed word of another text nor loses it. -/
theorem isPlaceText_escapeChars (cs : List Char) :
    isPlaceText (escapeChars cs) = isPlaceText cs := by
  by_cases hplain : ∀ c ∈ cs, escapeChar c = [c]
  · have hsame : escapeChars cs = cs := by
      have hmap : cs.flatMap escapeChar = cs.flatMap fun c => [c] :=
        List.flatMap_congr hplain
      rw [escapeChars, hmap, List.flatMap_singleton']
    rw [hsame]
  · simp only [not_forall] at hplain
    obtain ⟨c, hc, hescape⟩ := hplain
    obtain ⟨hamp, hlower⟩ := (escapeChar_cases c).resolve_left hescape
    have hmem : '&' ∈ escapeChars cs := List.mem_flatMap.mpr ⟨c, hc, hamp⟩
    have hescaped : isPlaceText (escapeChars cs) = false := by
      by_contra h
      exact absurd (mem_placeText (by simpa using h) hmem) (by decide)
    have hraw : isPlaceText cs = false := by
      by_contra h
      exact hlower (mem_placeText (by simpa using h) hc)
    rw [hescaped, hraw]

end Toc

end Folio
