import Folio.Proofs.Toc.Finding

/-!
# The place in a document

In a document the place of the table of contents is the first paragraph whose container holds leaves
of text only that spell the bracketed word. The HTML of a flat page without other tags of paragraphs
is searched as text, and what is found there is that paragraph: nothing else is taken for it, and it
is not missed.
-/

namespace Folio

open Html Text Emphasis Toc

/-- The text of leaves of text, one after the other. There is none if another token is among them. -/
def plainText? : List Token → Option (List Char)
  | [] => some []
  | t :: rest => if t.kind = .text then (plainText? rest).map (t.content.toList ++ ·) else none

/-- Whether the token is a container of nothing but the bracketed word, in any case. -/
def Token.holdsPlace (t : Token) : Bool :=
  t.kind == .inline && (plainText? t.children).any isPlaceText

/-- The index of the marker that opens the first paragraph with the bracketed word. -/
def placeAt? : List Token → Option Nat
  | opening :: container :: close :: rest =>
    if opening.kind = .paragraphOpen ∧ container.holdsPlace ∧ close.kind = .paragraphClose then some 0
    else (placeAt? (container :: close :: rest)).map (· + 1)
  | _ => none

def IsPlaceAt (ts : List Token) (i : Nat) : Prop :=
  ∃ opening container close, ts.drop i = opening :: container :: close :: ts.drop (i + 3) ∧
    opening.kind = .paragraphOpen ∧ container.holdsPlace = true ∧ close.kind = .paragraphClose

/-- Whether the markers of paragraphs stand in pairs around one container each. -/
inductive Paragraphed : List Token → Prop
  | nil : Paragraphed []
  | other {t : Token} {rest : List Token} (hopen : t.kind ≠ .paragraphOpen)
      (hclose : t.kind ≠ .paragraphClose) (h : Paragraphed rest) : Paragraphed (t :: rest)
  | paragraph {opening container close : Token} {rest : List Token}
      (hopen : opening.kind = .paragraphOpen) (hcontainer : container.kind = .inline)
      (hclose : close.kind = .paragraphClose) (h : Paragraphed rest) :
      Paragraphed (opening :: container :: close :: rest)

theorem plainText?_append (ts us : List Token) :
    plainText? (ts ++ us) = (plainText? ts).bind fun cs => (plainText? us).map (cs ++ ·) := by
  induction ts with
  | nil => simp [plainText?]
  | cons t rest ih =>
    by_cases ht : t.kind = .text
    · cases hrest : plainText? rest <;> simp [plainText?, ht, ih, hrest, Function.comp_def]
    · simp [plainText?, ht]

theorem plainText?_append_other {t : Token} (ts : List Token) (ht : t.kind ≠ .text) :
    plainText? (ts ++ [t]) = none := by
  rw [plainText?_append, plainText?, if_neg ht]
  simp

theorem Token.holdsPlace_iff {t : Token} :
    t.holdsPlace = true ↔
      t.kind = .inline ∧ ∃ cs, plainText? t.children = some cs ∧ isPlaceText cs = true := by
  simp [holdsPlace, Option.any_eq_true]

theorem not_isPlaceAt_of_short {ts : List Token} (h : ts.length < 3) (i : Nat) : ¬ IsPlaceAt ts i := by
  rintro ⟨opening, container, close, hdrop, -⟩
  have hlength := congrArg List.length hdrop
  simp at hlength
  omega

/-- What is found is the first place, and nothing is found only if there is none. -/
theorem placeAt?_spec (ts : List Token) :
    match placeAt? ts with
    | none => ∀ i, ¬ IsPlaceAt ts i
    | some i => IsPlaceAt ts i ∧ ∀ j < i, ¬ IsPlaceAt ts j := by
  match ts with
  | [] | [_] | [_, _] => exact not_isPlaceAt_of_short (by simp)
  | opening :: container :: close :: rest =>
    rw [placeAt?]
    by_cases hplace : opening.kind = .paragraphOpen ∧ container.holdsPlace ∧ close.kind = .paragraphClose
    · rw [if_pos hplace]
      exact ⟨⟨opening, container, close, rfl, hplace⟩, by simp⟩
    · have hzero : ¬ IsPlaceAt (opening :: container :: close :: rest) 0 := by
        rintro ⟨_, _, _, hdrop, hparts⟩
        simp only [List.drop_zero, List.cons.injEq] at hdrop
        obtain ⟨rfl, rfl, rfl, -⟩ := hdrop
        exact hplace hparts
      rw [if_neg hplace]
      have hrest := placeAt?_spec (container :: close :: rest)
      cases hfound : placeAt? (container :: close :: rest) with
      | none =>
        rw [hfound] at hrest
        rintro (_ | i)
        · exact hzero
        · exact hrest i
      | some i =>
        rw [hfound] at hrest
        refine ⟨hrest.1, ?_⟩
        rintro (_ | j) hj
        · exact hzero
        · exact hrest.2 j (Nat.lt_of_succ_lt_succ hj)

theorem placeAt?_cons {t : Token} (h : t.kind ≠ .paragraphOpen) (rest : List Token) :
    placeAt? (t :: rest) = (placeAt? rest).map (· + 1) := by
  match rest with
  | [] | [_] => rfl
  | u :: v :: rest => rw [placeAt?, if_neg (by simp [h])]

theorem placeAt?_paragraph {opening container close : Token} (hopen : opening.kind = .paragraphOpen)
    (hcontainer : container.kind = .inline) (hclose : close.kind = .paragraphClose)
    (rest : List Token) :
    placeAt? (opening :: container :: close :: rest) =
      if container.holdsPlace then some 0 else (placeAt? rest).map (· + 3) := by
  rw [placeAt?, placeAt?_cons (by simp [hcontainer]), placeAt?_cons (by simp [hclose])]
  cases container.holdsPlace with
  | true => rw [if_pos ⟨hopen, rfl, hclose⟩, if_pos rfl]
  | false =>
    rw [if_neg (by simp), if_neg (by simp)]
    cases placeAt? rest <;> rfl

/-! ## The bracketed word -/

theorem escapeChars_of_plainText? {ts : List Token} {cs : List Char} (h : plainText? ts = some cs) :
    (siblingsHtml ts).toList = escapeChars cs := by
  induction ts generalizing cs with
  | nil =>
    obtain rfl : [] = cs := Option.some.inj h
    simp [siblingsHtml, escapeChars]
  | cons t rest ih =>
    by_cases ht : t.kind = .text
    · rw [plainText?, if_pos ht] at h
      obtain ⟨more, hmore, rfl⟩ := Option.map_eq_some_iff.mp h
      rw [siblingsHtml, String.toList_append, ih hmore, html_of_text ht, escapeChars_append]
      simp
    · simp [plainText?, ht] at h

theorem bracket_mem_of_plainText? {ts : List Token} (hleaves : ∀ t ∈ ts, t.IsTextLeaf)
    (hquiet : ∀ t ∈ ts, t.IsQuiet) (h : plainText? ts = none) : '<' ∈ (siblingsHtml ts).toList := by
  induction ts with
  | nil => simp [plainText?] at h
  | cons t rest ih =>
    rw [siblingsHtml, String.toList_append, List.mem_append]
    by_cases ht : t.kind = .text
    · have hrest : plainText? rest = none := by simpa [plainText?, ht] using h
      exact .inr (ih (fun u hu => hleaves u (by simp [hu])) (fun u hu => hquiet u (by simp [hu])) hrest)
    · exact .inl (Token.bracket_mem_leaf (hleaves t (by simp)) (hquiet t (by simp)) ht)

/-- What leaves are written as is the bracketed word exactly if they are leaves of text that spell it. -/
theorem isPlaceText_siblingsHtml {ts : List Token} (hleaves : ∀ t ∈ ts, t.IsTextLeaf)
    (hquiet : ∀ t ∈ ts, t.IsQuiet) :
    isPlaceText (siblingsHtml ts).toList = (plainText? ts).any isPlaceText := by
  cases h : plainText? ts with
  | none =>
    have hmem := bracket_mem_of_plainText? hleaves hquiet h
    by_contra hplace
    exact absurd (mem_placeText (by simpa using hplace) hmem) (by decide)
  | some cs => rw [escapeChars_of_plainText? h, isPlaceText_escapeChars, Option.any_some]

/-! ## Pages -/

/-- Whether siblings are a flat page in which only the markers of paragraphs are written as such, and
they stand in pairs around one container each. -/
structure IsQuietPage (ts : List Token) : Prop where
  page : ∀ t ∈ ts, t.IsPageToken
  quiet : ∀ t ∈ siblingsInOrder ts, t.IsQuiet
  paragraphs : Paragraphed ts

theorem Paragraphed.html {opening container close : Token} (hopen : opening.kind = .paragraphOpen)
    (hcontainer : container.kind = .inline) (hclose : close.kind = .paragraphClose)
    (hattrs : opening.attrs = []) (rest : List Token) :
    (siblingsHtml (opening :: container :: close :: rest)).toList =
      paragraphChars (siblingsHtml container.children).toList ++
        '\n' :: (siblingsHtml rest).toList := by
  have hfirst : opening.html = startTag "p" [] := by
    cases opening with
    | mk kind tag content attrs children nesting =>
      obtain rfl : kind = .paragraphOpen := hopen
      obtain rfl : attrs = [] := hattrs
      simp [Token.html]
  have hbody : container.html = siblingsHtml container.children := by
    cases container with
    | mk kind tag content attrs children nesting =>
      obtain rfl : kind = .inline := hcontainer
      simp [Token.html]
  have hlast : close.html = endTag "p" ++ "\n" := by
    cases close with
    | mk kind tag content attrs children nesting =>
      obtain rfl : kind = .paragraphClose := hclose
      simp [Token.html]
  simp [siblingsHtml, hfirst, hbody, hlast, paragraphChars, startTag, endTag, attrsHtml, Tag.chars,
    Tag.inside]

def splitPage (ts : List Token) (i : Nat) : List Char × List Char :=
  ((siblingsHtml (ts.take i)).toList, '\n' :: (siblingsHtml (ts.drop (i + 3))).toList)

/-- In the HTML of a page the place is found where the page has it. -/
theorem splitAtPlaceholder?_html {ts : List Token} (h : IsQuietPage ts) :
    splitAtPlaceholder? (siblingsHtml ts).toList = (placeAt? ts).map (splitPage ts) := by
  -- All but paragraphs is quiet, so the text can match only where a paragraph begins.
  obtain ⟨hpage, hquiet, hparagraphs⟩ := h
  induction hparagraphs with
  | nil => simp [siblingsHtml, splitAtPlaceholder?, placeAt?]
  | @other t rest hopen hclose _ ih =>
    have hrest := ih (fun u hu => hpage u (by simp [hu])) fun u hu => hquiet u (by simp [siblingsInOrder, hu])
    have ht := Token.quiet_html (hpage t (by simp)) (hquiet t (mem_siblingsInOrder_of_mem (by simp)))
      (fun c hc => hquiet c (mem_siblingsInOrder_of_children List.mem_cons_self hc)) hopen hclose
    rw [siblingsHtml, String.toList_append, splitAtPlaceholder?_quiet ht, hrest, placeAt?_cons hopen]
    cases placeAt? rest <;> simp [inFront, splitPage, siblingsHtml]
  | @paragraph opening container close rest hopen hcontainer hclose _ ih =>
    have hrest := ih (fun u hu => hpage u (by simp [hu])) fun u hu => hquiet u (by simp [siblingsInOrder, hu])
    have hattrs : opening.attrs = [] := by
      have hmarker := hquiet opening (mem_siblingsInOrder_of_mem (by simp))
      simpa [Token.IsQuiet, hopen] using hmarker
    have hleaves := (hpage container (by simp)).leaves
    have hchildren : ∀ c ∈ container.children, c.IsQuiet := fun c hc =>
      hquiet c (mem_siblingsInOrder_of_children (by simp) hc)
    have hholds : container.holdsPlace = isPlaceText (siblingsHtml container.children).toList := by
      rw [isPlaceText_siblingsHtml hleaves hchildren, Token.holdsPlace, hcontainer]
      rfl
    have hbehind : splitAtPlaceholder? ('\n' :: (siblingsHtml rest).toList) =
        inFront ['\n'] ((placeAt? rest).map (splitPage rest)) := by
      rw [← hrest]
      exact splitAtPlaceholder?_free (by simp : ∀ c ∈ ['\n'], c ≠ '<') _
    rw [placeAt?_paragraph hopen hcontainer hclose, Paragraphed.html hopen hcontainer hclose hattrs,
      splitAtPlaceholder?_paragraph (quiet_siblings hleaves hchildren), hbehind, ← hholds]
    cases container.holdsPlace with
    | true => simp [splitPage, siblingsHtml]
    | false =>
      cases placeAt? rest with
      | none => simp [inFront]
      | some i =>
        have hfront := Paragraphed.html hopen hcontainer hclose hattrs (rest.take i)
        simp [inFront, splitPage, hfront]

/-- A page is written as it is with the table of contents in the place of the paragraph that holds it. -/
theorem injectRendered_html {ts : List Token} (h : IsQuietPage ts) (toc : String) :
    injectRendered (siblingsHtml ts) toc =
      match placeAt? ts with
      | none => siblingsHtml ts
      | some i => siblingsHtml (ts.take i) ++ toc ++ ("\n" ++ siblingsHtml (ts.drop (i + 3))) := by
  rw [injectRendered, splitAtPlaceholder?_html h]
  cases placeAt? ts with
  | none => rfl
  | some i =>
    apply String.toList_inj.mp
    simp [splitPage]

/-- The paragraph that is the place is written as the bracketed word between the tags of a paragraph. -/
theorem siblingsHtml_place {ts : List Token} (h : IsQuietPage ts) {i : Nat}
    (hplace : placeAt? ts = some i) :
    ∃ word, isPlaceText word.toList = true ∧
      siblingsHtml ts = siblingsHtml (ts.take i) ++ ("<p>" ++ word ++ "</p>") ++
        ("\n" ++ siblingsHtml (ts.drop (i + 3))) := by
  have hspec := placeAt?_spec ts
  rw [hplace] at hspec
  obtain ⟨⟨opening, container, close, hdrop, hopen, hholds, hclose⟩, -⟩ := hspec
  obtain ⟨hcontainer, cs, hcs, hword⟩ := Token.holdsPlace_iff.mp hholds
  have hmem : ∀ t ∈ [opening, container], t ∈ ts := by
    intro t ht
    apply List.mem_of_mem_drop
    rw [hdrop]
    simp only [List.mem_cons, List.not_mem_nil, or_false] at ht
    rcases ht with rfl | rfl <;> simp
  have hattrs : opening.attrs = [] := by
    have hmarker := h.quiet opening (mem_siblingsInOrder_of_mem (hmem opening (by simp)))
    simpa [Token.IsQuiet, hopen] using hmarker
  refine ⟨siblingsHtml container.children, ?_, ?_⟩
  · rw [escapeChars_of_plainText? hcs, isPlaceText_escapeChars, hword]
  · have hbehind := Paragraphed.html hopen hcontainer hclose hattrs (ts.drop (i + 3))
    rw [← hdrop] at hbehind
    have hsplit : siblingsHtml ts = siblingsHtml (ts.take i) ++ siblingsHtml (ts.drop i) := by
      rw [← siblingsHtml_append, List.take_append_drop]
    rw [hsplit]
    apply String.toList_inj.mp
    simp [hbehind, paragraphChars, Tag.chars, Tag.inside]

end Folio
