import Folio.Proofs.Page.Localized
import Folio.Proofs.Toc.Finding

/-!
# Pages behind a notice

A reader whose language has no body of its own gets the English one behind a notice, and the table of
contents is put into the two together. The notice holds no bracket that could begin the tag of a
paragraph, so nothing is found in it, nor where it meets the body: the reader gets the English page
behind the notice.
-/

namespace Folio

open Text

namespace Toc

/-! ## Text in front of a page -/

/-- Whether every bracket of the text is followed in it by something other than the name of a
paragraph, so that the text can begin no place, whatever stands behind it. -/
def opensNoParagraph : List Char → Bool
  | [] => true
  | [c] => c != '<'
  | c :: d :: rest => (c != '<' || asciiLower d != 'p') && opensNoParagraph (d :: rest)

theorem opensNoParagraph_append {xs ys : List Char} (hxs : opensNoParagraph xs = true)
    (hys : opensNoParagraph ys = true) : opensNoParagraph (xs ++ ys) = true := by
  induction xs using opensNoParagraph.induct with
  | case1 => exact hys
  | case2 c =>
    have hc : c ≠ '<' := by simpa [opensNoParagraph] using hxs
    cases ys with
    | nil => exact hxs
    | cons d ys => simp [opensNoParagraph, hc, hys]
  | case3 c d rest ih =>
    simp only [opensNoParagraph, Bool.and_eq_true] at hxs
    simp only [List.cons_append, opensNoParagraph, Bool.and_eq_true]
    exact ⟨hxs.1, ih hxs.2⟩

theorem splitAtPlaceholder?_behind {front : List Char} (h : opensNoParagraph front = true)
    (rest : List Char) :
    splitAtPlaceholder? (front ++ rest) = inFront front (splitAtPlaceholder? rest) := by
  induction front using opensNoParagraph.induct with
  | case1 => simp [inFront]
  | case2 c =>
    have hfree : ∀ d ∈ [c], d ≠ '<' := by simpa [opensNoParagraph] using h
    exact splitAtPlaceholder?_free hfree rest
  | case3 c d front ih =>
    simp only [opensNoParagraph, Bool.and_eq_true, Bool.or_eq_true, bne_iff_ne] at h
    obtain ⟨hhere, hlater⟩ := h
    have hnot : startsWithPlaceholder (c :: (d :: front ++ rest)) = false := by
      by_contra hstarts
      obtain ⟨x, more, hx, hcs⟩ := starts_cases (by simpa using hstarts)
      obtain ⟨rfl, hbehind⟩ := List.cons.inj hcs
      obtain ⟨rfl, -⟩ := List.cons.inj hbehind
      exact hhere.elim (fun hbracket => hbracket rfl) fun hname => hname hx
    rw [List.cons_append, splitAtPlaceholder?_cons_of_not hnot, ih hlater]
    cases splitAtPlaceholder? rest <;> rfl

variable {front : String} (h : opensNoParagraph front.toList = true)

include h

theorem findPlaceholder?_behind (html : String) :
    findPlaceholder? (front ++ html) =
      (findPlaceholder? html).map (front.utf8ByteSize + ·) := by
  rw [findPlaceholder?, findPlaceholder?, String.toList_append, splitAtPlaceholder?_behind h]
  cases splitAtPlaceholder? html.toList with
  | none => rfl
  | some parts => simp [inFront, String.ofList_append]

/-- The table of contents is put into a page as if there were no text in front of it. -/
theorem injectRendered_behind (html toc : String) :
    injectRendered (front ++ html) toc = front ++ injectRendered html toc := by
  rw [injectRendered, injectRendered, String.toList_append, splitAtPlaceholder?_behind h]
  cases splitAtPlaceholder? html.toList with
  | none => rfl
  | some parts => simp [inFront, String.ofList_append, String.append_assoc]

end Toc

namespace SiteContent

open Toc

theorem opensNoParagraph_machineNotice (l : Language) :
    opensNoParagraph (machineNotice l).toList = true := by
  have hname : opensNoParagraph l.displayName.toList = true := by
    cases l <;> decide +kernel
  unfold machineNotice
  rw [String.toList_append, String.toList_append]
  refine opensNoParagraph_append (opensNoParagraph_append ?_ hname) ?_
  · decide +kernel
  · decide +kernel

/-- A reader of a language without a body of its own gets the page of an English reader behind the
notice. In the notice alone there is no place for a table of contents, and before a body it only moves
the place of the body back by its own length. -/
theorem htmlFor_fallback {site : SiteContent} {l : Language} {english : PageContent}
    (hown : site l = none) (henglish : site .en = some english) :
    ∃ page body, site.htmlFor .en = some page ∧ site.contentFor l = some body ∧
      site.htmlFor l = some (machineNotice l ++ page) ∧
      findPlaceholder? (machineNotice l) = none ∧
      findPlaceholder? body.html =
        (findPlaceholder? english.html).map ((machineNotice l).utf8ByteSize + ·) := by
  have hnotice := opensNoParagraph_machineNotice l
  have hbody : site.contentFor l = some { english with html := machineNotice l ++ english.html } := by
    simp [contentFor, hown, henglish]
  have hpage : site.htmlFor .en = some (english.htmlWithToc defaultMaxLevel) :=
    Pipeline.htmlFor_eq henglish
  have hfallback : site.htmlFor l = some (machineNotice l ++ english.htmlWithToc defaultMaxLevel) := by
    rw [htmlFor, hbody, Option.map_some, PageContent.htmlWithToc_eq, PageContent.htmlWithToc_eq,
      injectRendered_behind hnotice]
  have hnone : findPlaceholder? (machineNotice l) = none := by
    have hempty := findPlaceholder?_behind hnotice ""
    rwa [String.append_empty] at hempty
  exact ⟨_, _, hpage, hbody, hfallback, hnone, findPlaceholder?_behind hnotice english.html⟩

/-- A body that begins with the end of a place and has its own place behind that. -/
def truncatedBody : PageContent :=
  ⟨"p>[toc]</p><P>[Toc]</p><h1>Intro</h1>", [⟨1, "Intro"⟩]⟩

def englishOnly : SiteContent
  | .en => some truncatedBody
  | .zh | .jp => none

theorem htmlFor_fallback_truncated :
    englishOnly .jp = none ∧ englishOnly .en = some truncatedBody ∧
      ∃ page body, englishOnly.htmlFor .en = some page ∧
        englishOnly.contentFor .jp = some body ∧
        englishOnly.htmlFor .jp = some (machineNotice .jp ++ page) ∧
        findPlaceholder? truncatedBody.html = some 11 ∧
        findPlaceholder? body.html = some ((machineNotice .jp).utf8ByteSize + 11) := by
  have hown : englishOnly .jp = none := rfl
  have henglish : englishOnly .en = some truncatedBody := rfl
  have hplace : findPlaceholder? truncatedBody.html = some 11 := by decide
  obtain ⟨page, body, hpage, hbody, hfallback, -, hmoved⟩ := htmlFor_fallback hown henglish
  rw [hplace] at hmoved
  exact ⟨hown, henglish, page, body, hpage, hbody, hfallback, hplace, hmoved⟩

end SiteContent

end Folio
