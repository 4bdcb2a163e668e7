import Folio.Text.Ascii
import Folio.Toc.Basic

/-!
# The place of the table of contents

A page holds the place of its table of contents by a paragraph with nothing but a bracketed word in
it, in any case. The first such paragraph in the text of the page is replaced. A page without one
stays as it is.
-/

namespace Folio.Toc

open Folio.Text

def placeholder : List Char :=
  "<p>[toc]</p>".toList

def startsWithPlaceholder (cs : List Char) : Bool :=
  eqIgnoringCase (cs.take placeholder.length) placeholder

def splitAtPlaceholder? : List Char → Option (List Char × List Char)
  | [] => none
  | c :: rest =>
    if startsWithPlaceholder (c :: rest) then some ([], (c :: rest).drop placeholder.length)
    else (splitAtPlaceholder? rest).map fun (before, behind) => (c :: before, behind)

/-- The number of bytes before the first place. -/
def findPlaceholder? (html : String) : Option Nat :=
  (splitAtPlaceholder? html.toList).map fun (before, _) => (String.ofList before).utf8ByteSize

def injectRendered (html toc : String) : String :=
  match splitAtPlaceholder? html.toList with
  | none => html
  | some (before, behind) => String.ofList before ++ toc ++ String.ofList behind

theorem findPlaceholder?_eq_none_iff {html : String} :
    findPlaceholder? html = none ↔ splitAtPlaceholder? html.toList = none :=
  Option.map_eq_none_iff

theorem injectRendered_of_none {html : String} (h : findPlaceholder? html = none) (toc : String) :
    injectRendered html toc = html := by
  rw [injectRendered, findPlaceholder?_eq_none_iff.mp h]

/-- The page with the table of contents of its headings, down to a level, at the first place. No table
is made for a page without a place. -/
def inject (maxLevel : UInt8) (html : String) (entries : List TocEntry) : String :=
  if (findPlaceholder? html).isNone then html
  else injectRendered html (render maxLevel entries)

theorem inject_eq (maxLevel : UInt8) (html : String) (entries : List TocEntry) :
    inject maxLevel html entries = injectRendered html (render maxLevel entries) := by
  unfold inject
  split
  · rename_i hnone
    exact (injectRendered_of_none (Option.isNone_iff_eq_none.mp hnone) _).symm
  · rfl

end Folio.Toc
