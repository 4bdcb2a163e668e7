import Folio.Page.Language
import Folio.Toc.Json

/-!
# JSON form of pages

The body of a page is a record of its HTML and its headings. A language is written as its key; an
object with the key as its only name and null as its value stands for the language as well.
-/

namespace Folio

open Json (fields? required string?)

namespace PageContent

def fieldNames : List String :=
  ["html", "toc"]

def toJson (c : PageContent) : Json :=
  .object [("html", .string c.html), ("toc", TocEntry.listToJson c.toc)]

def ofJson? (j : Json) : Option PageContent := do
  let fields ← fields? fieldNames j
  let html ← required string? ["html"] fields
  let toc ← required TocEntry.listOfJson? ["toc"] fields
  some { html, toc }

end PageContent

def Language.ofJson? : Json → Option Language
  | .string key => ofKey? key
  | .object [(key, .null)] => ofKey? key
  | _ => none

namespace SiteContent

def insert (site : SiteContent) (l : Language) (content : PageContent) : SiteContent :=
  fun other => if other = l then some content else site other

/-- Reads the bodies of a site from an object with languages as names. -/
def ofJson? (j : Json) : Option SiteContent := do
  let members ← j.object?
  members.foldlM (m := Option)
    (fun site (key, value) => do
      some (site.insert (← Language.ofKey? key) (← PageContent.ofJson? value)))
    fun _ => none

end SiteContent

end Folio
