import Folio.Json.Reader
import Folio.Toc.Basic

/-!
# The JSON form of table entries

An entry gives its level and its label. The label may go by another name when it is read.
-/

namespace Folio

open Json

namespace TocEntry

def toJson (e : TocEntry) : Json :=
  .object [("level", .integer e.level.toNat), ("label", .string e.label)]

/-- The fields of an entry, an array giving the level and then the label. -/
def fields? : Json → Option (List (String × Json))
  | .object members => some members
  | j => Json.fields? ["level", "label"] j

def ofJson? (j : Json) : Option TocEntry := do
  let fields ← fields? j
  let level ← required uint8? ["level"] fields
  let label ← required string? ["label", "content"] fields
  some { level, label }

def listToJson (entries : List TocEntry) : Json :=
  .array (entries.map toJson)

def listOfJson? (j : Json) : Option (List TocEntry) := do
  (← j.array?).mapM ofJson?

def listOfText? (text : String) : Option (List TocEntry) := do
  listOfJson? (← Json.read? text)

end TocEntry

end Folio
