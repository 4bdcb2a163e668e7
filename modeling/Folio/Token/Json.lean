import Folio.Document.Basic
import Folio.Json.Reader

/-!
# The JSON form of documents

A document is written as the array of its tokens, and a token as an object. What is empty is left
out, apart from the content; what is missing when a token is read is empty, and its nesting is zero
whatever its kind. A kind is an object that gives its name as its type, and for a heading its level.

Reading accepts any record as an array of its fields as well. Members that a token does not have are
passed over whatever they hold; a kind must be sound all through. In a text, arrays and objects may
be nested up to a limit, those aside that are passed over.
-/

namespace Folio

open Json

namespace Kind

def name : Kind → String
  | text => "text"
  | inlineHtml => "inline_html"
  | headingOpen _ => "heading_open"
  | headingClose _ => "heading_close"
  | paragraphOpen => "paragraph_open"
  | paragraphClose => "paragraph_close"
  | image => "image"
  | codeInline => "code_inline"
  | inline => "inline"
  | block => "block"

def level? : Kind → Option UInt8
  | headingOpen level | headingClose level => some level
  | _ => none

def toJson (k : Kind) : Json :=
  .object (("type", .string k.name) ::
    (k.level?.map fun level => ("level", .integer level.toNat)).toList)

def ofName? (fields : List (String × Json)) : String → Option Kind
  | "text" => some text
  | "inline_html" => some inlineHtml
  | "heading_open" => (required uint8? ["level"] fields).map headingOpen
  | "heading_close" => (required uint8? ["level"] fields).map headingClose
  | "paragraph_open" => some paragraphOpen
  | "paragraph_close" => some paragraphClose
  | "image" => some image
  | "code_inline" => some codeInline
  | "inline" => some inline
  | "block" => some block
  | _ => none

/-- The names of the fields of a kind. A kind that is no heading has the first alone. -/
def fieldNames : String → List String
  | "heading_open" | "heading_close" => ["type", "level"]
  | _ => ["type"]

def ofSound? : Json → Option Kind
  | .object members => do
    ofName? members (← required string? ["type"] members)
  | .array (.string kindName :: rest) => do
    ofName? (← fields? (fieldNames kindName) (.array (.string kindName :: rest))) kindName
  | _ => none

def ofJson? (j : Json) : Option Kind :=
  if j.isSound then ofSound? j else none

end Kind

def attrToJson : String × String → Json
  | (key, value) => .array [.string key, .string value]

def attrOfJson? : Json → Option (String × String)
  | .array [.string key, .string value] => some (key, value)
  | _ => none

def attrsOfJson? (j : Json) : Option (List (String × String)) := do
  (← j.array?).mapM attrOfJson?

namespace Token

def fieldNames : List String :=
  ["kind", "tag", "content", "attrs", "children", "nesting"]

mutual

def toJson : Token → Json
  | ⟨kind, tag, content, attrs, children, nesting⟩ =>
    .object (("kind", kind.toJson) ::
      ((if tag.isEmpty then [] else [("tag", .string tag)]) ++
      ("content", .string content) ::
      ((if attrs.isEmpty then [] else [("attrs", .array (attrs.map attrToJson))]) ++
      (if children.isEmpty then [] else [("children", .array (listToJson children))]) ++
      [("nesting", .integer nesting.toInt)])))

def listToJson : List Token → List Json
  | [] => []
  | t :: rest => t.toJson :: listToJson rest

end

/-- Reads a token from its fields, given how deeply these may be nested and how children are read. -/
def ofFields? (depth : Nat) (readChildren : Json → Option (List Token))
    (fields : List (String × Json)) : Option Token := do
  let kind ← required (within depth Kind.ofJson?) ["kind"] fields
  let tag ← optional string? "" ["tag"] fields
  let content ← optional string? "" ["content"] fields
  let attrs ← optional (within depth attrsOfJson?) [] ["attrs"] fields
  let children ← optional readChildren [] ["children"] fields
  let nesting ← optional int8? 0 ["nesting"] fields
  some { kind, tag, content, attrs, children, nesting }

/-- Reads siblings nested to a depth at most: their array, then each token, then its fields. -/
def listOfJson? : Nat → Json → Option (List Token)
  | 0, _ => none
  | 1, j => do
    if (← j.array?).isEmpty then some [] else none
  | depth + 2, j => do
    (← j.array?).mapM fun t => do ofFields? depth (listOfJson? depth) (← fields? fieldNames t)

def ofJson? (j : Json) : Option Token := do
  ofFields? j.height (listOfJson? j.height) (← fields? fieldNames j)

end Token

namespace Document

def toJson (doc : Document) : Json :=
  .array (Token.listToJson doc.tokens)

def ofJson? (j : Json) : Option Document :=
  (Token.listOfJson? j.height j).map Document.mk

/-- How deeply arrays and objects may be nested in the text of a document. -/
def nestingLimit : Nat := 127

def ofText? (text : String) : Option Document := do
  (Token.listOfJson? nestingLimit (← Json.read? text)).map Document.mk

end Document

end Folio
