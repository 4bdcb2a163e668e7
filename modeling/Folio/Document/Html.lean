import Folio.Document.Basic
import Folio.Html.Escape

/-!
# The HTML of a document

Markers become tags, and inline containers the tokens they hold. Text and code are escaped, HTML is
written as it is, and attributes keep their order. An alternative attribute that is empty takes its
text from the content of the image.
-/

namespace Folio

open Folio.Html

def attrHtml : String × String → String
  | (key, value) => " " ++ key ++ "=\"" ++ escape value ++ "\""

def attrsHtml (attrs : List (String × String)) : String :=
  String.join (attrs.map attrHtml)

def startTag (name : String) (attrs : List (String × String)) : String :=
  "<" ++ name ++ attrsHtml attrs ++ ">"

def endTag (name : String) : String :=
  "</" ++ name ++ ">"

def headingName (level : UInt8) : String :=
  "h" ++ level.toNat.repr

def imageAttrs (content : String) (attrs : List (String × String)) : List (String × String) :=
  attrs.map fun (key, value) => (key, if key == "alt" && value.isEmpty then content else value)

/-- A block marker or a block that stands alone. -/
def blockHtml (tag content : String) (attrs : List (String × String)) (nesting : Int8) : String :=
  if nesting = 1 then startTag tag attrs ++ "\n"
  else if nesting = -1 then endTag tag ++ "\n"
  else if content.isEmpty then startTag tag attrs ++ "\n"
  else if content.toList.getLast? == some '\n' then content
  else content ++ "\n"

mutual

def Token.html : Token → String
  | ⟨kind, tag, content, attrs, children, nesting⟩ =>
    match kind with
    | .headingOpen level => startTag (headingName level) attrs
    | .headingClose level => endTag (headingName level) ++ "\n"
    | .paragraphOpen => startTag "p" attrs
    | .paragraphClose => endTag "p" ++ "\n"
    | .inline => siblingsHtml children
    | .text => escape content
    | .inlineHtml => content
    | .codeInline => startTag "code" attrs ++ escape content ++ endTag "code"
    | .image => startTag "img" (imageAttrs content attrs)
    | .block => blockHtml tag content attrs nesting

def siblingsHtml : List Token → String
  | [] => ""
  | t :: rest => t.html ++ siblingsHtml rest

end

def Document.html (doc : Document) : String :=
  siblingsHtml doc.tokens

end Folio
