/-!
# Tokens

A token is a node of a shallow tree. Block tokens form the top-level sequence of a document, and
inline containers own their inline children. Opening and closing markers are paired by their
nesting, not by ownership.

Attributes keep the order in which they were added, and a key may occur more than once: reading and
replacing go by the first occurrence.
-/

namespace Folio

/-- What a token stands for. A heading marker carries its level. -/
inductive Kind where
  | text
  /-- A fragment of HTML that is written as it is. -/
  | inlineHtml
  | headingOpen (level : UInt8)
  | headingClose (level : UInt8)
  | paragraphOpen
  | paragraphClose
  /-- An image, with its alternative text as content. -/
  | image
  | codeInline
  /-- A container of inline tokens, with their plain text as content. -/
  | inline
  /-- Any other block, told apart by its tag. -/
  | block
  deriving DecidableEq, Inhabited

namespace Kind

/-- The kinds that never carry children in a well-formed document. -/
def isLeaf : Kind → Bool
  | text | inlineHtml | image | codeInline => true
  | _ => false

def isHeadingOpen : Kind → Bool
  | headingOpen _ => true
  | _ => false

/-- The nesting that the kind implies. A block carries its own. -/
def defaultNesting : Kind → Int8
  | headingOpen _ | paragraphOpen => 1
  | headingClose _ | paragraphClose => -1
  | _ => 0

end Kind

structure Token where
  kind : Kind
  tag : String
  content : String
  attrs : List (String × String)
  children : List Token
  /-- One for an opening marker, minus one for a closing marker, zero otherwise. -/
  nesting : Int8
  deriving BEq, Inhabited

namespace Token

def ofKind (kind : Kind) : Token where
  kind := kind
  tag := ""
  content := ""
  attrs := []
  children := []
  nesting := kind.defaultNesting

def text (content : String) : Token :=
  { ofKind .text with content }

def inlineHtml (html : String) : Token :=
  { ofKind .inlineHtml with content := html }

def codeInline (code : String) : Token :=
  { ofKind .codeInline with content := code }

/-- An image whose alternative text is its content, and whose alternative attribute is empty. -/
def image (source alternative : String) : Token :=
  { ofKind .image with content := alternative, attrs := [("src", source), ("alt", "")] }

def inline (source : String) (children : List Token) : Token :=
  { ofKind .inline with content := source, children }

def blockOpen (tag : String) : Token :=
  { ofKind .block with tag, nesting := 1 }

def blockClose (tag : String) : Token :=
  { ofKind .block with tag, nesting := -1 }

/-- A block that stands alone. Content that is not empty is HTML, written as it is. -/
def block (tag content : String) : Token :=
  { ofKind .block with tag, content }

/-- The value of the first attribute with the key. -/
def attr? (t : Token) (key : String) : Option String :=
  t.attrs.lookup key

/-- Adds an attribute behind the others, whether or not its key occurs already. -/
def pushAttr (key value : String) (t : Token) : Token :=
  { t with attrs := t.attrs ++ [(key, value)] }

/-- The attributes with the first value of the key replaced, or added at the end. -/
def replaceAttr (key value : String) : List (String × String) → List (String × String)
  | [] => [(key, value)]
  | (k, v) :: rest =>
    if k == key then (k, value) :: rest else (k, v) :: replaceAttr key value rest

def setAttr (key value : String) (t : Token) : Token :=
  { t with attrs := replaceAttr key value t.attrs }

/-- A token of a leaf kind that carries children all the same. -/
def isMalformedLeaf (t : Token) : Bool :=
  t.kind.isLeaf && !t.children.isEmpty

end Token

end Folio
