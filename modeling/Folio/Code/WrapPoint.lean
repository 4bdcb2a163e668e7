import Folio.Document.Outline
import Folio.Error

/-!
# Wrap points in code

A long name in running text may be broken after each of its underscores: a character without width
is put there, and the code is given a class by which the page allows the break. Running twice would
double the characters, so the pass is for once.
-/

namespace Folio.Code

/-- The character without width at which a line may be broken. -/
def wrapPoint : Char := '\u200b'

def wrappableClass : String := "code-wrappable"

/-- The code with a wrap point behind every underscore. -/
def wrapChars (cs : List Char) : List Char :=
  cs.flatMap fun c => if c = '_' then [c, wrapPoint] else [c]

def insertWrapPoints (code : String) : String :=
  String.ofList (wrapChars code.toList)

def wrap (t : Token) : Token :=
  { t.pushAttr "class" wrappableClass with content := insertWrapPoints t.content }

def isSpan (t : Token) : Bool :=
  t.kind == .codeInline

/-- Wraps the spans at the paths, one after the other, up to the first that has children. -/
def wrapAt (doc : Document) : List Path → Option EnrichError × Document
  | [] => (none, doc)
  | path :: rest =>
    match doc.get? path with
    | none => wrapAt doc rest
    | some span =>
      if span.isMalformedLeaf then
        (some (.codeInlineHasChildren span.content span.children.length), doc)
      else
        wrapAt (doc.modify path wrap) rest

/-- Wraps all spans of code of a document. Gives their number or the first error, and the document
as it is then. -/
def wrapAll (doc : Document) : Except EnrichError Nat × Document :=
  let paths := (Outline.ofDocument doc).pathsWhere doc isSpan
  match wrapAt doc paths with
  | (none, wrapped) => (.ok paths.length, wrapped)
  | (some e, wrapped) => (.error e, wrapped)

end Folio.Code
