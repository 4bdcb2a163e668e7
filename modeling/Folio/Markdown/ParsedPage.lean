import Folio.Document.Basic
import Folio.Html.Escape
import Folio.Markdown.Event
import Folio.Text.Blank
import Folio.Toc.Basic

/-!
# From events to documents

The document of a page is flat: blocks are pairs of an opening and a closing marker, and a heading
or paragraph has one inline container between its markers. Inline content outside of those, in a
tight list item or a table cell, gets a container of its own. The content of a container is the
plain text of its events, and the same text labels a heading in the table of contents.

An image takes the plain text between its ends as its alternative text, and drops all markup there,
images within included. Blocks of code and of HTML are single tokens that hold finished HTML.
-/

namespace Folio.Markdown

open Folio.Html Folio.Text

structure ParsedPage where
  document : Document
  toc : List TocEntry
  deriving BEq

structure PendingImage where
  source : String
  title : String
  alternative : String
  /-- How many images are open within this one. -/
  depth : Nat

structure InlineBuffer where
  source : String
  children : List Token
  image : Option PendingImage

namespace InlineBuffer

def empty : InlineBuffer where
  source := ""
  children := []
  image := none

/-- Adds a leaf that has plain text. Within an image the text alone counts. -/
def addLeaf (leaf : String → Token) (content : String) (b : InlineBuffer) : InlineBuffer :=
  match b.image with
  | some i => { b with image := some { i with alternative := i.alternative ++ content } }
  | none => { b with source := b.source ++ content, children := b.children ++ [leaf content] }

def addText : String → InlineBuffer → InlineBuffer :=
  addLeaf .text

def addCode : String → InlineBuffer → InlineBuffer :=
  addLeaf .codeInline

/-- Adds markup, which has no plain text and is dropped within an image. -/
def addHtml (html : String) (b : InlineBuffer) : InlineBuffer :=
  match b.image with
  | some _ => b
  | none => { b with children := b.children ++ [.inlineHtml html] }

/-- Adds a line break. Its plain text goes to the container even from within an image. -/
def addBreak (b : InlineBuffer) : InlineBuffer :=
  let b := b.addHtml "<br>"
  { b with source := b.source ++ "\n" }

def enterImage (source title : String) (b : InlineBuffer) : InlineBuffer :=
  match b.image with
  | some i => { b with image := some { i with depth := i.depth + 1 } }
  | none => { b with image := some { source, title, alternative := "", depth := 0 } }

def imageToken (i : PendingImage) : Token :=
  let t := Token.image i.source i.alternative
  if i.title.isEmpty then t else t.pushAttr "title" i.title

def leaveImage (b : InlineBuffer) : InlineBuffer :=
  match b.image with
  | none => b
  | some i =>
    match i.depth with
    | depth + 1 => { b with image := some { i with depth } }
    | 0 => {
        source := b.source ++ i.alternative
        children := b.children ++ [imageToken i]
        image := none }

def token (b : InlineBuffer) : Token :=
  .inline b.source b.children

end InlineBuffer

/-- Text that is collected for a block that is a single token. -/
inductive Capture where
  | code (language text : String)
  | html (text : String)

structure PageState where
  tokens : List Token
  toc : List TocEntry
  inline : Option InlineBuffer
  capture : Option Capture
  inTableHead : Bool

namespace PageState

def initial : PageState where
  tokens := []
  toc := []
  inline := none
  capture := none
  inTableHead := false

def push (s : PageState) (ts : List Token) : PageState :=
  { s with tokens := s.tokens ++ ts }

/-- Ends the open container, if there is one. -/
def flush (s : PageState) : PageState :=
  { s.push (s.inline.map InlineBuffer.token).toList with inline := none }

def block (s : PageState) (ts : List Token) : PageState :=
  s.flush.push ts

/-- Changes the open container, a new one if there is none. -/
def collect (s : PageState) (change : InlineBuffer → InlineBuffer) : PageState :=
  { s with inline := some (change (s.inline.getD .empty)) }

def beginContainer (s : PageState) (marker : Token) : PageState :=
  { s.block [marker] with inline := some .empty }

/-- The element name for cells, which differs in the head of a table. -/
def cellTag (s : PageState) : String :=
  if s.inTableHead then "th" else "td"

/-- The marker that opens a list. A first number other than one is given. -/
def listOpen : Option Nat → Token
  | none => .blockOpen "ul"
  | some first =>
    if first = 1 then .blockOpen "ol" else (Token.blockOpen "ol").pushAttr "start" first.repr

def listTag (first : Option Nat) : String :=
  if first.isSome then "ol" else "ul"

def linkOpen (destination title : String) : String :=
  "<a href=\"" ++ escape destination ++ "\"" ++
    (if title.isEmpty then "" else " title=\"" ++ escape title ++ "\"") ++ ">"

def codeToken (language text : String) : Token :=
  let classAttr :=
    if language.isEmpty then "" else " class=\"language-" ++ escape language ++ "\""
  .block "pre" ("<pre><code" ++ classAttr ++ ">" ++ escape text ++ "</code></pre>")

/-- The language of a block of code: the first word behind its fence. -/
def language (info : Option String) : String :=
  String.ofList (firstWord (info.getD "").toList)

def taskBox (checked : Bool) : String :=
  if checked then "<input type=\"checkbox\" checked disabled>"
  else "<input type=\"checkbox\" disabled>"

def enter (s : PageState) : Element → PageState
  | .paragraph => s.beginContainer (.ofKind .paragraphOpen)
  | .heading level => s.beginContainer (.ofKind (.headingOpen level.number))
  | .blockQuote => s.block [.blockOpen "blockquote"]
  | .list first => s.block [listOpen first]
  | .item => s.block [.blockOpen "li"]
  | .table => s.block [.blockOpen "table"]
  | .tableHead => { s.block [.blockOpen "thead", .blockOpen "tr"] with inTableHead := true }
  | .tableRow => s.block [.blockOpen "tr"]
  | .tableCell => s.block [.blockOpen s.cellTag]
  | .codeBlock info => { s.flush with capture := some (.code (language info) "") }
  | .htmlBlock => { s.flush with capture := some (.html "") }
  | .emphasis => s.collect (.addHtml "<em>")
  | .strong => s.collect (.addHtml "<strong>")
  | .strikethrough => s.collect (.addHtml "<del>")
  | .link destination title => s.collect (.addHtml (linkOpen destination title))
  | .image destination title => s.collect (.enterImage destination title)

def leave (s : PageState) : Element → PageState
  | .paragraph => s.block [.ofKind .paragraphClose]
  | .heading level =>
    let buffer := s.inline.getD .empty
    { s.push [buffer.token, .ofKind (.headingClose level.number)] with
      inline := none
      toc := s.toc ++ [⟨level.number, buffer.source⟩] }
  | .blockQuote => s.block [.blockClose "blockquote"]
  | .list first => s.block [.blockClose (listTag first)]
  | .item => s.block [.blockClose "li"]
  | .table => s.block [.blockClose "table"]
  | .tableHead => { s.block [.blockClose "tr", .blockClose "thead"] with inTableHead := false }
  | .tableRow => s.block [.blockClose "tr"]
  | .tableCell => s.block [.blockClose s.cellTag]
  | .codeBlock _ =>
    match s.capture with
    | some (.code language text) => { s.push [codeToken language text] with capture := none }
    | _ => { s with capture := none }
  | .htmlBlock =>
    match s.capture with
    | some (.html text) => { s.push [.block "html" text] with capture := none }
    | _ => { s with capture := none }
  | .emphasis => s.collect (.addHtml "</em>")
  | .strong => s.collect (.addHtml "</strong>")
  | .strikethrough => s.collect (.addHtml "</del>")
  | .link _ _ => s.collect (.addHtml "</a>")
  | .image _ _ => s.collect .leaveImage

/-- The text that an event adds to a block that is a single token, if it adds any. -/
def captured : Capture → Event → Option Capture
  | .code language text, .text content => some (.code language (text ++ content))
  | .html text, .html content => some (.html (text ++ content))
  | .html text, .text content => some (.html (text ++ content))
  | _, _ => none

def handle (s : PageState) : Event → PageState
  | .enter element => s.enter element
  | .leave element => s.leave element
  | .text content => s.collect (.addText content)
  | .code content => s.collect (.addCode content)
  | .inlineHtml content | .html content => s.collect (.addHtml content)
  | .softBreak => s.collect (.addText "\n")
  | .hardBreak => s.collect .addBreak
  | .rule => s.block [.block "hr" "<hr>"]
  | .taskMarker checked => s.collect (.addHtml (taskBox checked))

def step (s : PageState) (e : Event) : PageState :=
  match s.capture.bind (captured · e) with
  | some capture => { s with capture := some capture }
  | none => s.handle e

def finish (s : PageState) : ParsedPage where
  document := ⟨s.flush.tokens⟩
  toc := s.toc

end PageState

def ParsedPage.ofEvents (events : List Event) : ParsedPage :=
  (events.foldl PageState.step .initial).finish

end Folio.Markdown
