import Folio.Markdown.Definition
import Folio.Markdown.OpenBlock
import Folio.Markdown.Paragraph
import Folio.Markdown.ParsedPage
import Folio.Markdown.RawBlock

/-!
# Reading a page

A page is read block by block. The line on which a block starts first claims its place: the open
blocks that it does not belong to are closed, then quotes and list items that it begins are opened.
What is left of the line tells the block, which is read to its end.
-/

namespace Folio.Markdown

open Folio.Text

namespace PageScan

/-- The page after the beginning of a line: the place where its block starts, or, if there is nothing
else on the line, the beginning of the next one. -/
inductive Opening where
  | block (s : PageScan) (l : LineStart)
  | line (s : PageScan) (next : Cursor)

def openItem (s : PageScan) (start : Cursor) (marker : ItemMarker) : PageScan :=
  (s.continueList start marker).openBlock start (.item marker.indent)

/-- Opens the quotes and the list items that begin on a line. Only for a list item does it matter
whether the indentation is that of code. `fuel` bounds their number. -/
def openContainers : Nat → PageScan → LineStart → Opening
  | 0, s, l => .block s l
  | fuel + 1, s, l =>
    let (outer, start) := l.takeIndent
    match if outer < 4 then ItemMarker.read? outer start else none with
    | some (marker, behind) =>
      let s := s.openItem start.cursor marker
      match afterBlankLine? behind.rest with
      | some next => .line { s with itemBegun := true } (behind.cursor.moveTo next)
      | none =>
        match taskStart? behind with
        | some (checked, l) =>
          let task : Span := ⟨behind.cursor, l.cursor.position, .task checked⟩
          openContainers fuel { s with task := some task } l
        | none => openContainers fuel { s with task := none } behind
    | none =>
      match Container.quote.claim? l with
      | some behind =>
        let s := (s.finishList start.cursor.position).openBlock start.cursor .quote
        openContainers fuel s behind
      | none => .block s l

/-- Reads the definitions at the beginning of a paragraph. Gives the place where its text starts, none
if none is left, and otherwise the beginning of the next line. `fuel` bounds their number. -/
def readDefinitions : Nat → PageScan → Cursor → PageScan × Option Cursor × Cursor
  | 0, s, c => (s, some c, c)
  | fuel + 1, s, c =>
    match Definition.read? s.containers c.rest with
    | none => (s, some c, c)
    | some d =>
      let s := { s with targets := s.targets.define d.label d.target }
      let next := c.moveTo ((afterBlankLine? d.rest).getD d.rest)
      let (inside, l) := claimAll s.containers (.ofCursor next)
      let start := l.skipAllSpaces
      if continuesParagraph s.containers inside l then readDefinitions fuel s start.cursor
      else (s, none, next)

def readText (s : PageScan) (c : Cursor) : PageScan × Cursor :=
  let (s, start?, next) := s.readDefinitions (c.rest.length + 1) c
  match start? with
  | none => (s, next)
  | some start =>
    let containers := s.containers
    let task := s.task.toList
    let s := { s with task := none }
    match readParagraph containers start with
    | .paragraph spans stop => (s.addContent start stop (.paragraph (task ++ spans)), stop)
    | .heading level spans stop => (s.addContent start stop (.heading level (task ++ spans)), stop)
    | .table columns body =>
      let (table, stop) := readTable containers columns start body
      (s.addContent start stop table, stop)

def readHtmlBlock? (s : PageScan) (indent : Nat) (c : Cursor) : Option (PageScan × Cursor) :=
  match c.rest with
  | '<' :: rest =>
    let closing := blockEnd? rest
    if closing.isSome || startsBlockElement rest || isLoneTag rest then
      let lines := readHtml s.containers closing (c.rest.length + 1) indent c
      let html := BlockContent.html (String.ofList lines.content)
      some (s.addContent c lines.stop html, lines.stop)
    else none
  | _ => none

def readFence (s : PageScan) (indent : Nat) (c : Cursor) (char : Char) (count : Nat) :
    PageScan × Cursor :=
  let info := ((c.rest.drop count).takeWhile (· != '\n'))
  let lines := readFencedCode s.containers char count indent (c.rest.length + 1) (lineBelow c)
  let trimmed := ((skipBlanks info).reverse.dropWhile isAsciiBlank).reverse
  let code := BlockContent.code (some (String.ofList (unescape false trimmed)))
    (String.ofList lines.content)
  (s.addContent c lines.stop code, lines.stop)

def readLeaf (s : PageScan) (l : LineStart) : PageScan × Cursor :=
  let (indent, start) := l.takeIndent
  let c := start.cursor
  let fuel := c.rest.length + 1
  if 4 ≤ indent then
    let (lines, stop, blank) := readIndentedCode s.containers fuel [] start
    let code := BlockContent.code none (String.ofList lines.content)
    ({ s.add (.mk c stop code) with blankBefore := blank }, lines.stop)
  else
    match s.readHtmlBlock? indent c with
    | some result => result
    | none =>
      match afterRule? c.rest, headingStart? c.rest, fenceStart? c.rest with
      | some rest, _, _ =>
        let stop := c.moveTo rest
        (s.addContent c stop .rule, stop)
      | _, some level, _ =>
        let (spans, stop) := readHeading s.containers (c.advance level.number.toNat)
        (s.addContent c stop (.heading level spans), stop)
      | _, _, some (char, count) => s.readFence indent c char count
      | _, _, _ => s.readText c

/-- Reads the block that starts on a line, and gives the beginning of the line behind it. -/
def readBlock (s : PageScan) (c : Cursor) : PageScan × Cursor :=
  let (matched, l) := claimContainers (.ofCursor c) s.containers
  let s := s.closeMany c.position (s.opened.length - matched)
  match s.openContainers (c.rest.length + 1) l with
  | .line s next => (s, next)
  | .block s l =>
    match afterBlankLine? l.rest with
    | some rest => (s.blankLine, l.cursor.moveTo rest)
    | none => (s.finishList c.position).readLeaf l

def readBlocks : Nat → PageScan → Cursor → PageScan
  | 0, s, _ => s
  | fuel + 1, s, c =>
    if c.rest.isEmpty then s.closeMany c.position s.opened.length
    else
      let (s, next) := s.readBlock c
      readBlocks fuel s next

end PageScan

def readEvents (source : String) : List Event :=
  let cs := source.toList
  let page := PageScan.initial.readBlocks (cs.length + 1) (.start cs)
  blocksEvents page.targets [] false page.blocks.reverse

def parse (source : String) : ParsedPage :=
  .ofEvents (readEvents source)

end Folio.Markdown
