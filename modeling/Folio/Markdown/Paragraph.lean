import Folio.Markdown.Block
import Folio.Markdown.BlockStart

/-!
# Paragraphs, headings and tables

A paragraph goes on line by line until a line ends it. A line below it may underline it, which makes
it a heading, and the line below its first one may make it the head of a table. The rows of a table
are cut or filled up to the number of columns of its head.
-/

namespace Folio.Markdown

open Folio.Text

inductive ParagraphForm where
  | paragraph (spans : List Span) (stop : Cursor)
  | heading (level : HeadingLevel) (spans : List Span) (stop : Cursor)
  /-- A table with so many columns, the rows of which start at a place. -/
  | table (columns : Nat) (body : Cursor)

/-- The spans, in reverse, when no more text follows a line. A backslash before its end is text. -/
def closeLine (spans : List Span) : LineEnd → List Span
  | .backslashBreak s => addText s.start (s.start.position + 1) spans
  | _ => spans

def breakLine (spans : List Span) : LineEnd → List Span
  | .lineBreak s | .backslashBreak s => s :: spans
  | _ => spans

/-- Reads the lines of a paragraph from a place on. `spans` are those of the lines before, in reverse;
`fuel` bounds the number of lines. -/
def paragraphLines (containers : List Container) :
    Nat → LineMode → List Span → Cursor → ParagraphForm
  | 0, _, spans, c => .paragraph spans.reverse c
  | fuel + 1, mode, spans, c =>
    let line := scanLine mode containers c
    match line.ending with
    | .table columns => .table columns line.next
    | ending =>
      let spans := line.spans.reverse ++ spans
      let (inside, l) := claimAll containers (.ofCursor line.next)
      let text := (l.skipSpaces 3).cursor
      if inside && underlines l then
        match afterUnderline? text.rest with
        | some (level, rest) =>
          .heading level (closeLine spans ending).reverse (text.moveTo rest)
        | none => .paragraph spans.reverse line.next
      else
        let start := l.skipAllSpaces
        if continuesParagraph containers inside l && !start.atLineEnd then
          paragraphLines containers fuel .plain (breakLine spans ending) start.cursor
        else .paragraph (closeLine spans ending).reverse line.next

def readParagraph (containers : List Container) (c : Cursor) : ParagraphForm :=
  paragraphLines containers (c.rest.length + 1) .tableHead [] c

/-- Reads the cells of a row, and gives the beginning of the next line. `fuel` bounds their number.
-/
def readCells (containers : List Container) : Nat → Cursor → List Cell × Cursor
  | 0, c => ([], c)
  | fuel + 1, c =>
    let c := if c.rest.head? == some '|' then c.next else c
    let c := c.moveTo (skipBlanks c.rest)
    match afterLineEnd? c.rest with
    | some rest => ([], c.moveTo rest)
    | none =>
      let cell := scanLine .cell containers c
      let (cells, next) := readCells containers fuel cell.next
      (⟨cell.spans, cell.next.position⟩ :: cells, next)

def fitCells (columns : Nat) (stop : Nat) (cells : List Cell) : List Cell :=
  cells.take columns ++ List.replicate (columns - cells.length) ⟨[], stop⟩

def readRows (containers : List Container) (columns : Nat) :
    Nat → Cursor → List (List Cell) × Cursor
  | 0, c => ([], c)
  | fuel + 1, c =>
    let (inside, l) := claimAll containers (.ofCursor c)
    let start := l.skipAllSpaces.cursor
    if !inside || startsBlock true start.rest then ([], c)
    else
      let (cells, next) := readCells containers (start.rest.length + 1) start
      if cells.isEmpty then ([], c)
      else
        let (rows, stop) := readRows containers columns fuel next
        (fitCells columns next.position cells :: rows, stop)

/-- Reads a table whose head and body start at two places. Gives the place where it stops too. -/
def readTable (containers : List Container) (columns : Nat) (head body : Cursor) :
    BlockContent × Cursor :=
  let (cells, next) := readCells containers (head.rest.length + 1) head
  let (rows, stop) := readRows containers columns (body.rest.length + 1) body
  (.table (fitCells columns next.position cells) rows, stop)

/-- Where the text of a heading stops, given the rest of its line: spaces at the end count as nothing,
and so do number signs there, if a space or nothing else comes before them. -/
def headingLength (line : List Char) : Nat :=
  let trimmed := (line.reverse.dropWhile fun c => c == '\n' || c == '\r' || c == ' ')
  let opened := trimmed.dropWhile (· == '#')
  let spaces := countWhile ' ' opened
  if opened.isEmpty then 0
  else if spaces = 0 then trimmed.length
  else opened.length - spaces

def stopLast (stop : Nat) (spans : List Span) : List Span :=
  match spans.reverse with
  | [] => []
  | last :: before => ({ last with stop } :: before).reverse

/-- Reads the text of a heading behind its number signs, and gives the beginning of the next line.
Number signs alone are no text. -/
def readHeading (containers : List Container) (c : Cursor) : List Span × Cursor :=
  match afterLineEnd? c.rest with
  | some rest => ([], c.moveTo rest)
  | none =>
    let c := c.moveTo (skipBlanks c.rest)
    let line := scanLine .plain containers c
    let spans := (closeLine line.spans.reverse line.ending).reverse
    let length := headingLength (c.textTo line.next.position)
    (if length = 0 then [] else stopLast (c.position + length) spans, line.next)

end Folio.Markdown
