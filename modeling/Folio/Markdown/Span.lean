import Folio.Markdown.Delimiter
import Folio.Markdown.Event
import Folio.Markdown.Reference
import Folio.Markdown.TableHead

/-!
# The spans of a line

The text of a block is first cut into spans, without regard to what belongs together: plain text,
runs of delimiters and of backquotes, brackets, and whatever else may turn out to be markup. Text is
cut before an escaped character too. A line that could be the head of a table is told by the line
below it.
-/

namespace Folio.Markdown

open Folio.Text

inductive SpanKind where
  | text
  | delimiters (char : Char) (count : Nat) (canOpen canClose : Bool)
  | angle
  /-- A run of backquotes, the first of which may be escaped. -/
  | backquotes (count : Nat) (escaped : Bool)
  | linkOpen
  | imageOpen
  /-- A closing bracket, and whether the brackets it closes may refer to a defined target. -/
  | linkClose (mayRefer : Bool)
  | softBreak
  | hardBreak (byBackslash : Bool)
  | decoded (content : List Char)
  | task (checked : Bool)
  /-- A block that stands between the lines of a list item, with its events. If it divides the text,
  no markup reaches across it. -/
  | block (events : List Event) (divides : Bool)

structure Span where
  start : Cursor
  stop : Nat
  kind : SpanKind

def Span.source (s : Span) : List Char :=
  s.start.textTo s.stop

/-- The span without what comes before a position. -/
def Span.resume (s : Span) (position : Nat) : Span :=
  { s with start := s.start.advance (position - s.start.position) }

/-- What is left of spans behind a position, from a span that ends behind it on. -/
def resumeAt (position : Nat) (spans : List Span) : List Span :=
  match spans.dropWhile (·.stop ≤ position) with
  | [] => []
  | s :: rest => s.resume position :: rest

/-- Adds text that begins at a cursor behind spans given in reverse. Text that directly continues a
span of text becomes part of it, and no text adds nothing. -/
def addText (start : Cursor) (stop : Nat) (spans : List Span) : List Span :=
  if stop ≤ start.position then spans
  else
    match spans with
    | ⟨first, last, .text⟩ :: rest =>
      if last = start.position then ⟨first, stop, .text⟩ :: rest
      else ⟨start, stop, .text⟩ :: spans
    | _ => ⟨start, stop, .text⟩ :: spans

inductive LineMode where
  | plain
  /-- The first line of a paragraph, which may be the head of a table. -/
  | tableHead
  /-- The cell of a table, which ends at a bar. -/
  | cell
  deriving DecidableEq

inductive LineEnd where
  /-- At the end of the text or of a cell. -/
  | closed
  | lineBreak (span : Span)
  /-- With a backslash that makes the break a hard one, as long as the text goes on. -/
  | backslashBreak (span : Span)
  /-- The line is the head of a table with so many columns, and the line below it belongs to it. -/
  | table (columns : Nat)

/-- A line cut into spans, how it ends, and where the next one begins. -/
structure ScannedLine where
  spans : List Span
  ending : LineEnd
  next : Cursor

structure LineScan where
  mode : LineMode
  containers : List Container
  line : Cursor
  /-- The beginning of the text that is not in a span yet. -/
  pending : Cursor
  /-- The spans so far, in reverse. -/
  spans : List Span
  bars : Nat
  behindLastBar : List Char

namespace LineScan

/-- Ends the pending text at a place and adds a span from there. -/
def add (s : LineScan) (start : Cursor) (length : Nat) (kind : SpanKind) : LineScan :=
  let behind := start.advance length
  { s with
    spans := ⟨start, behind.position, kind⟩ :: addText s.pending start.position s.spans
    pending := behind }

/-- Ends the pending text at one place and begins it again at another. -/
def cut (s : LineScan) (stop pending : Cursor) : LineScan :=
  { s with spans := addText s.pending stop.position s.spans, pending }

def close (s : LineScan) (stop : Nat) (ending : LineEnd) (next : Cursor) : ScannedLine :=
  ⟨(addText s.pending stop s.spans).reverse, ending, next⟩

/-- The columns of the table that the line is the head of, and what remains behind the line below it,
given what remains behind the line. -/
def table? (s : LineScan) (below : Cursor) : Option (Nat × Cursor) :=
  if s.mode == .tableHead && 0 < s.bars then
    belowHead? s.containers (headColumns s.line.rest s.behindLastBar s.bars) below
  else none

/-- Ends the line at a line end. A backslash before it keeps the line from being the head of a table.
-/
def endLine (s : LineScan) (c below : Cursor) : ScannedLine :=
  let blanks := (c.before.takeWhile isLineBlank).length
  if countWhile '\\' c.before % 2 = 1 && !below.rest.isEmpty then
    let start := c.back
    s.close start.position (.backslashBreak ⟨start, below.position, .hardBreak true⟩) below
  else
    match s.table? below with
    | some (columns, next) => ⟨[], .table columns, next⟩
    | none =>
      if 2 ≤ blanks then
        let start := c.retreat blanks
        s.close start.position (.lineBreak ⟨start, below.position, .hardBreak false⟩) below
      else
        s.close (c.position - blanks) (.lineBreak ⟨c, below.position, .softBreak⟩) below

def endClosed (s : LineScan) (c : Cursor) : ScannedLine :=
  let blanks := (c.before.take (c.position - s.pending.position)).takeWhile isLineBlank
  s.close (c.position - blanks.length) .closed c

def escape (s : LineScan) (c : Cursor) (escaped : Char) (behind : List Char) : LineScan × Cursor :=
  if escaped == '\x60' then
    let count := 1 + countWhile '\x60' behind
    ((s.cut c c.next).add c.next count (.backquotes count true), c.advance (count + 1))
  else if s.mode == .cell && escaped == '\\' && behind.head? == some '|' then
    (s.cut c (c.advance 2), c.advance 3)
  else (s.cut c c.next, c.advance 2)

/-- The scan behind a run of delimiters. A run that neither begins nor ends anything stays text, and
so does a run of more than two tildes. -/
def delimiters (s : LineScan) (c : Cursor) (char : Char) : LineScan × Cursor :=
  let count := countWhile char c.rest
  let behind := c.advance count
  let previous := if c.position = s.line.position then none else c.before.head?
  let run : DelimiterRun := ⟨char, count, previous, behind.rest.head?, s.mode == .cell⟩
  if (run.canOpen || run.canClose) && (char != '~' || count ≤ 2) then
    (s.add c count (.delimiters char count run.canOpen run.canClose), behind)
  else (s, behind)

def step (s : LineScan) (c : Cursor) (char : Char) (rest : List Char) : LineScan × Cursor :=
  match char with
  | '\\' =>
    match rest with
    | d :: behind => if isAsciiPunctuation d then s.escape c d behind else (s, c.next)
    | [] => (s, c.next)
  | '*' | '_' | '~' => s.delimiters c char
  | '\x60' =>
    let count := countWhile '\x60' c.rest
    (s.add c count (.backquotes count false), c.advance count)
  | '<' => if rest.head? == some '\\' then (s, c.next) else (s.add c 1 .angle, c.next)
  | '!' => if rest.head? == some '[' then (s.add c 2 .imageOpen, c.advance 2) else (s, c.next)
  | '[' => (s.add c 1 .linkOpen, c.next)
  | ']' => (s.add c 1 (.linkClose true), c.next)
  | '&' =>
    match reference? rest with
    | some (content, remaining) =>
      let behind := c.moveTo remaining
      (s.add c (behind.position - c.position) (.decoded content), behind)
    | none => (s, c.next)
  | '|' =>
    if c.before.head? == some '\\' then (s, c.next)
    else ({ s with bars := s.bars + 1, behindLastBar := rest }, c.next)
  | _ => (s, c.next)

def run : Nat → LineScan → Cursor → ScannedLine
  | 0, s, c => s.endClosed c
  | fuel + 1, s, c =>
    match c.rest with
    | [] => s.endClosed c
    | char :: rest =>
      if isLineEnd char then
        if s.mode == .cell then s.endClosed c
        else s.endLine c (c.moveTo ((afterLineEnd? (char :: rest)).getD rest))
      else if char == '|' && s.mode == .cell && c.before.head? != some '\\' then s.endClosed c
      else
        let (s, c) := s.step c char rest
        run fuel s c

end LineScan

def scanLine (mode : LineMode) (containers : List Container) (c : Cursor) : ScannedLine :=
  LineScan.run (c.rest.length + 1)
    ⟨mode, containers, c, c, [], 0, []⟩ c

end Folio.Markdown
