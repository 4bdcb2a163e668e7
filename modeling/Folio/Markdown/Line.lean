import Folio.Markdown.Scan

/-!
# The beginning of a line

Indentation is counted in columns, and a tab leads to the next multiple of four. A tab may be used
in part: the columns of it that are left count as spaces that come next.

The containers that a block stands in each claim a piece at the beginning of every line: a quote its
marker, a list item its indentation. A line belongs to as many of the containers, from the outside,
as find their piece.
-/

namespace Folio.Markdown

open Folio.Text

structure LineStart where
  cursor : Cursor
  /-- How far the place is from the last tab. -/
  column : Nat
  /-- The columns that are left of a tab before the place. -/
  owed : Nat

namespace LineStart

def ofCursor (c : Cursor) : LineStart :=
  ⟨c, 0, 0⟩

/-- Passes over up to `n` columns of blanks. `column` is the distance from the last tab. Gives the
number of columns that were missing too. -/
def takeColumns (n column : Nat) (c : Cursor) : List Char → Nat × LineStart
  | ' ' :: rest =>
    if n = 0 then (0, ⟨c, column, 0⟩) else takeColumns (n - 1) (column + 1) c.next rest
  | '\t' :: rest =>
    if n = 0 then (0, ⟨c, column, 0⟩)
    else
      let width := 4 - column % 4
      if n < width then (0, ⟨c.next, 0, width - n⟩) else takeColumns (n - width) 0 c.next rest
  | _ => (n, ⟨c, column, 0⟩)

/-- Passes over up to `n` columns of blanks and gives the number of those that were missing. -/
def takeSpaces (n : Nat) (l : LineStart) : Nat × LineStart :=
  if n ≤ l.owed then (0, { l with owed := l.owed - n })
  else takeColumns (n - l.owed) l.column l.cursor l.cursor.rest

def skipSpaces (n : Nat) (l : LineStart) : LineStart :=
  (l.takeSpaces n).2

def afterSpaces? (n : Nat) (l : LineStart) : Option LineStart :=
  match l.takeSpaces n with
  | (0, behind) => some behind
  | _ => none

/-- Passes over up to four columns of blanks and gives their number. -/
def takeIndent (l : LineStart) : Nat × LineStart :=
  let (missing, behind) := l.takeSpaces 4
  (4 - missing, behind)

def skipAllSpaces (l : LineStart) : LineStart :=
  let behind := l.cursor.rest.dropWhile fun c => c == ' ' || c == '\t'
  ⟨l.cursor.moveTo behind, l.column, 0⟩

def advance (n : Nat) (l : LineStart) : LineStart :=
  { l with cursor := l.cursor.advance n, column := l.column + n }

def after? (c : Char) (l : LineStart) : Option LineStart :=
  if l.cursor.rest.head? == some c then some (l.advance 1) else none

def atLineEnd (l : LineStart) : Bool :=
  match l.cursor.rest with
  | [] => true
  | c :: _ => isLineEnd c

def rest (l : LineStart) : List Char :=
  l.cursor.rest

end LineStart

/-- An open block as far as the beginnings of lines are concerned. -/
inductive Container where
  | quote
  | list
  | item (indent : Nat)
  deriving DecidableEq

namespace Container

/-- The place behind the marker of a quote and the space that may follow it. -/
def afterQuoteMarker? (l : LineStart) : Option LineStart :=
  (l.after? '>').map (·.skipSpaces 1)

/-- The place behind the piece that a container claims, none if it is not there. An item claims
blank lines whatever their indentation. -/
def claim? (l : LineStart) : Container → Option LineStart
  | quote => afterQuoteMarker? (l.skipSpaces 3)
  | list => some l
  | item indent =>
    let (missing, behind) := l.takeSpaces indent
    if missing = 0 || behind.atLineEnd then some behind else none

end Container

/-- How many containers, given from the outside, a line belongs to, and the place behind their
pieces. -/
def claimContainers (l : LineStart) : List Container → Nat × LineStart
  | [] => (0, l)
  | c :: rest =>
    match c.claim? l with
    | none => (0, l)
    | some behind =>
      let (n, last) := claimContainers behind rest
      (n + 1, last)

def claimAll (containers : List Container) (l : LineStart) : Bool × LineStart :=
  let (n, behind) := claimContainers l containers
  (n == containers.length, behind)

def skipContainers (containers : List Container) (cs : List Char) : List Char :=
  (claimContainers (.ofCursor (.start cs)) containers).2.rest

end Folio.Markdown
