import Folio.Markdown.Line

/-!
# Heads of tables

A line is the head of a table if the line below it belongs to the same containers and rules off as
many columns as the head has: dashes and colons between bars. A bar behind a backslash bounds no
column.
-/

namespace Folio.Markdown

/-- Counts the columns of the line below a table head. `columns` have come before, `fresh` tells that
the column at hand is empty so far, and `dashed` that it has a dash; `bar` and `dash` tell whether the
line has any. -/
def delimiterColumns (columns : Nat) (fresh dashed bar dash : Bool) :
    List Char → Option (Nat × List Char)
  | [] => if bar && dash then some (if fresh then columns else columns + 1, []) else none
  | c :: rest =>
    if isLineEnd c then
      if bar && dash then
        (afterLineEnd? (c :: rest)).map (if fresh then columns else columns + 1, ·)
      else none
    else if c == ' ' then delimiterColumns columns fresh dashed bar dash rest
    else if c == ':' then delimiterColumns columns false dashed bar dash rest
    else if c == '-' then delimiterColumns columns false true bar true rest
    else if c == '|' && dashed then delimiterColumns (columns + 1) true false true dash rest
    else none

def delimiterRow? (cs : List Char) : Option (Nat × List Char) :=
  let indent := countWhile ' ' cs
  match cs.drop indent with
  | [] => none
  | c :: rest =>
    if 3 < indent then none
    else if c == '|' then delimiterColumns 0 true false true false rest
    else delimiterColumns 0 true false false false (c :: rest)

/-- The number of columns of a table head with so many bars. A bar at either end bounds no column of
its own. -/
def headColumns (line behindLastBar : List Char) (bars : Nat) : Nat :=
  let inner := if (skipBlanks line).head? == some '|' then bars - 1 else bars
  if isBlankLine behindLastBar then inner else inner + 1

/-- What remains behind the line below a table head, and the number of columns, if it rules off so
many. -/
def belowHead? (containers : List Container) (columns : Nat) (below : Cursor) :
    Option (Nat × Cursor) :=
  match claimAll containers (.ofCursor below) with
  | (true, start) =>
    match delimiterRow? start.rest with
    | some (ruled, rest) =>
      if ruled = columns then some (columns, start.cursor.moveTo rest) else none
    | none => none
  | (false, _) => none

/-- The number of bars on a line that no backslash comes right before, and what remains behind the
last of them. -/
def countBars (escaped : Bool) (bars : Nat) (behindLast : List Char) : List Char → Nat × List Char
  | [] => (bars, behindLast)
  | c :: rest =>
    if isLineEnd c then (bars, behindLast)
    else if c == '|' && !escaped then countBars false (bars + 1) rest rest
    else countBars (c == '\\') bars behindLast rest

def startsTable (containers : List Container) (line : List Char) : Bool :=
  let (bars, behindLast) := countBars false 0 [] line
  match line.head?, line.dropWhile (!isLineEnd ·) with
  | some '|', c :: rest =>
    let below := (afterLineEnd? (c :: rest)).getD rest
    (belowHead? containers (headColumns line behindLast bars) (.start below)).isSome
  | _, _ => false

end Folio.Markdown
