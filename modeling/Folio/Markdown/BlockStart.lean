import Folio.Markdown.Event
import Folio.Markdown.HtmlTag
import Folio.Markdown.TableHead

/-!
# How blocks start

Blocks other than paragraphs are told by the first characters of their first line. Most of them may
interrupt a paragraph too; a list may only do so if its first item is not empty and, for a numbered
one, bears the number one, and a table only if its head starts with a bar. The rows of a table end
where any list item starts.
-/

namespace Folio.Markdown

open Folio.Text

/-- What remains behind a thematic break: three or more of one of the characters `*`, `-` and `_` on
a line with nothing else but spaces and tabs. -/
def afterRule? : List Char → Option (List Char)
  | [] => none
  | c :: rest =>
    let line := rest.takeWhile (!isLineEnd ·)
    if (c == '*' || c == '-' || c == '_') &&
        line.all (fun d => d == c || d == ' ' || d == '\t') && 2 ≤ line.count c then
      afterLineEnd? (rest.drop line.length)
    else none

/-- The level of the heading that starts with number signs: from one to six of them, and a blank. -/
def headingStart? (cs : List Char) : Option HeadingLevel :=
  let count := countWhile '#' cs
  match cs.drop count with
  | [] => HeadingLevel.ofNumber? count
  | c :: _ => if isAsciiBlank c then HeadingLevel.ofNumber? count else none

/-- The line below a heading: its level, and what remains behind it. -/
def afterUnderline? : List Char → Option (HeadingLevel × List Char)
  | [] => none
  | c :: rest =>
    let behind := afterBlankLine? (rest.dropWhile (· == c))
    if c == '=' then behind.map (.h1, ·)
    else if c == '-' then behind.map (.h2, ·)
    else none

/-- The fence that starts a block of code: its character and how many there are. No backquote may
stand behind a fence of backquotes. -/
def fenceStart? : List Char → Option (Char × Nat)
  | [] => none
  | c :: rest =>
    let count := countWhile c (c :: rest)
    let info := ((c :: rest).drop count).takeWhile (· != '\n')
    if (c == '\x60' && !info.contains '\x60' || c == '~') && 3 ≤ count then some (c, count)
    else none

/-- How many digits the number of a list item may have. -/
def digitLimit : Nat := 9

/-- The list item that a line starts: its number, none without one, and what remains behind the
marker. -/
def itemStart? (cs : List Char) : Option (Option Nat × List Char) :=
  let behind (number : Option Nat) (rest : List Char) :=
    match rest with
    | [] => some (number, [])
    | c :: _ =>
      if c == ' ' || c == '\t' || isLineEnd c then some (number, rest) else none
  match cs with
  | [] => none
  | c :: rest =>
    if c == '-' || c == '+' || c == '*' then behind none rest
    else
      let digits := cs.takeWhile isDigit
      if digits.isEmpty || digitLimit < digits.length then none
      else
        match cs.drop digits.length with
        | '.' :: rest | ')' :: rest => behind (some (decimalValue digits)) rest
        | _ => none

def startsInterruptingItem (cs : List Char) : Bool :=
  match itemStart? cs with
  | none => false
  | some (number, behind) => (number.isNone || number == some 1) && !isBlankLine behind

/-- Whether a line is blank or starts a block of its own that is neither a paragraph nor a table.
`anyItem` tells whether every list item counts. -/
def startsBlock (anyItem : Bool) (cs : List Char) : Bool :=
  match cs with
  | [] => true
  | c :: rest =>
    isLineEnd c || (afterRule? cs).isSome || (headingStart? cs).isSome ||
      (fenceStart? cs).isSome || c == '>' ||
      (if anyItem then (itemStart? cs).isSome else startsInterruptingItem cs) ||
      c == '<' && ((blockEnd? rest).isSome || startsBlockElement rest)

/-- Whether a paragraph in containers ends before a line. `inside` tells whether the line belongs to
all of them. -/
def interruptsParagraph (containers : List Container) (inside : Bool) (cs : List Char) : Bool :=
  startsBlock (!inside) cs || startsTable containers cs

/-- Whether a line goes on with what stands before it, as a paragraph does: it has the indentation of
code, or starts nothing of its own. -/
def continuesParagraph (containers : List Container) (inside : Bool) (l : LineStart) : Bool :=
  (l.afterSpaces? 4).isSome || !interruptsParagraph containers inside (l.skipSpaces 3).rest

def underlines (l : LineStart) : Bool :=
  (l.afterSpaces? 4).isNone && (afterUnderline? (l.skipSpaces 3).rest).isSome

structure ItemMarker where
  /-- The bullet, or what stands behind the number. -/
  char : Char
  number : Option Nat
  indent : Nat

namespace ItemMarker

/-- The marker and the place where the contents start, given the place behind the marker. Up to four
columns of blanks belong to the indentation, unless nothing follows them. -/
def finish (marker : ItemMarker) (l : LineStart) : ItemMarker × LineStart :=
  if isBlankLine l.rest then (marker, l)
  else
    let (width, behind) := l.takeIndent
    if width < 4 then ({ marker with indent := marker.indent + width }, behind) else (marker, l)

/-- The marker that ends at a place, if a blank follows it or the line ends. -/
def close? (marker : ItemMarker) (l : LineStart) : Option (ItemMarker × LineStart) :=
  match l.afterSpaces? 1 with
  | some behind => some (marker.finish behind)
  | none => if l.atLineEnd then some (marker.finish l) else none

/-- The marker at a place behind `outer` columns of indentation, and the place where the contents
start. -/
def read? (outer : Nat) (l : LineStart) : Option (ItemMarker × LineStart) :=
  match l.rest with
  | [] => none
  | c :: _ =>
    if c == '-' || c == '+' || c == '*' then
      if (afterRule? l.rest).isSome then none else close? ⟨c, none, outer + 2⟩ (l.advance 1)
    else
      let digits := l.rest.takeWhile isDigit
      let width := digits.length
      if digits.isEmpty || digitLimit < width then none
      else
        match l.rest.drop width with
        | d :: _ =>
          if d == '.' || d == ')' then
            close? ⟨d, some (decimalValue digits), outer + width + 2⟩ (l.advance (width + 1))
          else none
        | [] => none

end ItemMarker

/-- The box of a task and the place behind it. A blank has to follow on the same line. -/
def taskStart? (l : LineStart) : Option (Bool × LineStart) := do
  let l ← (l.skipSpaces 3).after? '['
  let c ← l.rest.head?
  if !(isLineBlank c || c == 'x' || c == 'X') then none
  else do
    let behind ← (l.advance 1).after? ']'
    let d ← behind.rest.head?
    if isLineBlank d then some (!isLineBlank c, behind) else none

end Folio.Markdown
