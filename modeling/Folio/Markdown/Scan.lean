import Folio.Text.Ascii

/-!
# Scanning lines

Text is scanned from the front, and what remains is the result. A line ends at a line feed, at a
carriage return or at both together, and the end of the text ends a line too. Blanks within a line
are the ASCII ones other than line ends.
-/

namespace Folio.Markdown

open Folio.Text

/-- An ASCII blank that does not end a line. -/
def isLineBlank (c : Char) : Bool :=
  c == ' ' || c == '\t' || c == '\x0b' || c == '\x0c'

def isAsciiBlank (c : Char) : Bool :=
  isLineBlank c || c == '\n' || c == '\r'

def isLineEnd (c : Char) : Bool :=
  c == '\n' || c == '\r'

/-- What remains behind the end of a line, none if no line ends here. -/
def afterLineEnd? : List Char → Option (List Char)
  | [] => some []
  | '\n' :: rest => some rest
  | '\r' :: '\n' :: rest => some rest
  | '\r' :: rest => some rest
  | _ => none

def skipBlanks (cs : List Char) : List Char :=
  cs.dropWhile isLineBlank

/-- What remains behind a line with nothing but blanks left, none if there is more. -/
def afterBlankLine? (cs : List Char) : Option (List Char) :=
  afterLineEnd? (skipBlanks cs)

def isBlankLine (cs : List Char) : Bool :=
  (afterBlankLine? cs).isSome

def afterLineFeed : List Char → List Char
  | [] => []
  | c :: rest => if c == '\n' then rest else afterLineFeed rest

def countWhile (c : Char) (cs : List Char) : Nat :=
  (cs.takeWhile (· == c)).length

def after? (c : Char) : List Char → Option (List Char)
  | [] => none
  | d :: rest => if d == c then some rest else none

def decimalValue (cs : List Char) : Nat :=
  cs.foldl (fun n c => n * 10 + (c.toNat - '0'.toNat)) 0

def hexadecimalValue (cs : List Char) : Nat :=
  cs.foldl (fun n c => n * 16 + (hexValue? c).getD 0) 0

/-- A place in a text: how many characters come before it, these in reverse, and those that follow.
-/
structure Cursor where
  position : Nat
  before : List Char
  rest : List Char

namespace Cursor

def start (cs : List Char) : Cursor :=
  ⟨0, [], cs⟩

def next (c : Cursor) : Cursor :=
  match c.rest with
  | [] => c
  | d :: rest => ⟨c.position + 1, d :: c.before, rest⟩

def back (c : Cursor) : Cursor :=
  match c.before with
  | [] => c
  | d :: before => ⟨c.position - 1, before, d :: c.rest⟩

def advance (c : Cursor) : Nat → Cursor
  | 0 => c
  | n + 1 => c.next.advance n

def retreat (c : Cursor) : Nat → Cursor
  | 0 => c
  | n + 1 => c.back.retreat n

/-- The place at which `remaining` remains, which is a rest of what remains here. -/
def moveTo (c : Cursor) (remaining : List Char) : Cursor :=
  c.advance (c.rest.length - remaining.length)

def textTo (c : Cursor) (stop : Nat) : List Char :=
  c.rest.take (stop - c.position)

end Cursor

end Folio.Markdown
