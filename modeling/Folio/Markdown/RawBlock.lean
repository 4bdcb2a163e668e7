import Folio.Markdown.BlockStart

/-!
# Blocks of code and of HTML

The lines of these blocks are kept as they are, behind the pieces that the containers claim. Columns
that are left of a tab become spaces, and a carriage return before the end of a line is dropped. A
block ends at the latest with a line that does not belong to all of the containers.
-/

namespace Folio.Markdown

open Folio.Text

structure RawLines where
  content : List Char
  stop : Cursor

namespace RawLines

def prepend (text : List Char) (r : RawLines) : RawLines :=
  { r with content := text ++ r.content }

end RawLines

/-- A line without the carriage return before its last character, if that is an ASCII one. -/
def dropReturn (line : List Char) : List Char :=
  match line.reverse with
  | c :: '\r' :: rest => if c.toNat < 0x80 then (c :: rest).reverse else line
  | _ => line

def lineBelow (c : Cursor) : Cursor :=
  c.moveTo (afterLineFeed c.rest)

def rawLine (spaces : Nat) (c : Cursor) : List Char :=
  List.replicate spaces ' ' ++ dropReturn (c.textTo (lineBelow c).position)

def occursIn (text : List Char) : List Char → Bool
  | [] => text.isEmpty
  | c :: rest => text.isPrefixOf (c :: rest) || occursIn text rest

/-- Reads a block of HTML up to the line in which `closing` occurs or, if there is none, up to a blank
line. `spaces` are to be put before the first line; `fuel` bounds the number of lines. -/
def readHtml (containers : List Container) (closing : Option (List Char)) :
    Nat → Nat → Cursor → RawLines
  | 0, _, c => ⟨[], c⟩
  | fuel + 1, spaces, c =>
    let below := lineBelow c
    let line := rawLine spaces c
    let (inside, l) := claimAll containers (.ofCursor below)
    let ended :=
      match closing with
      | some text => occursIn text (c.textTo below.position)
      | none => isBlankLine l.rest
    if !inside || ended || l.rest.isEmpty then ⟨line, below⟩
    else (readHtml containers closing fuel l.owed l.cursor).prepend line

/-- Reads the lines of an indented block of code, given the place behind the indentation of the first
one. Blank lines count if others follow; `blanks` are those that came last. Gives the position behind
the last line that counts, and whether blank lines came last. `fuel` bounds the number of lines. -/
def readIndentedCode (containers : List Container) :
    Nat → List Char → LineStart → RawLines × Nat × Bool
  | 0, _, l => (⟨[], l.cursor⟩, l.cursor.position, false)
  | fuel + 1, blanks, l =>
    let below := lineBelow l.cursor
    let line := blanks ++ rawLine l.owed l.cursor
    let blank := isBlankLine l.rest
    let (inside, start) := claimAll containers (.ofCursor below)
    let behind := start.skipSpaces 4
    if inside && ((start.afterSpaces? 4).isSome || behind.atLineEnd) && !behind.rest.isEmpty then
      let (lines, stop, last) := readIndentedCode containers fuel (if blank then line else []) behind
      if blank then (lines, stop, last)
      else (lines.prepend line, max stop below.position, last)
    else (⟨if blank then [] else line, below⟩, if blank then 0 else below.position, blank)

/-- What remains behind a fence that closes a block, none if the line is none. The end of the text
closes it too. -/
def afterClosingFence? (char : Char) (count : Nat) (cs : List Char) : Option (List Char) :=
  if cs.isEmpty then some []
  else
    let rest := cs.dropWhile (· == char)
    if countWhile char cs < count then none
    else
      let behind := rest.dropWhile (· == ' ')
      if (afterLineEnd? behind).isSome then some behind else none

/-- Reads the lines of a fenced block of code. As much indentation as the fence has is left out.
`fuel` bounds the number of lines. -/
def readFencedCode (containers : List Container) (char : Char) (count indent : Nat) :
    Nat → Cursor → RawLines
  | 0, c => ⟨[], c⟩
  | fuel + 1, c =>
    let (inside, l) := claimAll containers (.ofCursor c)
    if !inside then ⟨[], c⟩
    else
      let start := l.skipSpaces indent
      let near := start.skipSpaces (4 - indent)
      let closing :=
        if (start.afterSpaces? (4 - indent)).isSome then none
        else afterClosingFence? char count near.rest
      match closing with
      | some rest =>
        let behind := near.cursor.moveTo rest
        ⟨[], behind.moveTo ((afterBlankLine? rest).getD rest)⟩
      | none =>
        let below := lineBelow start.cursor
        let line := rawLine start.owed start.cursor
        if below.rest.isEmpty then ⟨line, below⟩
        else (readFencedCode containers char count indent fuel below).prepend line

end Folio.Markdown
