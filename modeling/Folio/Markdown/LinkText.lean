import Folio.Markdown.Scan
import Folio.Text.Case

/-!
# Labels, destinations and titles of links

A label stands between brackets. Labels are compared without distinction of case; blanks within them
count as one space however they are written, and those at their ends do not count. A destination
stands between angle brackets, or bare with its parentheses balanced.
-/

namespace Folio.Markdown

open Folio.Text

/-- The size that a label must stay below. Blanks and escapes count with their characters, and
characters outside of ASCII with their bytes; the other characters of ASCII are free. -/
def labelLimit : Nat := 1000

/-- How many parentheses may be open in a bare destination before another one opens. -/
def parenthesisLimit : Nat := 5

/-- Reads the blanks within a label. Gives their size and what remains. `newLine` says what remains
behind the beginning of a line, none if the label cannot go on there; a line may end only if
`mayEnd`, and at most one. -/
def skipLabelBlanks (newLine : List Char → Option (List Char)) :
    Nat → Bool → List Char → Option (Nat × List Char)
  | 0, _, cs => some (0, cs)
  | fuel + 1, mayEnd, cs =>
    match cs with
    | [] => some (0, [])
    | c :: rest =>
      let more (size : Nat) (mayEnd : Bool) (rest : List Char) :=
        (skipLabelBlanks newLine fuel mayEnd rest).map fun (further, rest) => (size + further, rest)
      if isLineBlank c then more 1 mayEnd rest
      else if isLineEnd c then
        if mayEnd then do
          let next ← (afterLineEnd? (c :: rest)).bind newLine
          more (cs.length - next.length) false next
        else none
      else some (0, c :: rest)

def labelCharSize (c : Char) : Nat :=
  if c.toNat < 0x80 then 0 else c.utf8Size

/-- Reads a label behind its opening bracket up to the closing one: its characters, and what remains
behind the bracket. Each stretch of blanks becomes one space, and in a table a backslash before a bar
is left out. `size` is that of the characters before. -/
def labelSteps (inTable : Bool) (newLine : List Char → Option (List Char)) :
    Nat → Nat → List Char → Option (List Char × List Char)
  | 0, _, _ => none
  | fuel + 1, size, cs =>
    let from? (label : List Char) (more : Nat) (rest : List Char) :=
      (labelSteps inTable newLine fuel (size + more) rest).map fun (further, rest) =>
        (label ++ further, rest)
    if labelLimit ≤ size then none
    else
      match cs with
      | [] => none
      | '[' :: _ => none
      | ']' :: rest => some ([], rest)
      | '\\' :: '\\' :: '|' :: rest =>
        if inTable then from? ['\\', '|'] 2 rest else from? ['\\', '\\'] 2 ('|' :: rest)
      | '\\' :: c :: rest =>
        if inTable && c == '|' then from? ['|'] 1 rest
        else if isAsciiPunctuation c then from? ['\\', c] 2 rest
        else from? ['\\'] 0 (c :: rest)
      | c :: rest =>
        if isAsciiBlank c then do
          let (more, rest) ← skipLabelBlanks newLine (rest.length + 2) true (c :: rest)
          from? [' '] more rest
        else from? [c] (labelCharSize c) rest

def trimSpaces (cs : List Char) : List Char :=
  ((cs.dropWhile (· == ' ')).reverse.dropWhile (· == ' ')).reverse

/-- Reads a label behind its opening bracket. A label of nothing but blanks is none. -/
def label? (inTable : Bool) (newLine : List Char → Option (List Char)) (cs : List Char) :
    Option (List Char × List Char) := do
  let (label, rest) ← labelSteps inTable newLine (cs.length + 1) 0 cs
  let trimmed := trimSpaces label
  if trimmed.isEmpty then none else some (trimmed, rest)

def angledDestination? : List Char → Option (List Char × List Char)
  | [] => none
  | '>' :: rest => some ([], rest)
  | '\\' :: c :: rest =>
    if isAsciiPunctuation c then
      (angledDestination? rest).map fun (text, rest) => ('\\' :: c :: text, rest)
    else (angledDestination? (c :: rest)).map fun (text, rest) => ('\\' :: text, rest)
  | c :: rest =>
    if isLineEnd c || c == '<' then none
    else (angledDestination? rest).map fun (text, rest) => (c :: text, rest)

/-- Reads a bare destination, of which `depth` parentheses are open. -/
def bareDestination? (depth : Nat) : List Char → Option (List Char × List Char)
  | [] => if depth = 0 then some ([], []) else none
  | '\\' :: c :: rest =>
    if isAsciiPunctuation c then
      (bareDestination? depth rest).map fun (text, rest) => ('\\' :: c :: text, rest)
    else (bareDestination? depth (c :: rest)).map fun (text, rest) => ('\\' :: text, rest)
  | c :: rest =>
    if c.toNat ≤ 0x20 then if depth = 0 then some ([], c :: rest) else none
    else if c == '(' then
      if parenthesisLimit < depth then none
      else (bareDestination? (depth + 1) rest).map fun (text, rest) => (c :: text, rest)
    else if c == ')' then
      match depth with
      | 0 => some ([], c :: rest)
      | depth + 1 => (bareDestination? depth rest).map fun (text, rest) => (c :: text, rest)
    else (bareDestination? depth rest).map fun (text, rest) => (c :: text, rest)

def destination? : List Char → Option (List Char × List Char)
  | '<' :: rest => angledDestination? rest
  | cs => bareDestination? 0 cs

def titleEnd? : Char → Option Char
  | '\x22' => some '\x22'
  | '\x27' => some '\x27'
  | '(' => some ')'
  | _ => none

structure LinkTarget where
  destination : List Char
  title : List Char

abbrev LinkTargets := List (List Char × LinkTarget)

/-- The first target defined for a label, case disregarded. -/
def LinkTargets.find? (targets : LinkTargets) (label : List Char) : Option LinkTarget :=
  targets.lookup (fold label)

/-- Defines a target, unless the label has one already. -/
def LinkTargets.define (targets : LinkTargets) (label : List Char) (target : LinkTarget) :
    LinkTargets :=
  targets ++ [(fold label, target)]

end Folio.Markdown
