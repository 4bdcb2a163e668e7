import Folio.Html.Entity
import Folio.Markdown.Scan

/-!
# Character references and escapes

A character may be written as a reference, by name or by number, and a punctuation character may be
escaped by a backslash so that it stands for itself. In a table a backslash before a bar is taken
away before anything else, so two of them leave a bar that is escaped.
-/

namespace Folio.Markdown

open Folio.Text

/-- The character that a number stands for. Zero and the numbers of no character stand for the
replacement character. -/
def numberedChar (n : Nat) : Char :=
  if 0 < n && (n < 0xd800 || (0xe000 ≤ n && n < 0x110000)) then Char.ofNat n else '\ufffd'

def numericReference? (cs : List Char) : Option (List Char × List Char) :=
  let read (digits : List Char) (value : Nat) (rest : List Char) :=
    match digits, rest with
    | [], _ => none
    | _, ';' :: rest => some ([numberedChar value], rest)
    | _, _ => none
  match cs with
  | 'x' :: rest | 'X' :: rest =>
    let digits := (rest.take 6).takeWhile (hexValue? · |>.isSome)
    read digits (hexadecimalValue digits) (rest.drop digits.length)
  | rest =>
    let digits := (rest.take 7).takeWhile isDigit
    read digits (decimalValue digits) (rest.drop digits.length)

def reference? : List Char → Option (List Char × List Char)
  | '#' :: rest => numericReference? rest
  | cs =>
    let name := cs.takeWhile isLetterOrDigit
    match cs.drop name.length with
    | ';' :: rest => (Html.entity? (String.ofList name)).map fun text => (text.toList, rest)
    | _ => none

/-- The text with its references and escapes resolved, and without carriage returns. `fuel` bounds
the number of steps. -/
def unescapeSteps (inTable : Bool) : Nat → List Char → List Char
  | 0, cs => cs
  | _, [] => []
  | fuel + 1, '\\' :: '\\' :: '|' :: rest =>
    if inTable then '|' :: unescapeSteps inTable fuel rest
    else '\\' :: unescapeSteps inTable fuel ('|' :: rest)
  | fuel + 1, '\\' :: c :: rest =>
    if isAsciiPunctuation c then c :: unescapeSteps inTable fuel rest
    else '\\' :: unescapeSteps inTable fuel (c :: rest)
  | fuel + 1, '&' :: rest =>
    match reference? rest with
    | some (text, rest) => text ++ unescapeSteps inTable fuel rest
    | none => '&' :: unescapeSteps inTable fuel rest
  | fuel + 1, '\r' :: rest => unescapeSteps inTable fuel rest
  | fuel + 1, c :: rest => c :: unescapeSteps inTable fuel rest

def unescape (inTable : Bool) (cs : List Char) : List Char :=
  unescapeSteps inTable cs.length cs

end Folio.Markdown
