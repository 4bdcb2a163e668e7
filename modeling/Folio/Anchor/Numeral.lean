import Folio.Text.Ascii

/-!
# Dotted numerals

Sections and figures are numbered by dotted numerals: one or more decimal digits, followed by any
number of groups of a dot and one or more digits. A dot that no digit follows is not part of the
numeral.
-/

namespace Folio.Numeral

open Folio.Text

/-- The longest dotted numeral that the text begins with, if the text begins with a digit. -/
def leading : List Char → List Char
  | [] => []
  | [c] => if isDigit c then [c] else []
  | c :: d :: rest =>
    if isDigit c then c :: leading (d :: rest)
    else if c == '.' && isDigit d then c :: leading (d :: rest)
    else []

def first? (cs : List Char) : Option (List Char) :=
  match cs.dropWhile (!isDigit ·) with
  | [] => none
  | numbered => some (leading numbered)

def figureWord : List Char :=
  ['f', 'i', 'g', 'u', 'r', 'e']

/-- The numeral that follows when the text begins with the word for a figure, in any case, and only
spaces stand between the two. -/
def figureHere? (cs : List Char) : Option (List Char) :=
  if eqIgnoringCase (cs.take figureWord.length) figureWord then
    match (cs.drop figureWord.length).dropWhile (· == ' ') with
    | [] => none
    | c :: rest => if isDigit c then some (leading (c :: rest)) else none
  else
    none

def figure? : List Char → Option (List Char)
  | [] => none
  | c :: rest => (figureHere? (c :: rest)).or (figure? rest)

end Folio.Numeral
