import Folio.Json.Value
import Folio.Text.Ascii

/-!
# Reading JSON text

A text holds one value with blanks around it. Inside strings, control characters must be escaped, and
an escaped surrogate pair stands for one character.
-/

namespace Folio.Json

open Folio.Text

namespace Reader

def skipBlanks (cs : List Char) : List Char :=
  cs.dropWhile fun c => c == ' ' || c == '\t' || c == '\n' || c == '\r'

def hex4? (a b c d : Char) : Option Nat := do
  some (((← hexValue? a) * 16 + (← hexValue? b)) * 256 + (← hexValue? c) * 16 + (← hexValue? d))

def escaped? : Char → Option Char
  | '\x22' => some '\x22'
  | '\\' => some '\\'
  | '/' => some '/'
  | 'b' => some '\x08'
  | 'f' => some '\x0c'
  | 'n' => some '\n'
  | 'r' => some '\r'
  | 't' => some '\t'
  | _ => none

def isHighSurrogate (n : Nat) : Bool :=
  0xd800 ≤ n && n < 0xdc00

def isLowSurrogate (n : Nat) : Bool :=
  0xdc00 ≤ n && n < 0xe000

/-- The text of an escaped character, none for half of a surrogate pair. -/
def escapedText (n : Nat) : Option (List Char) :=
  if isHighSurrogate n || isLowSurrogate n then none else some [Char.ofNat n]

def pairText? (high low : Nat) : Option Char :=
  if isHighSurrogate high && isLowSurrogate low then
    some (Char.ofNat (0x10000 + (high - 0xd800) * 1024 + (low - 0xdc00)))
  else none

/-- Puts a piece of text, none if it stands for nothing, in front of the rest of a string. -/
def prepend (piece : Option (List Char)) :
    Option (Option (List Char) × List Char) → Option (Option (List Char) × List Char) :=
  Option.map fun (text, rest) => (piece.bind fun p => text.map (p ++ ·), rest)

/-- The text of a string up to the closing quote, none inside if it stands for no text, and what
follows the quote. -/
def stringBody : List Char → Option (Option (List Char) × List Char)
  | [] => none
  | '\x22' :: rest => some (some [], rest)
  | '\\' :: 'u' :: a :: b :: c :: d :: '\\' :: 'u' :: e :: f :: g :: h :: rest =>
    match hex4? a b c d with
    | none => none
    | some first =>
      match (hex4? e f g h).bind (pairText? first) with
      | some paired => prepend (some [paired]) (stringBody rest)
      | none => prepend (escapedText first) (stringBody ('\\' :: 'u' :: e :: f :: g :: h :: rest))
  | '\\' :: 'u' :: a :: b :: c :: d :: rest =>
    match hex4? a b c d with
    | none => none
    | some n => prepend (escapedText n) (stringBody rest)
  | '\\' :: c :: rest =>
    match escaped? c with
    | none => none
    | some e => prepend (some [e]) (stringBody rest)
  | c :: rest => if c.toNat < 0x20 || c == '\\' then none else prepend (some [c]) (stringBody rest)

def digitsValue (cs : List Char) : Nat :=
  cs.foldl (fun n c => n * 10 + (c.toNat - '0'.toNat)) 0

/-- The digits at the beginning of a text, which must be there, and what follows. -/
def digits? (cs : List Char) : Option (List Char × List Char) :=
  match cs.takeWhile isDigit with
  | [] => none
  | ds => some (ds, cs.dropWhile isDigit)

def exponent? : List Char → Option (Int × List Char)
  | '+' :: rest => (digits? rest).map fun (ds, rest) => ((digitsValue ds : Int), rest)
  | '-' :: rest => (digits? rest).map fun (ds, rest) => (-(digitsValue ds : Int), rest)
  | rest => (digits? rest).map fun (ds, rest) => ((digitsValue ds : Int), rest)

def numberTail (negative : Bool) (whole : List Char) (cs : List Char) :
    Option (Json × List Char) := do
  let (fraction, cs) ← match cs with
    | '.' :: rest => (digits? rest).map fun (ds, rest) => (some ds, rest)
    | _ => some (none, cs)
  let (power, cs) ← match cs with
    | 'e' :: rest | 'E' :: rest => (exponent? rest).map fun (n, rest) => (some n, rest)
    | _ => some (none, cs)
  let signed (n : Nat) : Int := if negative then -(n : Int) else n
  let digits := whole ++ fraction.getD []
  if fraction.isNone && power.isNone && !(negative && digitsValue whole == 0) then
    some (.integer (signed (digitsValue whole)), cs)
  else
    some (.decimal (signed (digitsValue digits)) (power.getD 0 - (fraction.getD []).length), cs)

/-- A number behind its sign. A whole part of several digits does not begin with zero. -/
def number (negative : Bool) (cs : List Char) : Option (Json × List Char) := do
  let (whole, rest) ← digits? cs
  match whole with
  | '0' :: _ :: _ => none
  | _ => numberTail negative whole rest

def keyword (word : List Char) (value : Json) (cs : List Char) : Option (Json × List Char) :=
  if word.isPrefixOf cs then some (value, cs.drop word.length) else none

def stringValue : Option (List Char) → Json
  | none => .broken
  | some text => .string (String.ofList text)

def objectValue (members : List (Option (List Char) × Json)) : Json :=
  match members.mapM fun (name, v) => name.map fun text => (String.ofList text, v) with
  | none => .broken
  | some members => .object members

mutual

/-- A value at the beginning of a text, and what follows. `fuel` bounds the number of steps. -/
def value : Nat → List Char → Option (Json × List Char)
  | 0, _ => none
  | fuel + 1, cs =>
    match skipBlanks cs with
    | '[' :: rest =>
      match skipBlanks rest with
      | ']' :: rest => some (.array [], rest)
      | rest => (elements fuel rest).map fun (vs, rest) => (.array vs, rest)
    | '\x7b' :: rest =>
      match skipBlanks rest with
      | '\x7d' :: rest => some (.object [], rest)
      | rest => (members fuel rest).map fun (ms, rest) => (objectValue ms, rest)
    | '\x22' :: rest => (stringBody rest).map fun (text, rest) => (stringValue text, rest)
    | 't' :: rest => keyword ['r', 'u', 'e'] (.bool true) rest
    | 'f' :: rest => keyword ['a', 'l', 's', 'e'] (.bool false) rest
    | 'n' :: rest => keyword ['u', 'l', 'l'] .null rest
    | '-' :: rest => number true rest
    | rest => number false rest

def elements : Nat → List Char → Option (List Json × List Char)
  | 0, _ => none
  | fuel + 1, cs => do
    let (v, rest) ← value fuel cs
    match skipBlanks rest with
    | ',' :: rest =>
      let (vs, rest) ← elements fuel rest
      some (v :: vs, rest)
    | ']' :: rest => some ([v], rest)
    | _ => none

def members : Nat → List Char → Option (List (Option (List Char) × Json) × List Char)
  | 0, _ => none
  | fuel + 1, cs => do
    match skipBlanks cs with
    | '\x22' :: rest =>
      let (name, rest) ← stringBody rest
      match skipBlanks rest with
      | ':' :: rest =>
        let (v, rest) ← value fuel rest
        match skipBlanks rest with
        | ',' :: rest =>
          let (ms, rest) ← members fuel rest
          some ((name, v) :: ms, rest)
        | '\x7d' :: rest => some ([(name, v)], rest)
        | _ => none
      | _ => none
    | _ => none

end

end Reader

def read? (text : String) : Option Json :=
  let cs := text.toList
  match Reader.value (2 * cs.length + 2) cs with
  | some (v, rest) => if (Reader.skipBlanks rest).isEmpty then some v else none
  | none => none

end Folio.Json
