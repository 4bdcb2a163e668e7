import Folio.Json.Value

/-!
# Writing JSON text

Values are written without blanks. In strings, quotes, backslashes and control characters are
escaped, and every other character stands for itself. What stands for nothing is written as a string
with an escaped half of a surrogate pair.
-/

namespace Folio.Json

namespace Writer

def hex4 (n : Nat) : List Char :=
  [n / 4096 % 16, n / 256 % 16, n / 16 % 16, n % 16].map Nat.digitChar

def char (c : Char) : List Char :=
  match c with
  | '\x22' => ['\\', '\x22']
  | '\\' => ['\\', '\\']
  | '\n' => ['\\', 'n']
  | '\r' => ['\\', 'r']
  | '\t' => ['\\', 't']
  | _ => if c.toNat < 0x20 then '\\' :: 'u' :: hex4 c.toNat else [c]

def string (s : String) : String :=
  "\"" ++ String.ofList (s.toList.flatMap char) ++ "\""

end Writer

mutual

def write : Json → String
  | .null => "null"
  | .bool b => if b then "true" else "false"
  | .integer n => n.repr
  | .decimal digits exponent => digits.repr ++ "e" ++ exponent.repr
  | .string s => Writer.string s
  | .broken => "\"\\ud800\""
  | .array elements => "[" ++ ",".intercalate (writeElements elements) ++ "]"
  | .object members => "\x7b" ++ ",".intercalate (writeMembers members) ++ "\x7d"

def writeElements : List Json → List String
  | [] => []
  | v :: rest => v.write :: writeElements rest

def writeMembers : List (String × Json) → List String
  | [] => []
  | (name, v) :: rest => (Writer.string name ++ ":" ++ v.write) :: writeMembers rest

end

end Folio.Json
