/-!
# JSON values

The members of an object keep their order, and a name may occur more than once; what that means is
up to the reader of the object. Whole numbers are told apart from those written with a fraction or
an exponent, and minus zero counts among the latter. A string may contain an escape for half of a
surrogate pair without the other half: such a string is well-formed but stands for no text, and an
object in which it is a name stands for nothing either.
-/

namespace Folio

inductive Json where
  | null
  | bool (b : Bool)
  | integer (n : Int)
  /-- A number with a fraction or an exponent: the digits as one whole number, times a power of
  ten. -/
  | decimal (digits : Int) (exponent : Int)
  | string (s : String)
  /-- A string that stands for no text, or an object with such a name. -/
  | broken
  | array (elements : List Json)
  | object (members : List (String × Json))
  deriving Inhabited

namespace Json

mutual

def height : Json → Nat
  | array elements => elementsHeight elements + 1
  | object members => membersHeight members + 1
  | _ => 0

def elementsHeight : List Json → Nat
  | [] => 0
  | v :: rest => max v.height (elementsHeight rest)

def membersHeight : List (String × Json) → Nat
  | [] => 0
  | (_, v) :: rest => max v.height (membersHeight rest)

end

/-- Whether a number, given as digits times a power of ten, is within the range of doubles. -/
def inDoubleRange (digits exponent : Int) : Bool :=
  let n := digits.natAbs
  let size := exponent + n.repr.length
  let bound := Nat.pow 2 1024 - Nat.pow 2 970
  if n = 0 || size < 309 then true
  else if 309 < size then false
  else n * Nat.pow 10 exponent.toNat < bound * Nat.pow 10 (-exponent).toNat

mutual

/-- Whether everything in a value stands for something, and its numbers are in the range of doubles.
-/
def isSound : Json → Bool
  | broken => false
  | integer n => inDoubleRange n 0
  | decimal digits exponent => inDoubleRange digits exponent
  | array elements => elementsSound elements
  | object members => membersSound members
  | _ => true

def elementsSound : List Json → Bool
  | [] => true
  | v :: rest => v.isSound && elementsSound rest

def membersSound : List (String × Json) → Bool
  | [] => true
  | (_, v) :: rest => v.isSound && membersSound rest

end

/-- Reads a value, if arrays and objects are nested in it to a depth at most. -/
def within (depth : Nat) (read : Json → Option α) (j : Json) : Option α :=
  if j.height ≤ depth then read j else none

def string? : Json → Option String
  | string s => some s
  | _ => none

def bool? : Json → Option Bool
  | bool b => some b
  | _ => none

def array? : Json → Option (List Json)
  | array elements => some elements
  | _ => none

def object? : Json → Option (List (String × Json))
  | object members => some members
  | _ => none

def uint8? : Json → Option UInt8
  | integer n => if 0 ≤ n ∧ n ≤ 255 then some (UInt8.ofNat n.toNat) else none
  | _ => none

def int8? : Json → Option Int8
  | integer n => if -128 ≤ n ∧ n ≤ 127 then some (Int8.ofInt n) else none
  | _ => none

/-- The fields of a record with the given names. An object gives them by name and an array by
position. Members with other names are left out, and an array longer than the names is refused. -/
def fields? (names : List String) : Json → Option (List (String × Json))
  | object members => some (members.filter (names.contains ·.1))
  | array elements =>
    if elements.length ≤ names.length then some (names.zip elements) else none
  | _ => none

/-- The value of a field that goes by any of the names, `none` inside if it is missing. A field that
occurs twice is refused. -/
def unique? (names : List String) (fields : List (String × Json)) : Option (Option Json) :=
  match fields.filter (names.contains ·.1) with
  | [] => some none
  | [(_, value)] => some (some value)
  | _ => none

def required (read : Json → Option α) (names : List String) (fields : List (String × Json)) :
    Option α := do
  read (← ← unique? names fields)

def optional (read : Json → Option α) (default : α) (names : List String)
    (fields : List (String × Json)) : Option α := do
  match ← unique? names fields with
  | none => some default
  | some value => read value

end Json

end Folio
