/-!
# Sets of code points

A property of characters is a set of code points, written as its boundaries in ascending order:
the first boundary is the first member, the second the first non-member after it, and so on. A
code point belongs to the set exactly when an odd number of boundaries lie at or below it.
-/

namespace Folio.Text

/-- A set of code points, given by its ascending boundaries. -/
structure CodeSet where
  boundaries : List Nat

namespace CodeSet

/-- Whether an odd number of the boundaries lie at or below `n`, for ascending boundaries. -/
def oddBelow (n : Nat) : List Nat → Bool
  | [] => false
  | b :: rest => if n < b then false else !oddBelow n rest

def contains (s : CodeSet) (c : Char) : Bool :=
  oddBelow c.toNat s.boundaries

end CodeSet

end Folio.Text
