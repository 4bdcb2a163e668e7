import Folio.Document.Basic

/-!
# Document order

The token after a given one is the next in document order, in which a token comes before its
children and these before its next sibling. An outline lists the paths of all tokens in that order.
A position in it addresses one token; it stays valid while tokens change their content or their
attributes, or gain children behind those they have.
-/

namespace Folio

mutual

/-- The paths from a token to itself and to all tokens below it. -/
def Token.paths (t : Token) : List Path :=
  match t with
  | ⟨_, _, _, _, children, _⟩ => [] :: pathsFrom 0 children

/-- The paths to all tokens of a sequence of siblings whose first has index `i`. -/
def pathsFrom (i : Nat) : List Token → List Path
  | [] => []
  | t :: rest => t.paths.map (i :: ·) ++ pathsFrom (i + 1) rest

end

/-- The paths of all tokens of a document, in document order. -/
structure Outline where
  paths : List Path

/-- For each element, the position of the next marked one after it, when the first element has
position `i`; and the position of the first marked one. -/
def nextMarked (i : Nat) : List Bool → List (Option Nat) × Option Nat
  | [] => ([], none)
  | marked :: rest =>
    let (following, first) := nextMarked (i + 1) rest
    (first :: following, if marked then some i else first)

namespace Outline

def ofDocument (doc : Document) : Outline :=
  ⟨pathsFrom 0 doc.tokens⟩

def size (o : Outline) : Nat :=
  o.paths.length

def path? (o : Outline) (position : Nat) : Option Path :=
  o.paths[position]?

def holdsAt (doc : Document) (property : Token → Bool) (path : Path) : Bool :=
  (doc.get? path).any property

def pathsWhere (o : Outline) (doc : Document) (property : Token → Bool) : List Path :=
  o.paths.filter (holdsAt doc property)

def positions (o : Outline) (doc : Document) (property : Token → Bool) : List Nat :=
  (o.paths.zipIdx.filter fun (path, _) => holdsAt doc property path).map (·.2)

/-- For each position, the nearest later one whose token has content. -/
def nextWithContent (o : Outline) (doc : Document) : List (Option Nat) :=
  (nextMarked 0 (o.paths.map (holdsAt doc (!·.content.isEmpty)))).1

end Outline

end Folio
