import Folio.Token.Basic

/-!
# Documents

A document is the sequence of its top-level tokens. A token is addressed by a path of child
indices, the first of which counts top-level tokens; the empty path addresses nothing. Changing the
token at a path leaves every token elsewhere as it is.
-/

namespace Folio

structure Document where
  tokens : List Token
  deriving BEq, Inhabited

/-- The child indices that lead from the top level to a token. -/
abbrev Path := List Nat

def tokenAt? (siblings : List Token) : Path → Option Token
  | [] => none
  | [i] => siblings[i]?
  | i :: j :: path => siblings[i]?.bind fun t => tokenAt? t.children (j :: path)

/-- The siblings with the token that a path leads to changed, as they were if it leads nowhere. -/
def modifyAt (change : Token → Token) (siblings : List Token) : Path → List Token
  | [] => siblings
  | [i] => siblings.modify i change
  | i :: j :: path =>
    siblings.modify i fun t => { t with children := modifyAt change t.children (j :: path) }

namespace Document

def size (doc : Document) : Nat :=
  doc.tokens.length

def get? (doc : Document) (path : Path) : Option Token :=
  tokenAt? doc.tokens path

def modify (doc : Document) (path : Path) (change : Token → Token) : Document :=
  ⟨modifyAt change doc.tokens path⟩

end Document

end Folio
