import Folio.Anchor.Basic
import Folio.Document.Outline

/-!
# Anchors of headings

A heading is identified by the first text after it, in document order: normally the text of its own
inline container, and for an empty heading whatever comes next. The anchors are all computed from
the document as it was, and then set.
-/

namespace Folio.Heading

def isOpening (t : Token) : Bool :=
  t.kind.isHeadingOpen

/-- The content at a position that may be missing, empty where there is none. -/
def contentAt (o : Outline) (doc : Document) (position : Option Nat) : String :=
  match (position.bind o.path?).bind doc.get? with
  | some t => t.content
  | none => ""

def anchors (doc : Document) : List (Path × Anchor) :=
  let o := Outline.ofDocument doc
  ((o.paths.zip (o.nextWithContent doc)).filter fun (path, _) =>
    Outline.holdsAt doc isOpening path).map fun (path, next) =>
      (path, Anchor.ofSection (contentAt o doc next))

def setAnchors (doc : Document) (assigned : List (Path × Anchor)) : Document :=
  assigned.foldl (fun d (path, a) => d.modify path (Token.setAttr "id" a.name)) doc

/-- Gives every heading its anchor, and counts the headings. -/
def assignAnchors (doc : Document) : Nat × Document :=
  let assigned := anchors doc
  (assigned.length, setAnchors doc assigned)

end Folio.Heading
