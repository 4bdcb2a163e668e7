import Folio.Markdown.Block
import Folio.Markdown.BlockStart

/-!
# Blocks that are still open

While a page is read, the quotes, lists and list items that the last line belongs to are open: further
blocks are added to the innermost one. A block that ends goes to the one around it. A blank line makes
a list loose if one of its items, or the list itself, goes on behind it.

A list item may begin with a blank line. If another one follows, the item takes in any line, but ends
before the next block.
-/

namespace Folio.Markdown

inductive OpenShape where
  | quote
  /-- A list, with the character that the markers of its items have in common. -/
  | list (tight : Bool) (char : Char) (first : Option Nat)
  | item (indent : Nat)

structure OpenBlock where
  start : Cursor
  shape : OpenShape
  blocks : List Block

namespace OpenBlock

/-- The piece that the block claims of every line. -/
def container (b : OpenBlock) : Container :=
  match b.shape with
  | .quote => .quote
  | .list .. => .list
  | .item indent => .item indent

def close (b : OpenBlock) (stop : Nat) : Block :=
  .mk b.start stop <|
    match b.shape with
    | .quote => .quote b.blocks.reverse
    | .list tight _ first => .list tight first b.blocks.reverse
    | .item indent => .item indent b.blocks.reverse

def isTightList (b : OpenBlock) : Bool :=
  match b.shape with
  | .list tight _ _ => tight
  | _ => false

/-- The block with blank lines between its items if it is a list, as it is otherwise. -/
def loosen (b : OpenBlock) : OpenBlock :=
  match b.shape with
  | .list _ char first => { b with shape := .list false char first }
  | _ => b

end OpenBlock

structure PageScan where
  /-- The open blocks, the innermost first. -/
  opened : List OpenBlock
  /-- The blocks that no open block holds, in reverse. -/
  blocks : List Block
  targets : LinkTargets
  /-- Whether the last line was blank and may make a list loose. -/
  blankBefore : Bool
  /-- Whether the last block begun is a list item that began with a blank line. -/
  itemBegun : Bool
  task : Option Span

namespace PageScan

def initial : PageScan where
  opened := []
  blocks := []
  targets := []
  blankBefore := false
  itemBegun := false
  task := none

/-- The containers of the next block, from the outside. -/
def containers (s : PageScan) : List Container :=
  (s.opened.map OpenBlock.container).reverse

def add (s : PageScan) (b : Block) : PageScan :=
  match s.opened with
  | [] => { s with blocks := b :: s.blocks }
  | inner :: outer => { s with opened := { inner with blocks := b :: inner.blocks } :: outer }

def addContent (s : PageScan) (start stop : Cursor) (content : BlockContent) : PageScan :=
  s.add (.mk start stop.position content)

def openBlock (s : PageScan) (start : Cursor) (shape : OpenShape) : PageScan :=
  { s with opened := ⟨start, shape, []⟩ :: s.opened }

def close (s : PageScan) (stop : Nat) : PageScan :=
  match s.opened with
  | [] => s
  | inner :: outer =>
    { s with opened := outer, itemBegun := s.itemBegun && !inner.isTightList }.add (inner.close stop)

def closeMany (s : PageScan) (stop : Nat) : Nat → PageScan
  | 0 => s
  | n + 1 => (s.close stop).closeMany stop n

/-- The page with the list around the innermost open block loose, if a blank line came last. -/
def noteBlank (s : PageScan) : PageScan :=
  if s.blankBefore then
    let opened :=
      match s.opened with
      | inner :: around :: outer => inner :: around.loosen :: outer
      | opened => opened
    { s with opened, blankBefore := false }
  else s

/-- Ends a list item in which nothing but blank lines has come. -/
def finishEmptyItem (s : PageScan) (stop : Nat) : PageScan :=
  let ended :=
    match s.opened with
    | ⟨_, .item _, _⟩ :: _ => if s.itemBegun && s.blankBefore then s.close stop else s
    | _ => s
  { ended with itemBegun := false }

/-- Prepares for a block that is no list item: a list cannot go on with it. -/
def finishList (s : PageScan) (stop : Nat) : PageScan :=
  let s := s.finishEmptyItem stop
  let closed :=
    match s.opened with
    | ⟨_, .list .., _⟩ :: _ => s.close stop
    | _ => s
  closed.noteBlank

/-- Prepares for a list item: the innermost open list goes on if its markers look the same, and a new
list begins otherwise. -/
def continueList (s : PageScan) (start : Cursor) (marker : ItemMarker) : PageScan :=
  let s := s.finishEmptyItem start.position
  let begun :=
    { (s.finishList start.position).openBlock start (.list true marker.char marker.number) with
      blankBefore := false }
  match s.opened with
  | ⟨listStart, .list tight char first, items⟩ :: outer =>
    if char == marker.char then
      { s with
        opened := ⟨listStart, .list (tight && !s.blankBefore) char first, items⟩ :: outer
        blankBefore := false }
    else begun
  | _ => begun

/-- The page behind a blank line. Within a quote alone it means nothing, and an item that began with a
blank line has no indentation from here on. -/
def blankLine (s : PageScan) : PageScan :=
  match s.opened with
  | ⟨_, .quote, _⟩ :: _ => s
  | ⟨start, .item indent, blocks⟩ :: outer =>
    { s with
      opened := ⟨start, .item (if s.itemBegun then 0 else indent), blocks⟩ :: outer
      blankBefore := true }
  | _ => { s with blankBefore := true }

end PageScan

end Folio.Markdown
