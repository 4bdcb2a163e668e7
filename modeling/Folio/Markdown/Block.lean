import Folio.Markdown.InlineText

/-!
# Blocks of a page

A page is a tree of blocks. Quotes, lists and list items hold other blocks, and all others hold text,
cut into spans, or lines kept as they are. The events of a block are those of what it holds between
its own beginning and end. In a tight list the paragraphs of an item are not elements of their own:
their text is read together, around the other blocks of the item. Only a paragraph without text that
does not come first stays an element; one that comes first leaves nothing of its item.
-/

namespace Folio.Markdown

structure Cell where
  spans : List Span
  stop : Nat

mutual

/-- A block, with the place where it starts and the position where it stops. -/
inductive Block where
  | mk (start : Cursor) (stop : Nat) (content : BlockContent)

inductive BlockContent where
  | rule
  | paragraph (spans : List Span)
  | heading (level : HeadingLevel) (spans : List Span)
  | code (info : Option String) (content : String)
  | html (content : String)
  | table (head : List Cell) (rows : List (List Cell))
  | quote (blocks : List Block)
  | list (tight : Bool) (first : Option Nat) (items : List Block)
  | item (indent : Nat) (blocks : List Block)

end

def Cell.events (targets : LinkTargets) (containers : List Container) (c : Cell) : List Event :=
  enclose .tableCell
    (TextContext.events { targets, containers, inTable := true, stop := c.stop } c.spans)

def textEvents (targets : LinkTargets) (containers : List Container) (stop : Nat)
    (spans : List Span) : List Event :=
  TextContext.events { targets, containers, inTable := false, stop } spans

def tableEvents (targets : LinkTargets) (containers : List Container) (head : List Cell)
    (rows : List (List Cell)) : List Event :=
  let row := List.flatMap (Cell.events targets containers)
  enclose .table
    (enclose .tableHead (row head) ++ rows.flatMap fun cells => enclose .tableRow (row cells))

/-- Whether no markup reaches across a block that stands between the lines of a list item. -/
def BlockContent.divides : BlockContent → Bool
  | .code (some _) _ => false
  | _ => true

def beginsEmpty : List Block → Bool
  | .mk _ _ (.paragraph []) :: _ => true
  | _ => false

mutual

/-- The events of a block. `tight` tells whether it is an item of a tight list. -/
def Block.events (targets : LinkTargets) (containers : List Container) (tight : Bool) :
    Block → List Event
  | .mk _ stop content => content.events targets containers tight stop

def BlockContent.events (targets : LinkTargets) (containers : List Container) (tight : Bool)
    (stop : Nat) : BlockContent → List Event
  | .rule => [.rule]
  | .paragraph spans => enclose .paragraph (textEvents targets containers stop spans)
  | .heading level spans => enclose (.heading level) (textEvents targets containers stop spans)
  | .code info content => enclose (.codeBlock info) [.text content]
  | .html content => enclose .htmlBlock [.html content]
  | .table head rows => tableEvents targets containers head rows
  | .quote blocks =>
    enclose .blockQuote (blocksEvents targets (containers ++ [.quote]) false blocks)
  | .list tight first items =>
    enclose (.list first) (blocksEvents targets (containers ++ [.list]) tight items)
  | .item indent blocks =>
    let containers := containers ++ [.item indent]
    enclose .item <|
      if !tight then blocksEvents targets containers false blocks
      else if beginsEmpty blocks then []
      else textEvents targets containers stop (blocksSpans targets containers blocks)

def blocksEvents (targets : LinkTargets) (containers : List Container) (tight : Bool) :
    List Block → List Event
  | [] => []
  | b :: rest => b.events targets containers tight ++ blocksEvents targets containers tight rest

/-- The spans of a block of an item of a tight list: those of its text for a paragraph, and a single
one for any other block. -/
def Block.spans (targets : LinkTargets) (containers : List Container) : Block → List Span
  | .mk _ _ (.paragraph (s :: spans)) => s :: spans
  | .mk start stop content =>
    [⟨start, stop, .block (content.events targets containers false stop) content.divides⟩]

def blocksSpans (targets : LinkTargets) (containers : List Container) : List Block → List Span
  | [] => []
  | b :: rest => b.spans targets containers ++ blocksSpans targets containers rest

end

end Folio.Markdown
