/-!
# Events of a page

A page of Markdown is read as a sequence of events: an element begins, an element ends, or a piece
of content stands between the two. Elements are nested properly, each end belonging to the last
beginning that is still open, and no block stands within a heading, a paragraph, a table cell or an
inline element.
-/

namespace Folio.Markdown

inductive HeadingLevel where
  | h1 | h2 | h3 | h4 | h5 | h6
  deriving DecidableEq

def HeadingLevel.number : HeadingLevel → UInt8
  | h1 => 1
  | h2 => 2
  | h3 => 3
  | h4 => 4
  | h5 => 5
  | h6 => 6

def HeadingLevel.ofNumber? : Nat → Option HeadingLevel
  | 1 => some h1
  | 2 => some h2
  | 3 => some h3
  | 4 => some h4
  | 5 => some h5
  | 6 => some h6
  | _ => none

inductive Element where
  | paragraph
  | heading (level : HeadingLevel)
  | blockQuote
  /-- A block of code. A fenced one comes with what stands behind its fence. -/
  | codeBlock (info : Option String)
  | htmlBlock
  /-- A list. A numbered one comes with its first number. -/
  | list (first : Option Nat)
  | item
  | table
  | tableHead
  | tableRow
  | tableCell
  | emphasis
  | strong
  | strikethrough
  | link (destination title : String)
  | image (destination title : String)
  deriving DecidableEq

inductive Event where
  | enter (element : Element)
  | leave (element : Element)
  | text (content : String)
  | code (content : String)
  | inlineHtml (content : String)
  /-- A line of a block of HTML. -/
  | html (content : String)
  | softBreak
  | hardBreak
  | rule
  | taskMarker (checked : Bool)
  deriving DecidableEq

end Folio.Markdown
