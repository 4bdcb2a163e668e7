import Folio.Markdown.Scan
import Folio.Text.Blank
import Folio.Text.Punctuation

/-!
# Delimiters of emphasis

Whether a run of stars, underscores or tildes may begin or end emphasis depends on the characters
beside it. Roughly, a run begins emphasis if no blank follows it and ends it if no blank comes
before it. Stars and double tildes work within words, underscores and single tildes do not. Nothing
comes before the first character of a line or of a table cell, and the bar behind a cell counts as
its end.
-/

namespace Folio.Markdown

open Folio.Text

/-- A longest stretch of one delimiter character, with the characters beside it on the same line or
in the same cell. -/
structure DelimiterRun where
  char : Char
  length : Nat
  previous : Option Char
  next : Option Char
  inCell : Bool

namespace DelimiterRun

def canOpen (r : DelimiterRun) : Bool :=
  match r.next, r.previous with
  | none, _ => false
  | some next, none => !isBlank next
  | some next, some previous =>
    if isBlank next then false
    else if r.inCell && next == '|' then false
    else if r.char == '*' && !isPunctuation next then true
    else if r.char == '~' && 1 < r.length then true
    else if r.char == '~' && previous == '~' && !isPunctuation next then true
    else isBlank previous || isPunctuation previous

def canClose (r : DelimiterRun) : Bool :=
  match r.previous, r.next with
  | none, _ => false
  | some previous, none => !isBlank previous
  | some previous, some next =>
    if isBlank previous then false
    else if r.inCell && next == '|' then true
    else if (r.char == '*' || r.char == '~' && 1 < r.length) && !isPunctuation previous then true
    else if r.char == '~' && previous == '~' then true
    else isBlank next || isPunctuation next

end DelimiterRun

end Folio.Markdown
