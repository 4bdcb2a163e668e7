import Folio.Markdown.BlockStart
import Folio.Markdown.LinkText
import Folio.Markdown.Reference

/-!
# Definitions of link targets

A paragraph may begin with definitions: a label between brackets, a colon, a destination and perhaps
a title, each of which may stand on a line of its own. Whatever would end a paragraph ends a
definition too. Text behind the destination that is no title makes it no definition, unless that text
is on the next line.
-/

namespace Folio.Markdown

open Folio.Text

/-- A definition, and what remains behind it on its last line. -/
structure Definition where
  label : List Char
  target : LinkTarget
  rest : List Char

namespace Definition

/-- What remains behind the beginning of a line within a definition, none if the line does not go on
with it. -/
def nextLine? (containers : List Container) (cs : List Char) : Option (List Char) :=
  let (inside, l) := claimAll containers (.ofCursor (.start cs))
  if continuesParagraph containers inside l && !underlines l then some (l.skipSpaces 4).rest
  else none

/-- What remains behind the blanks between two parts, and whether a line ended there. Two line ends
are too many. -/
def gap? (containers : List Container) (cs : List Char) : Option (Bool × List Char) :=
  let behind := skipBlanks cs
  match afterLineEnd? behind with
  | none => some (false, behind)
  | some next =>
    match nextLine? containers next with
    | none => none
    | some next =>
      let behind := skipBlanks next
      if (afterLineEnd? behind).isSome then none else some (true, behind)

/-- Reads a title up to the character that closes it. No line in it may be blank. `fuel` bounds the
number of steps. -/
def titleSteps (containers : List Container) (closer : Char) :
    Nat → List Char → Option (List Char × List Char)
  | 0, _ => none
  | _, [] => none
  | fuel + 1, c :: rest =>
    let from? (text rest : List Char) :=
      (titleSteps containers closer fuel rest).map fun (more, rest) => (text ++ more, rest)
    if c == closer then some ([], rest)
    else if c == '(' && closer == ')' then none
    else if isLineEnd c then do
      let next ← nextLine? containers ((afterLineEnd? (c :: rest)).getD rest)
      if isBlankLine next then none
      else from? ['\n'] (next.dropWhile fun d => d == ' ' || d == '\t')
    else if c == '\\' then
      match rest with
      | [] => none
      | d :: behind => if isLineEnd d then from? [c] rest else from? [c, d] behind
    else from? [c] rest

/-- Reads a title, and makes sure that nothing follows it. -/
def title? (containers : List Container) : List Char → Option (List Char × List Char)
  | [] => none
  | opener :: rest => do
    let closer ← titleEnd? opener
    let (title, rest) ← titleSteps containers closer (rest.length + 1) rest
    if isBlankLine rest then some (title, rest) else none

def target? (containers : List Container) (label cs : List Char) : Option Definition := do
  let (_, start) ← gap? containers cs
  let (destination, behind) ← destination? start
  if behind.length == start.length then none
  else
    let plain : Definition := ⟨label, ⟨unescape false destination, []⟩, behind⟩
    match gap? containers behind with
    | none => some plain
    | some (lineEnded, next) =>
      if next.length == behind.length then none
      else
        match title? containers next with
        | some (title, rest) =>
          some { plain with target := { plain.target with title := unescape false title }, rest }
        | none => if lineEnded then some plain else none

def read? (containers : List Container) (cs : List Char) : Option Definition := do
  let cs ← after? '[' cs
  let (label, rest) ← label? false (nextLine? containers) cs
  let rest ← after? ':' rest
  target? containers label rest

end Definition

end Folio.Markdown
