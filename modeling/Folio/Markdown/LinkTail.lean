import Folio.Markdown.LinkText
import Folio.Markdown.Reference
import Folio.Markdown.Span

/-!
# What makes brackets a link

Brackets are a link or an image if a destination follows them in parentheses, perhaps with a title,
or if they lead to a target that the page defines. The label of the target either follows in brackets
of its own or is what stands between the brackets, which empty brackets may follow. A label that
follows but is not defined leaves no other choice.
-/

namespace Folio.Markdown

open Folio.Text

structure TextContext where
  targets : LinkTargets
  /-- The containers of the block, from the outside. -/
  containers : List Container
  inTable : Bool
  stop : Nat

namespace TextContext

def textFrom (ctx : TextContext) (c : Cursor) : List Char :=
  c.textTo ctx.stop

/-- The position at which so much is left of the block. -/
def positionOf (ctx : TextContext) (cs : List Char) : Nat :=
  ctx.stop - cs.length

/-- What remains behind the blanks between two parts of a link, of which at most one is a line end.
-/
def skipSeparator (ctx : TextContext) (cs : List Char) : List Char :=
  match skipBlanks cs with
  | [] => []
  | c :: rest =>
    if isLineEnd c then
      skipBlanks (skipContainers ctx.containers ((afterLineEnd? (c :: rest)).getD rest))
    else c :: rest

/-- What remains behind a line end and the beginning of the next line, if a span begins behind the
line end. -/
def nextSpan? (ctx : TextContext) (spans : List Span) (cs : List Char) : Option (List Char) :=
  let position := ctx.positionOf cs
  match spans.dropWhile (·.stop ≤ position + 1) with
  | [] => none
  | s :: _ =>
    if position < s.start.position then some (cs.drop (s.start.position - position)) else none

/-- What two backslashes before a bar stand for in the title of a link in a table, and what remains
behind it: the bar, or a punctuation character right behind the bar in its place. -/
def escapedBar : List Char → List Char × List Char
  | [] => (['|'], [])
  | c :: rest => if isAsciiPunctuation c then ([c], rest) else (['|'], c :: rest)

/-- Reads a title up to the character that closes it, with references and escapes resolved. `fuel`
bounds the number of steps. -/
def titleSteps (ctx : TextContext) (spans : List Span) (opener closer : Char) :
    Nat → List Char → Option (List Char × List Char)
  | 0, _ => none
  | _, [] => none
  | fuel + 1, c :: rest =>
    let from? (text rest : List Char) :=
      (titleSteps ctx spans opener closer fuel rest).map fun (more, rest) => (text ++ more, rest)
    if c == closer then some ([], rest)
    else if c == opener then none
    else if isLineEnd c then
      match ctx.nextSpan? spans (c :: rest) with
      | some rest => from? ['\n'] rest
      | none => from? [c] rest
    else if c == '&' then
      match reference? rest with
      | some (text, rest) => from? text rest
      | none => from? [c] rest
    else if c == '\\' then
      match rest with
      | '\\' :: '|' :: behind =>
        if ctx.inTable then
          let (text, rest) := escapedBar behind
          from? text rest
        else from? ['\\'] ('|' :: behind)
      | d :: behind => if isAsciiPunctuation d then from? [d] behind else from? [c] rest
      | [] => none
    else from? [c] rest

def title? (ctx : TextContext) (spans : List Span) :
    List Char → Option (List Char × List Char)
  | [] => none
  | opener :: rest => do
    let closer ← titleEnd? opener
    ctx.titleSteps spans opener closer (rest.length + 1) rest

/-- Reads a destination in parentheses, perhaps with a title. `spans` are those behind the closing
bracket. Gives the position behind the parentheses too. -/
def inlineTarget? (ctx : TextContext) (spans : List Span) (cs : List Char) :
    Option (LinkTarget × Nat) := do
  let rest ← after? '(' cs
  let (destination, rest) ← destination? (ctx.skipSeparator rest)
  let rest := ctx.skipSeparator rest
  let (title, rest) :=
    match ctx.title? spans rest with
    | some (title, rest) => (title, ctx.skipSeparator rest)
    | none => ([], rest)
  let rest ← after? ')' rest
  some (⟨unescape ctx.inTable destination, title⟩, ctx.positionOf rest)

def label? (ctx : TextContext) (cs : List Char) : Option (List Char × List Char) :=
  Markdown.label? ctx.inTable (some ∘ skipContainers ctx.containers) cs

/-- The target that has what stands between two brackets for its label. -/
def ownTarget? (ctx : TextContext) (opener close : Span) : Option LinkTarget := do
  let inner := (opener.start.advance (opener.stop - opener.start.position)).textTo close.stop
  let (label, rest) ← ctx.label? inner
  if rest.isEmpty then ctx.targets.find? label else none

/-- Marks the closing bracket that ends behind a position as one that refers to nothing by itself.
Gives the spans up to it and those behind it, none if there is no such bracket. -/
def claimBracket? (position : Nat) (spans : List Span) : Option (List Span × List Span) :=
  match spans.dropWhile (·.stop ≤ position) with
  | [] => none
  | s :: rest =>
    some (spans.takeWhile (·.stop ≤ position) ++ [{ s with kind := .linkClose false }], rest)

def referredTarget (ctx : TextContext) (opener close : Span) (mayRefer : Bool)
    (spans : List Span) : Option LinkTarget × List Span :=
  let own := if mayRefer then ctx.ownTarget? opener close else none
  match spans with
  | [] => (own, [])
  | next :: _ =>
    match ctx.textFrom next.start with
    | '[' :: ']' :: _ => (own, if own.isSome then spans.drop 2 else spans)
    | '[' :: rest =>
      match ctx.label? rest with
      | none => (own, spans)
      | some (label, rest) =>
        match claimBracket? (ctx.positionOf rest - 1) spans with
        | none => (none, spans)
        | some (claimed, behind) =>
          match ctx.targets.find? label with
          | some target => (some target, behind)
          | none => (none, claimed ++ behind)
    | _ => (own, spans)

/-- The target of brackets, none if they are text, and the spans behind the link or the brackets. -/
def target (ctx : TextContext) (opener close : Span) (mayRefer : Bool) (spans : List Span) :
    Option LinkTarget × List Span :=
  let behind := close.start.advance (close.stop - close.start.position)
  match ctx.inlineTarget? spans (ctx.textFrom behind) with
  | some (target, position) => (some target, resumeAt position spans)
  | none => ctx.referredTarget opener close mayRefer spans

end TextContext

end Folio.Markdown
