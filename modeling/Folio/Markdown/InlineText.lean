import Folio.Markdown.HtmlTag
import Folio.Markdown.LinkTail
import Folio.Markdown.Nesting

/-!
# The text of a block

The spans of a block are read from left to right. An angle bracket begins an address or a piece of
HTML, a run of backquotes a span of code up to the next run of the same length, and a closing bracket
goes with the last opening one that is left. What is none of these is text. The emphasis in the text
of a link is found apart from the rest, and a link contains no other link.

In a list item other blocks may stand between the lines of the text. What is open before such a block
becomes text, unless the block is one of code between fences.
-/

namespace Folio.Markdown

open Folio.Text

/-- An opening bracket whose closing one has not come yet. -/
structure OpenBracket where
  opener : Span
  isImage : Bool
  /-- Whether the bracket may still begin a link or an image. -/
  usable : Bool
  /-- What stands between the open bracket outside of it and itself, in reverse. -/
  before : List Inline

/-- The runs of backquotes that searches for the end of a span of code have passed. As soon as there
are any, only these can end a span. The first run of all is not among them, since it could only begin
one. -/
structure PassedBackquotes where
  begun : Bool
  runs : List (Nat × Nat)

namespace PassedBackquotes

def initial : PassedBackquotes where
  begun := false
  runs := []

def insert (b : PassedBackquotes) (position count : Nat) : PassedBackquotes where
  begun := true
  runs := if b.begun then b.runs ++ [(position, count)] else b.runs

/-- Searches spans for a run of so many backquotes. Gives the run and the spans behind it. -/
def search (count : Nat) (b : PassedBackquotes) :
    List Span → Option (Span × List Span) × PassedBackquotes
  | [] => (none, b)
  | s :: rest =>
    match s.kind with
    | .backquotes n _ =>
      if n = count then (some (s, rest), initial)
      else search count (b.insert s.start.position n) rest
    | .block _ true => (none, b)
    | _ => search count b rest

/-- The passed run of so many backquotes that comes first behind an opening one, and the spans behind
it. -/
def find? (b : PassedBackquotes) (opener : Span) (count : Nat) (spans : List Span) :
    Option (Span × List Span) := do
  let (position, _) ← b.runs.find? fun (p, n) => n == count && opener.start.position < p
  match spans.dropWhile (·.start.position < position) with
  | [] => none
  | closer :: rest => some (closer, rest)

/-- The run that ends the span of code that an opening one begins, and the spans behind it. -/
def closing (b : PassedBackquotes) (opener : Span) (count : Nat) (spans : List Span) :
    Option (Span × List Span) × PassedBackquotes :=
  if b.runs.isEmpty then b.search count spans else (b.find? opener count spans, b)

end PassedBackquotes

structure TextState where
  /-- The events up to the last block that divides the text. -/
  done : List Event
  passed : PassedBackquotes
  /-- The open brackets, the innermost first. -/
  brackets : List OpenBracket
  /-- What stands behind the innermost open bracket, in reverse. -/
  pieces : List Inline

def Inline.text (cs : List Char) : Inline :=
  .settled [.text (String.ofList cs)]

namespace TextState

def initial : TextState where
  done := []
  passed := .initial
  brackets := []
  pieces := []

def push (s : TextState) (events : List Event) : TextState :=
  { s with pieces := .settled events :: s.pieces }

def pushText (s : TextState) (span : Span) : TextState :=
  { s with pieces := .text span.source :: s.pieces }

def openBracket (s : TextState) (opener : Span) (isImage : Bool) : TextState :=
  { s with brackets := ⟨opener, isImage, true, s.pieces⟩ :: s.brackets, pieces := [] }

def flatten (b : OpenBracket) (pieces : List Inline) : List Inline :=
  pieces ++ .text b.opener.source :: b.before

def finish (s : TextState) : List Event :=
  s.done ++ settle (s.brackets.foldl (fun pieces b => flatten b pieces) s.pieces).reverse

def addBlock (s : TextState) (events : List Event) (divides : Bool) : TextState :=
  if divides then { s with done := s.finish ++ events, brackets := [], pieces := [] }
  else s.push events

end TextState

namespace TextContext

/-- What stands between two runs of backquotes. Line ends become spaces, and in a table a backslash
before a bar is left out. `length` is the number of characters between the runs. -/
def codeSteps (ctx : TextContext) : Nat → Nat → List Char → List Char
  | 0, _, _ => []
  | _, 0, _ => []
  | _, _, [] => []
  | fuel + 1, length + 1, c :: rest =>
    if isLineEnd c then
      let next := skipContainers ctx.containers rest
      ' ' :: codeSteps ctx fuel (length - (rest.length - next.length)) next
    else if c == '\\' && ctx.inTable && rest.head? == some '|' then
      '|' :: codeSteps ctx fuel (length - 1) (rest.drop 1)
    else c :: codeSteps ctx fuel length rest

/-- The code between two runs of backquotes. If it has a space at either end and is not all spaces,
both of these are left out. -/
def codeBetween (ctx : TextContext) (opener closer : Span) : String :=
  let inner := opener.start.advance (opener.stop - opener.start.position)
  let length := closer.start.position - opener.stop
  let code := ctx.codeSteps (length + 1) length inner.rest
  String.ofList <|
    if code.head? == some ' ' && code.getLast? == some ' ' && !code.all (· == ' ') then
      (code.drop 1).dropLast
    else code

/-- The state behind a run of backquotes, and the spans that are left. An escaped run has one
backquote less that counts, and the other one is text. -/
def readBackquotes (ctx : TextContext) (s : TextState) (opener : Span) (count : Nat)
    (escaped : Bool) (spans : List Span) : TextState × List Span :=
  let length := if escaped then count - 1 else count
  let (found, passed) := if length = 0 then (none, s.passed) else s.passed.closing opener length spans
  let s := { s with passed }
  match found with
  | none => (s.pushText opener, spans)
  | some (closer, rest) =>
    let s := if escaped then s.push [.text "\x60"] else s
    (s.push [.code (ctx.codeBetween opener closer)], rest)

def readAngle (ctx : TextContext) (s : TextState) (opener : Span) (spans : List Span) :
    TextState × List Span :=
  match spans with
  | [] => (s.pushText opener, [])
  | next :: _ =>
    let behind := ctx.textFrom next.start
    match takeAutolink behind with
    | some (address, rest) =>
      let position := ctx.positionOf rest
      let shown := opener.start.next.textTo (position - 1)
      (s.push (enclose (.link (String.ofList address) "") [.text (String.ofList shown)]),
        resumeAt position spans)
    | none =>
      match takeInlineHtml (skipContainers ctx.containers) behind with
      | some (html, rest) =>
        (s.push [.inlineHtml (String.ofList ('<' :: html))], resumeAt (ctx.positionOf rest) spans)
      | none => (s.pushText opener, spans)

def closeBracket (ctx : TextContext) (s : TextState) (closer : Span) (mayRefer : Bool)
    (spans : List Span) : TextState × List Span :=
  match s.brackets with
  | [] => (s.pushText closer, spans)
  | b :: outer =>
    let (target, spans) :=
      if b.usable then ctx.target b.opener closer mayRefer spans else (none, spans)
    match target with
    | none =>
      let s := { s with brackets := outer, pieces := TextState.flatten b s.pieces }
      (s.pushText closer, spans)
    | some target =>
      let destination := String.ofList target.destination
      let title := String.ofList target.title
      let element := if b.isImage then Element.image destination title else .link destination title
      let brackets :=
        if b.isImage then outer
        else outer.map fun o => { o with usable := o.usable && o.isImage }
      let inner := settle s.pieces.reverse
      ({ s with brackets, pieces := b.before }.push (enclose element inner), spans)

def step (ctx : TextContext) (s : TextState) (span : Span) (spans : List Span) :
    TextState × List Span :=
  match span.kind with
  | .text => (s.pushText span, spans)
  | .delimiters char count canOpen canClose =>
    ({ s with pieces := .delimiters char count canOpen canClose :: s.pieces }, spans)
  | .angle => ctx.readAngle s span spans
  | .backquotes count escaped => ctx.readBackquotes s span count escaped spans
  | .linkOpen => (s.openBracket span false, spans)
  | .imageOpen => (s.openBracket span true, spans)
  | .linkClose mayRefer => ctx.closeBracket s span mayRefer spans
  | .softBreak => (s.push [.softBreak], spans)
  | .hardBreak false => (s.push [.hardBreak], spans)
  | .hardBreak true => ({ s with pieces := .backslashBreak :: s.pieces }, spans)
  | .decoded content => (s.push [.text (String.ofList content)], spans)
  | .task checked => (s.push [.taskMarker checked], spans)
  | .block events divides => (s.addBlock events divides, spans)

/-- Reads spans to their end. Every step leaves fewer of them; `fuel` is their number. -/
def run (ctx : TextContext) : Nat → TextState → List Span → TextState
  | 0, s, _ => s
  | _, s, [] => s
  | fuel + 1, s, span :: spans =>
    let (s, spans) := ctx.step s span spans
    run ctx fuel s spans

def events (ctx : TextContext) (spans : List Span) : List Event :=
  (ctx.run spans.length .initial spans).finish

end TextContext

end Folio.Markdown
