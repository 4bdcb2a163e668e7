import Folio.Markdown.Event

/-!
# Nesting of emphasis

A run of delimiters that ends emphasis looks for the closest open run of the same character that it
goes with. What stands between the two is emphasized, strongly by each pair of delimiters that both
runs have left and plainly by a single one, and open runs in between become text. Whatever is not
matched in the end is text, a delimiter at a time.

Tildes strike out, and go only with runs of their own length. A run of tildes that finds none keeps
all later ones from what is open at that moment.

A backslash that makes a hard break where a text with delimiters ends is text itself.
-/

namespace Folio.Markdown

/-- A piece of text in which only the emphasis is left to be found. -/
inductive Inline where
  | settled (events : List Event)
  | delimiters (char : Char) (count : Nat) (canOpen canClose : Bool)
  | backslashBreak

def enclose (element : Element) (events : List Event) : List Event :=
  .enter element :: events ++ [.leave element]

/-- An open run, with what stands between the open run outside of it and itself. -/
structure OpenRun where
  char : Char
  /-- How many of its delimiters are not matched yet. -/
  left : Nat
  length : Nat
  /-- Whether the run could have ended emphasis as well. -/
  both : Bool
  before : List Event

def OpenRun.goesWith (r : OpenRun) (char : Char) (length : Nat) (both : Bool) : Bool :=
  r.char == char && (char != '~' || length == r.length) &&
    (!both && !r.both || (length + r.length) % 3 != 0 || length % 3 == 0)

/-- Delimiters that are text, each by itself. -/
def delimiterText (char : Char) (count : Nat) : List Event :=
  List.replicate count (.text (String.singleton char))

/-- The events around and behind open runs that have become text, given from the inside. -/
def flatten (runs : List OpenRun) (events : List Event) : List Event :=
  runs.foldl (fun inner r => r.before ++ delimiterText r.char r.left ++ inner) events

def emphasize (char : Char) : Nat → List Event → List Event
  | 0, events => events
  | 1, events => enclose (if char == '~' then .strikethrough else .emphasis) events
  | n + 2, events =>
    emphasize char n (enclose (if char == '~' then .strikethrough else .strong) events)

structure Nesting where
  /-- The open runs, the innermost first. -/
  opened : List OpenRun
  events : List Event
  /-- How many open runs, the outermost first, are out of reach of tildes. -/
  beyondTildes : Nat

namespace Nesting

def initial : Nesting where
  opened := []
  events := []
  beyondTildes := 0

def push (s : Nesting) (events : List Event) : Nesting :=
  { s with events := s.events ++ events }

/-- How many open runs are inside the one that a run goes with, none if there is none. -/
def partner? (s : Nesting) (char : Char) (length : Nat) (both : Bool) : Option Nat :=
  let beyond := if char == '~' then s.beyondTildes else 0
  (s.opened.take (s.opened.length - beyond)).findIdx? (·.goesWith char length both)

/-- Matches a run with the open run that has so many others inside. Gives the number of delimiters
that are left of the run. -/
def pair (s : Nesting) (inside left : Nat) (char : Char) : Nat × Nesting :=
  match s.opened.drop inside with
  | [] => (0, s)
  | r :: outer =>
    let count := min left r.left
    let events := emphasize char count (flatten (s.opened.take inside) s.events)
    let beyondTildes := min s.beyondTildes outer.length
    (left - count,
      if count < r.left then
        { opened := { r with left := r.left - count } :: outer, events, beyondTildes }
      else { opened := outer, events := r.before ++ events, beyondTildes })

/-- Matches a run with open ones as long as there are any. Gives the number of delimiters that are
left of it. `fuel` bounds the number of matches. -/
def close (char : Char) (length : Nat) (both : Bool) : Nat → Nat → Nesting → Nat × Nesting
  | 0, left, s => (left, s)
  | fuel + 1, left, s =>
    if left = 0 then (0, s)
    else
      match s.partner? char length both with
      | some inside =>
        let (left, s) := s.pair inside left char
        close char length both fuel left s
      | none => (left, if char == '~' then { s with beyondTildes := s.opened.length } else s)

def step (s : Nesting) : Inline → Nesting
  | .settled events => s.push events
  | .backslashBreak => s.push [.hardBreak]
  | .delimiters char count canOpen canClose =>
    let both := canOpen && canClose
    let (left, s) := if canClose then close char count both (count + 1) count s else (count, s)
    if left = 0 then s
    else if canOpen then
      { s with opened := ⟨char, left, count, both, s.events⟩ :: s.opened, events := [] }
    else s.push (delimiterText char left)

def finish (s : Nesting) : List Event :=
  flatten s.opened s.events

end Nesting

def Inline.isDelimiters : Inline → Bool
  | .delimiters .. => true
  | _ => false

/-- The pieces with the backslash of a hard break at their end as text, if they have delimiters. -/
def closeBreak (pieces : List Inline) : List Inline :=
  match pieces.getLast? with
  | some .backslashBreak =>
    if pieces.any Inline.isDelimiters then pieces.dropLast ++ [.settled [.text "\\"]] else pieces
  | _ => pieces

def settle (pieces : List Inline) : List Event :=
  ((closeBreak pieces).foldl Nesting.step .initial).finish

end Folio.Markdown
