import Folio.Document.Basic
import Folio.Emphasis.Marks
import Folio.Error
import Folio.Text.Ascii
import Folio.Text.Blank

/-!
# Emphasis in paragraphs

A paragraph is what stands between an opening marker and the first closing marker after it among the
same siblings. Every leaf of text in it is handed to an emphasizer and replaced by the tokens that
the marked text describes: emphasized spans, each between an opening and a closing piece of HTML,
and the text around them. A paragraph that only holds the place of the table of contents is passed
over, so that the place can still be found.

A paragraph that cannot be spliced ends the pass and loses its body. Everything before it has been
spliced by then, and everything behind it stays as it is.
-/

namespace Folio.Emphasis

open Folio.Text

def spanOpenHtml : String := "<span class=\"bionic\">"

def spanCloseHtml : String := "</span>"

structure MarkCount where
  begins : Nat
  ends : Nat
  deriving DecidableEq

def MarkCount.add (a b : MarkCount) : MarkCount :=
  ⟨a.begins + b.begins, a.ends + b.ends⟩

/-- The tokens for a stretch of text without marks: one leaf, or none for no text. -/
def textLeaf (cs : List Char) : List Token :=
  if cs.isEmpty then [] else [.text (String.ofList cs)]

def spanTokens (cs : List Char) : List Token :=
  .inlineHtml spanOpenHtml :: textLeaf cs ++ [.inlineHtml spanCloseHtml]

/-- Reads the rest of a marked text. `position` characters come before it, `segment` holds in reverse
those since the last mark, and `inside` tells whether that mark began a span. -/
def readMarked (marked : String) (position : Nat) (inside : Bool) (segment : List Char)
    (count : MarkCount) : List Char → Except EnrichError (List Token × MarkCount)
  | [] =>
    if inside then .error (.unbalancedSentinels count.begins count.ends)
    else .ok (textLeaf segment.reverse, count)
  | c :: rest =>
    if c = spanBegin then
      if inside then .error (.misplacedSentinel position marked)
      else do
        let (tokens, total) ←
          readMarked marked (position + 1) true [] { count with begins := count.begins + 1 } rest
        .ok (textLeaf segment.reverse ++ tokens, total)
    else if c = spanEnd then
      if inside then do
        let (tokens, total) ←
          readMarked marked (position + 1) false [] { count with ends := count.ends + 1 } rest
        .ok (spanTokens segment.reverse ++ tokens, total)
      else .error (.misplacedSentinel position marked)
    else readMarked marked (position + 1) inside (c :: segment) count rest

/-- The tokens that take the place of a leaf of text. Text that holds a mark already is refused. -/
def emphasizeText (emphasizer : Emphasizer) (text : String) :
    Except EnrichError (List Token × MarkCount) :=
  if text.toList.any isMark then .error (.sentinelInInput text)
  else
    let marked := emphasizer text
    readMarked marked 0 false [] ⟨0, 0⟩ marked.toList

mutual

def spliceToken (emphasizer : Emphasizer) :
    Token → Except EnrichError (List Token × MarkCount)
  | ⟨kind, tag, content, attrs, children, nesting⟩ =>
    if kind = .text then
      if children.isEmpty then emphasizeText emphasizer content
      else .error (.textHasChildren content children.length)
    else do
      let (spliced, count) ← spliceBody emphasizer children
      .ok ([⟨kind, tag, content, attrs, spliced, nesting⟩], count)

def spliceBody (emphasizer : Emphasizer) :
    List Token → Except EnrichError (List Token × MarkCount)
  | [] => .ok ([], ⟨0, 0⟩)
  | t :: rest => do
    let (first, firstCount) ← spliceToken emphasizer t
    let (others, otherCount) ← spliceBody emphasizer rest
    .ok (first ++ others, firstCount.add otherCount)

end

def placeholderText : List Char :=
  ['[', 't', 'o', 'c', ']']

/-- Whether a paragraph holds nothing but the place of the table of contents, in any case. -/
def isPlaceholder (body : List Token) : Bool :=
  eqIgnoringCase (trim (body.flatMap (·.content.toList))) placeholderText

/-- What splicing has done: the paragraphs rewritten, those passed over, and the emphasized spans. -/
structure SpliceStats where
  paragraphs : Nat
  skipped : Nat
  spans : Nat
  deriving DecidableEq

def SpliceStats.add (a b : SpliceStats) : SpliceStats :=
  ⟨a.paragraphs + b.paragraphs, a.skipped + b.skipped, a.spans + b.spans⟩

/-- A sequence of siblings after the pass, what was done to it, and the error that ended the pass. -/
structure Spliced where
  tokens : List Token
  stats : SpliceStats
  error? : Option EnrichError

namespace Spliced

def untouched (tokens : List Token) : Spliced :=
  ⟨tokens, ⟨0, 0, 0⟩, none⟩

def failed (tokens : List Token) (e : EnrichError) : Spliced :=
  ⟨tokens, ⟨0, 0, 0⟩, some e⟩

def after (front : List Token) (stats : SpliceStats) (s : Spliced) : Spliced :=
  ⟨front ++ s.tokens, stats.add s.stats, s.error?⟩

end Spliced

/-- Splices the body of a closed paragraph. The marks are counted once more over the whole of it. -/
def spliceParagraph (emphasizer : Emphasizer) (body : List Token) :
    Except EnrichError (List Token × SpliceStats) :=
  if isPlaceholder body then .ok (body, ⟨0, 1, 0⟩)
  else do
    let (spliced, count) ← spliceBody emphasizer body
    if count.begins = count.ends then .ok (spliced, ⟨1, 0, count.begins⟩)
    else .error (.unbalancedSentinels count.begins count.ends)

mutual

/-- Splices the paragraphs below a token that is in no paragraph. -/
def spliceBelow (emphasizer : Emphasizer) : Token → Token × SpliceStats × Option EnrichError
  | ⟨kind, tag, content, attrs, children, nesting⟩ =>
    let below := spliceSiblings emphasizer none children
    (⟨kind, tag, content, attrs, below.tokens, nesting⟩, below.stats, below.error?)

/-- Splices the paragraphs of a sequence of siblings. `opened` holds the marker that opened a
paragraph and, in reverse, the tokens since, when the sequence is the rest of a longer one. A
paragraph that is never closed is left alone, with all that follows in the sequence. -/
def spliceSiblings (emphasizer : Emphasizer) (opened : Option (Token × List Token)) :
    List Token → Spliced
  | [] =>
    match opened with
    | none => .untouched []
    | some (opening, reversed) => .untouched (opening :: reversed.reverse)
  | t :: rest =>
    match opened with
    | none =>
      if t.kind = .paragraphOpen then spliceSiblings emphasizer (some (t, [])) rest
      else
        match spliceBelow emphasizer t with
        | (spliced, _, some e) => .failed (spliced :: rest) e
        | (spliced, stats, none) => .after [spliced] stats (spliceSiblings emphasizer none rest)
    | some (opening, reversed) =>
      if t.kind = .paragraphClose then
        match spliceParagraph emphasizer reversed.reverse with
        | .error e => .failed (opening :: t :: rest) e
        | .ok (body, stats) =>
          .after (opening :: body ++ [t]) stats (spliceSiblings emphasizer none rest)
      else spliceSiblings emphasizer (some (opening, t :: reversed)) rest

end

/-- Splices all paragraphs of a document. Gives what was done or the first error, and the document as
it is then. -/
def spliceAll (emphasizer : Emphasizer) (doc : Document) :
    Except EnrichError SpliceStats × Document :=
  let spliced := spliceSiblings emphasizer none doc.tokens
  (spliced.error?.elim (.ok spliced.stats) .error, ⟨spliced.tokens⟩)

end Folio.Emphasis
