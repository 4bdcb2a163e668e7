import Folio.Code.WrapPoint
import Folio.Document.Html
import Folio.Emphasis.Splicing
import Folio.Figure.Embedding
import Folio.Heading.Anchoring
import Folio.Page.Config
import Folio.Toc.Placeholder

/-!
# Pipelines

A pipeline enriches a document: headings get their anchors, figures are embedded, code is made to
wrap and paragraphs are emphasized, in this order and as far as the settings ask for it. Then the
document is written as HTML and the table of contents put at its place. A document is to be enriched
once only.
-/

namespace Folio

structure EnrichReport where
  headings : Nat
  figures : Nat
  codeSpans : Nat
  paragraphs : Nat
  spans : Nat
  skippedParagraphs : Nat
  deriving DecidableEq

/-- The body of a page with the place of its table of contents still open, and its headings. -/
structure PageContent where
  html : String
  toc : List TocEntry
  deriving DecidableEq

def PageContent.htmlWithToc (c : PageContent) (maxLevel : UInt8) : String :=
  Toc.inject maxLevel c.html c.toc

theorem PageContent.htmlWithToc_eq (c : PageContent) (maxLevel : UInt8) :
    c.htmlWithToc maxLevel = Toc.injectRendered c.html (Toc.render maxLevel c.toc) :=
  Toc.inject_eq maxLevel c.html c.toc

structure RenderedPage where
  html : String
  toc : List TocEntry
  report : EnrichReport
  deriving DecidableEq

/-- Settings together with what reads images and what marks text. -/
structure Pipeline where
  config : PipelineConfig
  tocMaxLevel : UInt8
  resources : Option Provider
  emphasizer : Emphasizer

namespace Pipeline

/-- Embeds the figures if the settings ask for it and there is something to read images from. -/
def figurePass (p : Pipeline) (doc : Document) : Except EnrichError Nat × Document :=
  match p.resources with
  | some resources => if p.config.embedFigures then Figure.embedAll resources doc else (.ok 0, doc)
  | none => (.ok 0, doc)

def codePass (p : Pipeline) (doc : Document) : Except EnrichError Nat × Document :=
  if p.config.wrapInlineCode then Code.wrapAll doc else (.ok 0, doc)

def emphasisPass (p : Pipeline) (doc : Document) :
    Except EnrichError Emphasis.SpliceStats × Document :=
  if p.config.bionic then Emphasis.spliceAll p.emphasizer doc else (.ok ⟨0, 0, 0⟩, doc)

/-- Runs the passes. Gives the report or the first error, and the document as it is then. -/
def enrich (p : Pipeline) (doc : Document) : Except EnrichError EnrichReport × Document :=
  let (headings, doc) := Heading.assignAnchors doc
  match p.figurePass doc with
  | (.error e, doc) => (.error e, doc)
  | (.ok figures, doc) =>
    match p.codePass doc with
    | (.error e, doc) => (.error e, doc)
    | (.ok codeSpans, doc) =>
      match p.emphasisPass doc with
      | (.error e, doc) => (.error e, doc)
      | (.ok stats, doc) =>
        (.ok {
          headings, figures, codeSpans
          paragraphs := stats.paragraphs
          spans := stats.spans
          skippedParagraphs := stats.skipped }, doc)

/-- Enriches a document with its headings and writes it, the place of the table left open. -/
def content (p : Pipeline) (doc : Document) (toc : List TocEntry) :
    Except EnrichError (PageContent × EnrichReport) :=
  match p.enrich doc with
  | (.error e, _) => .error e
  | (.ok report, enriched) => .ok (⟨enriched.html, toc⟩, report)

def renderDocument (p : Pipeline) (doc : Document) (toc : List TocEntry) :
    Except EnrichError RenderedPage := do
  let (content, report) ← p.content doc toc
  return ⟨content.htmlWithToc p.tocMaxLevel, content.toc, report⟩

end Pipeline

end Folio
