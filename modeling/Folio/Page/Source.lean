import Folio.Markdown.Reader
import Folio.Page.Pipeline

/-!
# Pages of Markdown

A pipeline takes a page of Markdown as well: it is read first, and its own headings make its table of
contents.
-/

namespace Folio.Pipeline

/-- Enriches a page of Markdown and writes it, the place of the table left open. -/
def sourceContent (p : Pipeline) (source : String) :
    Except EnrichError (PageContent × EnrichReport) :=
  let page := Markdown.parse source
  p.content page.document page.toc

def renderSource (p : Pipeline) (source : String) : Except EnrichError RenderedPage :=
  let page := Markdown.parse source
  p.renderDocument page.document page.toc

end Folio.Pipeline
