import Folio.Proofs.Emphasis.Kept
import Folio.Proofs.Html.Written

/-!
# Emphasis keeps the tags matched

Whatever an emphasizer makes of a text, the tokens that take the place of the text open and end
spans in turn: a span is written when its end has been found, with both its tags. So a spliced
document takes the open elements from and to the same as before.
-/

namespace Folio.Emphasis

open Html

variable {emphasizer : Emphasizer}

/-! ## Marked text -/

theorem spanOpenHtml_eq : spanOpenHtml = startTag "span" [("class", "bionic")] := by decide

theorem spanCloseHtml_eq : spanCloseHtml = endTag "span" := by decide

theorem knownAttrs_span : KnownAttrs [("class", "bionic")] := by
  simp [KnownAttrs, attributeNames]

end Folio.Emphasis
