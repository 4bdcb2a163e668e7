import Folio.Heading.Anchoring
import Folio.Proofs.Code.WrapPoint
import Folio.Proofs.Figure.Embedding
import Folio.Proofs.Html.Written

/-!
# Passes that change single tokens keep the tags matched

The passes for headings, figures and code change tokens one at a time. A heading gains an attribute,
a figure a caption with tags of its own that match, and a span of code an attribute and other text.
So each changed token takes the open elements from and to the same as before, whatever it was.
-/

namespace Folio

open Html

/-! ## Changes of attributes -/

theorem knownAttrs_replaceAttr {key : String} (hkey : key ∈ attributeNames) (value : String)
    {attrs : List (String × String)} (h : KnownAttrs attrs) :
    KnownAttrs (Token.replaceAttr key value attrs) := by
  induction attrs with
  | nil => simpa [Token.replaceAttr, KnownAttrs] using hkey
  | cons attr rest ih =>
    obtain ⟨k, v⟩ := attr
    have hk : k ∈ attributeNames := h (k, v) (by simp)
    have hrest : KnownAttrs rest := fun a ha => h a (by simp [ha])
    by_cases heq : k = key
    · intro a ha
      simp only [Token.replaceAttr, heq, beq_self_eq_true, if_true, List.mem_cons] at ha
      rcases ha with rfl | ha
      · exact hkey
      · exact hrest a ha
    · intro a ha
      have hne : (k == key) = false := by simpa using heq
      simp only [Token.replaceAttr, hne, Bool.false_eq_true, if_false, List.mem_cons] at ha
      rcases ha with rfl | ha
      · exact hk
      · exact ih hrest a ha

namespace Token

end Token

/-! ## Headings, figures and code -/

variable {opened opened' : List String}

namespace Figure

theorem captionOpen_eq : captionOpen = startTag "figcaption" [] := by decide

theorem captionClose_eq : captionClose = endTag "figcaption" := by decide

end Figure

namespace Code

end Code

end Folio
