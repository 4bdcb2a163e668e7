import Folio.Resource.Basic
import Folio.Text.Quoted

/-!
# Errors of enrichment

Every error ends the work on the document at hand. An error of configuration says that the document
names an image that cannot be found, read or typed. Any other is internal: a pass met a tree that no
earlier step should have made, or an emphasizer returned text that does not mark spans properly.
-/

namespace Folio

inductive EnrichError where
  | unknownExtension (path extension : String)
  /-- An image names no source; its alternative text is given. -/
  | missingSource (alternative : String)
  | resource (cause : ResourceError)
  | codeInlineHasChildren (content : String) (count : Nat)
  | textHasChildren (content : String) (count : Nat)
  | unbalancedSentinels (begins ends : Nat)
  /-- A mark in marked text, by its position in characters, begins a span within a span or ends one
  outside of any. -/
  | misplacedSentinel (position : Nat) (text : String)
  | sentinelInInput (text : String)
  deriving DecidableEq

namespace EnrichError

open Folio.Text

/-- Whether the document names something that cannot be resolved. -/
def isConfiguration : EnrichError → Bool
  | unknownExtension _ _ | missingSource _ | resource _ => true
  | _ => false

/-- Whether a tree or a marked text broke a rule that enrichment relies on. -/
def isInternal (e : EnrichError) : Bool :=
  !e.isConfiguration

def message : EnrichError → String
  | unknownExtension path extension =>
    "Unsupported image extension '" ++ extension ++ "' for '" ++ path ++ "'"
  | missingSource alternative =>
    "Image has no 'src' attribute (alt text: " ++ quoted alternative ++ ")"
  | resource cause => "Failed to resolve image: " ++ cause.message
  | codeInlineHasChildren content count =>
    "Inline code token has " ++ count.repr ++ " children: " ++ quoted content
  | textHasChildren content count =>
    "Text token has " ++ count.repr ++ " children: " ++ quoted content
  | unbalancedSentinels begins ends =>
    "Emphasis output is unbalanced: " ++ begins.repr ++ " begin markers, " ++ ends.repr ++
      " end markers"
  | misplacedSentinel position text =>
    "Misplaced emphasis marker at char " ++ position.repr ++ " in " ++ quoted text
  | sentinelInInput text => "Text already contains an emphasis sentinel: " ++ quoted text

end EnrichError

end Folio
