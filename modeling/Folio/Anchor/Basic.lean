import Folio.Anchor.Numeral
import Folio.Text.Case

/-!
# Anchors

Headings and figures are linked to by identifiers computed from their text. A numbered heading or
figure is identified by its number, any other by its whole text, in lower case and with the
characters replaced that HTML or a link target would read in a way of their own. Links and
identifiers agree because both are computed here.
-/

namespace Folio

/-- An identifier that a link of the page can point to. -/
structure Anchor where
  name : String
  deriving DecidableEq

namespace Anchor

open Folio.Text

def href (a : Anchor) : String :=
  "#" ++ a.name

/-- The characters that never stand in an anchor. -/
def replacedChars : List Char :=
  ['<', '>', '&', '\x22', '\x27', ' ', '-', ':', '.']

/-- Text in lower case with every character that an anchor avoids replaced by an underscore. -/
def normalize (cs : List Char) : List Char :=
  (lower cs).map fun c => if c ∈ replacedChars then '_' else c

def sectionStem : String :=
  "section_"

def figureStem : String :=
  "figure_"

/-- The anchor of a section: by its first number, or else by all of its text. -/
def ofSection (content : String) : Anchor :=
  let chosen := (Numeral.first? content.toList).getD content.toList
  ⟨sectionStem ++ String.ofList (normalize chosen)⟩

/-- The anchor of a figure: by its number, or else by all of its caption. -/
def ofFigure (caption : String) : Anchor :=
  let chosen := (Numeral.figure? caption.toList).getD caption.toList
  ⟨figureStem ++ String.ofList (normalize chosen)⟩

end Anchor

end Folio
