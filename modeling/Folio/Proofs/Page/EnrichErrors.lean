import Folio.Proofs.Emphasis.Paragraphs
import Folio.Proofs.Page.Enriching
import Folio.Proofs.Page.PassShape

/-!
# Errors of enriching a page

Enriching a page that has been read from events, with the emphasizer for bionic reading, ends with
an error for three reasons only: an image cannot be read, an image is of no known type, or a text to
be emphasized holds a mark already. No internal error is among them but the last, and that one takes
a leaf of text in a closed paragraph, a caption maybe, that holds the mark.
-/

namespace Folio.Pipeline

open Markdown Emphasis

/-- The document with which the emphasis begins when the passes before it succeed. -/
def beforeEmphasis (p : Pipeline) (doc : Document) : Document :=
  (p.codePass (p.figurePass (anchored doc)).2).2

variable {p : Pipeline} {doc : Document}

theorem figurePass_page (p : Pipeline) (h : doc.IsPage) :
    (∀ e, (p.figurePass doc).1 = .error e → Figure.IsImageError e) ∧ (p.figurePass doc).2.IsPage := by
  unfold figurePass
  cases p.resources with
  | none => exact ⟨by simp, h⟩
  | some resources =>
    by_cases hembed : p.config.embedFigures
    · simpa [hembed] using Figure.embedAll_page resources h
    · simpa [hembed] using h

theorem codePass_page (p : Pipeline) (h : doc.IsPage) :
    (∃ count, (p.codePass doc).1 = .ok count) ∧ (p.codePass doc).2.IsPage := by
  unfold codePass
  by_cases hwrap : p.config.wrapInlineCode
  · simpa [hwrap] using Code.wrapAll_page h
  · simpa [hwrap] using h

theorem emphasisPass_page_error {e : EnrichError} {left : Document}
    (hemphasizer : p.emphasizer = Bionic.emphasizer) (h : doc.IsPage)
    (hpass : p.emphasisPass doc = (.error e, left)) :
    p.config.bionic = true ∧ ∃ body ∈ paragraphBodies none doc.tokens, isPlaceholder body = false ∧
      ∃ text, HasMarkedText body text ∧ e = .sentinelInInput text := by
  unfold emphasisPass at hpass
  by_cases hbionic : p.config.bionic
  · rw [if_pos hbionic, hemphasizer] at hpass
    exact ⟨hbionic, spliceAll_bionic_error h hpass⟩
  · simp [hbionic] at hpass

/-- All that can go wrong when a page is enriched. -/
theorem enrich_page_error {events : List Event} {e : EnrichError} {left : Document}
    (hemphasizer : p.emphasizer = Bionic.emphasizer)
    (h : p.enrich (ParsedPage.ofEvents events).document = (.error e, left)) :
    (∃ cause, e = .resource cause) ∨ (∃ path extension, e = .unknownExtension path extension) ∨
      ∃ text, e = .sentinelInInput text ∧ p.config.bionic = true ∧
        ∃ body ∈ paragraphBodies none (p.beforeEmphasis (ParsedPage.ofEvents events).document).tokens,
          isPlaceholder body = false ∧ HasMarkedText body text := by
  have hanchored : (anchored (ParsedPage.ofEvents events).document).IsPage :=
    Heading.isPage_setAnchors (isPage_ofEvents events) _
  obtain ⟨hfigureErrors, hfigured⟩ := figurePass_page p hanchored
  obtain ⟨⟨count, hcount⟩, hwrapped⟩ := codePass_page p hfigured
  obtain hfigure | ⟨figures, figured, hfigure, hcode⟩ | ⟨figures, figured, spans, wrapped, hfigure,
    hcode, hemphasis⟩ := enrich_error_cases h
  · rcases hfigureErrors e (by rw [hfigure]) with hresource | hextension
    · exact .inl hresource
    · exact .inr (.inl hextension)
  · rw [hfigure, hcode] at hcount
    simp at hcount
  · have hbefore : p.beforeEmphasis (ParsedPage.ofEvents events).document = wrapped := by
      rw [beforeEmphasis, hfigure, hcode]
    rw [hfigure, hcode] at hwrapped
    obtain ⟨hbionic, body, hbody, hplace, text, htext, rfl⟩ :=
      emphasisPass_page_error hemphasizer hwrapped hemphasis
    exact .inr (.inr ⟨text, rfl, hbionic, body, hbefore ▸ hbody, hplace, htext⟩)

def markedEvents : List Event :=
  [.enter .paragraph, .text "\ue000", .leave .paragraph]

theorem enrich_page_error_marked :
    imageless.emphasizer = Bionic.emphasizer ∧
      ∃ e left, imageless.enrich (ParsedPage.ofEvents markedEvents).document = (.error e, left) ∧
        ∃ text, e = .sentinelInInput text ∧
          ∃ body ∈ paragraphBodies none
            (imageless.beforeEmphasis (ParsedPage.ofEvents markedEvents).document).tokens,
            isPlaceholder body = false ∧ HasMarkedText body text := by
  have hfails : (imageless.enrich (ParsedPage.ofEvents markedEvents).document).1 =
      .error (.sentinelInInput "\ue000") := by decide +kernel
  have henrich : imageless.enrich (ParsedPage.ofEvents markedEvents).document =
      (.error (.sentinelInInput "\ue000"),
        (imageless.enrich (ParsedPage.ofEvents markedEvents).document).2) :=
    Prod.ext hfails rfl
  obtain ⟨cause, hcause⟩ | ⟨path, extension, hextension⟩ | ⟨text, htext, -, hbody⟩ :=
    enrich_page_error rfl henrich
  · simp at hcause
  · simp at hextension
  · exact ⟨rfl, _, _, henrich, text, htext, hbody⟩

end Folio.Pipeline
