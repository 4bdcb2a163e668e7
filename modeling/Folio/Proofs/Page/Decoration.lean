import Folio.Proofs.Emphasis.Decoration
import Folio.Proofs.Page.Enriching

/-!
# Emphasis only decorates a page

The emphasis of paragraphs is the last pass, so the passes before it do not tell whether it is on.
With an emphasizer that keeps text, the document that it leaves and the one without it differ by the
tags of spans alone.
-/

namespace Folio.Pipeline

open Emphasis

def emphasizing (p : Pipeline) (on : Bool) : Pipeline :=
  { p with config := { p.config with bionic := on } }

variable {p : Pipeline} {doc : Document}

theorem figurePass_emphasizing (on : Bool) : (p.emphasizing on).figurePass doc = p.figurePass doc :=
  rfl

theorem codePass_emphasizing (on : Bool) : (p.emphasizing on).codePass doc = p.codePass doc :=
  rfl

theorem emphasisPass_on : (p.emphasizing true).emphasisPass doc = spliceAll p.emphasizer doc :=
  rfl

theorem emphasisPass_off : (p.emphasizing false).emphasisPass doc = (.ok ⟨0, 0, 0⟩, doc) :=
  rfl

/-- A document that can be enriched with emphasis can be without, and but for the tags of spans the
HTML of both is the same. -/
theorem enrich_emphasizing_decorates {report : EnrichReport} {marked : Document}
    (hkeeps : p.emphasizer.KeepsText)
    (h : (p.emphasizing true).enrich doc = (.ok report, marked)) :
    ∃ report' plain, (p.emphasizing false).enrich doc = (.ok report', plain) ∧
      marked.withoutSpans.html = plain.withoutSpans.html := by
  obtain ⟨figures, figured, codeSpans, wrapped, stats, hfigure, hcode, hemphasis⟩ :=
    enrich_ok_cases h
  rw [figurePass_emphasizing] at hfigure
  rw [codePass_emphasizing] at hcode
  rw [emphasisPass_on] at hemphasis
  have hplain := enrich_of_passes (p := p.emphasizing false) hfigure hcode emphasisPass_off
  exact ⟨_, wrapped, hplain, html_withoutSpans_spliceAll hkeeps hemphasis⟩

/-- A paragraph in which code and a link stand between words, and one with a span of its own. -/
def linkedDocument : Document where
  tokens := [.ofKind .paragraphOpen,
    .inline "Use a_b & see docs" [.text "Use ", .codeInline "a_b", .text " & ",
      .inlineHtml "<a href=\"x\">", .text "see docs", .inlineHtml "</a>"],
    .ofKind .paragraphClose,
    .ofKind .paragraphOpen,
    .inline "own" [.inlineHtml spanOpenHtml, .text "own", .inlineHtml spanCloseHtml],
    .ofKind .paragraphClose]

theorem enrich_emphasizing_decorates_linked :
    imageless.emphasizer.KeepsText ∧
      ∃ report marked report' plain,
        (imageless.emphasizing true).enrich linkedDocument = (.ok report, marked) ∧
          (imageless.emphasizing false).enrich linkedDocument = (.ok report', plain) ∧
          marked.withoutSpans.html = plain.withoutSpans.html := by
  have hok : (((imageless.emphasizing true).enrich linkedDocument).1).toOption.isSome = true := by
    decide +kernel
  cases hresult : (imageless.emphasizing true).enrich linkedDocument with
  | mk outcome marked =>
    cases outcome with
    | error e => simp [hresult, Except.toOption] at hok
    | ok report =>
      obtain ⟨report', plain, hplain, hhtml⟩ :=
        enrich_emphasizing_decorates (p := imageless) keepsText_bionic hresult
      exact ⟨keepsText_bionic, report, marked, report', plain, rfl, hplain, hhtml⟩

-- Leaving out the spans is what makes the two alike.
example : ((imageless.emphasizing true).enrich linkedDocument).2.html ≠
    ((imageless.emphasizing false).enrich linkedDocument).2.html := by
  decide +kernel

end Folio.Pipeline
