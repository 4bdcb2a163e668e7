import Folio.Page.Pipeline

/-!
# What enriching a document does

Enriching runs one pass after the other and ends with the first error. Either every pass succeeds,
each on what the one before it left, or one fails on what those before it left.
-/

namespace Folio.Pipeline

/-- The document with its headings identified, with which the passes that may fail begin. -/
def anchored (doc : Document) : Document :=
  (Heading.assignAnchors doc).2

variable {p : Pipeline} {doc : Document}

theorem enrich_ok_cases {report : EnrichReport} {enriched : Document}
    (h : p.enrich doc = (.ok report, enriched)) :
    ∃ figures figured codeSpans wrapped stats,
      p.figurePass (anchored doc) = (.ok figures, figured) ∧
        p.codePass figured = (.ok codeSpans, wrapped) ∧
        p.emphasisPass wrapped = (.ok stats, enriched) := by
  simp only [enrich] at h
  split at h
  · simp at h
  · rename_i figures figured hfigured
    split at h
    · simp at h
    · rename_i codeSpans wrapped hwrapped
      split at h
      · simp at h
      · rename_i stats spliced hspliced
        obtain rfl := (Prod.mk.inj h).2
        exact ⟨figures, figured, codeSpans, wrapped, stats, hfigured, hwrapped, hspliced⟩

theorem enrich_of_passes {figures codeSpans : Nat} {figured wrapped enriched : Document}
    {stats : Emphasis.SpliceStats} (hfigure : p.figurePass (anchored doc) = (.ok figures, figured))
    (hcode : p.codePass figured = (.ok codeSpans, wrapped))
    (hemphasis : p.emphasisPass wrapped = (.ok stats, enriched)) :
    p.enrich doc = (.ok {
      headings := (Heading.assignAnchors doc).1
      figures, codeSpans
      paragraphs := stats.paragraphs
      spans := stats.spans
      skippedParagraphs := stats.skipped }, enriched) := by
  have hfigure' : p.figurePass (Heading.assignAnchors doc).2 = (.ok figures, figured) := hfigure
  simp only [enrich, hfigure', hcode, hemphasis]

theorem enrich_error_cases {e : EnrichError} {left : Document}
    (h : p.enrich doc = (.error e, left)) :
    p.figurePass (anchored doc) = (.error e, left) ∨
      (∃ figures figured, p.figurePass (anchored doc) = (.ok figures, figured) ∧
        p.codePass figured = (.error e, left)) ∨
      ∃ figures figured codeSpans wrapped,
        p.figurePass (anchored doc) = (.ok figures, figured) ∧
          p.codePass figured = (.ok codeSpans, wrapped) ∧
          p.emphasisPass wrapped = (.error e, left) := by
  simp only [enrich] at h
  split at h
  · rename_i hfigured
    obtain ⟨⟨⟩, rfl⟩ := Prod.mk.inj h
    exact .inl hfigured
  · rename_i figures figured hfigured
    split at h
    · rename_i hwrapped
      obtain ⟨⟨⟩, rfl⟩ := Prod.mk.inj h
      exact .inr (.inl ⟨figures, figured, hfigured, hwrapped⟩)
    · rename_i codeSpans wrapped hwrapped
      split at h
      · rename_i hspliced
        obtain ⟨⟨⟩, rfl⟩ := Prod.mk.inj h
        exact .inr (.inr ⟨figures, figured, codeSpans, wrapped, hfigured, hwrapped, hspliced⟩)
      · simp at h

/-- What holds of a document whether or not its figures are embedded holds after the pass. -/
theorem figurePass_holds (holds : Document → Prop) (p : Pipeline) (hskip : holds doc)
    (hembed : ∀ resources, holds (Figure.embedAll resources doc).2) : holds (p.figurePass doc).2 := by
  unfold figurePass
  split
  · split
    · exact hembed _
    · exact hskip
  · exact hskip

theorem codePass_holds (holds : Document → Prop) (p : Pipeline) (hskip : holds doc)
    (hwrap : holds (Code.wrapAll doc).2) : holds (p.codePass doc).2 := by
  unfold codePass
  split
  · exact hwrap
  · exact hskip

theorem emphasisPass_holds (holds : Document → Prop) {stats : Emphasis.SpliceStats}
    {spliced : Document} (h : p.emphasisPass doc = (.ok stats, spliced)) (hskip : holds doc)
    (hsplice : Emphasis.spliceAll p.emphasizer doc = (.ok stats, spliced) → holds spliced) :
    holds spliced := by
  unfold emphasisPass at h
  split at h
  · exact hsplice h
  · obtain ⟨-, rfl⟩ := Prod.mk.inj h
    exact hskip

/-- The pipeline of the usual settings that has nothing to read images from. -/
def imageless : Pipeline where
  config := .default
  tocMaxLevel := Toc.defaultMaxLevel
  resources := none
  emphasizer := Bionic.emphasizer

end Folio.Pipeline
