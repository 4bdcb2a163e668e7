import Folio.Proofs.Code.WrapPoint
import Folio.Proofs.Emphasis.Kept
import Folio.Proofs.Figure.Embedding
import Folio.Proofs.Heading.Anchors
import Folio.Proofs.Page.Enriching

/-!
# Headings through the passes

Only the first pass changes headings. The others put tokens of their own beside and in place of
those they find, at any depth, but no opening of a heading is among the tokens that come or go. So
the headings of an enriched document are those of the document it was made from, each with its
identifier.
-/

namespace Folio

open Token Heading

/-! ## Bare openings -/

def bareOpenings (ts : List Token) : List Token :=
  ((siblingsInOrder ts).filter isOpening).map bare

def SameOpenings (ts us : List Token) : Prop :=
  bareOpenings us = bareOpenings ts

theorem SameOpenings.trans {ts us vs : List Token} (h : SameOpenings ts us)
    (h' : SameOpenings us vs) : SameOpenings ts vs :=
  Eq.trans h' h

/-! ## Figures -/

theorem Figure.sameOpenings_embed {resources : Provider} {figure embedded : Token}
    (himage : HasImage figure) (h : embed resources figure = .ok embedded) :
    SamePicked Kind.isHeadingOpen [figure] [embedded] := by
  have hcongruence := congruence_samePicked Kind.isHeadingOpen
  obtain ⟨image, source, hchildren, rfl⟩ | rfl := embed_cases h
  · apply hcongruence.children
    rw [hchildren]
    have hopening : image.kind.isHeadingOpen = false := by rw [himage image hchildren]; rfl
    have hcaption : ∀ words, SamePicked Kind.isHeadingOpen []
        [.inlineHtml captionOpen, .text words, .inlineHtml captionClose] :=
      fun _ => rfl
    have hembedded : ∀ id, SamePicked Kind.isHeadingOpen [image]
        [(image.setAttr "src" source).setAttr "id" id] :=
      fun _ => samePicked_of_unwanted hopening hopening rfl
    exact hcongruence.append (hembedded _) (hcaption _)
  · exact hcongruence.refl _

theorem Figure.sameOpenings_embedAll (resources : Provider) (doc : Document) :
    SameOpenings doc.tokens (embedAll resources doc).2.tokens :=
  related_embedAll (congruence_samePicked Kind.isHeadingOpen) SamePicked.trans sameOpenings_embed doc

/-! ## The pipeline -/

namespace Pipeline

variable {p : Pipeline} {doc : Document}

theorem sameOpenings_figurePass (p : Pipeline) (doc : Document) :
    SameOpenings doc.tokens (p.figurePass doc).2.tokens :=
  figurePass_holds (fun d => SameOpenings doc.tokens d.tokens) p rfl fun resources =>
    Figure.sameOpenings_embedAll resources doc

section
variable {wanted : Kind → Bool}

theorem samePicked_codePass (hcode : wanted .codeInline = false) (p : Pipeline) (doc : Document) :
    SamePicked wanted doc.tokens (p.codePass doc).2.tokens :=
  codePass_holds (fun d => SamePicked wanted doc.tokens d.tokens) p rfl
    (Code.samePicked_wrapAll hcode doc)

theorem samePicked_emphasisPass (htext : wanted .text = false) (hhtml : wanted .inlineHtml = false)
    {stats : Emphasis.SpliceStats} {spliced : Document}
    (h : p.emphasisPass doc = (.ok stats, spliced)) :
    SamePicked wanted doc.tokens spliced.tokens :=
  emphasisPass_holds (fun d => SamePicked wanted doc.tokens d.tokens) h rfl
    (Emphasis.samePicked_spliceAll htext hhtml)

end

/-- Behind the pass that identifies headings, no pass touches them. -/
theorem headings_enrich_anchored {report : EnrichReport} {enriched : Document}
    (h : p.enrich doc = (.ok report, enriched)) :
    (headings enriched).map bare = (headings (anchored doc)).map bare := by
  obtain ⟨figures, figured, codeSpans, wrapped, stats, hfigure, hcode, hemphasis⟩ :=
    enrich_ok_cases h
  have hfigured := p.sameOpenings_figurePass (anchored doc)
  have hwrapped : SamePicked Kind.isHeadingOpen figured.tokens (p.codePass figured).2.tokens :=
    samePicked_codePass rfl p figured
  have hspliced : SamePicked Kind.isHeadingOpen wrapped.tokens enriched.tokens :=
    samePicked_emphasisPass rfl rfl hemphasis
  rw [hfigure] at hfigured
  rw [hcode] at hwrapped
  exact (hfigured.trans hwrapped).trans hspliced

/-- The headings of an enriched document are those of the document it was made from, but for their
identifiers: each is identified by the first content behind it there. -/
theorem headings_enrich {report : EnrichReport} {enriched : Document}
    (h : p.enrich doc = (.ok report, enriched)) :
    (headings enriched).length = (headings doc).length ∧
      (behindHeadings doc.inOrder).length = (headings doc).length ∧
      (headings enriched).map bare =
        List.zipWith identified (headings doc) (behindHeadings doc.inOrder) ∧
      (headings enriched).map bare = (headings (anchored doc)).map bare := by
  have hbehind := length_behindHeadings doc
  have hkept := headings_enrich_anchored h
  have hidentified := hkept.trans (headings_assignAnchors doc)
  have hlength : (headings enriched).length = (headings doc).length := by
    have hzip := congrArg List.length hidentified
    simpa [hbehind] using hzip
  exact ⟨hlength, hbehind, hidentified, hkept⟩

/-- Headings in the body of a paragraph and below its text, and one without text. -/
def nestedHeadings : Document where
  tokens := [.ofKind .paragraphOpen,
    { Token.inline "a_b" [.codeInline "a_b"] with
      children := [.codeInline "a_b",
        { Token.ofKind (.headingOpen 2) with attrs := [("class", "x"), ("id", "old")] },
        .text "Deep"] },
    .ofKind (.headingOpen 1), .ofKind (.headingClose 1),
    .ofKind .paragraphClose,
    .ofKind (.headingOpen 3), .inline "" [], .ofKind (.headingClose 3),
    .inline "The end" [.text "The end"]]

theorem headings_enrich_nested :
    ∃ report enriched, imageless.enrich nestedHeadings = (.ok report, enriched) ∧
      (headings enriched).length = (headings nestedHeadings).length ∧
      (behindHeadings nestedHeadings.inOrder).length = (headings nestedHeadings).length ∧
      (headings enriched).map bare =
        List.zipWith identified (headings nestedHeadings)
          (behindHeadings nestedHeadings.inOrder) ∧
      (headings enriched).map bare = (headings (anchored nestedHeadings)).map bare := by
  have hok : ((imageless.enrich nestedHeadings).1).toOption.isSome = true := by
    decide +kernel
  cases hresult : imageless.enrich nestedHeadings with
  | mk outcome enriched =>
    cases outcome with
    | error e => simp [hresult, Except.toOption] at hok
    | ok report => exact ⟨report, enriched, rfl, headings_enrich (p := imageless) hresult⟩

example : (headings (imageless.enrich nestedHeadings).2).map (·.attrs) =
    [[("class", "x"), ("id", "section_deep")], [("id", "section_the_end")],
      [("id", "section_the_end")]] := by
  decide +kernel

end Pipeline

end Folio
