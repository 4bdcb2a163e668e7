import Folio.Proofs.Emphasis.SplicePlaces
import Folio.Proofs.Markdown.QuietPage
import Folio.Proofs.Page.EnrichErrors
import Folio.Proofs.Page.PassPlaces

/-!
# The table of contents stands at its place

The place of a page is read off its tokens, while its table of contents is put into its HTML, with
passes in between that go by a test of their own. All three agree on pages that are read from properly
nested events without raw HTML: the table replaces the first paragraph of the bracketed word, and
nothing else.
-/

namespace Folio.Pipeline

open Markdown Emphasis Toc

variable {p : Pipeline} {doc : Document}

theorem keepsPlace_figurePass (p : Pipeline) (doc : Document) :
    KeepsPlace doc.tokens (p.figurePass doc).2.tokens :=
  figurePass_holds (fun d => KeepsPlace doc.tokens d.tokens) p (congruence_keepsPlace.refl _)
    fun resources => Figure.keepsPlace_embedAll resources doc

theorem keepsPlace_codePass (p : Pipeline) (doc : Document) :
    KeepsPlace doc.tokens (p.codePass doc).2.tokens :=
  codePass_holds (fun d => KeepsPlace doc.tokens d.tokens) p (congruence_keepsPlace.refl _)
    (Code.keepsPlace_wrapAll doc)

theorem isQuietPage_emphasisPass (hkeeps : p.emphasizer.KeepsText) {stats : SpliceStats}
    {spliced : Document} (h : IsQuietPage doc.tokens) (hlabelled : ∀ t ∈ doc.tokens, t.IsLabelled)
    (hpass : p.emphasisPass doc = (.ok stats, spliced)) :
    IsQuietPage spliced.tokens ∧ placeAt? spliced.tokens = placeAt? doc.tokens :=
  emphasisPass_holds (fun d => IsQuietPage d.tokens ∧ placeAt? d.tokens = placeAt? doc.tokens) hpass
    ⟨h, rfl⟩ (isQuietPage_spliceAll hkeeps h hlabelled)

/-- An enriched page can be searched for its place as before, and has it where it was. -/
theorem isQuietPage_enrich (hkeeps : p.emphasizer.KeepsText) {report : EnrichReport}
    {enriched : Document} (h : IsQuietPage doc.tokens) (hlabelled : ∀ t ∈ doc.tokens, t.IsLabelled)
    (henrich : p.enrich doc = (.ok report, enriched)) :
    IsQuietPage enriched.tokens ∧ placeAt? enriched.tokens = placeAt? doc.tokens := by
  obtain ⟨figures, figured, codeSpans, wrapped, stats, hfigure, hcode, hemphasis⟩ :=
    enrich_ok_cases henrich
  have hkept : KeepsPlace doc.tokens wrapped.tokens := by
    have hanchored : KeepsPlace doc.tokens (anchored doc).tokens :=
      Heading.keepsPlace_assignAnchors doc
    have hfigured := keepsPlace_figurePass p (anchored doc)
    have hwrapped := keepsPlace_codePass p figured
    rw [hfigure] at hfigured
    rw [hcode] at hwrapped
    exact (hanchored.trans hfigured).trans hwrapped
  have hpage : wrapped.IsPage := by
    have hanchored : (anchored doc).IsPage := Heading.isPage_setAnchors h.page _
    have hfigured := (figurePass_page p hanchored).2
    rw [hfigure] at hfigured
    have hwrapped := (codePass_page p hfigured).2
    rwa [hcode] at hwrapped
  have hquiet : IsQuietPage wrapped.tokens :=
    ⟨hpage, hkept.quiet h.quiet, hkept.read.paragraphed h.paragraphs⟩
  obtain ⟨hfinal, hplace⟩ :=
    isQuietPage_emphasisPass hkeeps hquiet (hkept.read.isLabelled hlabelled) hemphasis
  exact ⟨hfinal, hplace.trans (hkept.read.placeAt?_eq h.paragraphs)⟩

/-- A page of properly nested events without raw HTML is written as its enriched document, with the
table of contents in place of the first paragraph that is nothing but the bracketed word. The document
as it was read tells which paragraph that is. The nesting is that of valid pages: headings, paragraphs
and elements of running text hold no block, and a cell holds no head of a table. -/
theorem renderDocument_html {events : List Event} {toc : List TocEntry} {rendered : RenderedPage}
    (hnested : WellNested barsForShape events) (hraw : ∀ e ∈ events, e.isRawHtml = false)
    (hkeeps : p.emphasizer.KeepsText)
    (h : p.renderDocument (ParsedPage.ofEvents events).document toc = .ok rendered) :
    ∃ report enriched, p.enrich (ParsedPage.ofEvents events).document = (.ok report, enriched) ∧
      placeAt? enriched.tokens = placeAt? (ParsedPage.ofEvents events).document.tokens ∧
      match placeAt? enriched.tokens with
      | none => rendered.html = enriched.html
      | some i =>
        ∃ word, isPlaceText word.toList = true ∧
          enriched.html = siblingsHtml (enriched.tokens.take i) ++ ("<p>" ++ word ++ "</p>") ++
            ("\n" ++ siblingsHtml (enriched.tokens.drop (i + 3))) ∧
          rendered.html = siblingsHtml (enriched.tokens.take i) ++ Toc.render p.tocMaxLevel toc ++
            ("\n" ++ siblingsHtml (enriched.tokens.drop (i + 3))) := by
  unfold renderDocument content at h
  split at h
  · simp [bind, Except.bind] at h
  · rename_i report enriched henrich
    obtain rfl := Except.ok.inj h
    obtain ⟨hquiet, hplace⟩ := isQuietPage_enrich hkeeps (isQuietPage_ofEvents hnested hraw)
      (isLabelled_ofEvents hnested) henrich
    have hhtml := injectRendered_html hquiet (Toc.render p.tocMaxLevel toc)
    rw [← Toc.inject_eq] at hhtml
    refine ⟨report, enriched, henrich, hplace, ?_⟩
    cases hfound : placeAt? enriched.tokens with
    | none =>
      rw [hfound] at hhtml
      exact hhtml
    | some i =>
      rw [hfound] at hhtml
      obtain ⟨word, hword, hpage⟩ := siblingsHtml_place hquiet hfound
      exact ⟨word, hword, hpage, hhtml⟩

/-- A heading and a span of code that spell the bracketed word, and two paragraphs that do. -/
def placedEvents : List Event :=
  [.enter (.heading .h1), .text "[toc]", .leave (.heading .h1),
    .enter .paragraph, .code "[toc]", .leave .paragraph,
    .enter .paragraph, .text "[", .text "Toc]", .leave .paragraph,
    .enter .paragraph, .text "[toc]", .leave .paragraph]

theorem renderDocument_html_placed :
    WellNested barsForShape placedEvents ∧ (∀ e ∈ placedEvents, e.isRawHtml = false) ∧
      imageless.emphasizer.KeepsText ∧
      ∃ rendered report enriched,
        imageless.renderDocument (ParsedPage.ofEvents placedEvents).document
            (ParsedPage.ofEvents placedEvents).toc = .ok rendered ∧
          imageless.enrich (ParsedPage.ofEvents placedEvents).document = (.ok report, enriched) ∧
          placeAt? enriched.tokens = some 6 ∧
          rendered.html = siblingsHtml (enriched.tokens.take 6) ++
            Toc.render imageless.tocMaxLevel (ParsedPage.ofEvents placedEvents).toc ++
              ("\n" ++ siblingsHtml (enriched.tokens.drop 9)) := by
  have hnested : WellNested barsForShape placedEvents := by decide
  have hraw : ∀ e ∈ placedEvents, e.isRawHtml = false := by decide
  have hkeeps : imageless.emphasizer.KeepsText := keepsText_bionic
  have hfound : placeAt? (ParsedPage.ofEvents placedEvents).document.tokens = some 6 := by
    decide +kernel
  have hsome : (imageless.renderDocument (ParsedPage.ofEvents placedEvents).document
      (ParsedPage.ofEvents placedEvents).toc).toOption.isSome = true := by decide +kernel
  cases hrendered : imageless.renderDocument (ParsedPage.ofEvents placedEvents).document
      (ParsedPage.ofEvents placedEvents).toc with
  | error e => simp [hrendered, Except.toOption] at hsome
  | ok rendered =>
    obtain ⟨report, enriched, henrich, hplace, hhtml⟩ :=
      renderDocument_html (p := imageless) hnested hraw hkeeps hrendered
    rw [hplace, hfound] at hhtml
    obtain ⟨word, -, -, hhtml⟩ := hhtml
    exact ⟨hnested, hraw, hkeeps, rendered, report, enriched, rfl, henrich,
      hplace.trans hfound, hhtml⟩

end Folio.Pipeline
