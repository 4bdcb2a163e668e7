import Folio.Page.Builder
import Folio.Page.Language
import Folio.Page.Source
import Folio.Proofs.Page.Enriching
import Folio.Proofs.Toc.Depth

/-!
# Localized pages and rendered pages

A body that a site ships gets its table of contents when a reader asks for it, down to the usual
depth, since the body does not tell what depth its pipeline was built with. A pipeline that renders
the page itself goes down to its own depth. The two pages are the same unless the depths list
different headings of a body with a place for the table.
-/

namespace Folio.Pipeline

open Toc

variable {p : Pipeline} {source : String} {body : PageContent} {report : EnrichReport}

theorem renderSource_eq (h : p.sourceContent source = .ok (body, report)) :
    p.renderSource source = .ok ⟨body.htmlWithToc p.tocMaxLevel, body.toc, report⟩ := by
  unfold sourceContent at h
  simp only [renderSource, renderDocument, h]
  rfl

theorem htmlFor_eq {site : SiteContent} {l : Language} (h : site l = some body) :
    site.htmlFor l = some (body.htmlWithToc defaultMaxLevel) := by
  simp [SiteContent.htmlFor, SiteContent.contentFor, h]

/-- A body that is shipped in a language is shown to its readers as the page that the pipeline
renders exactly if there is no place for a table of contents in it, or the usual depth and that of
the pipeline list the same headings. -/
theorem htmlFor_eq_renderSource_iff (h : p.sourceContent source = .ok (body, report))
    {site : SiteContent} {l : Language} (hsite : site l = some body) :
    ∃ page html, p.renderSource source = .ok page ∧ site.htmlFor l = some html ∧
      (html = page.html ↔ findPlaceholder? body.html = none ∨
        ∀ e ∈ body.toc, isListed defaultMaxLevel e = isListed p.tocMaxLevel e) :=
  ⟨_, _, renderSource_eq h, htmlFor_eq hsite, inject_eq_iff⟩

/-- Settings without images whose tables of contents go one level deeper than usual. -/
def deepBuilder : PipelineBuilder :=
  (PipelineBuilder.new.withFigureEmbedding false).withTocMaxLevel 4

def deep : Pipeline where
  config := deepBuilder.config
  tocMaxLevel := 4
  resources := none
  emphasizer := Bionic.emphasizer

def shipping (body : PageContent) : SiteContent
  | .zh => some body
  | .en => some body
  | .jp => none

/-- A page with a heading that is listed at either depth. -/
def shallowSource : String := "[toc]\n\n### Near\n"

def shallowBody : PageContent :=
  ⟨"<p>[toc]</p>\n<h3 id=\"section_near\">Near</h3>\n", [⟨3, "Near"⟩]⟩

theorem htmlFor_eq_renderSource_shallow :
    (deepBuilder.build (.emptyAt [])).toOption = some deep ∧
      deep.sourceContent shallowSource = .ok (shallowBody, ⟨1, 0, 0, 0, 0, 1⟩) ∧
      shipping shallowBody .en = some shallowBody ∧ shipping shallowBody .zh = some shallowBody ∧
      ∃ page, deep.renderSource shallowSource = .ok page ∧
        (shipping shallowBody).htmlFor .en = some page.html ∧
        (shipping shallowBody).htmlFor .zh = some page.html := by
  have hcontent : deep.sourceContent shallowSource = .ok (shallowBody, ⟨1, 0, 0, 0, 0, 1⟩) := by
    decide +kernel
  have hlisted : ∀ e ∈ shallowBody.toc,
      isListed defaultMaxLevel e = isListed deep.tocMaxLevel e := by decide
  obtain ⟨page, html, hpage, hhtml, hiff⟩ :=
    htmlFor_eq_renderSource_iff hcontent (rfl : shipping shallowBody .en = some shallowBody)
  obtain ⟨page', html', hpage', hhtml', hiff'⟩ :=
    htmlFor_eq_renderSource_iff hcontent (rfl : shipping shallowBody .zh = some shallowBody)
  obtain rfl : page = page' := Except.ok.inj (hpage.symm.trans hpage')
  rw [hiff.mpr (.inr hlisted)] at hhtml
  rw [hiff'.mpr (.inr hlisted)] at hhtml'
  exact ⟨rfl, hcontent, rfl, rfl, page, hpage, hhtml, hhtml'⟩

/-- A page with a heading that only the deeper table lists. -/
def deepSource : String := "[toc]\n\n#### Deep\n"

def deepBody : PageContent :=
  ⟨"<p>[toc]</p>\n<h4 id=\"section_deep\">Deep</h4>\n", [⟨4, "Deep"⟩]⟩

/-- The reader is shown an empty table, although the page has one when it is rendered. -/
theorem htmlFor_ne_renderSource :
    (deepBuilder.build (.emptyAt [])).toOption = some deep ∧
      deep.sourceContent deepSource = .ok (deepBody, ⟨1, 0, 0, 0, 0, 1⟩) ∧
      (shipping deepBody).htmlFor .en = some "\n<h4 id=\"section_deep\">Deep</h4>\n" ∧
      (deep.renderSource deepSource).toOption.map (·.html) = some
        ("<ul class=\"toc-tree\"><ul class=\"toc-tree\"><ul class=\"toc-tree\">" ++
          "<ul class=\"toc-tree\"><li class=\"toc-level4-content\"><a class=\"toc-hyper-link\" " ++
          "href=\"#section_deep\" title=\"Deep\">Deep</a></li></ul></ul></ul></ul>\n" ++
          "<h4 id=\"section_deep\">Deep</h4>\n") := by
  refine ⟨rfl, ?_⟩
  decide +kernel

end Folio.Pipeline
