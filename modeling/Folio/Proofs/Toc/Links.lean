import Folio.Proofs.Anchor.Section
import Folio.Proofs.Markdown.HeadingEntries

/-!
# Links of a table of contents

A table of contents links to the anchor of the label of an entry, and a heading is identified by the
first content behind it. The two are computed from the same text as long as the heading has any: its
container stands first behind it and holds the label. A heading without text takes its identifier
from whatever comes next, so that the link misses it.
-/

namespace Folio

open Token Heading Markdown

namespace Token

theorem IsTextLeaf.isOpening_eq {t : Token} (h : t.IsTextLeaf) : isOpening t = false := by
  have hleaf := h.isLeaf
  unfold isOpening
  cases hkind : t.kind <;> simp_all [Kind.isLeaf, Kind.isHeadingOpen]

end Token

namespace Heading

theorem behindHeadings_append_of_no_opening {ts : List Token} (rest : List Token)
    (h : ∀ t ∈ ts, isOpening t = false) :
    behindHeadings (ts ++ rest) = behindHeadings rest := by
  induction ts with
  | nil => rfl
  | cons t ts ih =>
    have ht := h t (by simp)
    simpa [behindHeadings, ht] using ih fun u hu => h u (by simp [hu])

theorem behindHeadings_inOrder_cons {t : Token} (ht : t.IsPageToken) (hopen : isOpening t = false)
    (rest : List Token) :
    behindHeadings (t.inOrder ++ rest) = behindHeadings rest := by
  apply behindHeadings_append_of_no_opening
  rw [Token.inOrder_eq, siblingsInOrder_of_leaves ht.leaves]
  intro u hu
  rcases List.mem_cons.mp hu with rfl | hu
  · exact hopen
  · exact (ht.leaves u hu).isOpening_eq

/-- Behind each heading of a page, its container comes first, with the label of the entry. -/
theorem forall₂_behindHeadings {ts : List Token} {entries : List TocEntry}
    (h : Listed ts entries) (hpage : ∀ t ∈ ts, t.IsPageToken) :
    List.Forall₂ (fun behind e => ∃ children rest, behind = inline e.label children :: rest)
      (behindHeadings (siblingsInOrder ts)) entries := by
  induction h with
  | nil => exact .nil
  | @other t ts entries ht _ ih =>
    have hrest := ih fun u hu => hpage u (by simp [hu])
    rw [siblingsInOrder, behindHeadings_inOrder_cons (hpage t (by simp)) ht]
    exact hrest
  | @heading ts entries level label children _ ih =>
    have hrest := ih fun u hu => hpage u (by simp [hu])
    have hcontainer := hpage (inline label children) (by simp)
    have horder : siblingsInOrder (ofKind (.headingOpen level) :: inline label children :: ts) =
        ofKind (.headingOpen level) ::
          ((inline label children).inOrder ++ siblingsInOrder ts) := rfl
    have hopen : isOpening (ofKind (.headingOpen level)) = true := rfl
    rw [horder, behindHeadings, if_pos hopen, behindHeadings_inOrder_cons hcontainer rfl]
    exact .cons ⟨_, _, rfl⟩ hrest

theorem firstContent_of_label {label : String} (hlabel : label ≠ "") (children rest : List Token) :
    firstContent (inline label children :: rest) = label := by
  have hcontent : (inline label children).content.isEmpty = false := by
    simpa [Token.inline] using hlabel
  rw [firstContent, hcontent]
  rfl

end Heading

namespace Toc

/-- The link of a label leads to the anchor of what stands behind a heading with the label exactly
if there is a label, or else nothing behind the heading has content. -/
theorem href_label_iff {label : String} {children rest behind : List Token}
    (hbehind : behind = inline label children :: rest) :
    (Anchor.ofSection label).href = "#" ++ (Anchor.ofSection (firstContent behind)).name ↔
      label ≠ "" ∨ ∀ t ∈ behind, t.content = "" := by
  rw [Anchor.href_eq_iff, ← firstContent_eq_empty_iff]
  by_cases hlabel : label = ""
  · subst hlabel
    rw [eq_comm, Anchor.ofSection_eq_ofSection_empty_iff]
    simp
  · rw [hbehind, firstContent_of_label hlabel]
    simp [hlabel]

/-- The links of a page to its headings, if no block stands in a heading, a paragraph, a cell or an
element of running text. There is one heading for each entry, and the link of an entry leads to its
heading exactly if the heading has plain text, or else nothing behind it has content. -/
theorem link_resolves_iff {events : List Event}
    (hnested : WellNested (barsBlocks Element.holdsText) events) :
    let page := ParsedPage.ofEvents events
    (headings (assignAnchors page.document).2).length = page.toc.length ∧
      ∀ (k : Nat) (entry : TocEntry), page.toc[k]? = some entry →
        ∃ (heading : Token) (behind : List Token) (id : String),
          (headings (assignAnchors page.document).2)[k]? = some heading ∧
            (behindHeadings page.document.inOrder)[k]? = some behind ∧
            heading.attr? "id" = some id ∧
            ((Anchor.ofSection entry.label).href = "#" ++ id ↔
              entry.label ≠ "" ∨ ∀ t ∈ behind, t.content = "") := by
  intro page
  have hlisted : List.Forall₂ (fun behind e => ∃ children rest, behind = inline e.label children :: rest)
      (behindHeadings page.document.inOrder) page.toc :=
    forall₂_behindHeadings (listed_ofEvents hnested) (isPage_ofEvents events)
  have hids := ids_assignAnchors page.document
  have hlength := congrArg List.length hids
  rw [List.length_map, List.length_map] at hlength
  refine ⟨hlength.trans hlisted.length_eq, ?_⟩
  intro k entry hentry
  obtain ⟨hk, rfl⟩ := List.getElem?_eq_some_iff.mp hentry
  have hkbehind : k < (behindHeadings page.document.inOrder).length := by
    rw [hlisted.length_eq]
    exact hk
  have hkheading : k < (headings (assignAnchors page.document).2).length := by
    rw [hlength]
    exact hkbehind
  obtain ⟨children, rest, hfirst⟩ := (List.forall₂_iff_get.mp hlisted).2 k hkbehind hk
  have hid := congrArg (·[k]?) hids
  simp only [List.getElem?_map, List.getElem?_eq_getElem hkheading,
    List.getElem?_eq_getElem hkbehind, Option.map_some, Option.some.injEq] at hid
  exact ⟨_, _, _, List.getElem?_eq_getElem hkheading, List.getElem?_eq_getElem hkbehind, hid,
    href_label_iff hfirst⟩

theorem link_resolves_of_text :
    WellNested (barsBlocks Element.holdsText)
        [.enter (.heading .h1), .text "Words", .leave (.heading .h1)] ∧
      ∃ (heading : Token) (id : String),
        (headings (assignAnchors (ParsedPage.ofEvents
            [.enter (.heading .h1), .text "Words", .leave (.heading .h1)]).document).2)[0]? =
          some heading ∧ heading.attr? "id" = some id ∧
        (Anchor.ofSection "Words").href = "#" ++ id := by
  have hnested : WellNested (barsBlocks Element.holdsText)
      [.enter (.heading .h1), .text "Words", .leave (.heading .h1)] := by decide
  obtain ⟨heading, behind, id, hheading, -, hid, hiff⟩ :=
    (link_resolves_iff hnested).2 0 ⟨1, "Words"⟩ (by decide +kernel)
  exact ⟨hnested, heading, id, hheading, hid, hiff.mpr (.inl (by decide))⟩

def emptyHeadingEvents : List Event :=
  [.enter (.heading .h1), .leave (.heading .h1), .enter .paragraph, .text "text", .leave .paragraph]

/-- The heading without text is identified by the paragraph, but its link is to the stem alone. -/
theorem link_misses_empty_heading :
    WellNested (barsBlocks Element.holdsText) emptyHeadingEvents ∧
      (ParsedPage.ofEvents emptyHeadingEvents).toc.map
        (fun entry => (Anchor.ofSection entry.label).href) = ["#section_"] ∧
      (headings (assignAnchors (ParsedPage.ofEvents emptyHeadingEvents).document).2).map
        (·.attr? "id") = [some "section_text"] := by
  decide +kernel

end Toc

end Folio
