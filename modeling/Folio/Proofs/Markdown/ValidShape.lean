import Folio.Proofs.Markdown.HeadingEntries
import Folio.Proofs.Markdown.PendingContent

/-!
# Valid pages

The document of properly nested events is valid: its markers match, only containers have children
and these are leaves, headings and paragraphs hold one container each, and the entries are those of
the headings. Nothing that was collected on the way is lost or put into a later block. The events are
those that a reader of Markdown gives: headings and paragraphs hold running text and no blocks, and
the head of a table stands in no cell.
-/

namespace Folio.Markdown

open PageState Token

/-- What holds of every page that is read from properly nested events. -/
structure ParsedPage.IsValid (page : ParsedPage) : Prop where
  /-- Every marker is ended by one of the same level or tag, and none ends what is not open. -/
  markers : page.document.tokens.foldlM openMarkers [] = some []
  nesting : ∀ t ∈ page.document.tokens, t.kind ≠ .block → t.nesting = t.kind.defaultNesting
  /-- Children are leaves, and only containers have any. -/
  flat : page.document.IsPage
  filled : Filled page.document.tokens
  entries : page.toc = headingEntries page.document.tokens

/-- Properly nested events give a valid page, if no block stands in a heading, a paragraph or an
element of running text, and no head of a table in a cell. Once all are read, no text is being
captured, and whatever was collected for a container at any time has found its place. -/
theorem isValid_ofEvents {events : List Event} (h : WellNested barsForShape events) :
    (ParsedPage.ofEvents events).IsValid ∧
      (events.foldl step .initial).capture = none ∧
      ∀ front rest b, events = front ++ rest → (front.foldl step .initial).inline = some b →
        (front.foldl step .initial).FindsPlace b rest := by
  have hblocks := blocks_ofEvents h
  have hvalid : (ParsedPage.ofEvents events).IsValid := {
    markers := hblocks.markers []
    nesting := hblocks.nesting
    flat := isPage_ofEvents events
    filled := hblocks.filled
    entries := (listed_of_blocks hblocks).headingEntries_eq.symm }
  have hshaped := h.induction (fun opened s => s.IsShaped opened) isShaped_initial
    fun _ => isShaped_step
  refine ⟨hvalid, ?_, ?_⟩
  · cases hcapture : (events.foldl step .initial).capture with
    | none => rfl
    | some c => simpa using hshaped.capture (by simp [hcapture])
  · rintro front rest b rfl hb
    exact findsPlace_ofEvents h hb

/-- A heading with an image in its text, a tight list whose item holds a task and a list of its own, a
table, and a block of HTML in front of raw HTML in running text. -/
def mixedEvents : List Event :=
  [.enter (.heading .h2), .text "See ", .enter (.image "a.png" ""), .enter .emphasis, .text "fig",
      .hardBreak, .leave .emphasis, .leave (.image "a.png" ""), .leave (.heading .h2),
    .enter (.list (some 3)), .enter .item, .taskMarker true, .text "outer",
      .enter (.list none), .enter .item, .text "inner", .leave .item, .leave (.list none),
      .leave .item, .leave (.list (some 3)),
    .enter .table, .enter .tableHead, .enter .tableCell, .code "x", .leave .tableCell,
      .leave .tableHead, .enter .tableRow, .enter .tableCell, .leave .tableCell, .leave .tableRow,
      .leave .table,
    .enter .htmlBlock, .html "<hr>\n", .leave .htmlBlock,
    .enter .paragraph, .inlineHtml "<b>", .text "end", .softBreak, .leave .paragraph, .rule]

theorem isValid_ofEvents_mixed :
    WellNested barsForShape mixedEvents ∧ (ParsedPage.ofEvents mixedEvents).IsValid ∧
      (mixedEvents.foldl step .initial).capture = none ∧
      ∀ front rest b, mixedEvents = front ++ rest → (front.foldl step .initial).inline = some b →
        (front.foldl step .initial).FindsPlace b rest := by
  have hnested : WellNested barsForShape mixedEvents := by decide
  exact ⟨hnested, isValid_ofEvents hnested⟩

-- A block in a heading, which no reader of Markdown gives: its text becomes that of no heading.
example :
    (ParsedPage.ofEvents [.enter (.heading .h1), .text "a", .rule, .leave (.heading .h1)]).toc =
      [⟨1, ""⟩] := by
  decide +kernel

end Folio.Markdown
