import Folio.Proofs.Document.Order
import Folio.Proofs.Markdown.PageSteps

/-!
# The shape of a parsed page

Whatever the events, a page is flat. Its top-level tokens are markers and finished blocks without
children, and inline containers. The children of a container are leaves, and an image among them has
a source. Every step of reading keeps this, for the tokens finished so far and for the container
that is still open.
-/

namespace Folio

/-- A leaf of running text, which has no children and, if it is an image, has a source. -/
structure Token.IsTextLeaf (t : Token) : Prop where
  isLeaf : t.kind.isLeaf = true
  children : t.children = []
  source : t.kind = .image → ∃ path, t.attr? "src" = some path

/-- A token at the top level of a page: a container of leaves, or a token without children that
belongs to no leaf kind. -/
structure Token.IsPageToken (t : Token) : Prop where
  notLeaf : t.kind.isLeaf = false
  leaves : ∀ c ∈ t.children, c.IsTextLeaf
  childless : t.kind ≠ .inline → t.children = []

/-- Whether a document is flat in the way of a parsed page. -/
def Document.IsPage (doc : Document) : Prop :=
  ∀ t ∈ doc.tokens, t.IsPageToken

namespace Token

theorem isTextLeaf_text (content : String) : (text content).IsTextLeaf :=
  ⟨rfl, rfl, fun h => by simp [text, ofKind] at h⟩

theorem isTextLeaf_inlineHtml (html : String) : (inlineHtml html).IsTextLeaf :=
  ⟨rfl, rfl, fun h => by simp [inlineHtml, ofKind] at h⟩

theorem isTextLeaf_codeInline (code : String) : (codeInline code).IsTextLeaf :=
  ⟨rfl, rfl, fun h => by simp [codeInline, ofKind] at h⟩

theorem isPageToken_of_childless {t : Token} (hkind : t.kind.isLeaf = false)
    (hchildren : t.children = []) : t.IsPageToken where
  notLeaf := hkind
  leaves := by simp [hchildren]
  childless := fun _ => hchildren

theorem isPageToken_inline (source : String) {children : List Token}
    (h : ∀ c ∈ children, c.IsTextLeaf) : (inline source children).IsPageToken where
  notLeaf := rfl
  leaves := h
  childless := fun hkind => absurd rfl hkind

theorem IsTextLeaf.inOrder_eq {t : Token} (h : t.IsTextLeaf) : t.inOrder = [t] := by
  rw [Token.inOrder_eq, h.children]
  rfl

end Token

theorem siblingsInOrder_of_leaves {ts : List Token} (h : ∀ t ∈ ts, t.IsTextLeaf) :
    siblingsInOrder ts = ts :=
  siblingsInOrder_of_childless fun t ht => (h t ht).children

theorem Document.IsPage.of_mem_inOrder {doc : Document} (h : doc.IsPage) {t : Token}
    (ht : t ∈ doc.inOrder) : t.IsPageToken ∨ t.IsTextLeaf := by
  obtain ⟨u, hu, ht⟩ := mem_siblingsInOrder_iff.mp ht
  rw [Token.inOrder_eq, siblingsInOrder_of_leaves (h u hu).leaves] at ht
  rcases List.mem_cons.mp ht with rfl | ht
  · exact .inl (h t hu)
  · exact .inr ((h u hu).leaves t ht)

namespace Markdown

open Token

/-! ## The open container -/

def InlineBuffer.HoldsLeaves (b : InlineBuffer) : Prop :=
  ∀ c ∈ b.children, c.IsTextLeaf

namespace InlineBuffer

variable {b : InlineBuffer}

theorem holdsLeaves_empty : empty.HoldsLeaves := by
  simp [HoldsLeaves, empty]

theorem isTextLeaf_imageToken (i : PendingImage) : (imageToken i).IsTextLeaf := by
  unfold imageToken
  by_cases htitle : i.title.isEmpty
  · rw [if_pos htitle]
    exact ⟨rfl, rfl, fun _ => ⟨i.source, rfl⟩⟩
  · rw [if_neg htitle]
    exact ⟨rfl, rfl, fun _ => ⟨i.source, rfl⟩⟩

theorem isTextLeaf_of_addsLeaf {e : Event} {t : Token} (h : e.AddsLeaf t) : t.IsTextLeaf := by
  cases h with
  | text _ | softBreak => exact isTextLeaf_text _
  | code _ => exact isTextLeaf_codeInline _
  | inlineHtml _ | html _ | hardBreak | taskMarker _ | startHtml _ | endHtml _ =>
    exact isTextLeaf_inlineHtml _
  | image _ _ i => exact isTextLeaf_imageToken i

theorem HoldsLeaves.changes {e : Event} {change : InlineBuffer → InlineBuffer}
    (h : b.HoldsLeaves) (hchange : e.Changes change) : (change b).HoldsLeaves := by
  intro c hc
  rcases hchange.mem_children hc with hc | hadds
  · exact h c hc
  · exact isTextLeaf_of_addsLeaf hadds

end InlineBuffer

/-! ## The page so far -/

theorem isPageToken_marker {t : Token} (h : t.kind = .block ∧ t.children = []) :
    t.IsPageToken :=
  isPageToken_of_childless (by rw [h.1]; rfl) h.2

theorem Element.isMarker_of_mem {x : Element} {head : Bool} {t : Token}
    (ht : t ∈ x.openings head ∨ t ∈ x.closings head) : t.kind = .block ∧ t.children = [] := by
  cases x with
  | list first =>
    rcases ht with ht | ht
    · rw [List.mem_singleton.mp ht]
      unfold PageState.listOpen
      split
      · exact ⟨rfl, rfl⟩
      · split <;> exact ⟨rfl, rfl⟩
    · rw [List.mem_singleton.mp ht]
      exact ⟨rfl, rfl⟩
  | tableHead =>
    simp only [Element.openings, Element.closings, List.mem_cons, List.not_mem_nil, or_false] at ht
    rcases ht with (rfl | rfl) | rfl | rfl <;> exact ⟨rfl, rfl⟩
  | blockQuote | item | table | tableRow | tableCell =>
    rcases ht with ht | ht <;> rw [List.mem_singleton.mp ht] <;> exact ⟨rfl, rfl⟩
  | _ => simp [Element.openings, Element.closings] at ht

theorem Event.Adds.isPageToken {e : Event} {t : Token} (h : e.Adds t) : t.IsPageToken := by
  cases h with
  | @textOpening x kind hx =>
    obtain ⟨close, hclose⟩ := PageState.exists_textEnd? hx
    obtain ⟨level, rfl, -⟩ | ⟨rfl, -⟩ := Blocks.textEnd?_cases hclose <;>
      exact isPageToken_of_childless rfl rfl
  | textClosing _ hclose =>
    obtain ⟨level, -, rfl⟩ | ⟨-, rfl⟩ := Blocks.textEnd?_cases hclose <;>
      exact isPageToken_of_childless rfl rfl
  | opening ht => exact isPageToken_marker (Element.isMarker_of_mem (.inl ht))
  | closing ht => exact isPageToken_marker (Element.isMarker_of_mem (.inr ht))
  | rule | code _ _ _ | html _ => exact isPageToken_marker ⟨rfl, rfl⟩

theorem Event.Adds.kind_ne {e : Event} {t : Token} (h : e.Adds t) : t.kind ≠ .inline := by
  cases h with
  | textOpening hx =>
    obtain ⟨close, hclose⟩ := PageState.exists_textEnd? hx
    obtain ⟨level, rfl, -⟩ | ⟨rfl, -⟩ := Blocks.textEnd?_cases hclose <;> exact nofun
  | textClosing _ hclose =>
    obtain ⟨level, -, rfl⟩ | ⟨-, rfl⟩ := Blocks.textEnd?_cases hclose <;> exact nofun
  | opening ht => simp [(Element.isMarker_of_mem (.inl ht)).1]
  | closing ht => simp [(Element.isMarker_of_mem (.inr ht)).1]
  | rule | code _ _ _ | html _ => exact nofun

theorem Event.Adds.children_eq {e : Event} {t : Token} (h : e.Adds t) : t.children = [] :=
  h.isPageToken.childless h.kind_ne

def PageState.IsFlat (s : PageState) : Prop :=
  s.Holds Token.IsPageToken InlineBuffer.HoldsLeaves

theorem PageState.IsFlat.step {s : PageState} (h : s.IsFlat) (e : Event) : (s.step e).IsFlat :=
  Holds.step h (fun _ hadds => hadds.isPageToken) (fun _ hchange _ hb => hb.changes hchange)
    InlineBuffer.holdsLeaves_empty (isPageToken_inline "" InlineBuffer.holdsLeaves_empty)
    fun _ b _ hb => isPageToken_inline b.source hb

/-- The document of any events is flat. -/
theorem isPage_ofEvents (events : List Event) : (ParsedPage.ofEvents events).document.IsPage := by
  have hrun : (events.foldl PageState.step .initial).IsFlat :=
    List.foldlRecOn events PageState.step PageState.holds_initial fun _ hs e _ => hs.step e
  exact hrun.flush fun b _ hb => isPageToken_inline b.source hb

end Markdown

end Folio
