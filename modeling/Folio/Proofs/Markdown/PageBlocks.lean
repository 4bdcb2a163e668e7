import Folio.Proofs.Markdown.PageSteps
import Folio.Proofs.Markdown.PageTags

/-!
# Reading blocks

Properly nested events give a page of blocks. While elements are open, the finished tokens are blocks
inside the markers of the open ones. An open paragraph or heading has its container, and images are
open in the container as they are in the events. Only where a block may begin or end is the container
finished, and there it holds no open image.
-/

namespace Folio.Markdown

open Token

/-- What a reader of Markdown does not give: a block within a paragraph, a heading or an element of
running text, and the head of a table in a cell. -/
def barsForShape (outer : Element) (e : Event) : Bool :=
  outer.textKind?.isSome && e.beginsBlock || barsForTags outer e

section Bars

variable {opened : List Element} {x : Element} {e : Event}

theorem any_isTextual (he : e.beginsBlock = true) (h : opened.any (barsForShape · e) = false) :
    opened.any Element.isTextual = false := by
  rw [List.any_eq_false] at h ⊢
  intro outer houter htextual
  apply h outer houter
  unfold barsForShape
  rcases Bool.or_eq_true_iff.mp htextual with hinline | htext
  · rw [barsForTags_of_isInline hinline he, Bool.or_true]
  · rw [htext, he]
    rfl

/-- Where no block may stand in a heading, a paragraph, a cell or an element of running text, more is
barred. -/
theorem barsBlocks_of_shape (h : barsForShape x e = true) :
    barsBlocks Element.holdsText x e = true := by
  rcases Bool.or_eq_true_iff.mp h with htext | htags
  · obtain ⟨hkind, he⟩ := Bool.and_eq_true_iff.mp htext
    have hholds : x.holdsText = true := by cases x <;> simp_all [Element.textKind?, Element.holdsText]
    rw [barsBlocks, hholds, he]
    rfl
  · unfold barsForTags at htags
    split at htags
    · rfl
    · obtain ⟨hinline, he⟩ := Bool.and_eq_true_iff.mp htags
      have hholds : x.holdsText = true := by cases x <;> simp_all [Element.isInline, Element.holdsText]
      rw [barsBlocks, hholds, he]
      rfl

theorem imageCount_of_blocks (h : opened.any Element.isTextual = false) : imageCount opened = 0 := by
  rw [imageCount, List.countP_eq_zero]
  intro x hx himage
  have htextual : x.isTextual = false := by simpa using List.any_eq_false.mp h x hx
  cases x <;> simp_all [Element.isImage, Element.isTextual, Element.isInline]

theorem tableCell_not_mem_of_shape (h : opened.any (barsForShape · (.enter .tableHead)) = false) :
    Element.tableCell ∉ opened := by
  intro hcell
  exact List.any_eq_false.mp h _ hcell rfl

theorem imageCount_cons_other (hx : x.isImage = false) (opened : List Element) :
    imageCount (x :: opened) = imageCount opened := by
  simp [imageCount, hx]

end Bars

/-! ## Blocks that are still open -/

/-- Tokens that are blocks inside the markers of the open elements, the innermost last. -/
inductive OpenBlocks (inTableHead : Bool) : List Element → List Token → List TocEntry → Prop
  | none {ts : List Token} {entries : List TocEntry} (h : Blocks ts entries) :
      OpenBlocks inTableHead [] ts entries
  | inline {x : Element} {opened : List Element} {ts : List Token} {entries : List TocEntry}
      (hx : x.isInline = true) (h : OpenBlocks inTableHead opened ts entries) :
      OpenBlocks inTableHead (x :: opened) ts entries
  | text {x : Element} {kind : Kind} {opened : List Element} {ts : List Token}
      {entries : List TocEntry} (hx : x.textKind? = some kind)
      (h : OpenBlocks inTableHead opened ts entries) :
      OpenBlocks inTableHead (x :: opened) (ts ++ [ofKind kind]) entries
  | block {x : Element} {opened : List Element} {ts us : List Token}
      {entries others : List TocEntry} (hx : x.isTextual = false)
      (h : OpenBlocks inTableHead opened ts entries) (hu : Blocks us others) :
      OpenBlocks inTableHead (x :: opened) (ts ++ x.openings inTableHead ++ us) (entries ++ others)

section OpenBlocks

variable {head : Bool} {opened : List Element} {ts us : List Token} {entries others : List TocEntry}

theorem OpenBlocks.append (h : OpenBlocks head opened ts entries)
    (htextual : opened.any Element.isTextual = false) (hu : Blocks us others) :
    OpenBlocks head opened (ts ++ us) (entries ++ others) := by
  cases h with
  | none h => exact .none (h.append hu)
  | inline hx h => simp [Element.isTextual, hx] at htextual
  | text hx h => simp [Element.isTextual, hx] at htextual
  | block hx h hinner =>
    simpa only [List.append_assoc] using OpenBlocks.block hx h (hinner.append hu)

theorem OpenBlocks.append_others (h : OpenBlocks head opened ts entries)
    (htextual : opened.any Element.isTextual = false) (hu : Blocks us []) :
    OpenBlocks head opened (ts ++ us) entries := by
  simpa using h.append htextual hu

theorem OpenBlocks.withHead (h : OpenBlocks head opened ts entries)
    (hcell : Element.tableCell ∉ opened) (head' : Bool) : OpenBlocks head' opened ts entries := by
  induction h with
  | none h => exact .none h
  | inline hx _ ih => exact .inline hx (ih (List.not_mem_of_not_mem_cons hcell))
  | text hx _ ih => exact .text hx (ih (List.not_mem_of_not_mem_cons hcell))
  | @block x _ _ _ _ _ hx _ hu ih =>
    have hsame : x.openings head = x.openings head' := by
      cases x <;> simp_all [Element.openings]
    rw [hsame]
    exact .block hx (ih (List.not_mem_of_not_mem_cons hcell)) hu

theorem OpenBlocks.of_inline {x : Element} (h : OpenBlocks head (x :: opened) ts entries)
    (hx : x.isInline = true) : OpenBlocks head opened ts entries := by
  cases h with
  | inline _ h => exact h
  | text htext h => cases x <;> simp_all [Element.isInline, Element.textKind?]
  | block htextual h hu => simp [Element.isTextual, hx] at htextual

theorem OpenBlocks.of_text {x : Element} {kind : Kind} (h : OpenBlocks head (x :: opened) ts entries)
    (hx : x.textKind? = some kind) :
    ∃ front, ts = front ++ [ofKind kind] ∧ OpenBlocks head opened front entries := by
  cases h with
  | inline hinline h => cases x <;> simp_all [Element.isInline, Element.textKind?]
  | @text _ kind' _ front _ htext h =>
    obtain rfl : kind = kind' := Option.some.inj (hx.symm.trans htext)
    exact ⟨front, rfl, h⟩
  | block htextual h hu => simp [Element.isTextual, hx] at htextual

theorem OpenBlocks.of_block {x : Element} (h : OpenBlocks head (x :: opened) ts entries)
    (hx : x.isTextual = false) :
    ∃ front inner outerEntries innerEntries, ts = front ++ x.openings head ++ inner ∧
      entries = outerEntries ++ innerEntries ∧ OpenBlocks head opened front outerEntries ∧
      Blocks inner innerEntries := by
  cases h with
  | inline hinline h => simp [Element.isTextual, hinline] at hx
  | text htext h => simp [Element.isTextual, htext] at hx
  | block _ h hu => exact ⟨_, _, _, _, rfl, rfl, h, hu⟩

theorem blocks_between {x : Element} (hx : x.isTextual = false) (head : Bool) (hu : Blocks us others) :
    Blocks (x.openings head ++ us ++ x.closings head) others := by
  cases x with
  | list first =>
    cases first with
    | none => exact hu.between "ul"
    | some first =>
      have hclose : (Element.list (some first)).closings head = [blockClose "ol"] := rfl
      rw [hclose]
      by_cases hone : first = 1
      · simpa [Element.openings, PageState.listOpen, hone] using hu.between "ol"
      · have hopen : (Element.list (some first)).openings head =
            [{ blockOpen "ol" with attrs := [("start", first.repr)] }] := by
          simp [Element.openings, PageState.listOpen, hone, pushAttr, blockOpen, ofKind]
        rw [hopen]
        exact hu.nested "ol" [("start", first.repr)]
  | tableHead =>
    simpa [Element.openings, Element.closings] using (hu.between "tr").between "thead"
  | blockQuote | item | table | tableRow | tableCell => exact hu.between _
  | codeBlock _ | htmlBlock => simpa [Element.openings, Element.closings] using hu
  | _ => simp [Element.isTextual, Element.isInline, Element.textKind?] at hx

end OpenBlocks

/-! ## Open images -/

namespace InlineBuffer

def openImages (b : InlineBuffer) : Nat :=
  b.image.elim 0 (·.depth + 1)

variable (b : InlineBuffer)

theorem openImages_addLeaf (leaf : String → Token) (content : String) :
    (b.addLeaf leaf content).openImages = b.openImages := by
  unfold addLeaf openImages
  cases b.image <;> simp

theorem openImages_addHtml (html : String) : (b.addHtml html).openImages = b.openImages := by
  unfold addHtml openImages
  cases hb : b.image <;> simp [hb]

theorem openImages_enterImage (source title : String) :
    (b.enterImage source title).openImages = b.openImages + 1 := by
  unfold enterImage openImages
  cases b.image <;> simp

theorem openImages_leaveImage : b.leaveImage.openImages = b.openImages - 1 := by
  unfold leaveImage openImages
  cases hb : b.image with
  | none => simp [hb]
  | some i => cases hdepth : i.depth <;> simp [hdepth]

theorem openImages_eq_zero_iff {b : InlineBuffer} : b.openImages = 0 ↔ b.image = none := by
  unfold openImages
  cases b.image <;> simp

end InlineBuffer

/-! ## Steps of reading -/

namespace PageState

variable {s : PageState} {x : Element}

/-- What holds of a page while elements are open: its tokens are blocks inside the markers of the
open elements, an open paragraph or heading has its container, the images that are open are counted,
and text is captured only for an open block. -/
structure IsShaped (opened : List Element) (s : PageState) : Prop where
  tokens : OpenBlocks s.inTableHead opened s.tokens s.toc
  text : opened.any (·.textKind?.isSome) = true → s.inline.isSome = true
  images : (s.inline.getD .empty).openImages = imageCount opened
  capture : s.capture.isSome = true → opened.any Element.isWhole = true

variable {opened opened' : List Element}

theorem isShaped_initial : initial.IsShaped [] where
  tokens := .none .nil
  text h := by simp at h
  images := rfl
  capture h := by simp [initial] at h

/-- Where blocks may stand, the open container is a block like any other. -/
theorem IsShaped.flush (h : s.IsShaped opened) (hblocks : opened.any Element.isTextual = false) :
    OpenBlocks s.inTableHead opened s.flush.tokens s.toc := by
  cases hb : s.inline with
  | none =>
    rw [flush_tokens_of_none hb]
    exact h.tokens
  | some b =>
    rw [flush_tokens_of_some hb]
    exact h.tokens.append_others hblocks (.container b.source b.children)

theorem any_text_of_blocks (h : opened.any Element.isTextual = false) :
    opened.any (·.textKind?.isSome) = false := by
  rw [List.any_eq_false] at h ⊢
  intro x hx htext
  exact h x hx (by simp [Element.isTextual, htext])

theorem isShaped_of_flush {s' : PageState} (htokens : OpenBlocks s'.inTableHead opened s'.tokens s'.toc)
    (hblocks : opened.any Element.isTextual = false) (hinline : s'.inline = none)
    (hcapture : s'.capture.isSome = true → opened.any Element.isWhole = true) :
    s'.IsShaped opened where
  tokens := htokens
  text htext := by simp [any_text_of_blocks hblocks] at htext
  images := by rw [hinline, imageCount_of_blocks hblocks]; rfl
  capture := hcapture

theorem IsShaped.collect {change : InlineBuffer → InlineBuffer} (h : s.IsShaped opened)
    (htokens : OpenBlocks s.inTableHead opened' s.tokens s.toc)
    (himages : ∀ b : InlineBuffer, b.openImages = imageCount opened →
      (change b).openImages = imageCount opened')
    (hwhole : opened.any Element.isWhole = true → opened'.any Element.isWhole = true) :
    (s.collect change).IsShaped opened' where
  tokens := htokens
  text _ := rfl
  images := himages _ h.images
  capture hcapture := hwhole (h.capture hcapture)

theorem isWhole_of_isInline (hx : x.isInline = true) : x.isWhole = false := by
  cases x <;> simp_all [Element.isInline, Element.isWhole]

theorem IsShaped.enter_inline (h : s.IsShaped opened) (hx : x.isInline = true) :
    (s.enter x).IsShaped (x :: opened) := by
  have htokens := OpenBlocks.inline hx h.tokens
  have hwhole : opened.any Element.isWhole = true → (x :: opened).any Element.isWhole = true := by
    simp +contextual
  cases x with
  | emphasis | strong | strikethrough | link _ _ =>
    exact h.collect htokens (fun b hb => (b.openImages_addHtml _).trans hb) hwhole
  | image source title =>
    refine h.collect htokens (fun b hb => ?_) hwhole
    have hcount : imageCount (.image source title :: opened) = imageCount opened + 1 :=
      List.countP_cons_of_pos rfl
    rw [b.openImages_enterImage, hb, hcount]
  | _ => simp [Element.isInline] at hx

theorem IsShaped.leave_inline (h : s.IsShaped (x :: opened)) (hx : x.isInline = true) :
    (s.leave x).IsShaped opened := by
  have htokens := h.tokens.of_inline hx
  have hwhole : (x :: opened).any Element.isWhole = true → opened.any Element.isWhole = true := by
    simp [isWhole_of_isInline hx]
  cases x with
  | emphasis | strong | strikethrough | link _ _ =>
    exact h.collect htokens (fun b hb => (b.openImages_addHtml _).trans hb) hwhole
  | image source title =>
    refine h.collect htokens (fun b hb => ?_) hwhole
    have hcount : imageCount (.image source title :: opened) = imageCount opened + 1 :=
      List.countP_cons_of_pos rfl
    rw [b.openImages_leaveImage, hb, hcount, Nat.add_sub_cancel]
  | _ => simp [Element.isInline] at hx

theorem IsShaped.enter_text {kind : Kind} (h : s.IsShaped opened)
    (hblocks : opened.any Element.isTextual = false) (hx : x.textKind? = some kind) :
    (s.enter x).IsShaped (x :: opened) := by
  have htext : x.isImage = false := by cases x <;> simp_all [Element.isImage, Element.textKind?]
  rw [PageState.enter_text hx]
  exact {
    tokens := .text hx (h.flush hblocks)
    text := fun _ => rfl
    images := by rw [imageCount_cons_other htext, imageCount_of_blocks hblocks]; rfl
    capture := fun hcapture => by simp [h.capture hcapture] }

theorem enter_toc (x : Element) (s : PageState) : (s.enter x).toc = s.toc := by
  cases x <;> rfl

theorem enter_head (hx : x ≠ .tableHead) (s : PageState) : (s.enter x).inTableHead = s.inTableHead := by
  cases x <;> first | rfl | simp at hx

theorem enter_capture (hx : x.isWhole = false) (s : PageState) : (s.enter x).capture = s.capture := by
  cases x <;> first | rfl | simp [Element.isWhole] at hx

theorem IsShaped.enter_block (h : s.IsShaped opened) (hx : x.isTextual = false)
    (hbars : opened.any (barsForShape · (.enter x)) = false) :
    (s.enter x).IsShaped (x :: opened) := by
  have hbegins : (Event.enter x).beginsBlock = true := by
    simp_all [Event.beginsBlock, Element.isTextual]
  have hblocks := any_isTextual hbegins hbars
  have hhead : OpenBlocks (s.enter x).inTableHead opened s.flush.tokens s.toc := by
    by_cases htable : x = .tableHead
    · subst htable
      exact (h.flush hblocks).withHead (tableCell_not_mem_of_shape hbars) true
    · rw [enter_head htable]
      exact h.flush hblocks
  have hopenings : x.openings (s.enter x).inTableHead = x.openings s.inTableHead := by
    cases x <;> rfl
  refine isShaped_of_flush ?_ (by simp [hx, hblocks]) (enter_block_inline hx s) ?_
  · rw [enter_block_tokens hx, enter_toc x, ← hopenings]
    simpa using OpenBlocks.block hx hhead .nil
  · cases hwhole : x.isWhole with
    | true => simp [hwhole]
    | false =>
      rw [enter_capture hwhole]
      intro hcapture
      simp [h.capture hcapture]

theorem IsShaped.leave_text {kind : Kind} (h : s.IsShaped (x :: opened))
    (hblocks : opened.any Element.isTextual = false) (hx : x.textKind? = some kind) :
    (s.leave x).IsShaped opened := by
  obtain ⟨b, hb⟩ : ∃ b, s.inline = some b := Option.isSome_iff_exists.mp (h.text (by simp [hx]))
  obtain ⟨close, hclose⟩ := exists_textEnd? hx
  obtain ⟨front, htokens, hfront⟩ := h.tokens.of_text hx
  obtain ⟨hleft, htoc, hinline⟩ := PageState.leave_text hx hclose hb
  have hhead : (s.leave x).inTableHead = s.inTableHead := by
    cases x <;> simp_all [Element.textKind?] <;> rfl
  have hcapture : (s.leave x).capture = s.capture := by
    cases x <;> simp_all [Element.textKind?] <;> rfl
  refine isShaped_of_flush ?_ hblocks hinline ?_
  · rw [hleft, htoc, hhead, htokens]
    have hlast := hfront.append hblocks (.text hclose b.source b.children)
    simpa [InlineBuffer.token] using hlast
  · rw [hcapture]
    intro hsome
    have hwhole : x.isWhole = false := by cases x <;> simp_all [Element.textKind?, Element.isWhole]
    simpa [hwhole] using h.capture hsome

theorem leave_block_toc (hx : x.isTextual = false) (hwhole : x.isWhole = false) (s : PageState) :
    (s.leave x).toc = s.toc ∧ (s.leave x).capture = s.capture := by
  cases x with
  | blockQuote | list _ | item | table | tableHead | tableRow | tableCell => exact ⟨rfl, rfl⟩
  | codeBlock _ | htmlBlock => simp [Element.isWhole] at hwhole
  | _ => simp [Element.isTextual, Element.isInline, Element.textKind?] at hx

theorem leave_head (hx : x ≠ .tableHead) (hwhole : x.isWhole = false) (s : PageState) :
    (s.leave x).inTableHead = s.inTableHead := by
  cases x with
  | tableHead => exact absurd rfl hx
  | codeBlock _ | htmlBlock => simp [Element.isWhole] at hwhole
  | _ => rfl

theorem IsShaped.leave_marked (h : s.IsShaped (x :: opened)) (hx : x.isTextual = false)
    (hwhole : x.isWhole = false) (hbars : opened.any (barsForShape · (.enter x)) = false)
    (hblocks : opened.any Element.isTextual = false) : (s.leave x).IsShaped opened := by
  obtain ⟨htoc, hcapture⟩ := leave_block_toc hx hwhole s
  have hinline : (s.leave x).inline = none :=
    leave_block_inline (Bool.or_eq_false_iff.mp hx).1 hwhole s
  obtain ⟨front, inner, outerEntries, innerEntries, htokens, hentries, hfront, hinner⟩ :=
    (h.flush (by simp [hx, hblocks])).of_block hx
  have hlast := hfront.append hblocks (blocks_between hx s.inTableHead hinner)
  have hleft : (s.leave x).tokens =
      front ++ (x.openings s.inTableHead ++ inner ++ x.closings s.inTableHead) := by
    rw [leave_block_tokens hx hwhole, htokens]
    simp
  refine isShaped_of_flush ?_ hblocks hinline ?_
  · rw [hleft, htoc, hentries]
    by_cases htable : x = .tableHead
    · subst htable
      exact hlast.withHead (tableCell_not_mem_of_shape hbars) false
    · rw [leave_head htable hwhole]
      exact hlast
  · rw [hcapture]
    intro hsome
    simpa [hwhole] using h.capture hsome

theorem IsShaped.leave_whole (h : s.IsShaped (x :: opened)) (hwhole : x.isWhole = true)
    (hblocks : opened.any Element.isTextual = false) : (s.leave x).IsShaped opened := by
  obtain ⟨ts, hadded, hleave⟩ := PageState.leave_whole hwhole s
  have hts : Blocks ts [] := by
    rcases hadded with rfl | ⟨tag, content, rfl, -⟩
    · exact .nil
    · exact .whole tag content
  have hplain : x.isTextual = false ∧ x.isImage = false ∧ ∀ head, x.openings head = [] := by
    cases x with
    | codeBlock _ | htmlBlock => exact ⟨rfl, rfl, fun _ => rfl⟩
    | _ => simp [Element.isWhole] at hwhole
  obtain ⟨hx, himage, hopenings⟩ := hplain
  obtain ⟨front, inner, outerEntries, innerEntries, htokens, hentries, hfront, hinner⟩ :=
    h.tokens.of_block hx
  have hlast := hfront.append hblocks (hinner.append_others hts)
  rw [hleave]
  refine ⟨?_, ?_, ?_, by simp⟩
  · simpa [htokens, hentries, hopenings] using hlast
  · intro htext
    simp [any_text_of_blocks hblocks] at htext
  · simpa [imageCount_cons_other himage] using h.images

theorem IsShaped.leave_block (h : s.IsShaped (x :: opened)) (hx : x.isInline = false)
    (hbars : opened.any (barsForShape · (.enter x)) = false) : (s.leave x).IsShaped opened := by
  have hblocks := any_isTextual (by simp [Event.beginsBlock, hx]) hbars
  cases hkind : x.textKind? with
  | some kind => exact h.leave_text hblocks hkind
  | none =>
    have htextual : x.isTextual = false := by simp [Element.isTextual, hx, hkind]
    cases hwhole : x.isWhole with
    | true => exact h.leave_whole hwhole hblocks
    | false => exact h.leave_marked htextual hwhole hbars hblocks

theorem IsShaped.enter_barred (h : s.IsShaped opened) (hx : x.isInline = false)
    (hbars : opened.any (barsForShape · (.enter x)) = false) :
    (s.enter x).IsShaped (x :: opened) := by
  cases hkind : x.textKind? with
  | some kind => exact h.enter_text (any_isTextual (by simp [Event.beginsBlock, hx]) hbars) hkind
  | none => exact h.enter_block (by simp [Element.isTextual, hx, hkind]) hbars

theorem CollectsBy.openImages {e : Event} {change : InlineBuffer → InlineBuffer}
    (h : CollectsBy e change) (b : InlineBuffer) : (change b).openImages = b.openImages := by
  cases h with
  | text _ | code _ | softBreak => exact b.openImages_addLeaf _ _
  | inlineHtml _ | html _ | taskMarker _ => exact b.openImages_addHtml _
  | hardBreak => exact b.openImages_addHtml "<br>"

end PageState

open PageState

theorem isShaped_step {opened opened' : List Element} {s : PageState} {e : Event}
    (hopened : Stacked barsForShape opened) (hstep : openAfter barsForShape opened e = some opened')
    (h : s.IsShaped opened) : (s.step e).IsShaped opened' := by
  obtain ⟨hbars, ⟨x, rfl, rfl⟩ | ⟨x, rfl, rfl⟩ | ⟨rfl, rfl⟩ | ⟨he, rfl⟩⟩ := openAfter_cases hstep
  · rw [step_enter]
    cases hinline : x.isInline with
    | true => exact h.enter_inline hinline
    | false => exact h.enter_barred hinline hbars
  · rw [step_leave]
    cases hinline : x.isInline with
    | true => exact h.leave_inline hinline
    | false => exact h.leave_block hinline hopened.1
  · rw [step_rule]
    have hblocks := any_isTextual rfl hbars
    have hrule := (h.flush hblocks).append_others hblocks (.whole "hr" "<hr>")
    exact isShaped_of_flush hrule hblocks rfl h.capture
  · rcases step_content he s with ⟨hcapture, c, hc⟩ | ⟨change, hchange, heq⟩
    · rw [hc]
      exact ⟨h.tokens, h.text, h.images, fun _ => h.capture hcapture⟩
    · rw [heq]
      exact h.collect h.tokens (fun b hb => (hchange.openImages b).trans hb) id

theorem PageState.IsShaped.image_eq_none {opened opened' : List Element} {s : PageState} {e : Event}
    {b : InlineBuffer} (h : s.IsShaped opened) (hopened : Stacked barsForShape opened)
    (hstep : openAfter barsForShape opened e = some opened') (he : e.endsContainer = true)
    (hb : s.inline = some b) : b.image = none := by
  have hcount : imageCount opened = 0 := by
    obtain ⟨hbars, ⟨x, rfl, rfl⟩ | ⟨x, rfl, rfl⟩ | ⟨rfl, rfl⟩ | ⟨hcontent, rfl⟩⟩ :=
      openAfter_cases hstep
    · exact imageCount_of_blocks (any_isTextual (e := .enter x) he hbars)
    · obtain ⟨hx, -⟩ : x.isInline = false ∧ x.isWhole = false := by
        simpa [Event.endsContainer] using he
      have hblocks := any_isTextual (by simp [Event.beginsBlock, hx]) hopened.1
      have himage : x.isImage = false := by cases x <;> simp_all [Element.isImage, Element.isInline]
      rw [imageCount_cons_other himage, imageCount_of_blocks hblocks]
    · exact imageCount_of_blocks (any_isTextual rfl hbars)
    · cases e <;> simp_all [Event.isContent, Event.endsContainer]
  have himages := h.images
  rw [hb, hcount] at himages
  exact InlineBuffer.openImages_eq_zero_iff.mp himages

/-- The page of properly nested events is made of blocks, and its entries are those of the headings. -/
theorem blocks_ofEvents {events : List Event} (h : WellNested barsForShape events) :
    Blocks (ParsedPage.ofEvents events).document.tokens (ParsedPage.ofEvents events).toc := by
  have hrun := h.induction (fun opened s => s.IsShaped opened) isShaped_initial
    fun _ => isShaped_step
  cases hrun.flush rfl with
  | none hblocks => exact hblocks

end Folio.Markdown
