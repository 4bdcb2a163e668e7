import Folio.Code.WrapPoint
import Folio.Heading.Anchoring
import Folio.Proofs.Markdown.PageBlocks
import Folio.Proofs.Markdown.PageShape

/-!
# What the events of a page count up to

The markers of headings and paragraphs are put on a page one for each event that begins one, and
nothing else puts them there. A span of code is put there for each event of code, unless an image is
open: then the code is part of its alternative text. Both are counted event by event.
-/

namespace Folio.Markdown

open Token

/-! ## Beginnings of headings and paragraphs -/

def Event.opensText (counted : Kind → Bool) : Event → Bool
  | enter x => x.textKind?.any counted
  | _ => false

/-- Whether only the markers with which headings and paragraphs begin are counted. -/
structure CountsOpenings (counted : Kind → Bool) : Prop where
  inline : counted .inline = false
  block : counted .block = false
  headingClose (level : UInt8) : counted (.headingClose level) = false
  paragraphClose : counted .paragraphClose = false

section Openings

variable {counted : Kind → Bool} {e : Event} {t : Token} {s : PageState}

theorem CountsOpenings.adds (h : CountsOpenings counted) (he : e.opensText counted = false)
    (hadds : e.Adds t) : counted t.kind = false := by
  cases hadds with
  | textOpening hx => simpa [Event.opensText, hx, ofKind] using he
  | textClosing _ hclose =>
    obtain ⟨level, -, rfl⟩ | ⟨-, rfl⟩ := Blocks.textEnd?_cases hclose
    · exact h.headingClose level
    · exact h.paragraphClose
  | opening ht => rw [(Element.isMarker_of_mem (.inl ht)).1, h.block]
  | closing ht => rw [(Element.isMarker_of_mem (.inr ht)).1, h.block]
  | rule | code _ _ _ | html _ => exact h.block

theorem CountsOpenings.countP_flush (h : CountsOpenings counted) (s : PageState) :
    s.flush.tokens.countP (counted ·.kind) = s.tokens.countP (counted ·.kind) := by
  cases hb : s.inline with
  | none => rw [PageState.flush_tokens_of_none hb]
  | some b =>
    have hcontainer : counted b.token.kind = false := h.inline
    rw [PageState.flush_tokens_of_some hb, List.countP_append]
    simp [hcontainer]

theorem CountsOpenings.countP_step (h : CountsOpenings counted) (s : PageState) (e : Event) :
    (s.step e).tokens.countP (counted ·.kind) =
      s.tokens.countP (counted ·.kind) + if e.opensText counted then 1 else 0 := by
  have hnone : ∀ ts : List Token, (∀ t ∈ ts, counted t.kind = false) →
      ts.countP (counted ·.kind) = 0 := by
    intro ts hts
    exact List.countP_eq_zero.mpr fun t ht => by simp [hts t ht]
  cases he : e.opensText counted with
  | true =>
    cases e with
    | enter x =>
      obtain ⟨kind, hx, hkind⟩ : ∃ kind, x.textKind? = some kind ∧ counted kind = true := by
        simpa [Event.opensText, Option.any_eq_true] using he
      have hmarker : counted (ofKind kind).kind = true := hkind
      have htokens : (s.step (.enter x)).tokens = s.flush.tokens ++ [ofKind kind] := by
        rw [PageState.step_enter, PageState.enter_text hx]
        rfl
      rw [htokens, List.countP_append, h.countP_flush]
      simp [hmarker]
    | _ => simp [Event.opensText] at he
  | false =>
    have hadded := fun t => h.adds (t := t) he
    cases s.does_step e with
    | changes _ heq =>
      rw [heq]
      rfl
    | @ends ts _ hts htokens _ =>
      rw [htokens, List.countP_append, h.countP_flush, hnone ts]
      · rfl
      · intro t ht
        rcases hts t ht with hadds | rfl
        · exact hadded t hadds
        · exact h.inline
    | @adds ts _ hts htokens _ =>
      rw [htokens, List.countP_append, hnone ts fun t ht => hadded t (hts t ht)]
      rfl

theorem CountsOpenings.countP_foldl (h : CountsOpenings counted) (events : List Event)
    (s : PageState) :
    (events.foldl PageState.step s).tokens.countP (counted ·.kind) =
      s.tokens.countP (counted ·.kind) + events.countP (Event.opensText counted) := by
  induction events generalizing s with
  | nil => rfl
  | cons e rest ih =>
    rw [List.foldl_cons, ih, h.countP_step, List.countP_cons]
    omega

/-- On a page there are as many markers of the counted kinds as events that put them there. -/
theorem CountsOpenings.countP_ofEvents (h : CountsOpenings counted) (events : List Event) :
    (ParsedPage.ofEvents events).document.tokens.countP (counted ·.kind) =
      events.countP (Event.opensText counted) := by
  have hrun := h.countP_foldl events .initial
  rw [← h.countP_flush] at hrun
  exact hrun.trans (Nat.zero_add _)

end Openings

def Event.beginsHeading : Event → Bool
  | enter (.heading _) => true
  | _ => false

theorem countP_isOpening_ofEvents (events : List Event) :
    (ParsedPage.ofEvents events).document.tokens.countP Heading.isOpening =
      events.countP Event.beginsHeading := by
  have hcounts : CountsOpenings Kind.isHeadingOpen := ⟨rfl, rfl, fun _ => rfl, rfl⟩
  refine (hcounts.countP_ofEvents events).trans (List.countP_congr ?_)
  intro e _
  cases e with
  | enter x =>
    cases x <;> simp [Event.opensText, Event.beginsHeading, Element.textKind?, Kind.isHeadingOpen]
  | _ => rfl

theorem countP_paragraphOpen_ofEvents (events : List Event) :
    (ParsedPage.ofEvents events).document.tokens.countP (·.kind == .paragraphOpen) =
      events.count (.enter .paragraph) := by
  have hcounts : CountsOpenings (· == .paragraphOpen) := ⟨rfl, rfl, fun _ => rfl, rfl⟩
  refine (hcounts.countP_ofEvents events).trans (List.countP_congr ?_)
  intro e _
  cases e with
  | enter x => cases x <;> simp [Event.opensText, Element.textKind?]
  | _ => simp [Event.opensText]

/-! ## Spans of code -/

namespace Event

def isCode : Event → Bool
  | code _ => true
  | _ => false

def imagesAfter (images : Nat) : Event → Nat
  | enter (.image _ _) => images + 1
  | leave (.image _ _) => images - 1
  | _ => images

end Event

/-- The events of code outside of images, when so many images are open already. -/
def codeOutside (images : Nat) : List Event → Nat
  | [] => 0
  | e :: rest =>
    (if e.isCode ∧ images = 0 then 1 else 0) + codeOutside (e.imagesAfter images) rest

def codeCount (ts : List Token) : Nat :=
  (ts.flatMap (·.children)).countP Code.isSpan

theorem codeCount_append (ts us : List Token) :
    codeCount (ts ++ us) = codeCount ts + codeCount us := by
  simp [codeCount]

theorem codeCount_childless {ts : List Token} (h : ∀ t ∈ ts, t.children = []) :
    codeCount ts = 0 := by
  have hnil : ts.flatMap (·.children) = [] := by simpa using h
  simp [codeCount, hnil]

namespace InlineBuffer

variable (b : InlineBuffer)

theorem countP_addLeaf (leaf : String → Token) (content : String) :
    (b.addLeaf leaf content).children.countP Code.isSpan =
      b.children.countP Code.isSpan +
        if Code.isSpan (leaf content) ∧ b.openImages = 0 then 1 else 0 := by
  unfold addLeaf openImages
  cases b.image with
  | none => cases hleaf : Code.isSpan (leaf content) <;> simp [hleaf]
  | some i => simp

theorem countP_addHtml (html : String) :
    (b.addHtml html).children.countP Code.isSpan = b.children.countP Code.isSpan := by
  have hleaf : Code.isSpan (.inlineHtml html) = false := rfl
  unfold addHtml
  cases b.image with
  | none => simp [hleaf]
  | some i => rfl

theorem countP_leaveImage :
    b.leaveImage.children.countP Code.isSpan = b.children.countP Code.isSpan := by
  unfold leaveImage
  cases b.image with
  | none => rfl
  | some i =>
    cases hdepth : i.depth with
    | succ depth => simp [hdepth]
    | zero =>
      have hleaf : Code.isSpan (imageToken i) = false := by
        unfold imageToken
        split <;> rfl
      simp [hdepth, hleaf]

/-- An event of code adds a span of code if no image is open, and no other event does. -/
theorem countP_changes {e : Event} {change : InlineBuffer → InlineBuffer} (h : e.Changes change) :
    (change b).children.countP Code.isSpan =
      b.children.countP Code.isSpan + if e.isCode ∧ b.openImages = 0 then 1 else 0 := by
  cases h with
  | content hcontent =>
    cases hcontent with
    | text _ | softBreak | code _ => exact b.countP_addLeaf _ _
    | inlineHtml _ | html _ | taskMarker _ | hardBreak => exact b.countP_addHtml _
  | startHtml _ | endHtml _ => exact b.countP_addHtml _
  | enterImage _ _ =>
    unfold enterImage
    cases b.image <;> rfl
  | leaveImage _ _ => exact b.countP_leaveImage

end InlineBuffer

namespace PageState

theorem codeCount_flush (s : PageState) :
    codeCount s.flush.tokens =
      codeCount s.tokens + (s.inline.getD .empty).children.countP Code.isSpan := by
  cases hb : s.inline with
  | none =>
    rw [flush_tokens_of_none hb]
    rfl
  | some b =>
    rw [flush_tokens_of_some hb, codeCount_append]
    simp [codeCount, InlineBuffer.token, Token.inline]

theorem codeCount_step (s : PageState) (e : Event) :
    codeCount (s.step e).flush.tokens = codeCount s.flush.tokens +
      if e.isCode ∧ (s.inline.getD .empty).openImages = 0 then 1 else 0 := by
  have hchanges : ∀ {change}, e.Changes change → s.step e = s.collect change →
      codeCount (s.step e).flush.tokens = codeCount s.flush.tokens +
        if e.isCode ∧ (s.inline.getD .empty).openImages = 0 then 1 else 0 := by
    intro change hchange heq
    have hcount := (s.inline.getD .empty).countP_changes hchange
    rw [heq, codeCount_flush, codeCount_flush, Nat.add_assoc, ← hcount]
    rfl
  cases he : e.isCode with
  | true =>
    cases e with
    | code content =>
      exact hchanges (.content (.code content)) (step_eq_handle (by simp) (by simp) s)
    | _ => simp [Event.isCode] at he
  | false =>
    rw [he] at hchanges
    cases s.does_step e with
    | changes hchange heq => exact hchanges hchange heq
    | @ends ts _ hts htokens hinline =>
      have hempty : ((s.step e).inline.getD .empty).children = [] := by
        cases hb : (s.step e).inline with
        | none => rfl
        | some b => rw [hinline b hb]; rfl
      have hadded : ∀ t ∈ ts, t.children = [] := by
        intro t ht
        rcases hts t ht with hadds | rfl
        · exact hadds.children_eq
        · rfl
      rw [codeCount_flush, hempty, htokens, codeCount_append, codeCount_childless hadded]
      simp
    | @adds ts _ hts htokens hinline =>
      have hadded : ∀ t ∈ ts, t.children = [] := fun t ht => (hts t ht).children_eq
      rw [codeCount_flush, codeCount_flush, htokens, hinline, codeCount_append,
        codeCount_childless hadded]
      simp

end PageState

theorem imageCount_after {opened opened' : List Element} {e : Event}
    (h : openAfter barsForShape opened e = some opened') :
    imageCount opened' = e.imagesAfter (imageCount opened) := by
  obtain ⟨-, ⟨x, rfl, rfl⟩ | ⟨x, rfl, rfl⟩ | ⟨rfl, rfl⟩ | ⟨he, rfl⟩⟩ := openAfter_cases h
  · cases x <;> simp [imageCount, Event.imagesAfter, Element.isImage, List.countP_cons]
  · cases x <;> simp [imageCount, Event.imagesAfter, Element.isImage, List.countP_cons]
  · rfl
  · cases e <;> simp_all [Event.isContent, Event.imagesAfter]

theorem codeCount_foldl {opened opened' : List Element} {events : List Event} {s : PageState}
    (hopened : Stacked barsForShape opened)
    (hrun : events.foldlM (openAfter barsForShape) opened = some opened') (h : s.IsShaped opened) :
    codeCount (events.foldl PageState.step s).flush.tokens =
      codeCount s.flush.tokens + codeOutside (imageCount opened) events := by
  induction events generalizing opened s with
  | nil => rfl
  | cons e rest ih =>
    rw [List.foldlM_cons, Option.bind_eq_bind, Option.bind_eq_some_iff] at hrun
    obtain ⟨middle, hmiddle, hrest⟩ := hrun
    rw [List.foldl_cons, ih (hopened.openAfter hmiddle) hrest (isShaped_step hopened hmiddle h),
      PageState.codeCount_step, h.images, imageCount_after hmiddle, codeOutside, Nat.add_assoc]

/-- On a page there are as many spans of code as events of code outside of images. -/
theorem codeCount_ofEvents {events : List Event} (h : WellNested barsForShape events) :
    codeCount (ParsedPage.ofEvents events).document.tokens = codeOutside 0 events := by
  have hempty : Stacked barsForShape [] := trivial
  have hrun := codeCount_foldl hempty h PageState.isShaped_initial
  exact hrun.trans (Nat.zero_add _)

end Folio.Markdown
