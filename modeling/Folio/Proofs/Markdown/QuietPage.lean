import Folio.Proofs.Markdown.PageBlocks
import Folio.Proofs.Toc.KeptPlaces

/-!
# The markup of a parsed page

Without raw HTML, every marker and leaf of a parsed page is written with known tags, and none but the
markers of paragraphs as one of a paragraph. The label of a container that holds nothing but text is
that text: an image still open may have text in the label only, but it becomes a leaf before the
container ends.
-/

namespace Folio

open Html Toc Markdown Token

/-! ## Paragraphs -/

theorem Paragraphed.append {ts us : List Token} (h : Paragraphed ts) (hu : Paragraphed us) :
    Paragraphed (ts ++ us) := by
  induction h with
  | nil => exact hu
  | other hopen hclose _ ih => exact .other hopen hclose ih
  | paragraph hopen hcontainer hclose _ ih => exact .paragraph hopen hcontainer hclose ih

theorem paragraphed_single {t : Token} (hopen : t.kind ≠ .paragraphOpen)
    (hclose : t.kind ≠ .paragraphClose) : Paragraphed [t] :=
  .other hopen hclose .nil

theorem Blocks.paragraphed {ts : List Token} {entries : List TocEntry} (h : Blocks ts entries) :
    Paragraphed ts := by
  induction h with
  | nil => exact .nil
  | append _ _ ih ihu => exact ih.append ihu
  | container source children => exact paragraphed_single nofun nofun
  | whole tag content => exact paragraphed_single nofun nofun
  | text hclose source children =>
    obtain ⟨level, rfl, rfl⟩ | ⟨rfl, rfl⟩ := textEnd?_cases hclose
    · exact .other nofun nofun (.other nofun nofun (paragraphed_single nofun nofun))
    · exact .paragraph rfl rfl rfl .nil
  | nested tag attrs _ ih =>
    exact .other nofun nofun (ih.append (paragraphed_single nofun nofun))

namespace Markdown

/-! ## Markup -/

theorem isMarkup_startHtml {x : Element} {html : String} (hx : x.startHtml? = some html) :
    IsMarkup html := by
  cases x with
  | emphasis =>
    obtain rfl : "<em>" = html := Option.some.inj hx
    exact isMarkup_bare (by decide) (by decide : "em" ∈ quietNames)
  | strong =>
    obtain rfl : "<strong>" = html := Option.some.inj hx
    exact isMarkup_bare (by decide) (by decide : "strong" ∈ quietNames)
  | strikethrough =>
    obtain rfl : "<del>" = html := Option.some.inj hx
    exact isMarkup_bare (by decide) (by decide : "del" ∈ quietNames)
  | link destination title =>
    rw [← Option.some.inj hx, PageState.linkOpen_eq]
    exact isMarkup_startTag (by decide) (PageState.knownAttrs_linkAttrs destination title)
  | _ => simp [Element.startHtml?] at hx

theorem isMarkup_endHtml {x : Element} {html : String} (hx : x.endHtml? = some html) :
    IsMarkup html := by
  cases x with
  | emphasis =>
    rw [← Option.some.inj hx]
    exact isMarkup_endTag (by decide : "em" ∈ quietNames)
  | strong =>
    rw [← Option.some.inj hx]
    exact isMarkup_endTag (by decide : "strong" ∈ quietNames)
  | strikethrough =>
    rw [← Option.some.inj hx]
    exact isMarkup_endTag (by decide : "del" ∈ quietNames)
  | link _ _ =>
    rw [← Option.some.inj hx]
    exact isMarkup_endTag (by decide : "a" ∈ quietNames)
  | _ => simp [Element.endHtml?] at hx

theorem isMarkup_taskBox (checked : Bool) : IsMarkup (PageState.taskBox checked) := by
  obtain ⟨attrs, hknown, hchars⟩ := PageState.taskBox_eq checked
  exact ⟨_, hknown, by simp [Tag.name], hchars⟩

/-! ## The open container -/

namespace InlineBuffer

/-- Whether the text that is collected is the label, as long as nothing else has been collected. -/
def IsLabelled (b : InlineBuffer) : Prop :=
  b.image = none → ∀ cs, plainText? b.children = some cs → b.source.toList = cs

def IsQuiet (b : InlineBuffer) : Prop :=
  ∀ c ∈ b.children, c.IsQuiet

variable {b : InlineBuffer}

theorem isLabelled_empty : empty.IsLabelled := by
  rintro - _ ⟨⟩
  rfl

theorem isLabelled_of_other {source : String} {image : Option PendingImage} {t : Token}
    (ts : List Token) (ht : t.kind ≠ .text) : IsLabelled ⟨source, ts ++ [t], image⟩ := by
  intro _ cs hcs
  have hnone : plainText? (ts ++ [t]) = some cs := hcs
  rw [plainText?_append_other ts ht] at hnone
  cases hnone

theorem IsLabelled.addText (h : b.IsLabelled) (content : String) : (b.addText content).IsLabelled := by
  unfold InlineBuffer.addText addLeaf
  cases hb : b.image with
  | some i => exact nofun
  | none =>
    intro _ cs hcs
    have htext : (plainText? b.children).map (· ++ content.toList) = some cs := by
      rw [← hcs, plainText?_append]
      cases plainText? b.children <;> simp [plainText?, Token.text, ofKind]
    obtain ⟨front, hfront, rfl⟩ := Option.map_eq_some_iff.mp htext
    rw [← h hb front hfront]
    exact String.toList_append

theorem isLabelled_addCode (b : InlineBuffer) (content : String) : (b.addCode content).IsLabelled := by
  unfold InlineBuffer.addCode addLeaf
  cases b.image with
  | some i => exact nofun
  | none => exact isLabelled_of_other b.children nofun

theorem isLabelled_withSource (b : InlineBuffer) (html source : String) :
    IsLabelled { b.addHtml html with source } := by
  unfold addHtml
  cases hb : b.image with
  | some i => exact fun hnone => absurd (hb.symm.trans hnone) nofun
  | none => exact isLabelled_of_other b.children nofun

theorem isLabelled_addHtml (b : InlineBuffer) (html : String) : (b.addHtml html).IsLabelled :=
  b.isLabelled_withSource html (b.addHtml html).source

theorem isLabelled_enterImage (b : InlineBuffer) (source title : String) :
    (b.enterImage source title).IsLabelled := by
  unfold enterImage
  cases b.image <;> exact nofun

theorem IsLabelled.leaveImage (h : b.IsLabelled) : b.leaveImage.IsLabelled := by
  unfold InlineBuffer.leaveImage
  cases hb : b.image with
  | none => simpa [hb] using h
  | some i =>
    cases hdepth : i.depth with
    | succ depth => simpa [hdepth] using nofun
    | zero =>
      have himage : (imageToken i).kind ≠ .text := by simp [(imageToken_known i).1]
      simpa [hdepth] using isLabelled_of_other b.children himage

theorem IsLabelled.changes {e : Event} {change : InlineBuffer → InlineBuffer} (h : b.IsLabelled)
    (hchange : e.Changes change) : (change b).IsLabelled := by
  cases hchange with
  | content hcontent =>
    cases hcontent with
    | text content => exact h.addText content
    | code content => exact b.isLabelled_addCode content
    | softBreak => exact h.addText "\n"
    | inlineHtml html | html html => exact b.isLabelled_addHtml html
    | taskMarker checked => exact b.isLabelled_addHtml _
    | hardBreak => exact b.isLabelled_withSource "<br>" _
  | startHtml _ | endHtml _ => exact b.isLabelled_addHtml _
  | enterImage source title => exact b.isLabelled_enterImage source title
  | leaveImage _ _ => exact h.leaveImage

theorem IsLabelled.token (h : b.IsLabelled) (hb : b.image = none) : b.token.IsLabelled :=
  fun _ => h hb

/-! ## Known tags in a container -/

theorem isQuiet_text (content : String) : (Token.text content).IsQuiet :=
  trivial

theorem isQuiet_codeInline (code : String) : (Token.codeInline code).IsQuiet := by
  simp [Token.IsQuiet, Token.codeInline, ofKind, KnownAttrs]

theorem isQuiet_imageToken (i : PendingImage) : (imageToken i).IsQuiet := by
  obtain ⟨hkind, hattrs⟩ := imageToken_known i
  unfold Token.IsQuiet
  rw [hkind]
  exact hattrs

theorem isQuiet_of_addsLeaf {e : Event} {t : Token} (h : e.AddsLeaf t)
    (hraw : e.isRawHtml = false) : t.IsQuiet := by
  cases h with
  | text _ | softBreak => exact isQuiet_text _
  | code _ => exact isQuiet_codeInline _
  | inlineHtml _ | html _ => simp [Event.isRawHtml] at hraw
  | hardBreak => exact isMarkup_bare PageState.break_eq (by decide)
  | taskMarker checked => exact isMarkup_taskBox checked
  | startHtml hx => exact isMarkup_startHtml hx
  | endHtml hx => exact isMarkup_endHtml hx
  | image _ _ i => exact isQuiet_imageToken i

theorem IsQuiet.changes {e : Event} {change : InlineBuffer → InlineBuffer} (h : b.IsQuiet)
    (hraw : e.isRawHtml = false) (hchange : e.Changes change) : (change b).IsQuiet := by
  intro c hc
  rcases hchange.mem_children hc with hc | hadds
  · exact h c hc
  · exact isQuiet_of_addsLeaf hadds hraw

end InlineBuffer

/-! ## Markers and blocks -/

theorem isQuiet_withAttrs {tag : String} {attrs : List (String × String)} (hname : tag ∈ quietNames)
    (hattrs : KnownAttrs attrs) : ({ blockOpen tag with attrs } : Token).IsQuiet :=
  ⟨hname, hattrs⟩

theorem isQuiet_blockOpen {tag : String} (hname : tag ∈ quietNames) : (blockOpen tag).IsQuiet :=
  isQuiet_withAttrs hname (nofun : KnownAttrs [])

theorem isQuiet_blockClose {tag : String} (hname : tag ∈ quietNames) : (blockClose tag).IsQuiet :=
  hname

theorem isQuiet_block {content : String} (tag : String) (hempty : content ≠ "")
    (hcontent : Quiet content.toList) : (block tag content).IsQuiet :=
  ⟨hempty, hcontent⟩

theorem isQuiet_listOpen (first : Option Nat) : (PageState.listOpen first).IsQuiet := by
  unfold PageState.listOpen
  split
  · exact isQuiet_blockOpen (by decide)
  · split
    · exact isQuiet_blockOpen (by decide)
    · rename_i first _
      have hattrs : KnownAttrs [("start", first.repr)] := by simp [KnownAttrs, attributeNames]
      exact isQuiet_withAttrs (by decide) hattrs

theorem isQuiet_openings {x : Element} {head : Bool} {t : Token} (ht : t ∈ x.openings head) :
    t.IsQuiet := by
  cases x with
  | list first => rw [List.mem_singleton.mp ht]; exact isQuiet_listOpen first
  | blockQuote | item | table | tableRow =>
    rw [List.mem_singleton.mp ht]
    exact isQuiet_blockOpen (by decide)
  | tableHead =>
    rcases List.mem_pair.mp ht with rfl | rfl <;> exact isQuiet_blockOpen (by decide)
  | tableCell =>
    rw [List.mem_singleton.mp ht]
    cases head <;> exact isQuiet_blockOpen (by decide)
  | _ => simp [Element.openings] at ht

theorem isQuiet_closings {x : Element} {head : Bool} {t : Token} (ht : t ∈ x.closings head) :
    t.IsQuiet := by
  cases x with
  | list first =>
    rw [List.mem_singleton.mp ht]
    cases first with
    | none => exact isQuiet_blockClose (by decide)
    | some _ => exact isQuiet_blockClose (by decide : "ol" ∈ quietNames)
  | blockQuote | item | table | tableRow =>
    rw [List.mem_singleton.mp ht]
    exact isQuiet_blockClose (by decide)
  | tableHead => rcases List.mem_pair.mp ht with rfl | rfl <;> exact isQuiet_blockClose (by decide)
  | tableCell =>
    rw [List.mem_singleton.mp ht]
    cases head <;> exact isQuiet_blockClose (by decide)
  | _ => simp [Element.closings] at ht

theorem isQuiet_textMarkers {x : Element} {kind close : Kind} (hx : x.textKind? = some kind)
    (hclose : kind.textEnd? = some close) :
    (ofKind kind).IsQuiet ∧ (ofKind close).IsQuiet := by
  cases x with
  | paragraph =>
    obtain rfl : .paragraphOpen = kind := Option.some.inj hx
    obtain rfl : .paragraphClose = close := Option.some.inj hclose
    exact ⟨rfl, trivial⟩
  | heading level =>
    obtain rfl : .headingOpen level.number = kind := Option.some.inj hx
    obtain rfl : .headingClose level.number = close := Option.some.inj hclose
    have hname : headingName level.number ∈ quietNames := by cases level <;> decide
    exact ⟨⟨hname, nofun⟩, hname⟩
  | _ => simp [Element.textKind?] at hx

theorem isQuiet_codeToken (language text : String) :
    (PageState.codeToken language text).IsQuiet := by
  have hattrs := PageState.knownAttrs_codeAttrs language
  have hpre : Quiet (startTag "pre" []).toList :=
    (isMarkup_bare rfl (by decide : "pre" ∈ quietNames)).quiet
  have hcode := (isMarkup_startTag (by decide : "code" ∈ quietNames) hattrs).quiet
  have hcodeEnd := (isMarkup_endTag (by decide : "code" ∈ quietNames)).quiet
  have hpreEnd := (isMarkup_endTag (by decide : "pre" ∈ quietNames)).quiet
  rw [PageState.codeToken_eq]
  refine isQuiet_block "pre" (by simp [startTag]) ?_
  simp only [String.toList_append]
  exact (((hpre.append hcode).append (quiet_escape text)).append hcodeEnd).append hpreEnd

theorem Event.Adds.isQuiet {e : Event} {t : Token} (h : e.Adds t) (hraw : e.isRawHtml = false) :
    t.IsQuiet := by
  cases h with
  | textOpening hx =>
    obtain ⟨close, hclose⟩ := PageState.exists_textEnd? hx
    exact (isQuiet_textMarkers hx hclose).1
  | textClosing hx hclose => exact (isQuiet_textMarkers hx hclose).2
  | opening ht => exact isQuiet_openings ht
  | closing ht => exact isQuiet_closings ht
  | rule =>
    have hrule : IsMarkup "<hr>" := isMarkup_bare PageState.rule_eq (by decide)
    exact isQuiet_block "hr" (by decide) hrule.quiet
  | code _ language text => exact isQuiet_codeToken language text
  | html text => simp [Event.isRawHtml] at hraw

/-! ## The page so far -/

def IsQuietBelow (t : Token) : Prop :=
  t.IsQuiet ∧ ∀ c ∈ t.children, c.IsQuiet

def PageState.IsQuiet (s : PageState) : Prop :=
  s.Holds IsQuietBelow InlineBuffer.IsQuiet

def PageState.IsLabelled (s : PageState) : Prop :=
  s.Holds Token.IsLabelled InlineBuffer.IsLabelled

theorem PageState.IsQuiet.step {s : PageState} {e : Event} (h : s.IsQuiet)
    (hraw : e.isRawHtml = false) : (s.step e).IsQuiet := by
  have hempty : InlineBuffer.empty.IsQuiet := by simp [InlineBuffer.IsQuiet, InlineBuffer.empty]
  refine Holds.step h ?_ (fun _ hchange _ hb => hb.changes hraw hchange) hempty ⟨trivial, hempty⟩
    fun _ _ _ hb => ⟨trivial, hb⟩
  intro t hadds
  refine ⟨hadds.isQuiet hraw, ?_⟩
  simp [hadds.children_eq]

theorem PageState.IsLabelled.step {opened opened' : List Element} {s : PageState} {e : Event}
    (h : s.IsLabelled) (hshape : s.IsShaped opened) (hopened : Stacked barsForShape opened)
    (hstep : openAfter barsForShape opened e = some opened') : (s.step e).IsLabelled := by
  have hadds : ∀ t, e.Adds t → t.IsLabelled := fun _ hadds hinline => absurd hinline hadds.kind_ne
  have hchanges : ∀ change, e.Changes change → ∀ b : InlineBuffer, b.IsLabelled →
      (change b).IsLabelled := fun _ hchange _ hb => hb.changes hchange
  refine Holds.step h hadds hchanges InlineBuffer.isLabelled_empty
    (InlineBuffer.isLabelled_empty.token rfl) ?_
  intro hends b hb hlabelled
  exact hlabelled.token (hshape.image_eq_none hopened hstep hends hb)

theorem isQuiet_ofEvents {events : List Event} (hraw : ∀ e ∈ events, e.isRawHtml = false) :
    ∀ t ∈ siblingsInOrder (ParsedPage.ofEvents events).document.tokens, t.IsQuiet := by
  have hrun : (events.foldl PageState.step .initial).IsQuiet :=
    List.foldlRecOn events PageState.step PageState.holds_initial fun _ hs e he =>
      hs.step (hraw e he)
  have htop := hrun.flush fun b _ hb => ⟨trivial, hb⟩
  intro t ht
  obtain ⟨u, hu, ht⟩ := mem_siblingsInOrder_iff.mp ht
  rw [Token.inOrder_eq, siblingsInOrder_of_leaves (isPage_ofEvents events u hu).leaves] at ht
  rcases List.mem_cons.mp ht with rfl | ht
  · exact (htop t hu).1
  · exact (htop u hu).2 t ht

theorem isLabelled_ofEvents {events : List Event} (h : WellNested barsForShape events) :
    ∀ t ∈ (ParsedPage.ofEvents events).document.tokens, t.IsLabelled := by
  -- The shape goes with the labels: a container that ends while an image is open would not be labelled.
  have hrun := h.induction (fun opened s => s.IsShaped opened ∧ s.IsLabelled)
    ⟨PageState.isShaped_initial, PageState.holds_initial⟩ fun _ hopened hstep hs =>
      ⟨isShaped_step hopened hstep hs.1, hs.2.step hs.1 hopened hstep⟩
  apply hrun.2.flush
  intro b hb hlabelled
  have himages := hrun.1.images
  rw [hb] at himages
  exact hlabelled.token (InlineBuffer.openImages_eq_zero_iff.mp himages)

/-- Properly nested events without raw HTML give a page that can be searched for its place. -/
theorem isQuietPage_ofEvents {events : List Event} (h : WellNested barsForShape events)
    (hraw : ∀ e ∈ events, e.isRawHtml = false) :
    IsQuietPage (ParsedPage.ofEvents events).document.tokens where
  page := isPage_ofEvents events
  quiet := isQuiet_ofEvents hraw
  paragraphs := (blocks_ofEvents h).paragraphed

end Markdown

end Folio
