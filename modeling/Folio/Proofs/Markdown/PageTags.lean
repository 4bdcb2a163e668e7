import Folio.Proofs.Html.Written
import Folio.Proofs.Markdown.NestedEvents

/-!
# The tags of a parsed page

A page that is read from properly nested events without raw HTML has matching tags. The open
elements of the tags follow the open elements of the events: the finished tokens have opened the
blocks, and the container that is still open the elements of running text on top of them. Within an
image no markup is written, so there the elements of running text are those around the outermost
image.
-/

namespace Folio.Markdown

open Html Token

/-! ## Open elements and their tags -/

/-- Raw HTML, which a page takes over as it is. -/
def Event.isRawHtml : Event → Bool
  | inlineHtml _ | html _ | enter .htmlBlock | leave .htmlBlock => true
  | _ => false

namespace Element

def isImage : Element → Bool
  | image _ _ => true
  | _ => false

def blockTags (inTableHead : Bool) : Element → List String
  | paragraph => ["p"]
  | heading level => [headingName level.number]
  | blockQuote => ["blockquote"]
  | list first => [PageState.listTag first]
  | item => ["li"]
  | table => ["table"]
  | tableHead => ["tr", "thead"]
  | tableRow => ["tr"]
  | tableCell => [if inTableHead then "th" else "td"]
  | _ => []

def inlineTag? : Element → Option String
  | emphasis => some "em"
  | strong => some "strong"
  | strikethrough => some "del"
  | link _ _ => some "a"
  | _ => none

end Element

/-- What would break the matching of tags: a block in an element of running text, and the head of a
table in a cell, which would no longer know whether it ends in a head. -/
def barsForTags : Element → Event → Bool
  | .tableCell, .enter .tableHead => true
  | outer, e => barsBlocks Element.isInline outer e

def openTags (inTableHead : Bool) (opened : List Element) : List String :=
  opened.flatMap (Element.blockTags inTableHead)

def imageCount (opened : List Element) : Nat :=
  opened.countP Element.isImage

def aroundImages : List Element → List Element
  | [] => []
  | x :: outer =>
    if imageCount outer = 0 then (if x.isImage then outer else x :: outer) else aroundImages outer

/-- The tags that the open elements of running text leave open, as far as they are written. -/
def inlineTags (opened : List Element) : List String :=
  (aroundImages opened).filterMap Element.inlineTag?

section OpenTags

variable {opened : List Element} {x : Element}

theorem openTags_cons_inline (h : x.isInline = true) (inTableHead : Bool) (opened : List Element) :
    openTags inTableHead (x :: opened) = openTags inTableHead opened := by
  cases x <;> simp_all [openTags, Element.blockTags, Element.isInline]

/-- Outside of cells it makes no difference whether the head of a table is open. -/
theorem openTags_head (h : Element.tableCell ∉ opened) (head head' : Bool) :
    openTags head opened = openTags head' opened := by
  induction opened with
  | nil => rfl
  | cons x outer ih =>
    simp only [List.mem_cons, not_or] at h
    have hx : x.blockTags head = x.blockTags head' := by
      cases x <;> simp_all [Element.blockTags]
    simpa [openTags, hx] using ih h.2

theorem aroundImages_of_none (h : imageCount opened = 0) : aroundImages opened = opened := by
  cases opened with
  | nil => rfl
  | cons x outer =>
    have hparts : imageCount outer = 0 ∧ x.isImage = false := by
      simpa [imageCount, List.countP_cons] using h
    simp [aroundImages, hparts]

theorem inlineTags_cons (hcount : imageCount opened = 0) (hx : x.isImage = false) :
    inlineTags (x :: opened) = x.inlineTag?.toList ++ inlineTags opened := by
  rw [inlineTags, inlineTags, aroundImages_of_none hcount, aroundImages, if_pos hcount, hx]
  cases htag : x.inlineTag? <;> simp [htag]

theorem inlineTags_cons_image (hcount : imageCount opened = 0) (hx : x.isImage = true) :
    inlineTags (x :: opened) = inlineTags opened := by
  rw [inlineTags, inlineTags, aroundImages_of_none hcount, aroundImages, if_pos hcount, hx]
  rfl

theorem inlineTags_cons_within (hcount : imageCount opened ≠ 0) :
    inlineTags (x :: opened) = inlineTags opened := by
  rw [inlineTags, inlineTags, aroundImages, if_neg hcount]

theorem barsForTags_of_isInline {outer : Element} {e : Event} (houter : outer.isInline = true)
    (he : e.beginsBlock = true) : barsForTags outer e = true := by
  unfold barsForTags
  split
  · rfl
  · simp [barsBlocks, houter, he]

theorem any_isInline {e : Event} (he : e.beginsBlock = true)
    (h : opened.any (barsForTags · e) = false) : opened.any Element.isInline = false := by
  rw [List.any_eq_false] at h ⊢
  intro outer houter hinline
  exact h outer houter (barsForTags_of_isInline hinline he)

theorem tableCell_not_mem (h : opened.any (barsForTags · (.enter .tableHead)) = false) :
    Element.tableCell ∉ opened := by
  intro hcell
  exact List.any_eq_false.mp h _ hcell rfl

theorem inlineTags_of_blocks (h : opened.any Element.isInline = false) :
    inlineTags opened = [] ∧ imageCount opened = 0 := by
  have hblocks : ∀ x ∈ opened, x.isInline = false := by
    simpa using h
  have hcount : imageCount opened = 0 := by
    rw [imageCount, List.countP_eq_zero]
    intro x hx
    have hblock := hblocks x hx
    cases x <;> simp_all [Element.isImage, Element.isInline]
  refine ⟨?_, hcount⟩
  rw [inlineTags, aroundImages_of_none hcount, List.filterMap_eq_nil_iff]
  intro x hx
  have hblock := hblocks x hx
  cases x <;> simp_all [Element.inlineTag?, Element.isInline]

end OpenTags

/-! ## The open container -/

namespace InlineBuffer

/-- What holds of a container that is collected on top of open tags: its children leave open the
tags of the open elements around images, and the pending image counts the images that are open. -/
structure Collects (base : List String) (opened : List Element) (b : InlineBuffer) : Prop where
  children : siblingsMove base (inlineTags opened ++ base) b.children
  images : (b.image.elim 0 fun i => i.depth + 1) = imageCount opened

variable {base : List String} {opened : List Element} {x : Element} {b : InlineBuffer}

theorem collects_empty (h : opened.any Element.isInline = false) :
    empty.Collects base opened := by
  obtain ⟨htags, hcount⟩ := inlineTags_of_blocks h
  exact ⟨by simp [htags, empty, siblingsMove], by simp [hcount, empty]⟩

theorem Collects.imageCount_eq_zero (h : b.Collects base opened) (hb : b.image = none) :
    imageCount opened = 0 := by
  have himages := h.images
  rw [hb] at himages
  exact himages.symm

theorem Collects.imageCount_ne_zero (h : b.Collects base opened) {i : PendingImage}
    (hb : b.image = some i) : imageCount opened ≠ 0 := by
  have himages := h.images
  rw [hb] at himages
  exact himages ▸ Nat.succ_ne_zero i.depth

/-- Between blocks, a container does not tell which of them are open. -/
theorem Collects.of_blocks {opened' : List Element} (h : b.Collects base opened)
    (hblocks : opened.any Element.isInline = false)
    (hblocks' : opened'.any Element.isInline = false) : b.Collects base opened' := by
  obtain ⟨htags, hcount⟩ := inlineTags_of_blocks hblocks
  obtain ⟨htags', hcount'⟩ := inlineTags_of_blocks hblocks'
  exact ⟨by simpa [htags, htags'] using h.children, by simpa [hcount, hcount'] using h.images⟩

theorem Collects.append {source : String} {image : Option PendingImage} {t : Token}
    {opened' : List Element} (h : b.Collects base opened)
    (ht : t.Moves (inlineTags opened ++ base) (inlineTags opened' ++ base))
    (himage : (image.elim 0 fun i => i.depth + 1) = imageCount opened') :
    Collects base opened' ⟨source, b.children ++ [t], image⟩ :=
  ⟨siblingsMove_append.mpr ⟨_, h.children, siblingsMove_singleton.mpr ht⟩, himage⟩

theorem Collects.addLeaf {leaf : String → Token} (h : b.Collects base opened)
    (hleaf : ∀ content tags, (leaf content).Moves tags tags) (content : String) :
    (b.addLeaf leaf content).Collects base opened := by
  unfold InlineBuffer.addLeaf
  cases hb : b.image with
  | some i => exact ⟨h.children, by simpa [hb] using h.images⟩
  | none => exact h.append (hleaf content _) (by simpa [hb] using h.images)

theorem Collects.addHtml (h : b.Collects base opened) {html : String}
    (hhtml : ∀ tags, Takes html tags tags) : (b.addHtml html).Collects base opened := by
  unfold InlineBuffer.addHtml
  cases hb : b.image with
  | some i => exact h
  | none => exact h.append ((moves_inlineHtml html).mpr (hhtml _)) (by simpa [hb] using h.images)

theorem imageCount_cons_of_tag (opened : List Element) {name : String}
    (htag : x.inlineTag? = some name) :
    x.isImage = false ∧ imageCount (x :: opened) = imageCount opened := by
  have hx : x.isImage = false := by
    cases x <;> simp_all [Element.inlineTag?, Element.isImage]
  exact ⟨hx, by simp [imageCount, hx]⟩

/-- The tag that begins an element is written unless the element is within an image. -/
theorem Collects.enterTag {html name : String} (h : b.Collects base opened)
    (htag : x.inlineTag? = some name) (hhtml : ∀ tags, Takes html tags (name :: tags)) :
    (b.addHtml html).Collects base (x :: opened) := by
  obtain ⟨hx, hcount⟩ := imageCount_cons_of_tag opened htag
  unfold InlineBuffer.addHtml
  cases hb : b.image with
  | some i =>
    have hwithin := inlineTags_cons_within (x := x) (h.imageCount_ne_zero hb)
    exact ⟨by simpa [hwithin] using h.children, by simpa [hcount] using h.images⟩
  | none =>
    have htags := inlineTags_cons (h.imageCount_eq_zero hb) hx
    rw [htag] at htags
    refine h.append ?_ (by simpa [hb, hcount] using h.images)
    rw [htags]
    exact (moves_inlineHtml html).mpr (hhtml _)

/-- The tag that ends an element is written exactly if the one that began it was. -/
theorem Collects.leaveTag {html name : String} (h : b.Collects base (x :: opened))
    (htag : x.inlineTag? = some name) (hhtml : ∀ tags, Takes html (name :: tags) tags) :
    (b.addHtml html).Collects base opened := by
  obtain ⟨hx, hcount⟩ := imageCount_cons_of_tag opened htag
  unfold InlineBuffer.addHtml
  cases hb : b.image with
  | some i =>
    have hwithin := h.imageCount_ne_zero hb
    rw [hcount] at hwithin
    exact ⟨by simpa [inlineTags_cons_within hwithin] using h.children,
      by simpa [hcount] using h.images⟩
  | none =>
    have houtside := h.imageCount_eq_zero hb
    rw [hcount] at houtside
    have htags := inlineTags_cons houtside hx
    rw [htag] at htags
    refine h.append ?_ (by simpa [hb, hcount] using h.images)
    rw [htags]
    exact (moves_inlineHtml html).mpr (hhtml _)

theorem Collects.enterImage {source title : String} (h : b.Collects base opened) :
    (b.enterImage source title).Collects base (.image source title :: opened) := by
  have hcount : imageCount (.image source title :: opened) = imageCount opened + 1 :=
    List.countP_cons_of_pos rfl
  unfold InlineBuffer.enterImage
  cases hb : b.image with
  | some i =>
    have himages := h.images
    rw [hb] at himages
    refine ⟨?_, by simpa [hcount] using himages⟩
    rw [inlineTags_cons_within (h.imageCount_ne_zero hb)]
    exact h.children
  | none =>
    have houtside := h.imageCount_eq_zero hb
    refine ⟨?_, by simp [hcount, houtside]⟩
    rw [inlineTags_cons_image houtside rfl]
    exact h.children

theorem imageToken_known (i : PendingImage) :
    (imageToken i).kind = .image ∧ KnownAttrs (imageToken i).attrs := by
  unfold imageToken
  by_cases htitle : i.title.isEmpty
  · rw [if_pos htitle]
    exact ⟨rfl, by simp [Token.image, KnownAttrs, attributeNames]⟩
  · rw [if_neg htitle]
    exact ⟨rfl, by simp [Token.image, pushAttr, KnownAttrs, attributeNames]⟩

theorem moves_imageToken (i : PendingImage) (tags : List String) :
    (imageToken i).Moves tags tags := by
  obtain ⟨hkind, hattrs⟩ := imageToken_known i
  generalize imageToken i = t at hkind hattrs
  cases t with
  | mk kind tag content attrs children nesting =>
    obtain rfl : kind = .image := hkind
    exact ⟨hattrs, rfl⟩

theorem Collects.leaveImage {source title : String}
    (h : b.Collects base (.image source title :: opened)) :
    b.leaveImage.Collects base opened := by
  have hcount : imageCount (.image source title :: opened) = imageCount opened + 1 :=
    List.countP_cons_of_pos rfl
  have himages := h.images
  rw [hcount] at himages
  unfold InlineBuffer.leaveImage
  cases hb : b.image with
  | none => simp [hb] at himages
  | some i =>
    rw [hb] at himages
    have hdepth : i.depth = imageCount opened := by simpa using himages
    cases hi : i.depth with
    | zero =>
      have houtside : imageCount opened = 0 := by rw [← hdepth, hi]
      have htags := inlineTags_cons_image (x := .image source title) houtside rfl
      simp only [hi]
      refine ⟨?_, by simp [houtside]⟩
      have hchildren := h.children
      rw [htags] at hchildren
      exact siblingsMove_append.mpr
        ⟨_, hchildren, siblingsMove_singleton.mpr (moves_imageToken i _)⟩
    | succ depth =>
      have hwithin : imageCount opened ≠ 0 := by omega
      have htags := inlineTags_cons_within (x := .image source title) hwithin
      have hchildren := h.children
      rw [htags] at hchildren
      simp only [hi]
      exact ⟨hchildren, by simp; omega⟩

end InlineBuffer

/-! ## Markup that the page is made of -/

theorem takes_bareStart {html name : String} (hhtml : html = startTag name [])
    (hname : name ∈ elementNames) (hvoid : name ∉ voidNames) (tags : List String) :
    Takes html tags (name :: tags) := by
  rw [hhtml]
  exact takes_startTag hname hvoid (by simp [KnownAttrs]) tags

theorem takes_bareEnd {html name : String} (hhtml : html = endTag name)
    (hname : name ∈ elementNames) (tags : List String) : Takes html (name :: tags) tags := by
  rw [hhtml]
  exact takes_endTag hname tags

namespace PageState

def linkAttrs (destination title : String) : List (String × String) :=
  ("href", destination) :: if title.isEmpty then [] else [("title", title)]

theorem linkOpen_eq (destination title : String) :
    linkOpen destination title = startTag "a" (linkAttrs destination title) := by
  rw [← String.toList_inj]
  by_cases htitle : title.isEmpty
  · simp [linkOpen, linkAttrs, startTag, attrsHtml, attrHtml, String.join_cons, htitle]
  · simp [linkOpen, linkAttrs, startTag, attrsHtml, attrHtml, String.join_cons, htitle]

theorem knownAttrs_linkAttrs (destination title : String) :
    KnownAttrs (linkAttrs destination title) := by
  unfold linkAttrs
  by_cases htitle : title.isEmpty <;> simp [htitle, KnownAttrs, attributeNames]

theorem takes_linkOpen (destination title : String) (tags : List String) :
    Takes (linkOpen destination title) tags ("a" :: tags) := by
  rw [linkOpen_eq]
  exact takes_startTag (by decide) (by decide) (knownAttrs_linkAttrs destination title) tags

theorem taskBox_eq (checked : Bool) :
    ∃ attrs, (Tag.opening "input" attrs).IsKnown ∧
      (taskBox checked).toList = (Tag.opening "input" attrs).chars := by
  cases checked with
  | true =>
    refine ⟨[("type", some "checkbox"), ("checked", none), ("disabled", none)], ?_, rfl⟩
    simp [Tag.IsKnown, elementNames, attributeNames, isDelimiter]
  | false =>
    refine ⟨[("type", some "checkbox"), ("disabled", none)], ?_, rfl⟩
    simp [Tag.IsKnown, elementNames, attributeNames, isDelimiter]

theorem break_eq : "<br>" = startTag "br" [] := by decide

theorem rule_eq : "<hr>" = startTag "hr" [] := by decide

def codeAttrs (language : String) : List (String × String) :=
  if language.isEmpty then [] else [("class", "language-" ++ language)]

theorem codeToken_eq (language text : String) :
    codeToken language text = .block "pre" (startTag "pre" [] ++ startTag "code" (codeAttrs language) ++
      escape text ++ endTag "code" ++ endTag "pre") := by
  have hescape : escape ("language-" ++ language) = "language-" ++ escape language := by
    rw [escape_append]
    rfl
  refine congrArg (Token.block "pre") ?_
  rw [← String.toList_inj]
  by_cases hlanguage : language.isEmpty
  · simp [startTag, endTag, attrsHtml, codeAttrs, hlanguage]
  · simp [startTag, endTag, attrsHtml, attrHtml, codeAttrs, hlanguage, String.join_cons, hescape]

theorem knownAttrs_codeAttrs (language : String) : KnownAttrs (codeAttrs language) := by
  unfold codeAttrs
  by_cases hlanguage : language.isEmpty <;> simp [hlanguage, KnownAttrs, attributeNames]

theorem moves_codeToken (language text : String) (tags : List String) :
    (codeToken language text).Moves tags tags := by
  have hpre : Takes (startTag "pre" []) tags ("pre" :: tags) :=
    takes_startTag (by decide) (by decide) (by simp [KnownAttrs]) tags
  have hcode : Takes (startTag "code" (codeAttrs language)) ("pre" :: tags)
      ("code" :: "pre" :: tags) :=
    takes_startTag (by decide) (by decide) (knownAttrs_codeAttrs language) _
  have hends : Takes (endTag "code" ++ endTag "pre") ("code" :: "pre" :: tags) tags :=
    (takes_endTag (by decide) _).append (takes_endTag (by decide) _)
  have hcontent := ((hpre.append hcode).append (takes_escape text _)).append hends
  rw [codeToken_eq]
  refine moves_block ?_ (by simpa [String.append_assoc] using hcontent)
  simp [startTag]

theorem listTag_known (first : Option Nat) :
    listTag first ∈ elementNames ∧ listTag first ∉ voidNames := by
  cases first with
  | none => decide
  | some first => exact (by decide : "ol" ∈ elementNames ∧ "ol" ∉ voidNames)

theorem moves_listOpen (first : Option Nat) (tags : List String) :
    (listOpen first).Moves tags (listTag first :: tags) := by
  obtain ⟨helement, hvoid⟩ := listTag_known first
  cases first with
  | none => exact moves_blockOpen helement hvoid
  | some first =>
    simp only [listOpen]
    by_cases hone : first = 1
    · rw [if_pos hone]
      exact moves_blockOpen helement hvoid
    · rw [if_neg hone]
      have hattrs : KnownAttrs ((blockOpen "ol").pushAttr "start" first.repr).attrs := by
        simp [pushAttr, blockOpen, ofKind, KnownAttrs, attributeNames]
      exact ⟨helement, hvoid, hattrs, rfl⟩

theorem headingName_known (level : HeadingLevel) :
    headingName level.number ∈ elementNames ∧ headingName level.number ∉ voidNames := by
  cases level <;> decide

/-! ## Steps of reading -/

/-- What holds of a page while elements are open: its tokens leave the tags of the open blocks open,
and the open container those of the open elements of running text. -/
structure LeavesOpen (opened : List Element) (s : PageState) : Prop where
  tokens : siblingsMove [] (openTags s.inTableHead opened) s.tokens
  buffer : (s.inline.getD .empty).Collects (openTags s.inTableHead opened) opened

variable {opened : List Element} {s : PageState} {x : Element}

theorem LeavesOpen.container (h : s.LeavesOpen opened) (hblocks : opened.any Element.isInline = false) :
    (s.inline.getD .empty).token.Moves (openTags s.inTableHead opened)
      (openTags s.inTableHead opened) := by
  have hchildren := h.buffer.children
  rw [(inlineTags_of_blocks hblocks).1] at hchildren
  exact (moves_inline _ _).mpr hchildren

theorem LeavesOpen.flush (h : s.LeavesOpen opened) (hblocks : opened.any Element.isInline = false) :
    siblingsMove [] (openTags s.inTableHead opened) s.flush.tokens := by
  have hcontainer := h.container hblocks
  cases hb : s.inline with
  | none => simpa [PageState.flush, push, hb] using h.tokens
  | some b =>
    rw [hb] at hcontainer
    have hlast := siblingsMove_append.mpr ⟨_, h.tokens, siblingsMove_singleton.mpr hcontainer⟩
    simpa [PageState.flush, push, hb] using hlast

theorem LeavesOpen.block {s' : PageState} {opened' : List Element} {ts : List Token}
    (h : s.LeavesOpen opened) (hblocks : opened.any Element.isInline = false)
    (hblocks' : opened'.any Element.isInline = false) (htokens : s'.tokens = s.flush.tokens ++ ts)
    (hinline : s'.inline.getD .empty = .empty)
    (hts : siblingsMove (openTags s.inTableHead opened) (openTags s'.inTableHead opened') ts) :
    s'.LeavesOpen opened' := by
  refine ⟨?_, ?_⟩
  · rw [htokens]
    exact siblingsMove_append.mpr ⟨_, h.flush hblocks, hts⟩
  · rw [hinline]
    exact InlineBuffer.collects_empty hblocks'

theorem LeavesOpen.collect {change : InlineBuffer → InlineBuffer} {opened' : List Element}
    (h : s.LeavesOpen opened)
    (htags : openTags s.inTableHead opened' = openTags s.inTableHead opened)
    (hchange : ∀ {base : List String} {b : InlineBuffer}, b.Collects base opened →
      (change b).Collects base opened') : (s.collect change).LeavesOpen opened' := by
  refine ⟨?_, ?_⟩
  · have htokens := h.tokens
    rw [← htags] at htokens
    exact htokens
  · have hbuffer := hchange h.buffer
    rw [← htags] at hbuffer
    exact hbuffer

theorem LeavesOpen.enter_inline (h : s.LeavesOpen opened) (hx : x.isInline = true) :
    (s.enter x).LeavesOpen (x :: opened) := by
  have htags := openTags_cons_inline hx s.inTableHead opened
  cases x with
  | emphasis | strong | strikethrough =>
    exact h.collect htags fun hb => hb.enterTag rfl
      (takes_bareStart (by decide) (by decide) (by decide))
  | link destination title =>
    exact h.collect htags fun hb => hb.enterTag rfl (takes_linkOpen destination title)
  | image destination title => exact h.collect htags fun hb => hb.enterImage
  | _ => simp [Element.isInline] at hx

theorem LeavesOpen.leave_inline (h : s.LeavesOpen (x :: opened)) (hx : x.isInline = true) :
    (s.leave x).LeavesOpen opened := by
  have htags := (openTags_cons_inline hx s.inTableHead opened).symm
  cases x with
  | emphasis | strong | strikethrough | link _ _ =>
    exact h.collect htags fun hb => hb.leaveTag rfl (takes_bareEnd (by decide) (by decide))
  | image destination title => exact h.collect htags fun hb => hb.leaveImage
  | _ => simp [Element.isInline] at hx

theorem openTags_cons (head : Bool) (x : Element) (opened : List Element) :
    openTags head (x :: opened) = x.blockTags head ++ openTags head opened := rfl

theorem LeavesOpen.open_marker {s' : PageState} {name : String} {t : Token} (h : s.LeavesOpen opened)
    (hblocks : (x :: opened).any Element.isInline = false)
    (hname : x.blockTags s'.inTableHead = [name]) (htokens : s'.tokens = s.flush.tokens ++ [t])
    (hinline : s'.inline.getD .empty = .empty) (hhead : s'.inTableHead = s.inTableHead)
    (ht : ∀ tags, t.Moves tags (name :: tags)) : s'.LeavesOpen (x :: opened) := by
  have houter : opened.any Element.isInline = false := by
    rw [List.any_cons, Bool.or_eq_false_iff] at hblocks
    exact hblocks.2
  refine h.block houter hblocks htokens hinline ?_
  rw [openTags_cons, hname, hhead]
  exact siblingsMove_singleton.mpr (ht _)

theorem LeavesOpen.close_marker {s' : PageState} {name : String} {t : Token}
    (h : s.LeavesOpen (x :: opened)) (hblocks : (x :: opened).any Element.isInline = false)
    (hname : x.blockTags s.inTableHead = [name]) (htokens : s'.tokens = s.flush.tokens ++ [t])
    (hinline : s'.inline.getD .empty = .empty) (hhead : s'.inTableHead = s.inTableHead)
    (ht : ∀ tags, t.Moves (name :: tags) tags) : s'.LeavesOpen opened := by
  have houter : opened.any Element.isInline = false := by
    rw [List.any_cons, Bool.or_eq_false_iff] at hblocks
    exact hblocks.2
  refine h.block hblocks houter htokens hinline ?_
  rw [openTags_cons, hname, hhead]
  exact siblingsMove_singleton.mpr (ht _)

/-- Markers that open a block leave its tags open. -/
theorem LeavesOpen.enter_block (h : s.LeavesOpen opened) (hx : x.isInline = false)
    (hraw : (Event.enter x).isRawHtml = false)
    (hbars : opened.any (barsForTags · (.enter x)) = false) :
    (s.enter x).LeavesOpen (x :: opened) := by
  have hblocks := any_isInline (by simp [Event.beginsBlock, hx]) hbars
  have hblocks' : (x :: opened).any Element.isInline = false := by simp [hx, hblocks]
  have hplain : ∀ {name : String}, name ∈ elementNames → name ∉ voidNames →
      ∀ tags, (blockOpen name).Moves tags (name :: tags) :=
    fun helement hvoid tags => moves_blockOpen helement hvoid
  cases x with
  | paragraph =>
    have hopen : ∀ tags, (ofKind .paragraphOpen).Moves tags ("p" :: tags) :=
      fun tags => ⟨by decide, by decide, by simp [KnownAttrs], rfl⟩
    exact h.open_marker hblocks' rfl rfl rfl rfl hopen
  | heading level =>
    obtain ⟨helement, hvoid⟩ := headingName_known level
    have hopen : ∀ tags, (ofKind (.headingOpen level.number)).Moves tags
        (headingName level.number :: tags) :=
      fun tags => ⟨helement, hvoid, by simp [KnownAttrs], rfl⟩
    exact h.open_marker hblocks' rfl rfl rfl rfl hopen
  | list first => exact h.open_marker hblocks' rfl rfl rfl rfl (moves_listOpen first)
  | blockQuote | item | table | tableRow =>
    exact h.open_marker hblocks' rfl rfl rfl rfl (hplain (by decide) (by decide))
  | tableCell =>
    have hcell : s.cellTag ∈ elementNames ∧ s.cellTag ∉ voidNames := by
      unfold cellTag
      cases s.inTableHead <;> decide
    exact h.open_marker hblocks' rfl rfl rfl rfl (hplain hcell.1 hcell.2)
  | tableHead =>
    -- The two markers stand on tags that the flag of the head does not change, as no cell is open.
    have htokens : (s.enter .tableHead).tokens =
        s.flush.tokens ++ [blockOpen "thead", blockOpen "tr"] := rfl
    have hhead : openTags true opened = openTags s.inTableHead opened :=
      openTags_head (tableCell_not_mem hbars) _ _
    have hthead : (blockOpen "thead").Moves (openTags true opened)
        ("thead" :: openTags true opened) := hplain (by decide) (by decide) _
    have htr : (blockOpen "tr").Moves ("thead" :: openTags true opened)
        ("tr" :: "thead" :: openTags true opened) := hplain (by decide) (by decide) _
    refine h.block hblocks hblocks' htokens rfl ?_
    rw [← hhead]
    exact ⟨_, hthead, siblingsMove_singleton.mpr htr⟩
  | codeBlock info =>
    have htokens : (s.enter (.codeBlock info)).tokens = s.flush.tokens ++ [] := by simp [enter]
    exact h.block hblocks hblocks' htokens rfl rfl
  | htmlBlock => simp [Event.isRawHtml] at hraw
  | _ => simp [Element.isInline] at hx

/-- Markers that end a block close its tags. -/
theorem LeavesOpen.leave_block (h : s.LeavesOpen (x :: opened)) (hx : x.isInline = false)
    (hraw : (Event.leave x).isRawHtml = false)
    (hbars : opened.any (barsForTags · (.enter x)) = false) :
    (s.leave x).LeavesOpen opened := by
  have hblocks' := any_isInline (by simp [Event.beginsBlock, hx]) hbars
  have hblocks : (x :: opened).any Element.isInline = false := by simp [hx, hblocks']
  have hplain : ∀ {name : String}, name ∈ elementNames →
      ∀ tags, (blockClose name).Moves (name :: tags) tags :=
    fun helement tags => moves_blockClose helement
  cases x with
  | paragraph =>
    have hclose : ∀ tags, (ofKind .paragraphClose).Moves ("p" :: tags) tags :=
      fun tags => ⟨by decide, rfl⟩
    exact h.close_marker hblocks rfl rfl rfl rfl hclose
  | heading level =>
    -- A heading ends with a container of its own even if none is open, so this is no plain block step.
    have hclose : (ofKind (.headingClose level.number)).Moves
        (openTags s.inTableHead (.heading level :: opened)) (openTags s.inTableHead opened) :=
      ⟨(headingName_known level).1, rfl⟩
    have hcontainer := siblingsMove_append.mpr
      ⟨_, h.tokens, siblingsMove_singleton.mpr (h.container hblocks)⟩
    have hlast := siblingsMove_append.mpr ⟨_, hcontainer, siblingsMove_singleton.mpr hclose⟩
    rw [List.append_assoc] at hlast
    exact ⟨hlast, InlineBuffer.collects_empty hblocks'⟩
  | list first => exact h.close_marker hblocks rfl rfl rfl rfl (hplain (listTag_known first).1)
  | blockQuote | item | table | tableRow =>
    exact h.close_marker hblocks rfl rfl rfl rfl (hplain (by decide))
  | tableCell =>
    have hcell : s.cellTag ∈ elementNames := by
      unfold cellTag
      cases s.inTableHead <;> decide
    exact h.close_marker hblocks rfl rfl rfl rfl (hplain hcell)
  | tableHead =>
    have htokens : (s.leave .tableHead).tokens =
        s.flush.tokens ++ [blockClose "tr", blockClose "thead"] := rfl
    have hhead : openTags false opened = openTags s.inTableHead opened :=
      openTags_head (tableCell_not_mem hbars) _ _
    have htr : (blockClose "tr").Moves (openTags s.inTableHead (.tableHead :: opened))
        ("thead" :: openTags s.inTableHead opened) := hplain (by decide) _
    have hthead : (blockClose "thead").Moves ("thead" :: openTags s.inTableHead opened)
        (openTags s.inTableHead opened) := hplain (by decide) _
    have hmarkers : siblingsMove (openTags s.inTableHead (.tableHead :: opened))
        (openTags false opened) [blockClose "tr", blockClose "thead"] := by
      rw [hhead]
      exact ⟨_, htr, siblingsMove_singleton.mpr hthead⟩
    exact h.block hblocks hblocks' htokens rfl hmarkers
  | codeBlock info =>
    have hbuffer := h.buffer.of_blocks hblocks hblocks'
    simp only [leave]
    split
    · rename_i language text _
      have hlast := siblingsMove_append.mpr
        ⟨_, h.tokens, siblingsMove_singleton.mpr (moves_codeToken language text _)⟩
      exact ⟨hlast, hbuffer⟩
    · exact ⟨h.tokens, hbuffer⟩
  | htmlBlock => simp [Event.isRawHtml] at hraw
  | _ => simp [Element.isInline] at hx

end PageState

open PageState

-- The head of a table within a cell, which no reader of Markdown gives: the outer cell ends as one of
-- the body.
example :
    (ParsedPage.ofEvents
      [.enter .tableHead, .enter .tableCell, .enter .tableHead, .leave .tableHead, .leave .tableCell,
        .leave .tableHead]).document.html =
      "<thead>\n<tr>\n<th>\n<thead>\n<tr>\n</tr>\n</thead>\n</td>\n</tr>\n</thead>\n" := by
  decide +kernel

end Folio.Markdown
