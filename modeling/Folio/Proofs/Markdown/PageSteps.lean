import Folio.Proofs.Markdown.Blocks
import Folio.Proofs.Markdown.NestedEvents

/-!
# What one event does to a page

An event of running text changes the open container. Any other event ends it and puts markers behind
it, apart from the end of a block of code or HTML, which adds the finished block. What holds of all
markers and blocks that events add, and is kept by all changes of a container, holds of the page.
-/

namespace Folio.Markdown

open Token

namespace Element

def textKind? : Element → Option Kind
  | paragraph => some .paragraphOpen
  | heading level => some (.headingOpen level.number)
  | _ => none

/-- The markers with which any other block begins, in the head of a table or not. -/
def openings (inTableHead : Bool) : Element → List Token
  | blockQuote => [blockOpen "blockquote"]
  | list first => [PageState.listOpen first]
  | item => [blockOpen "li"]
  | table => [blockOpen "table"]
  | tableHead => [blockOpen "thead", blockOpen "tr"]
  | tableRow => [blockOpen "tr"]
  | tableCell => [blockOpen (if inTableHead then "th" else "td")]
  | _ => []

def closings (inTableHead : Bool) : Element → List Token
  | blockQuote => [blockClose "blockquote"]
  | list first => [blockClose (PageState.listTag first)]
  | item => [blockClose "li"]
  | table => [blockClose "table"]
  | tableHead => [blockClose "tr", blockClose "thead"]
  | tableRow => [blockClose "tr"]
  | tableCell => [blockClose (if inTableHead then "th" else "td")]
  | _ => []

/-- The blocks that become a single token, whose text is captured. -/
def isWhole : Element → Bool
  | codeBlock _ | htmlBlock => true
  | _ => false

def isTextual (x : Element) : Bool :=
  x.isInline || x.textKind?.isSome

def startHtml? : Element → Option String
  | emphasis => some "<em>"
  | strong => some "<strong>"
  | strikethrough => some "<del>"
  | link destination title => some (PageState.linkOpen destination title)
  | _ => none

def endHtml? : Element → Option String
  | emphasis => some "</em>"
  | strong => some "</strong>"
  | strikethrough => some "</del>"
  | link _ _ => some "</a>"
  | _ => none

end Element

namespace Event

/-- The events with which the open container ends: a block begins, or one ends that is not a single
token. -/
def endsContainer : Event → Bool
  | enter x => !x.isInline
  | leave x => !(x.isInline || x.isWhole)
  | rule => true
  | _ => false

inductive Changes : Event → (InlineBuffer → InlineBuffer) → Prop
  | content {e : Event} {change : InlineBuffer → InlineBuffer} (h : PageState.CollectsBy e change) :
      Changes e change
  | startHtml {x : Element} {html : String} (hx : x.startHtml? = some html) :
      Changes (enter x) (.addHtml html)
  | endHtml {x : Element} {html : String} (hx : x.endHtml? = some html) :
      Changes (leave x) (.addHtml html)
  | enterImage (source title : String) :
      Changes (enter (.image source title)) (.enterImage source title)
  | leaveImage (source title : String) : Changes (leave (.image source title)) .leaveImage

theorem Changes.endsContainer_eq {e : Event} {change : InlineBuffer → InlineBuffer}
    (h : e.Changes change) : e.endsContainer = false := by
  cases h with
  | content hcontent => cases hcontent <;> rfl
  | @startHtml x _ hx => cases x <;> simp_all [Element.startHtml?, endsContainer, Element.isInline]
  | @endHtml x _ hx => cases x <;> simp_all [Element.endHtml?, endsContainer, Element.isInline]
  | enterImage _ _ | leaveImage _ _ => rfl

inductive AddsLeaf : Event → Token → Prop
  | text (content : String) : AddsLeaf (text content) (.text content)
  | code (content : String) : AddsLeaf (code content) (.codeInline content)
  | softBreak : AddsLeaf softBreak (.text "\n")
  | inlineHtml (content : String) : AddsLeaf (inlineHtml content) (.inlineHtml content)
  | html (content : String) : AddsLeaf (html content) (.inlineHtml content)
  | hardBreak : AddsLeaf hardBreak (.inlineHtml "<br>")
  | taskMarker (checked : Bool) :
      AddsLeaf (taskMarker checked) (.inlineHtml (PageState.taskBox checked))
  | startHtml {x : Element} {html : String} (hx : x.startHtml? = some html) :
      AddsLeaf (enter x) (.inlineHtml html)
  | endHtml {x : Element} {html : String} (hx : x.endHtml? = some html) :
      AddsLeaf (leave x) (.inlineHtml html)
  | image (source title : String) (i : PendingImage) :
      AddsLeaf (leave (.image source title)) (InlineBuffer.imageToken i)

section Leaves

variable {e : Event} {b : InlineBuffer} {c : Token}

theorem AddsLeaf.of_append {t : Token} (h : e.AddsLeaf t) (hc : c ∈ b.children ++ [t]) :
    c ∈ b.children ∨ e.AddsLeaf c := by
  rcases List.mem_append.mp hc with hc | hc
  · exact .inl hc
  · rw [List.mem_singleton.mp hc]
    exact .inr h

theorem AddsLeaf.of_addLeaf {leaf : String → Token} {content : String}
    (h : e.AddsLeaf (leaf content)) (hc : c ∈ (b.addLeaf leaf content).children) :
    c ∈ b.children ∨ e.AddsLeaf c := by
  unfold InlineBuffer.addLeaf at hc
  cases hb : b.image with
  | some i => exact .inl (by simpa [hb] using hc)
  | none => exact h.of_append (by simpa [hb] using hc)

theorem AddsLeaf.of_addHtml {html : String} (h : e.AddsLeaf (.inlineHtml html))
    (hc : c ∈ (b.addHtml html).children) : c ∈ b.children ∨ e.AddsLeaf c := by
  unfold InlineBuffer.addHtml at hc
  cases hb : b.image with
  | some i => exact .inl (by simpa [hb] using hc)
  | none => exact h.of_append (by simpa [hb] using hc)

theorem AddsLeaf.of_leaveImage (h : ∀ i, e.AddsLeaf (InlineBuffer.imageToken i))
    (hc : c ∈ b.leaveImage.children) : c ∈ b.children ∨ e.AddsLeaf c := by
  unfold InlineBuffer.leaveImage at hc
  cases hb : b.image with
  | none => exact .inl (by simpa [hb] using hc)
  | some i =>
    cases hdepth : i.depth with
    | succ depth => exact .inl (by simpa [hb, hdepth] using hc)
    | zero => exact (h i).of_append (by simpa [hb, hdepth] using hc)

theorem Changes.mem_children {change : InlineBuffer → InlineBuffer} (h : e.Changes change)
    (hc : c ∈ (change b).children) : c ∈ b.children ∨ e.AddsLeaf c := by
  cases h with
  | content hcontent =>
    cases hcontent with
    | text content => exact AddsLeaf.of_addLeaf (.text content) hc
    | code content => exact AddsLeaf.of_addLeaf (.code content) hc
    | softBreak => exact AddsLeaf.of_addLeaf .softBreak hc
    | inlineHtml html => exact AddsLeaf.of_addHtml (.inlineHtml html) hc
    | html html => exact AddsLeaf.of_addHtml (.html html) hc
    | taskMarker checked => exact AddsLeaf.of_addHtml (.taskMarker checked) hc
    | hardBreak => exact AddsLeaf.of_addHtml .hardBreak hc
  | startHtml hx => exact AddsLeaf.of_addHtml (.startHtml hx) hc
  | endHtml hx => exact AddsLeaf.of_addHtml (.endHtml hx) hc
  | enterImage source title =>
    unfold InlineBuffer.enterImage at hc
    cases hb : b.image <;> exact .inl (by simpa [hb] using hc)
  | leaveImage source title => exact AddsLeaf.of_leaveImage (fun i => .image source title i) hc

end Leaves

inductive Adds : Event → Token → Prop
  | textOpening {x : Element} {kind : Kind} (hx : x.textKind? = some kind) :
      Adds (enter x) (ofKind kind)
  | textClosing {x : Element} {kind close : Kind} (hx : x.textKind? = some kind)
      (hclose : kind.textEnd? = some close) : Adds (leave x) (ofKind close)
  | opening {x : Element} {head : Bool} {t : Token} (ht : t ∈ x.openings head) : Adds (enter x) t
  | closing {x : Element} {head : Bool} {t : Token} (ht : t ∈ x.closings head) : Adds (leave x) t
  | rule : Adds rule (block "hr" "<hr>")
  | code (info : Option String) (language text : String) :
      Adds (leave (.codeBlock info)) (PageState.codeToken language text)
  | html (text : String) : Adds (leave .htmlBlock) (block "html" text)

end Event

namespace PageState

variable {s : PageState} {x : Element}

theorem flush_tokens_of_some {b : InlineBuffer} (hb : s.inline = some b) :
    s.flush.tokens = s.tokens ++ [b.token] := by
  simp [flush, push, hb]

theorem flush_tokens_of_none (hb : s.inline = none) : s.flush.tokens = s.tokens := by
  simp [flush, push, hb]

/-! ## Elements of running text -/

theorem enter_inline (hx : x.isInline = true) (s : PageState) :
    ∃ change, Event.Changes (.enter x) change ∧ s.enter x = s.collect change := by
  cases x with
  | emphasis | strong | strikethrough | link _ _ => exact ⟨_, .startHtml rfl, rfl⟩
  | image source title => exact ⟨_, .enterImage source title, rfl⟩
  | _ => simp [Element.isInline] at hx

theorem leave_inline (hx : x.isInline = true) (s : PageState) :
    ∃ change, Event.Changes (.leave x) change ∧ s.leave x = s.collect change := by
  cases x with
  | emphasis | strong | strikethrough | link _ _ => exact ⟨_, .endHtml rfl, rfl⟩
  | image source title => exact ⟨_, .leaveImage source title, rfl⟩
  | _ => simp [Element.isInline] at hx

/-! ## Blocks -/

theorem enter_text {kind : Kind} (hx : x.textKind? = some kind) (s : PageState) :
    s.enter x = s.beginContainer (ofKind kind) := by
  cases x with
  | paragraph | heading _ => rw [← Option.some.inj hx]; rfl
  | _ => simp [Element.textKind?] at hx

theorem enter_block_tokens (hx : x.isTextual = false) (s : PageState) :
    (s.enter x).tokens = s.flush.tokens ++ x.openings s.inTableHead := by
  cases x with
  | codeBlock _ | htmlBlock => simp [enter, Element.openings]
  | blockQuote | list _ | item | table | tableHead | tableRow | tableCell => rfl
  | _ => simp [Element.isTextual, Element.isInline, Element.textKind?] at hx

theorem enter_block_inline (hx : x.isTextual = false) (s : PageState) : (s.enter x).inline = none := by
  cases x <;> first | rfl | simp [Element.isTextual, Element.isInline, Element.textKind?] at hx

theorem exists_textEnd? {kind : Kind} (hx : x.textKind? = some kind) :
    ∃ close, kind.textEnd? = some close := by
  cases x with
  | paragraph | heading _ =>
    rw [← Option.some.inj hx]
    exact ⟨_, rfl⟩
  | _ => simp [Element.textKind?] at hx

theorem leave_text {kind close : Kind} {b : InlineBuffer} (hx : x.textKind? = some kind)
    (hclose : kind.textEnd? = some close) (hb : s.inline = some b) :
    (s.leave x).tokens = s.tokens ++ [b.token, ofKind close] ∧
      (s.leave x).toc = s.toc ++ (kind.entry? b.source).toList ∧ (s.leave x).inline = none := by
  cases x with
  | paragraph =>
    obtain rfl : .paragraphOpen = kind := Option.some.inj hx
    obtain rfl : .paragraphClose = close := Option.some.inj hclose
    exact ⟨by simp [leave, block, push, flush_tokens_of_some hb],
      by simp [leave, block, flush, push, Kind.entry?], rfl⟩
  | heading level =>
    obtain rfl : .headingOpen level.number = kind := Option.some.inj hx
    obtain rfl : .headingClose level.number = close := Option.some.inj hclose
    exact ⟨by simp [leave, push, hb], by simp [leave, hb, Kind.entry?], rfl⟩
  | _ => simp [Element.textKind?] at hx

theorem leave_block_tokens (hx : x.isTextual = false) (hwhole : x.isWhole = false) (s : PageState) :
    (s.leave x).tokens = s.flush.tokens ++ x.closings s.inTableHead := by
  cases x with
  | blockQuote | list _ | item | table | tableHead | tableRow | tableCell => rfl
  | codeBlock _ | htmlBlock => simp [Element.isWhole] at hwhole
  | _ => simp [Element.isTextual, Element.isInline, Element.textKind?] at hx

theorem leave_block_inline (hx : x.isInline = false) (hwhole : x.isWhole = false) (s : PageState) :
    (s.leave x).inline = none := by
  cases x with
  | codeBlock _ | htmlBlock => simp [Element.isWhole] at hwhole
  | emphasis | strong | strikethrough | link _ _ | image _ _ => simp [Element.isInline] at hx
  | _ => rfl

/-- A block that is a single token ends without touching the open container. -/
theorem leave_whole (hx : x.isWhole = true) (s : PageState) :
    ∃ ts, (ts = [] ∨ ∃ tag content, ts = [Token.block tag content] ∧
        Event.Adds (.leave x) (Token.block tag content)) ∧
      s.leave x = { s with tokens := s.tokens ++ ts, capture := none } := by
  cases x with
  | codeBlock info =>
    cases hcapture : s.capture with
    | none => exact ⟨[], .inl rfl, by simp [leave, hcapture]⟩
    | some c =>
      cases c with
      | code language text =>
        exact ⟨[codeToken language text], .inr ⟨"pre", _, rfl, .code info language text⟩,
          by simp [leave, hcapture, push]⟩
      | html text => exact ⟨[], .inl rfl, by simp [leave, hcapture]⟩
  | htmlBlock =>
    cases hcapture : s.capture with
    | none => exact ⟨[], .inl rfl, by simp [leave, hcapture]⟩
    | some c =>
      cases c with
      | code language text => exact ⟨[], .inl rfl, by simp [leave, hcapture]⟩
      | html text => exact ⟨_, .inr ⟨"html", text, rfl, .html text⟩, by simp [leave, hcapture, push]⟩
  | _ => simp [Element.isWhole] at hx

/-! ## All events -/

inductive Does (e : Event) (s s' : PageState) : Prop
  | changes {change : InlineBuffer → InlineBuffer} (h : e.Changes change) (hs : s' = s.collect change)
  /-- A heading without a container gets an empty one, with the marker behind it. -/
  | ends {ts : List Token} (he : e.endsContainer = true)
      (hts : ∀ t ∈ ts, e.Adds t ∨ t = InlineBuffer.empty.token)
      (htokens : s'.tokens = s.flush.tokens ++ ts) (hinline : ∀ b, s'.inline = some b → b = .empty)
  | adds {ts : List Token} (he : e.endsContainer = false) (hts : ∀ t ∈ ts, e.Adds t)
      (htokens : s'.tokens = s.tokens ++ ts) (hinline : s'.inline = s.inline)

theorem does_enter (s : PageState) (x : Element) : Does (.enter x) s (s.enter x) := by
  cases hx : x.isInline with
  | true =>
    obtain ⟨change, hchange, heq⟩ := enter_inline hx s
    exact .changes hchange heq
  | false =>
    have hends : (Event.enter x).endsContainer = true := by simp [Event.endsContainer, hx]
    cases hkind : x.textKind? with
    | some kind =>
      have hmarker : ∀ t ∈ [ofKind kind], (Event.enter x).Adds t ∨ t = InlineBuffer.empty.token := by
        simpa using .inl (.textOpening hkind)
      rw [enter_text hkind]
      exact .ends hends hmarker rfl fun b hb => (Option.some.inj hb).symm
    | none =>
      have htextual : x.isTextual = false := by simp [Element.isTextual, hx, hkind]
      refine .ends hends (fun t ht => .inl (.opening ht)) (enter_block_tokens htextual s) ?_
      intro b hb
      rw [enter_block_inline htextual] at hb
      cases hb

theorem does_leave_text {kind : Kind} (hx : x.textKind? = some kind) (s : PageState) :
    Does (.leave x) s (s.leave x) := by
  obtain ⟨close, hclose⟩ := exists_textEnd? hx
  have hclosing : (Event.leave x).Adds (ofKind close) := .textClosing hx hclose
  have hends : (Event.leave x).endsContainer = true ∧ x.isInline = false ∧ x.isWhole = false := by
    cases x <;> simp_all [Element.textKind?, Event.endsContainer, Element.isInline, Element.isWhole]
  have hinline : ∀ b, (s.leave x).inline = some b → b = .empty := by
    intro b hb
    rw [leave_block_inline hends.2.1 hends.2.2] at hb
    cases hb
  cases hb : s.inline with
  | some b =>
    have hmarker : ∀ t ∈ [ofKind close], (Event.leave x).Adds t ∨ t = InlineBuffer.empty.token := by
      simpa using .inl hclosing
    refine .ends hends.1 hmarker ?_ hinline
    rw [(leave_text hx hclose hb).1, flush_tokens_of_some hb, List.append_assoc]
    rfl
  | none =>
    cases x with
    | paragraph =>
      obtain rfl : .paragraphOpen = kind := Option.some.inj hx
      obtain rfl : .paragraphClose = close := Option.some.inj hclose
      exact .ends hends.1 (by simpa using .inl hclosing) rfl hinline
    | heading level =>
      obtain rfl : .headingOpen level.number = kind := Option.some.inj hx
      obtain rfl : .headingClose level.number = close := Option.some.inj hclose
      have htokens : (s.leave (.heading level)).tokens = s.flush.tokens ++
          [InlineBuffer.empty.token, ofKind (.headingClose level.number)] := by
        simp [leave, flush_tokens_of_none hb, push, hb]
      have hrest : ∀ t ∈ [ofKind (.headingClose level.number)],
          (Event.leave (.heading level)).Adds t ∨ t = InlineBuffer.empty.token := by
        simpa using .inl hclosing
      exact .ends hends.1 (List.forall_mem_cons.mpr ⟨.inr rfl, hrest⟩) htokens hinline
    | _ => simp [Element.textKind?] at hx

theorem does_leave (s : PageState) (x : Element) : Does (.leave x) s (s.leave x) := by
  cases hx : x.isInline with
  | true =>
    obtain ⟨change, hchange, heq⟩ := leave_inline hx s
    exact .changes hchange heq
  | false =>
    cases hwhole : x.isWhole with
    | true =>
      obtain ⟨ts, hts, heq⟩ := leave_whole hwhole s
      refine .adds (by simp [Event.endsContainer, hwhole]) ?_ (by rw [heq]) (by rw [heq])
      rcases hts with rfl | ⟨tag, content, rfl, hadds⟩
      · simp
      · simpa using hadds
    | false =>
      cases hkind : x.textKind? with
      | some kind => exact does_leave_text hkind s
      | none =>
        have htextual : x.isTextual = false := by simp [Element.isTextual, hx, hkind]
        refine .ends (by simp [Event.endsContainer, hx, hwhole]) (fun t ht => .inl (.closing ht))
          (leave_block_tokens htextual hwhole s) ?_
        intro b hb
        rw [leave_block_inline hx hwhole] at hb
        cases hb

theorem does_step (s : PageState) (e : Event) : Does e s (s.step e) := by
  by_cases he : e.isContent = true
  · rcases step_content he s with ⟨-, c, hc⟩ | ⟨change, hchange, heq⟩
    · have hends : e.endsContainer = false := by
        cases e <;> simp_all [Event.isContent, Event.endsContainer]
      rw [hc]
      have hnone : ∀ t ∈ [], e.Adds t := by simp
      exact .adds hends hnone (List.append_nil _).symm rfl
    · exact .changes (.content hchange) heq
  · cases e with
    | enter x => rw [step_enter]; exact s.does_enter x
    | leave x => rw [step_leave]; exact s.does_leave x
    | rule =>
      rw [step_rule]
      have hblock : ∀ t ∈ [Token.block "hr" "<hr>"],
          Event.rule.Adds t ∨ t = InlineBuffer.empty.token := by
        simpa using .inl .rule
      exact .ends rfl hblock rfl fun b hb => by simp [block, flush, push] at hb
    | _ => simp [Event.isContent] at he

structure Holds (P : Token → Prop) (Q : InlineBuffer → Prop) (s : PageState) : Prop where
  tokens : ∀ t ∈ s.tokens, P t
  buffer : ∀ b, s.inline = some b → Q b

variable {P : Token → Prop} {Q : InlineBuffer → Prop}

theorem holds_initial : initial.Holds P Q where
  tokens := by simp [initial]
  buffer := by simp [initial]

theorem Holds.flush (h : s.Holds P Q) (htoken : ∀ b, s.inline = some b → Q b → P b.token) :
    ∀ t ∈ s.flush.tokens, P t := by
  intro t ht
  cases hb : s.inline with
  | none => exact h.tokens t (by rwa [flush_tokens_of_none hb] at ht)
  | some b =>
    rw [flush_tokens_of_some hb] at ht
    rcases List.mem_append.mp ht with ht | ht
    · exact h.tokens t ht
    · rw [List.mem_singleton.mp ht]
      exact htoken b hb (h.buffer b hb)

/-- An event keeps what holds of all it adds and what its changes keep. The container is put among the
tokens only by an event that ends it. -/
theorem Holds.step {e : Event} (h : s.Holds P Q) (hadds : ∀ t, e.Adds t → P t)
    (hchanges : ∀ change, e.Changes change → ∀ b, Q b → Q (change b)) (hempty : Q .empty)
    (hcontainer : P InlineBuffer.empty.token)
    (htoken : e.endsContainer = true → ∀ b, s.inline = some b → Q b → P b.token) :
    (s.step e).Holds P Q := by
  cases s.does_step e with
  | @changes change hchange heq =>
    rw [heq]
    refine ⟨h.tokens, ?_⟩
    intro b hb
    obtain rfl : change (s.inline.getD .empty) = b := Option.some.inj hb
    apply hchanges change hchange
    cases hinline : s.inline with
    | none => exact hempty
    | some b => exact h.buffer b hinline
  | @ends ts he hts htokens hinline =>
    refine ⟨?_, fun b hb => hinline b hb ▸ hempty⟩
    intro t ht
    rw [htokens] at ht
    rcases List.mem_append.mp ht with ht | ht
    · exact h.flush (htoken he) t ht
    · rcases hts t ht with hadd | rfl
      · exact hadds t hadd
      · exact hcontainer
  | @adds ts _ hts htokens hinline =>
    refine ⟨?_, by rw [hinline]; exact h.buffer⟩
    intro t ht
    rw [htokens] at ht
    rcases List.mem_append.mp ht with ht | ht
    · exact h.tokens t ht
    · exact hadds t (hts t ht)

end PageState

end Folio.Markdown
