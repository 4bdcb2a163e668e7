import Folio.Markdown.ParsedPage

/-!
# Nested events

Events nest properly if every end belongs to the innermost element that is open, and no event stands
within an element that bars it. What is barred is left open: the elements of running text bar every
block, and a reader of Markdown puts none into a heading, a paragraph or a table cell either. A
thematic break is a block without an end.
-/

namespace Folio.Markdown

namespace Element

/-- The elements of running text. Any other element is a block. -/
def isInline : Element → Bool
  | emphasis | strong | strikethrough | link _ _ | image _ _ => true
  | _ => false

/-- The elements within which a reader of Markdown puts no block. -/
def holdsText : Element → Bool
  | paragraph | heading _ | tableCell => true
  | x => x.isInline

end Element

namespace Event

/-- The events that stand within running text, and neither begin nor end anything. -/
def isContent : Event → Bool
  | enter _ | leave _ | rule => false
  | _ => true

def beginsBlock : Event → Bool
  | enter x => !x.isInline
  | rule => true
  | _ => false

end Event

/-- Bars every block from the elements that are closed to blocks. -/
def barsBlocks (closed : Element → Bool) (outer : Element) (e : Event) : Bool :=
  closed outer && e.beginsBlock

/-- The open elements after one more event, the innermost first. There are none if the event breaks
the nesting: it stands within an element that bars it, or ends one that is not the innermost. -/
def openAfter (bars : Element → Event → Bool) (opened : List Element) (e : Event) :
    Option (List Element) :=
  if opened.any (bars · e) then none
  else
    match e with
    | .enter x => some (x :: opened)
    | .leave x =>
      match opened with
      | [] => none
      | innermost :: outer => if innermost = x then some outer else none
    | _ => some opened

/-- Whether the events nest properly and leave no element open. -/
def WellNested (bars : Element → Event → Bool) (events : List Event) : Prop :=
  events.foldlM (openAfter bars) [] = some []

instance (bars : Element → Event → Bool) (events : List Event) :
    Decidable (WellNested bars events) :=
  inferInstanceAs (Decidable (_ = _))

/-- Whether none of the open elements stands within one that bars it. -/
def Stacked (bars : Element → Event → Bool) : List Element → Prop
  | [] => True
  | x :: outer => outer.any (bars · (.enter x)) = false ∧ Stacked bars outer

section Steps

variable {bars : Element → Event → Bool} {opened opened' : List Element}

theorem openAfter_cases {e : Event} (h : openAfter bars opened e = some opened') :
    opened.any (bars · e) = false ∧
      ((∃ x, e = .enter x ∧ opened' = x :: opened) ∨ (∃ x, e = .leave x ∧ opened = x :: opened') ∨
        (e = .rule ∧ opened' = opened) ∨ (e.isContent = true ∧ opened' = opened)) := by
  unfold openAfter at h
  by_cases hbars : opened.any (bars · e) = true
  · rw [if_pos hbars] at h
    cases h
  · rw [if_neg hbars] at h
    refine ⟨by simpa using hbars, ?_⟩
    cases e with
    | enter x => exact .inl ⟨x, rfl, (Option.some.inj h).symm⟩
    | leave x =>
      cases opened with
      | nil => simp at h
      | cons innermost outer =>
        obtain ⟨rfl, rfl⟩ : innermost = x ∧ outer = opened' := by simpa using h
        exact .inr (.inl ⟨innermost, rfl, rfl⟩)
    | rule => exact .inr (.inr (.inl ⟨rfl, (Option.some.inj h).symm⟩))
    | _ => exact .inr (.inr (.inr ⟨rfl, (Option.some.inj h).symm⟩))

theorem openAfter_mono {bars' : Element → Event → Bool} {e : Event}
    (hbars : ∀ x e, bars' x e = true → bars x e = true) (h : openAfter bars opened e = some opened') :
    openAfter bars' opened e = some opened' := by
  obtain ⟨hnone, -⟩ := openAfter_cases h
  have hnone' : opened.any (bars' · e) = false := by
    rw [List.any_eq_false] at hnone ⊢
    exact fun x hx hx' => hnone x hx (hbars x e hx')
  unfold openAfter at h ⊢
  rw [if_neg (by simp [hnone])] at h
  rwa [if_neg (by simp [hnone'])]

theorem WellNested.mono {bars' : Element → Event → Bool} {events : List Event}
    (hbars : ∀ x e, bars' x e = true → bars x e = true) (h : WellNested bars events) :
    WellNested bars' events := by
  have hrun : ∀ opened opened', events.foldlM (openAfter bars) opened = some opened' →
      events.foldlM (openAfter bars') opened = some opened' := by
    clear h
    induction events with
    | nil => exact fun _ _ h => h
    | cons e rest ih =>
      intro opened opened' h
      rw [List.foldlM_cons, Option.bind_eq_bind, Option.bind_eq_some_iff] at h ⊢
      obtain ⟨middle, hmiddle, hrest⟩ := h
      exact ⟨middle, openAfter_mono hbars hmiddle, ih middle opened' hrest⟩
  exact hrun [] [] h

theorem Stacked.openAfter {e : Event} (h : Stacked bars opened)
    (hstep : openAfter bars opened e = some opened') : Stacked bars opened' := by
  obtain ⟨hbars, ⟨x, rfl, rfl⟩ | ⟨x, -, rfl⟩ | ⟨-, rfl⟩ | ⟨-, rfl⟩⟩ := openAfter_cases hstep
  · exact ⟨hbars, h⟩
  · exact h.2
  · exact h
  · exact h

/-- What holds of a page and its open elements before the first event, and after an event whenever
it held before, holds after all events. -/
theorem foldl_step_induction (holds : List Element → PageState → Prop) {events : List Event}
    (hstep : ∀ {opened opened' : List Element} {s : PageState} {e : Event}, e ∈ events →
      Stacked bars opened → openAfter bars opened e = some opened' →
        holds opened s → holds opened' (s.step e))
    {s : PageState} (hopened : Stacked bars opened)
    (hrun : events.foldlM (openAfter bars) opened = some opened') (h : holds opened s) :
    holds opened' (events.foldl PageState.step s) := by
  induction events generalizing opened s with
  | nil =>
    obtain rfl : opened = opened' := Option.some.inj hrun
    exact h
  | cons e rest ih =>
    rw [List.foldlM_cons, Option.bind_eq_bind, Option.bind_eq_some_iff] at hrun
    obtain ⟨middle, hmiddle, hrest⟩ := hrun
    have hfirst := hstep List.mem_cons_self hopened hmiddle h
    exact ih (fun he => hstep (List.mem_cons_of_mem e he)) (hopened.openAfter hmiddle) hrest hfirst

theorem WellNested.induction {events : List Event} (hnested : WellNested bars events)
    (holds : List Element → PageState → Prop) (hinitial : holds [] .initial)
    (hstep : ∀ {opened opened' : List Element} {s : PageState} {e : Event}, e ∈ events →
      Stacked bars opened → openAfter bars opened e = some opened' →
        holds opened s → holds opened' (s.step e)) :
    holds [] (events.foldl PageState.step .initial) := by
  have hempty : Stacked bars [] := trivial
  exact foldl_step_induction holds hstep hempty hnested hinitial

end Steps

/-! ## Steps of reading -/

namespace PageState

/-- Only text and HTML can be captured for a block that is a single token. -/
theorem captured_eq_none {e : Event} (htext : ∀ content, e ≠ .text content)
    (hhtml : ∀ content, e ≠ .html content) (c : Capture) : captured c e = none := by
  cases c <;> cases e <;> simp_all [captured]

theorem step_eq_handle {e : Event} (htext : ∀ content, e ≠ .text content)
    (hhtml : ∀ content, e ≠ .html content) (s : PageState) : s.step e = s.handle e := by
  have hnone : s.capture.bind (captured · e) = none := by
    cases s.capture with
    | none => rfl
    | some c => exact captured_eq_none htext hhtml c
  simp [step, hnone]

@[simp] theorem step_enter (s : PageState) (x : Element) : s.step (.enter x) = s.enter x :=
  step_eq_handle (by simp) (by simp) s

@[simp] theorem step_leave (s : PageState) (x : Element) : s.step (.leave x) = s.leave x :=
  step_eq_handle (by simp) (by simp) s

@[simp] theorem step_rule (s : PageState) : s.step .rule = s.block [.block "hr" "<hr>"] :=
  step_eq_handle (by simp) (by simp) s

/-- The changes of the open container that an event within running text makes. -/
inductive CollectsBy : Event → (InlineBuffer → InlineBuffer) → Prop
  | text (content : String) : CollectsBy (.text content) (.addText content)
  | code (content : String) : CollectsBy (.code content) (.addCode content)
  | inlineHtml (content : String) : CollectsBy (.inlineHtml content) (.addHtml content)
  | html (content : String) : CollectsBy (.html content) (.addHtml content)
  | softBreak : CollectsBy .softBreak (.addText "\n")
  | hardBreak : CollectsBy .hardBreak .addBreak
  | taskMarker (checked : Bool) : CollectsBy (.taskMarker checked) (.addHtml (taskBox checked))

/-- An event within running text is captured for the block at hand, or else it changes the open
container. -/
theorem step_content {e : Event} (he : e.isContent = true) (s : PageState) :
    (s.capture.isSome = true ∧ ∃ c, s.step e = { s with capture := some c }) ∨
      ∃ change, CollectsBy e change ∧ s.step e = s.collect change := by
  unfold step
  split
  · rename_i c hc
    obtain ⟨before, hbefore, -⟩ := Option.bind_eq_some_iff.mp hc
    exact .inl ⟨by simp [hbefore], c, rfl⟩
  · right
    cases e with
    | enter x => simp [Event.isContent] at he
    | leave x => simp [Event.isContent] at he
    | rule => simp [Event.isContent] at he
    | text content => exact ⟨_, .text content, rfl⟩
    | code content => exact ⟨_, .code content, rfl⟩
    | inlineHtml content => exact ⟨_, .inlineHtml content, rfl⟩
    | html content => exact ⟨_, .html content, rfl⟩
    | softBreak => exact ⟨_, .softBreak, rfl⟩
    | hardBreak => exact ⟨_, .hardBreak, rfl⟩
    | taskMarker checked => exact ⟨_, .taskMarker checked, rfl⟩

end PageState

end Folio.Markdown
