import Folio.Proofs.Markdown.PageShape

/-!
# Runs of events

The events of a page fall into runs, each of which is collected for one container: a run goes on
until a block begins or ends, and what a block of code or of HTML takes up belongs to none. Paragraphs
and headings have a run of their own, which may be empty. The containers of a page are, in order,
what is collected from its runs.
-/

namespace Folio.Markdown

open Token

/-! ## The runs of a page -/

/-- Whether a block that is a single token takes up the event itself. -/
def Element.takesUp : Element → Event → Bool
  | .codeBlock _, .text _ => true
  | .htmlBlock, .text _ => true
  | .htmlBlock, .html _ => true
  | _, _ => false

namespace Event

def isRunning : Event → Bool
  | enter x | leave x => x.isInline
  | rule => false
  | _ => true

def beginsContainer : Event → Bool
  | enter x => x.textKind?.isSome
  | _ => false

/-- The block that is a single token and is open behind the event. -/
def wholeAfter (whole : Option Element) : Event → Option Element
  | enter x => if x.isWhole then some x else whole
  | leave x => if x.isWhole then none else whole
  | _ => whole

/-- What has been collected when the event ends it. A heading that has nothing open ends with what is
empty. -/
def ended {α : Type} (empty : α) (run : Option α) : Event → Option α
  | leave (.heading _) => some (run.getD empty)
  | _ => run

def change : Event → InlineBuffer → InlineBuffer
  | text content => .addText content
  | code content => .addCode content
  | inlineHtml content | html content => .addHtml content
  | softBreak => .addText "\n"
  | hardBreak => .addBreak
  | taskMarker checked => .addHtml (PageState.taskBox checked)
  | enter (.image source title) => .enterImage source title
  | leave (.image _ _) => .leaveImage
  | enter x => x.startHtml?.elim id .addHtml
  | leave x => x.endHtml?.elim id .addHtml
  | rule => id

end Event

/-- The runs of events, when `whole` is the open block that is a single token and `run` the run so
far, if there is one. -/
def runsFrom (whole : Option Element) (run : Option (List Event)) : List Event → List (List Event)
  | [] => run.toList
  | e :: rest =>
    if whole.any (·.takesUp e) then runsFrom whole run rest
    else if e.isRunning then runsFrom whole (some (run.getD [] ++ [e])) rest
    else if e.endsContainer then
      (e.ended [] run).toList ++
        runsFrom (e.wholeAfter whole) (if e.beginsContainer then some [] else none) rest
    else runsFrom (e.wholeAfter whole) run rest

def runs (events : List Event) : List (List Event) :=
  runsFrom none none events

theorem runsFrom_cons_cases (whole : Option Element) (run : Option (List Event)) (e : Event)
    (rest : List Event) :
    (whole.any (·.takesUp e) = true ∧ runsFrom whole run (e :: rest) = runsFrom whole run rest) ∨
      (whole.any (·.takesUp e) = false ∧ e.isRunning = true ∧
        runsFrom whole run (e :: rest) = runsFrom whole (some (run.getD [] ++ [e])) rest) ∨
      (whole.any (·.takesUp e) = false ∧ e.isRunning = false ∧ e.endsContainer = true ∧
        runsFrom whole run (e :: rest) = (e.ended [] run).toList ++
          runsFrom (e.wholeAfter whole) (if e.beginsContainer then some [] else none) rest) ∨
      (whole.any (·.takesUp e) = false ∧ e.isRunning = false ∧ e.endsContainer = false ∧
        runsFrom whole run (e :: rest) = runsFrom (e.wholeAfter whole) run rest) := by
  cases htakes : whole.any (·.takesUp e) <;> cases hrunning : e.isRunning <;>
    cases hends : e.endsContainer <;> simp [runsFrom, htakes, hrunning, hends]

def changed (b : InlineBuffer) (events : List Event) : InlineBuffer :=
  events.foldl (fun b e => e.change b) b

theorem changed_cons (b : InlineBuffer) (rest : List Event) :
    changed b (e :: rest) = changed (e.change b) rest :=
  rfl

theorem changed_append (b : InlineBuffer) (xs ys : List Event) :
    changed b (xs ++ ys) = changed (changed b xs) ys :=
  List.foldl_append ..

def collected (run : List Event) : InlineBuffer :=
  changed .empty run

theorem collected_append_singleton (run : List Event) (e : Event) :
    collected (run ++ [e]) = e.change (collected run) := by
  simp [collected, changed]

theorem Event.ended_map_collected (e : Event) (run : Option (List Event)) :
    e.ended .empty (run.map collected) = (e.ended [] run).map collected := by
  unfold ended
  split
  · cases run <;> rfl
  · rfl

theorem Event.wholeAfter_running {e : Event} (he : e.isRunning = true) (whole : Option Element) :
    e.wholeAfter whole = whole := by
  cases e with
  | enter x | leave x =>
    have hwhole : x.isWhole = false := by
      cases x <;> simp_all [isRunning, Element.isInline, Element.isWhole]
    simp [wholeAfter, hwhole]
  | _ => rfl

/-! ## Steps of reading -/

def containers (ts : List Token) : List Token :=
  ts.filter (·.kind = .inline)

@[simp] theorem containers_append (xs ys : List Token) :
    containers (xs ++ ys) = containers xs ++ containers ys :=
  List.filter_append ..

inductive Captures : Option Element → Option Capture → Prop
  | none : Captures none none
  | code (info : Option String) (language text : String) :
      Captures (some (.codeBlock info)) (some (.code language text))
  | html (text : String) : Captures (some .htmlBlock) (some (.html text))

namespace PageState

variable {s : PageState} {e : Event} {whole : Option Element} {run : Option (List Event)}

/-- What is taken up is captured, and nothing else is. -/
theorem captured_cases {c? : Option Capture} (h : Captures whole c?) (e : Event) :
    (whole.any (·.takesUp e) = true ∧
        ∃ c, c?.bind (captured · e) = some c ∧ Captures whole (some c)) ∨
      whole.any (·.takesUp e) = false ∧ c?.bind (captured · e) = none := by
  cases h with
  | none => exact .inr ⟨rfl, rfl⟩
  | code info language text =>
    cases e with
    | text content => exact .inl ⟨rfl, _, rfl, .code _ _ _⟩
    | _ => exact .inr ⟨rfl, rfl⟩
  | html text =>
    cases e with
    | text content | html content => exact .inl ⟨rfl, _, rfl, .html _⟩
    | _ => exact .inr ⟨rfl, rfl⟩

theorem step_takenUp (h : Captures whole s.capture) (he : whole.any (·.takesUp e) = true) :
    ∃ c, s.step e = { s with capture := some c } ∧ Captures whole (some c) := by
  obtain ⟨-, c, hc, hcaptures⟩ | ⟨hnot, -⟩ := captured_cases h e
  · exact ⟨c, by simp [step, hc], hcaptures⟩
  · simp [hnot] at he

theorem step_not_takenUp (h : Captures whole s.capture) (he : whole.any (·.takesUp e) = false) :
    s.step e = s.handle e := by
  obtain ⟨htakes, -⟩ | ⟨-, hnone⟩ := captured_cases h e
  · simp [htakes] at he
  · simp [step, hnone]

theorem captures_handle (h : Captures whole s.capture) (e : Event) :
    Captures (e.wholeAfter whole) (s.handle e).capture := by
  cases e with
  | enter x =>
    cases x with
    | codeBlock info => exact .code info _ _
    | htmlBlock => exact .html _
    | _ => exact h
  | leave x =>
    cases hwhole : x.isWhole with
    | true =>
      obtain ⟨ts, -, heq⟩ := leave_whole hwhole s
      simpa [Event.wholeAfter, hwhole, handle, heq] using Captures.none
    | false =>
      cases x with
      | codeBlock _ | htmlBlock => simp [Element.isWhole] at hwhole
      | _ => exact h
  | _ => exact h

theorem handle_running (he : e.isRunning = true) (s : PageState) :
    s.handle e = s.collect e.change := by
  cases e with
  | enter x | leave x => cases x <;> simp_all [Event.isRunning, Element.isInline] <;> rfl
  | rule => simp [Event.isRunning] at he
  | _ => rfl

theorem containers_flush (s : PageState) :
    containers s.flush.tokens = containers s.tokens ++ (s.inline.map InlineBuffer.token).toList := by
  cases hb : s.inline with
  | none => simp [flush_tokens_of_none hb]
  | some b => rw [flush_tokens_of_some hb, containers_append]; rfl

theorem containers_of_adds {ts : List Token} (h : ∀ t ∈ ts, e.Adds t) : containers ts = [] := by
  simpa [containers] using fun t ht => (h t ht).kind_ne

/-- Whether an event leaves the open container, as far as it ends one, among the tokens and no other
one, and begins one or not. -/
def FinishesContainer (e : Event) (s : PageState) : Prop :=
  containers (s.handle e).tokens =
      containers s.tokens ++ ((e.ended .empty s.inline).map InlineBuffer.token).toList ∧
    (s.handle e).inline = if e.beginsContainer then some .empty else none

theorem containers_ended {ts : List Token} (hts : ∀ t ∈ ts, e.Adds t)
    (htokens : (s.handle e).tokens = s.flush.tokens ++ ts)
    (hended : e.ended .empty s.inline = s.inline) :
    containers (s.handle e).tokens =
      containers s.tokens ++ ((e.ended .empty s.inline).map InlineBuffer.token).toList := by
  rw [htokens, containers_append, containers_of_adds hts, containers_flush, hended, List.append_nil]

theorem finishesContainer_enter {x : Element} (hx : x.isInline = false) (s : PageState) :
    FinishesContainer (.enter x) s := by
  cases hkind : x.textKind? with
  | some kind =>
    have hbegins : s.handle (.enter x) = s.beginContainer (ofKind kind) := enter_text hkind s
    have hopening : ∀ t ∈ [ofKind kind], (Event.enter x).Adds t := by simpa using .textOpening hkind
    refine ⟨containers_ended hopening (by rw [hbegins]; rfl) rfl, ?_⟩
    rw [hbegins]
    simp [beginContainer, Event.beginsContainer, hkind]
  | none =>
    have htextual : x.isTextual = false := by simp [Element.isTextual, hx, hkind]
    refine ⟨containers_ended (fun _ ht => .opening ht) (enter_block_tokens htextual s) rfl, ?_⟩
    simpa [handle, Event.beginsContainer, hkind] using enter_block_inline htextual s

theorem finishesContainer_leave {x : Element} (hx : x.isInline = false) (hwhole : x.isWhole = false)
    (s : PageState) : FinishesContainer (.leave x) s := by
  refine ⟨?_, leave_block_inline hx hwhole s⟩
  cases x with
  | heading level =>
    have hclosing : containers [ofKind (.headingClose level.number)] = [] := rfl
    have htokens : (s.handle (.leave (.heading level))).tokens =
        s.tokens ++ [(s.inline.getD .empty).token] ++ [ofKind (.headingClose level.number)] := by
      simp [handle, leave, push]
    rw [htokens, containers_append, containers_append, hclosing, List.append_nil]
    rfl
  | paragraph =>
    have hclosing : ∀ t ∈ [ofKind .paragraphClose], (Event.leave .paragraph).Adds t := by
      simpa using .textClosing rfl rfl
    exact containers_ended hclosing rfl rfl
  | emphasis | strong | strikethrough | link _ _ | image _ _ => simp [Element.isInline] at hx
  | _ => exact containers_ended (fun _ ht => .closing ht) (leave_block_tokens rfl hwhole s) rfl

theorem finishesContainer_of_ends (he : e.endsContainer = true) (s : PageState) :
    FinishesContainer e s := by
  cases e with
  | enter x => exact finishesContainer_enter (by simpa [Event.endsContainer] using he) s
  | leave x =>
    obtain ⟨hx, hwhole⟩ : x.isInline = false ∧ x.isWhole = false := by
      simpa [Event.endsContainer] using he
    exact finishesContainer_leave hx hwhole s
  | rule =>
    have hrule : ∀ t ∈ [Token.block "hr" "<hr>"], Event.rule.Adds t := by simpa using .rule
    exact ⟨containers_ended hrule rfl rfl, rfl⟩
  | _ => simp [Event.endsContainer] at he

theorem handle_whole (hrunning : e.isRunning = false) (hends : e.endsContainer = false)
    (s : PageState) :
    containers (s.handle e).tokens = containers s.tokens ∧ (s.handle e).inline = s.inline := by
  cases e with
  | leave x =>
    have hwhole : x.isWhole = true := by simp_all [Event.isRunning, Event.endsContainer]
    obtain ⟨ts, hts, heq⟩ := leave_whole hwhole s
    have hadds : ∀ t ∈ ts, (Event.leave x).Adds t := by
      rcases hts with rfl | ⟨tag, content, rfl, hadds⟩
      · simp
      · simpa using hadds
    simp [handle, heq, containers_of_adds hadds]
  | _ => simp_all [Event.isRunning, Event.endsContainer]

/-- What is read is what is collected from the runs, behind the containers there are already. -/
theorem containers_foldl_step (hcapture : Captures whole s.capture)
    (hrun : s.inline = run.map collected) (events : List Event) :
    containers (events.foldl step s).flush.tokens =
      containers s.tokens ++ (runsFrom whole run events).map fun run => (collected run).token := by
  induction events generalizing s whole run with
  | nil =>
    rw [List.foldl_nil, containers_flush, hrun, runsFrom]
    cases run <;> rfl
  | cons e rest ih =>
    have hhandled := captures_handle hcapture e
    rw [List.foldl_cons]
    obtain ⟨htakes, heq⟩ | ⟨htakes, hrunning, heq⟩ | ⟨htakes, -, hends, heq⟩ |
      ⟨htakes, hrunning, hends, heq⟩ := runsFrom_cons_cases whole run e rest
    · obtain ⟨c, hstep, hcaptured⟩ := step_takenUp hcapture htakes
      rw [heq, hstep]
      exact ih hcaptured hrun
    · rw [Event.wholeAfter_running hrunning] at hhandled
      have hnext : (s.handle e).inline = (some (run.getD [] ++ [e])).map collected := by
        rw [handle_running hrunning, Option.map_some, collected_append_singleton]
        cases run <;> simp [collect, hrun, collected, changed]
      rw [heq, step_not_takenUp hcapture htakes, ih hhandled hnext, handle_running hrunning]
      rfl
    · obtain ⟨htokens, hinline⟩ := finishesContainer_of_ends hends s
      have hnext : (s.handle e).inline =
          (if e.beginsContainer then some [] else none).map collected := by
        rw [hinline]
        split <;> rfl
      rw [heq, step_not_takenUp hcapture htakes, ih hhandled hnext, htokens, hrun,
        Event.ended_map_collected]
      cases e.ended [] run <;> simp
    · obtain ⟨htokens, hinline⟩ := handle_whole hrunning hends s
      rw [heq, step_not_takenUp hcapture htakes, ih hhandled (hinline.trans hrun), htokens]

end PageState

/-- The containers of a page are what is collected from its runs. -/
theorem containers_ofEvents (events : List Event) :
    containers (ParsedPage.ofEvents events).document.tokens =
      (runs events).map fun run => (collected run).token :=
  PageState.containers_foldl_step .none rfl events

end Folio.Markdown
