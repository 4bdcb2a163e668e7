import Folio.Proofs.Markdown.PageTags
import Folio.Proofs.Markdown.Runs

/-!
# Images in runs

A run is divided into images, each from its beginning to the end that belongs to it, and the events
outside of them. Images within an image are part of it. All runs of properly nested events can be
divided: no block begins or ends while an image is open.
-/

namespace Folio.Markdown

/-! ## Images in a run -/

def Event.isImageMark : Event → Bool
  | enter (.image _ _) | leave (.image _ _) => true
  | _ => false

/-- A piece of a run: an image with all that is within it, or an event outside of images. -/
inductive Piece where
  | event (e : Event)
  | image (source title : String) (inner : List Event)

/-- How a run is divided into pieces. The end of an image is the one in front of which all images
within are complete. -/
inductive Divides : List Event → List Piece → Prop
  | nil : Divides [] []
  | event {e : Event} {rest : List Event} {ps : List Piece} (he : e.isImageMark = false)
      (hrest : Divides rest ps) : Divides (e :: rest) (.event e :: ps)
  | image {source title : String} {inner rest : List Event} {qs ps : List Piece}
      (hinner : Divides inner qs) (hrest : Divides rest ps) :
      Divides (.enter (.image source title) :: inner ++ .leave (.image source title) :: rest)
        (.image source title inner :: ps)

variable {run more : List Event} {ps qs : List Piece}

theorem Divides.append (h : Divides run ps) (hmore : Divides more qs) :
    Divides (run ++ more) (ps ++ qs) := by
  induction h with
  | nil => exact hmore
  | event he _ ih => exact .event he ih
  | image hinner _ _ ih =>
    rw [List.append_assoc]
    exact .image hinner ih

theorem divides_singleton {e : Event} (he : e.isImageMark = false) : Divides [e] [.event e] :=
  .event he .nil

/-! ## Runs of nested events -/

/-- Whether a run, as far as it has been read, is divided by the images among the open elements, the
innermost first. -/
inductive Begun : List Element → List Event → Prop
  | outside {run : List Event} {ps : List Piece} (h : Divides run ps) : Begun [] run
  | image {source title : String} {opened : List Element} {run inner : List Event} {qs : List Piece}
      (h : Begun opened run) (hinner : Divides inner qs) :
      Begun (.image source title :: opened) (run ++ .enter (.image source title) :: inner)
  | other {x : Element} {opened : List Element} {run : List Event} (hx : x.isImage = false)
      (h : Begun opened run) : Begun (x :: opened) run

variable {opened opened' : List Element} {e : Event}

theorem Begun.append (h : Begun opened run) (hmore : Divides more qs) :
    Begun opened (run ++ more) := by
  induction h with
  | outside h => exact .outside (h.append hmore)
  | image h hinner _ =>
    rw [List.append_assoc, List.cons_append]
    exact .image h (hinner.append hmore)
  | other hx _ ih => exact .other hx ih

/-- Blocks alone leave no image open. -/
theorem begun_of_blocks (hopened : opened.any Element.isInline = false) (hrun : Divides run ps) :
    Begun opened run := by
  induction opened with
  | nil => exact .outside hrun
  | cons x opened ih =>
    obtain ⟨hx, hopened⟩ : x.isInline = false ∧ opened.any Element.isInline = false := by
      simpa using hopened
    exact .other (by cases x <;> simp_all [Element.isImage, Element.isInline]) (ih hopened)

theorem Begun.exists_divides (h : Begun opened run) (hopened : opened.any Element.isInline = false) :
    ∃ ps, Divides run ps := by
  induction h with
  | outside h => exact ⟨_, h⟩
  | image => simp [Element.isInline] at hopened
  | other _ _ ih =>
    rw [List.any_cons, Bool.or_eq_false_iff] at hopened
    exact ih hopened.2

theorem isImageMark_of_not_image {x : Element} (hx : x.isImage = false) :
    (Event.enter x).isImageMark = false ∧ (Event.leave x).isImageMark = false := by
  cases x <;> first | exact ⟨rfl, rfl⟩ | simp [Element.isImage] at hx

theorem Begun.running (h : Begun opened run) (he : e.isRunning = true)
    (hstep : openAfter (barsBlocks Element.isInline) opened e = some opened') :
    Begun opened' (run ++ [e]) := by
  obtain ⟨-, ⟨x, rfl, rfl⟩ | ⟨x, rfl, rfl⟩ | ⟨rfl, -⟩ | ⟨hcontent, rfl⟩⟩ := openAfter_cases hstep
  · cases hx : x.isImage with
    | true =>
      cases x <;> simp [Element.isImage] at hx
      exact .image h .nil
    | false => exact .other hx (h.append (divides_singleton (isImageMark_of_not_image hx).1))
  · cases h with
    | @image source title _ outside inner qs h hinner =>
      have himage : Divides (.enter (.image source title) :: inner ++
          [.leave (.image source title)]) _ := .image hinner .nil
      simpa using h.append himage
    | other hx h => exact h.append (divides_singleton (isImageMark_of_not_image hx).2)
  · simp [Event.isRunning] at he
  · refine h.append (divides_singleton ?_)
    cases e <;> first | rfl | simp [Event.isContent] at hcontent

theorem any_isInline_of_barsBlocks (he : e.beginsBlock = true)
    (h : opened.any (barsBlocks Element.isInline · e) = false) :
    opened.any Element.isInline = false := by
  simpa [barsBlocks, he] using h

/-- Where an event ends the run, only blocks are open, before it and behind it. -/
theorem blocks_of_endsContainer (he : e.endsContainer = true)
    (hopened : Stacked (barsBlocks Element.isInline) opened)
    (hstep : openAfter (barsBlocks Element.isInline) opened e = some opened') :
    opened.any Element.isInline = false ∧ opened'.any Element.isInline = false := by
  obtain ⟨hbars, ⟨x, rfl, rfl⟩ | ⟨x, rfl, rfl⟩ | ⟨rfl, rfl⟩ | ⟨hcontent, rfl⟩⟩ :=
    openAfter_cases hstep
  · have hx : x.isInline = false := by simpa [Event.endsContainer] using he
    have hblocks := any_isInline_of_barsBlocks (by simp [Event.beginsBlock, hx]) hbars
    exact ⟨hblocks, by simpa [hx] using hblocks⟩
  · have hx : x.isInline = false ∧ x.isWhole = false := by simpa [Event.endsContainer] using he
    have hblocks := any_isInline_of_barsBlocks (by simp [Event.beginsBlock, hx.1]) hopened.1
    exact ⟨by simpa [hx.1] using hblocks, hblocks⟩
  · have hblocks := any_isInline_of_barsBlocks rfl hbars
    exact ⟨hblocks, hblocks⟩
  · cases e <;> simp_all [Event.isContent, Event.endsContainer]

theorem Begun.leave_whole (h : Begun opened run) (hrunning : e.isRunning = false)
    (hends : e.endsContainer = false)
    (hstep : openAfter (barsBlocks Element.isInline) opened e = some opened') :
    Begun opened' run := by
  cases e with
  | leave x =>
    have hwhole : x.isWhole = true := by simp_all [Event.isRunning, Event.endsContainer]
    obtain ⟨-, ⟨y, hy, -⟩ | ⟨y, hy, rfl⟩ | ⟨hy, -⟩ | ⟨hy, -⟩⟩ := openAfter_cases hstep
    · simp at hy
    · cases h with
      | image h _ => simp_all [Element.isWhole]
      | other _ h => exact h
    · simp at hy
    · simp [Event.isContent] at hy
  | _ => simp_all [Event.isRunning, Event.endsContainer]

theorem eq_of_takesUp {whole : Option Element} (he : whole.any (·.takesUp e) = true)
    (hstep : openAfter (barsBlocks Element.isInline) opened e = some opened') : opened' = opened := by
  obtain ⟨x, -, hx⟩ := (Option.any_eq_true _ _).mp he
  obtain ⟨-, ⟨y, rfl, -⟩ | ⟨y, rfl, -⟩ | ⟨rfl, -⟩ | ⟨-, rfl⟩⟩ := openAfter_cases hstep
  · cases x <;> simp [Element.takesUp] at hx
  · cases x <;> simp [Element.takesUp] at hx
  · cases x <;> simp [Element.takesUp] at hx
  · rfl

theorem eq_of_mem_ended {r : List Event} {run : Option (List Event)}
    (h : r ∈ (e.ended [] run).toList) : r = run.getD [] := by
  unfold Event.ended at h
  split at h
  · simpa using h
  · cases run <;> simp_all

theorem exists_divides_runsFrom {events : List Event} {whole : Option Element}
    {run : Option (List Event)} (hopened : Stacked (barsBlocks Element.isInline) opened)
    (hrun : events.foldlM (openAfter (barsBlocks Element.isInline)) opened = some [])
    (hbegun : Begun opened (run.getD [])) :
    ∀ r ∈ runsFrom whole run events, ∃ ps, Divides r ps := by
  -- By induction on the events. The images that the run so far has begun are those that are open,
  -- so none is left where a run ends.
  induction events generalizing opened whole run with
  | nil =>
    obtain rfl : opened = [] := Option.some.inj hrun
    intro r hr
    cases run with
    | none => simp [runsFrom] at hr
    | some run =>
      obtain rfl : r = run := by simpa [runsFrom] using hr
      exact hbegun.exists_divides rfl
  | cons e rest ih =>
    rw [List.foldlM_cons, Option.bind_eq_bind, Option.bind_eq_some_iff] at hrun
    obtain ⟨opened', hstep, hrest⟩ := hrun
    have hnext := hopened.openAfter hstep
    obtain ⟨htakes, heq⟩ | ⟨-, hrunning, heq⟩ | ⟨-, -, hends, heq⟩ | ⟨-, hrunning, hends, heq⟩ :=
      runsFrom_cons_cases whole run e rest
    · obtain rfl := eq_of_takesUp htakes hstep
      exact heq ▸ ih hnext hrest hbegun
    · exact heq ▸ ih hnext hrest (hbegun.running hrunning hstep)
    · obtain ⟨hblocks, hblocks'⟩ := blocks_of_endsContainer hends hopened hstep
      have hempty : Begun opened' ((if e.beginsContainer then some [] else none).getD []) := by
        split <;> exact begun_of_blocks hblocks' .nil
      rw [heq]
      intro r hr
      rcases List.mem_append.mp hr with hr | hr
      · rw [eq_of_mem_ended hr]
        exact hbegun.exists_divides hblocks
      · exact ih hnext hrest hempty r hr
    · exact heq ▸ ih hnext hrest (hbegun.leave_whole hrunning hends hstep)

/-- All runs of properly nested events can be divided. -/
theorem exists_divided {events : List Event} (h : WellNested (barsBlocks Element.isInline) events) :
    ∃ divided, List.Forall₂ Divides (runs events) divided := by
  have hempty : Stacked (barsBlocks Element.isInline) [] := trivial
  have hruns : ∀ r ∈ runs events, ∃ ps, Divides r ps :=
    exists_divides_runsFrom hempty h (.outside .nil)
  generalize runs events = rs at hruns
  induction rs with
  | nil => exact ⟨[], .nil⟩
  | cons r rs ih =>
    obtain ⟨⟨ps, hps⟩, hrs⟩ := List.forall_mem_cons.mp hruns
    obtain ⟨divided, hdivided⟩ := ih hrs
    exact ⟨ps :: divided, .cons hps hdivided⟩

end Folio.Markdown
