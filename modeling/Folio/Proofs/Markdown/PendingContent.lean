import Folio.Proofs.Markdown.PageBlocks

/-!
# Content that is collected

What has been collected for a container is never taken out of it. The container is finished before
the next block begins, or with the block that it belongs to, and by then its images have ended. So
all that properly nested events say within running text stands in the container that was open, in
front of every block that begins later.
-/

namespace Folio.Markdown

open Token

namespace InlineBuffer

/-- Whether a container holds all that it held before. An image that was open is open still, or has
become the next leaf. -/
structure Continues (b b' : InlineBuffer) : Prop where
  source : b.source.toList <+: b'.source.toList
  children : b.children <+: b'.children
  image : ∀ i, b.image = some i →
    (∃ i', b'.image = some i' ∧ b'.children = b.children ∧ i'.source = i.source ∧
      i.alternative.toList <+: i'.alternative.toList) ∨
    ∃ t, b.children ++ [t] <+: b'.children ∧ t.kind = .image ∧ t.attr? "src" = some i.source ∧
      i.alternative.toList <+: t.content.toList

variable {b b' b'' : InlineBuffer}

theorem Continues.refl (b : InlineBuffer) : b.Continues b where
  source := List.prefix_rfl
  children := List.prefix_rfl
  image i hi := .inl ⟨i, hi, rfl, rfl, List.prefix_rfl⟩

theorem Continues.trans (h : b.Continues b') (h' : b'.Continues b'') : b.Continues b'' where
  source := h.source.trans h'.source
  children := h.children.trans h'.children
  image := by
    intro i hi
    rcases h.image i hi with ⟨i', hi', hchildren, hsource, halternative⟩ |
      ⟨t, ht, hkind, hsource, halternative⟩
    · rw [← hchildren, ← hsource]
      rcases h'.image i' hi' with ⟨i'', hi'', hrest⟩ | ⟨t, ht, hkind, hsource', halternative'⟩
      · obtain ⟨hchildren', hsource', halternative'⟩ := hrest
        exact .inl ⟨i'', hi'', hchildren', hsource', halternative.trans halternative'⟩
      · exact .inr ⟨t, ht, hkind, hsource', halternative.trans halternative'⟩
    · exact .inr ⟨t, ht.trans h'.children, hkind, hsource, halternative⟩

theorem continues_addLeaf (leaf : String → Token) (content : String) (b : InlineBuffer) :
    b.Continues (b.addLeaf leaf content) := by
  unfold addLeaf
  cases hb : b.image with
  | some i =>
    refine ⟨List.prefix_rfl, List.prefix_rfl, ?_⟩
    intro i' hi'
    obtain rfl : i = i' := Option.some.inj (hb.symm.trans hi')
    exact .inl ⟨_, rfl, rfl, rfl, by simp⟩
  | none => exact ⟨by simp, by simp, by simp [hb]⟩

theorem continues_addHtml (html : String) (b : InlineBuffer) : b.Continues (b.addHtml html) := by
  unfold addHtml
  cases hb : b.image with
  | some i => exact .refl b
  | none => exact ⟨List.prefix_rfl, by simp, by simp [hb]⟩

theorem continues_addBreak (b : InlineBuffer) : b.Continues b.addBreak := by
  have hhtml := continues_addHtml "<br>" b
  refine ⟨?_, hhtml.children, hhtml.image⟩
  exact hhtml.source.trans (by simp [addBreak])

theorem continues_enterImage (source title : String) (b : InlineBuffer) :
    b.Continues (b.enterImage source title) := by
  unfold enterImage
  cases hb : b.image with
  | some i =>
    refine ⟨List.prefix_rfl, List.prefix_rfl, ?_⟩
    intro i' hi'
    obtain rfl : i = i' := Option.some.inj (hb.symm.trans hi')
    exact .inl ⟨_, rfl, rfl, rfl, List.prefix_rfl⟩
  | none => exact ⟨List.prefix_rfl, List.prefix_rfl, by simp [hb]⟩

theorem imageToken_reads (i : PendingImage) :
    (imageToken i).kind = .image ∧ (imageToken i).attr? "src" = some i.source ∧
      (imageToken i).content = i.alternative := by
  unfold imageToken
  by_cases htitle : i.title.isEmpty
  · rw [if_pos htitle]
    exact ⟨rfl, rfl, rfl⟩
  · rw [if_neg htitle]
    exact ⟨rfl, rfl, rfl⟩

theorem continues_leaveImage (b : InlineBuffer) : b.Continues b.leaveImage := by
  unfold leaveImage
  cases hb : b.image with
  | none => simpa [hb] using Continues.refl b
  | some i =>
    cases hdepth : i.depth with
    | succ depth =>
      simp only [hdepth]
      refine ⟨List.prefix_rfl, List.prefix_rfl, ?_⟩
      intro i' hi'
      obtain rfl : i = i' := Option.some.inj (hb.symm.trans hi')
      exact .inl ⟨_, rfl, rfl, rfl, List.prefix_rfl⟩
    | zero =>
      simp only [hdepth]
      obtain ⟨hkind, hsource, hcontent⟩ := imageToken_reads i
      refine ⟨by simp, by simp, ?_⟩
      intro i' hi'
      obtain rfl : i = i' := Option.some.inj (hb.symm.trans hi')
      exact .inr ⟨imageToken i, List.prefix_rfl, hkind, hsource, hcontent ▸ List.prefix_rfl⟩

theorem continues_changes {e : Event} {change : InlineBuffer → InlineBuffer}
    (h : e.Changes change) (b : InlineBuffer) : b.Continues (change b) := by
  cases h with
  | content hcontent =>
    cases hcontent with
    | text _ | code _ | softBreak => exact continues_addLeaf _ _ b
    | inlineHtml _ | html _ | taskMarker _ => exact continues_addHtml _ b
    | hardBreak => exact continues_addBreak b
  | startHtml _ | endHtml _ => exact continues_addHtml _ b
  | enterImage source title => exact continues_enterImage source title b
  | leaveImage _ _ => exact continues_leaveImage b

end InlineBuffer

open InlineBuffer

/-! ## Steps of reading -/

namespace PageState

variable {s : PageState} {b : InlineBuffer}

theorem beginsBlock_of_not_ends {e : Event} (he : e.endsContainer = false) :
    e.beginsBlock = false := by
  cases e <;> simp_all [Event.endsContainer, Event.beginsBlock]

/-- An event that ends the container puts it behind the tokens of the page. Any other leaves it open
and at most adds to it. -/
theorem step_container (e : Event) (hb : s.inline = some b) :
    (e.endsContainer = true ∧ ∃ behind, (s.step e).tokens = s.tokens ++ b.token :: behind) ∨
      e.endsContainer = false ∧ ∃ b', (s.step e).inline = some b' ∧ b.Continues b' := by
  cases s.does_step e with
  | @changes change hchange heq =>
    refine .inr ⟨hchange.endsContainer_eq, change b, ?_, continues_changes hchange b⟩
    rw [heq]
    simp [collect, hb]
  | @ends ts he _ htokens _ =>
    refine .inl ⟨he, ts, ?_⟩
    rw [htokens, flush_tokens_of_some hb, List.append_assoc]
    rfl
  | adds he _ _ hinline => exact .inr ⟨he, b, hinline.trans hb, .refl b⟩

theorem prefix_step (s : PageState) (e : Event) : s.tokens <+: (s.step e).tokens := by
  cases s.does_step e with
  | changes _ heq => rw [heq]; exact List.prefix_rfl
  | ends _ _ htokens _ =>
    rw [htokens]
    exact (List.prefix_append s.tokens _).trans (List.prefix_append s.flush.tokens _)
  | adds _ _ htokens _ => rw [htokens]; exact List.prefix_append _ _

theorem prefix_finish (s : PageState) (events : List Event) :
    s.tokens <+: (events.foldl step s).finish.document.tokens := by
  induction events generalizing s with
  | nil => exact List.prefix_append _ _
  | cons e rest ih => exact (s.prefix_step e).trans (ih (s.step e))

/-! ## The place of content -/

/-- Whether the container finds its place in what the events give: they go on without beginning a
block, the container takes up what they say and, once its images have ended, stands right behind the
tokens there are by then. -/
def FindsPlace (s : PageState) (b : InlineBuffer) (events : List Event) : Prop :=
  ∃ middle behind b' after, events = middle ++ behind ∧ (∀ e ∈ middle, e.beginsBlock = false) ∧
    (middle.foldl step s).inline = some b' ∧ b.Continues b' ∧ b'.image = none ∧
    (events.foldl step s).finish.document.tokens =
      (middle.foldl step s).tokens ++ b'.token :: after

theorem findsPlace {opened : List Element} {events : List Event} (hopened : Stacked barsForShape opened)
    (hrun : events.foldlM (openAfter barsForShape) opened = some []) (h : s.IsShaped opened)
    (hb : s.inline = some b) : s.FindsPlace b events := by
  -- By induction on the events: a step that keeps the container is the next of `middle`, and the
  -- first that does not is where `behind` begins.
  induction events generalizing opened s b with
  | nil =>
    obtain rfl : opened = [] := Option.some.inj hrun
    have himages := h.images
    rw [hb] at himages
    refine ⟨[], [], b, [], rfl, by simp, hb, .refl b, openImages_eq_zero_iff.mp himages, ?_⟩
    exact flush_tokens_of_some hb
  | cons e rest ih =>
    rw [List.foldlM_cons, Option.bind_eq_bind, Option.bind_eq_some_iff] at hrun
    obtain ⟨opened', hstep, hrest⟩ := hrun
    rcases step_container e hb with ⟨hends, behind, htokens⟩ | ⟨hends, b', hb', hcontinues⟩
    · obtain ⟨after, hafter⟩ := (s.step e).prefix_finish rest
      refine ⟨[], e :: rest, b, behind ++ after, rfl, by simp, hb, .refl b,
        h.image_eq_none hopened hstep hends hb, ?_⟩
      rw [List.foldl_cons, ← hafter, htokens]
      simp
    · obtain ⟨middle, behind, b'', after, rfl, hmiddle, hb'', hcontinues', himage, htokens⟩ :=
        ih (hopened.openAfter hstep) hrest (isShaped_step hopened hstep h) hb'
      refine ⟨e :: middle, behind, b'', after, rfl, ?_, hb'', hcontinues.trans hcontinues', himage,
        htokens⟩
      intro e' he'
      rcases List.mem_cons.mp he' with rfl | he'
      · exact beginsBlock_of_not_ends hends
      · exact hmiddle e' he'

end PageState

open PageState

/-- All that is collected while properly nested events are read finds its place. -/
theorem findsPlace_ofEvents {front rest : List Event} (h : WellNested barsForShape (front ++ rest))
    {b : InlineBuffer} (hb : (front.foldl step .initial).inline = some b) :
    (front.foldl step .initial).FindsPlace b rest := by
  unfold WellNested at h
  rw [List.foldlM_append, Option.bind_eq_bind, Option.bind_eq_some_iff] at h
  obtain ⟨opened, hfront, hrest⟩ := h
  have hempty : Stacked barsForShape [] := trivial
  have hshape : Stacked barsForShape opened ∧ (front.foldl step .initial).IsShaped opened := by
    refine foldl_step_induction (fun opened s => Stacked barsForShape opened ∧ s.IsShaped opened) ?_
      hempty hfront ⟨hempty, isShaped_initial⟩
    intro opened opened' s e _ hopened hstep hs
    exact ⟨hopened.openAfter hstep, isShaped_step hopened hstep hs.2⟩
  exact findsPlace hshape.1 hrest hshape.2 hb

end Folio.Markdown
