import Folio.Proofs.Emphasis.SplicePlaces
import Folio.Proofs.Markdown.QuietPage

/-!
# Paragraphs that are passed over

Splicing passes over a paragraph whose label is the bracketed word once it is trimmed. The table of
contents takes the place of a paragraph that is written as the bracketed word and nothing else. On
plain text without blanks around it the two tests agree. A label that comes from code, an image or
text within markup, or that has blanks around it, only meets the first, and raw HTML in a paragraph
may meet the second by itself.
-/

namespace Folio

open Html Text Toc Emphasis Markdown

/-! ## The bracketed word -/

namespace Toc

theorem isPlaceText_iff_trim {cs : List Char} :
    isPlaceText cs = true ↔ isPlaceText (trim cs) = true ∧ trim cs = cs := by
  constructor
  · intro h
    have htrim := trim_placeText h
    exact ⟨by rwa [htrim], htrim⟩
  · rintro ⟨hplace, htrim⟩
    rwa [htrim] at hplace

/-- In a paragraph that is written with known tags, none of them of a paragraph, the place is found
exactly if the paragraph is the place. -/
theorem isSome_findPlaceholder?_paragraph {opening container close : Token}
    (hopen : opening.kind = .paragraphOpen) (hcontainer : container.kind = .inline)
    (hclose : close.kind = .paragraphClose) (hattrs : opening.attrs = [])
    (hleaves : ∀ c ∈ container.children, c.IsTextLeaf)
    (hquiet : ∀ c ∈ container.children, c.IsQuiet) :
    (findPlaceholder? (siblingsHtml [opening, container, close])).isSome =
      (plainText? container.children).any isPlaceText := by
  have hbehind : splitAtPlaceholder? ['\n'] = none := by decide
  have hhtml := Paragraphed.html hopen hcontainer hclose hattrs []
  rw [findPlaceholder?, hhtml, Option.isSome_map, siblingsHtml, String.toList_empty,
    splitAtPlaceholder?_paragraph (quiet_siblings hleaves hquiet), hbehind,
    isPlaceText_siblingsHtml hleaves hquiet]
  cases (plainText? container.children).any isPlaceText <;> rfl

end Toc

/-! ## The pass over a paragraph -/

namespace Emphasis

/-- A paragraph of one container is counted as passed over exactly if it is taken for the place. -/
theorem spliceAll_paragraph_iff {emphasizer : Emphasizer} {opening container close : Token}
    (hopen : opening.kind = .paragraphOpen) (hcontainer : container.kind = .inline)
    (hclose : close.kind = .paragraphClose) :
    spliceAll emphasizer ⟨[opening, container, close]⟩ =
        (.ok ⟨0, 1, 0⟩, ⟨[opening, container, close]⟩) ↔
      isPlaceholder [container] = true := by
  have hwithin : container.kind ≠ .paragraphClose := by simp [hcontainer]
  have hrest : spliceSiblings emphasizer none [] = .untouched [] := rfl
  cases hplace : isPlaceholder [container] with
  | true =>
    have hbody : spliceParagraph emphasizer [container].reverse = .ok ([container], ⟨0, 1, 0⟩) := by
      simp [spliceParagraph, hplace]
    simp [spliceAll, spliceSiblings_open hopen, spliceSiblings_within hwithin,
      spliceSiblings_close hclose hbody, hrest, Spliced.after, Spliced.untouched, SpliceStats.add]
  | false =>
    simp only [Bool.false_eq_true, iff_false]
    intro hsplice
    have hresult := congrArg Prod.fst hsplice
    simp only [spliceAll, spliceSiblings_open hopen, spliceSiblings_within hwithin] at hresult
    cases hbody : spliceParagraph emphasizer [container].reverse with
    | error e => simp [spliceSiblings_close_error hclose hbody, Spliced.failed] at hresult
    | ok result =>
      obtain ⟨body, stats⟩ := result
      have hskipped : stats.skipped = 0 := by
        rw [List.reverse_singleton, spliceParagraph, if_neg (by simp [hplace])] at hbody
        obtain ⟨spliced, -, hbody⟩ := bind_eq_ok_iff.mp hbody
        simp only at hbody
        split at hbody
        · rw [← (Prod.mk.inj (Except.ok.inj hbody)).2]
        · simp at hbody
      simp [spliceSiblings_close hclose hbody, hrest, Spliced.after, Spliced.untouched,
        SpliceStats.add, hskipped] at hresult

end Emphasis

/-! ## Paragraphs of a page -/

namespace Markdown

/-- Whether a piece of HTML is markup that reading writes for an event, and no raw HTML. -/
def IsOwnHtml (html : String) : Prop :=
  ∃ e : Event, e.isRawHtml = false ∧ e.AddsLeaf (.inlineHtml html)

theorem IsOwnHtml.isMarkup {html : String} (h : IsOwnHtml html) : IsMarkup html := by
  obtain ⟨e, hraw, hadds⟩ := h
  exact InlineBuffer.isQuiet_of_addsLeaf hadds hraw

/-- Whether all but pieces of HTML are written with known tags, raw HTML or not. -/
def KnownLeaves (ts : List Token) : Prop :=
  ∀ c ∈ ts, c.kind ≠ .inlineHtml → c.IsQuiet

theorem KnownLeaves.changes {b : InlineBuffer} {e : Event} {change : InlineBuffer → InlineBuffer}
    (h : KnownLeaves b.children) (hchange : e.Changes change) : KnownLeaves (change b).children := by
  intro c hc hkind
  rcases hchange.mem_children hc with hc | hadds
  · exact h c hc hkind
  · cases hadds with
    | text _ | softBreak => exact InlineBuffer.isQuiet_text _
    | code _ => exact InlineBuffer.isQuiet_codeInline _
    | image _ _ i => exact InlineBuffer.isQuiet_imageToken i
    | _ => exact absurd rfl hkind

/-- Whether a token is no marker of a paragraph with attributes, and its leaves are known. -/
def IsKnownBelow (t : Token) : Prop :=
  (t.kind = .paragraphOpen → t.attrs = []) ∧ KnownLeaves t.children

theorem Event.Adds.isKnownBelow {e : Event} {t : Token} (h : e.Adds t) : IsKnownBelow t := by
  refine ⟨fun hkind => ?_, by simp [KnownLeaves, h.children_eq]⟩
  cases h with
  | textOpening _ | textClosing _ _ => rfl
  | opening ht => simp [(Element.isMarker_of_mem (.inl ht)).1] at hkind
  | closing ht => simp [(Element.isMarker_of_mem (.inr ht)).1] at hkind
  | rule | code _ _ _ | html _ => simp [PageState.codeToken, Token.block, Token.ofKind] at hkind

theorem isKnownBelow_ofEvents (events : List Event) :
    ∀ t ∈ (ParsedPage.ofEvents events).document.tokens, IsKnownBelow t := by
  have hempty : KnownLeaves InlineBuffer.empty.children := by simp [KnownLeaves, InlineBuffer.empty]
  have hcontainer : ∀ b : InlineBuffer, KnownLeaves b.children → IsKnownBelow b.token :=
    fun b hb => ⟨by simp [InlineBuffer.token, Token.inline, Token.ofKind], hb⟩
  have hrun : (events.foldl PageState.step .initial).Holds IsKnownBelow (KnownLeaves ·.children) :=
    List.foldlRecOn events PageState.step PageState.holds_initial fun _ hs e _ =>
      PageState.Holds.step hs (fun _ hadds => hadds.isKnownBelow)
        (fun _ hchange _ hb => hb.changes hchange) hempty (hcontainer _ hempty)
        fun _ b _ hb => hcontainer b hb
  exact hrun.flush fun b _ hb => hcontainer b hb

theorem exists_paragraph {events : List Event} (h : WellNested barsForShape events) {i : Nat}
    {opening : Token} (hi : (ParsedPage.ofEvents events).document.tokens[i]? = some opening)
    (hopen : opening.kind = .paragraphOpen) :
    ∃ container close, (ParsedPage.ofEvents events).document.tokens[i + 1]? = some container ∧
      (ParsedPage.ofEvents events).document.tokens[i + 2]? = some close ∧
      container.kind = .inline ∧ close.kind = .paragraphClose := by
  have hend : opening.kind.textEnd? = some .paragraphClose := by rw [hopen]; rfl
  obtain ⟨source, children, hcontainer, hclose⟩ := (blocks_ofEvents h).filled i opening _ hi hend
  exact ⟨_, _, hcontainer, hclose, rfl, rfl⟩

/-- A paragraph without raw HTML is one that a table of contents takes the place of, when it is
written alone, exactly if it is passed over and holds nothing but text without blanks around it. The
events are nested as for a valid page, so that the paragraph holds no block. -/
theorem found_iff_passed_over {events : List Event} (h : WellNested barsForShape events)
    {emphasizer : Emphasizer} {i : Nat} {opening : Token}
    (hi : (ParsedPage.ofEvents events).document.tokens[i]? = some opening)
    (hopen : opening.kind = .paragraphOpen) :
    ∃ container close, (ParsedPage.ofEvents events).document.tokens[i + 1]? = some container ∧
      (ParsedPage.ofEvents events).document.tokens[i + 2]? = some close ∧
      container.kind = .inline ∧ close.kind = .paragraphClose ∧
      ((∀ c ∈ container.children, c.kind = .inlineHtml → IsOwnHtml c.content) →
        ((findPlaceholder? (siblingsHtml [opening, container, close])).isSome = true ↔
          spliceAll emphasizer ⟨[opening, container, close]⟩ =
              (.ok ⟨0, 1, 0⟩, ⟨[opening, container, close]⟩) ∧
            ∃ cs, plainText? container.children = some cs ∧ trim cs = cs)) := by
  obtain ⟨container, close, hcontainer, hclose, hinline, hend⟩ := exists_paragraph h hi hopen
  refine ⟨container, close, hcontainer, hclose, hinline, hend, fun hown => ?_⟩
  have hpage := isPage_ofEvents events container (List.mem_of_getElem? hcontainer)
  have hknown := isKnownBelow_ofEvents events
  have hquiet : ∀ c ∈ container.children, c.IsQuiet := by
    intro c hc
    by_cases hkind : c.kind = .inlineHtml
    · have hmarkup := (hown c hc hkind).isMarkup
      simpa [Token.IsQuiet, hkind] using hmarkup
    · exact (hknown container (List.mem_of_getElem? hcontainer)).2 c hc hkind
  have hattrs := (hknown opening (List.mem_of_getElem? hi)).1 hopen
  have hlabelled := isLabelled_ofEvents h container (List.mem_of_getElem? hcontainer) hinline
  rw [isSome_findPlaceholder?_paragraph hopen hinline hend hattrs hpage.leaves hquiet,
    spliceAll_paragraph_iff hopen hinline hend]
  cases htext : plainText? container.children with
  | none => simp
  | some cs =>
    have hlabel : [container].flatMap (·.content.toList) = cs := by simpa using hlabelled cs htext
    have hplace : isPlaceholder [container] = isPlaceText (trim cs) := by
      rw [isPlaceholder, hlabel, isPlaceText]
    rw [Option.any_some, hplace, isPlaceText_iff_trim]
    simp

theorem isOwnHtml_ofEvents {events : List Event} (hraw : ∀ e ∈ events, e.isRawHtml = false) :
    ∀ t ∈ (ParsedPage.ofEvents events).document.tokens, ∀ c ∈ t.children,
      c.kind = .inlineHtml → IsOwnHtml c.content := by
  have hadds : ∀ e c, e.isRawHtml = false → Event.AddsLeaf e c → c.kind = .inlineHtml →
      IsOwnHtml c.content := by
    intro e c hown h hkind
    cases h with
    | text _ | code _ | softBreak => exact absurd hkind nofun
    | image _ _ i => simp [(InlineBuffer.imageToken_known i).1] at hkind
    | inlineHtml html => exact ⟨_, hown, .inlineHtml html⟩
    | html html => exact ⟨_, hown, .html html⟩
    | hardBreak => exact ⟨_, hown, .hardBreak⟩
    | taskMarker checked => exact ⟨_, hown, .taskMarker checked⟩
    | startHtml hx => exact ⟨_, hown, .startHtml hx⟩
    | endHtml hx => exact ⟨_, hown, .endHtml hx⟩
  have hrun : (events.foldl PageState.step .initial).Holds
      (fun t => ∀ c ∈ t.children, c.kind = .inlineHtml → IsOwnHtml c.content)
      (fun b => ∀ c ∈ b.children, c.kind = .inlineHtml → IsOwnHtml c.content) := by
    refine List.foldlRecOn events PageState.step PageState.holds_initial fun s hs e he => ?_
    refine PageState.Holds.step hs (fun t ht => by simp [ht.children_eq]) ?_ nofun nofun
      fun _ _ _ hb => hb
    intro change hchange b hb c hc
    rcases hchange.mem_children hc with hc | hleaf
    · exact hb c hc
    · exact hadds e c (hraw e he) hleaf
  exact hrun.flush fun b _ hb => hb

def markerEvents : List Event :=
  [.enter .paragraph, .text "[", .text "Toc]", .leave .paragraph]

theorem found_iff_passed_over_marker :
    WellNested barsForShape markerEvents ∧
      ∃ opening container close : Token,
        (ParsedPage.ofEvents markerEvents).document.tokens = [opening, container, close] ∧
        opening.kind = .paragraphOpen ∧
        (∀ c ∈ container.children, c.kind = .inlineHtml → IsOwnHtml c.content) ∧
        (findPlaceholder? (siblingsHtml [opening, container, close])).isSome = true ∧
        spliceAll Bionic.emphasizer ⟨[opening, container, close]⟩ =
          (.ok ⟨0, 1, 0⟩, ⟨[opening, container, close]⟩) := by
  have hnested : WellNested barsForShape markerEvents := by decide
  have hraw : ∀ e ∈ markerEvents, e.isRawHtml = false := by decide
  obtain ⟨container, close, hcontainer, hclose, -, -, hiff⟩ :=
    @found_iff_passed_over markerEvents hnested Bionic.emphasizer 0 _ rfl rfl
  have hown := isOwnHtml_ofEvents hraw container (List.mem_of_getElem? hcontainer)
  obtain rfl := Option.some.inj hcontainer
  obtain rfl := Option.some.inj hclose
  have hfound : (findPlaceholder? (siblingsHtml
      (ParsedPage.ofEvents markerEvents).document.tokens)).isSome = true := by
    decide +kernel
  exact ⟨hnested, _, _, _, rfl, rfl, hown, hfound, ((hiff hown).mp hfound).1⟩

def codeMarkerEvents : List Event :=
  [.enter .paragraph, .code "[toc]", .leave .paragraph]

/-- A paragraph of raw HTML that is written as the place, with text in front. -/
def rawMarkerEvents : List Event :=
  [.enter .paragraph, .text "a ", .inlineHtml "<p>", .text "[toc]", .inlineHtml "</p>",
    .leave .paragraph]

/-- The code is passed over although it is not found, and the raw HTML is found although it is not
passed over. -/
theorem passed_over_not_found :
    WellNested barsForShape codeMarkerEvents ∧ WellNested barsForShape rawMarkerEvents ∧
      (spliceAll Bionic.emphasizer (ParsedPage.ofEvents codeMarkerEvents).document).1.toOption =
        some ⟨0, 1, 0⟩ ∧
      findPlaceholder? (ParsedPage.ofEvents codeMarkerEvents).document.html = none ∧
      (spliceAll Bionic.emphasizer (ParsedPage.ofEvents rawMarkerEvents).document).1.toOption =
        some ⟨1, 0, 2⟩ ∧
      findPlaceholder? (ParsedPage.ofEvents rawMarkerEvents).document.html = some 5 := by
  decide +kernel

end Markdown

end Folio
