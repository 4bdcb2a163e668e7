import Folio.Proofs.Document.Order
import Folio.Proofs.Emphasis.Bionic
import Folio.Proofs.Markdown.PageShape

/-!
# What stops the emphasis of a page

On a page whose leaves are well formed, emphasis for bionic reading stops for one reason only: a
closed paragraph that is not the place of the table of contents holds a leaf of text with a mark in
it. The error names the text of that leaf.
-/

namespace Folio.Emphasis

/-- The bodies of the closed paragraphs among siblings. `opened` holds in reverse the tokens since a
paragraph was opened, when the siblings are the rest of a longer sequence. -/
def paragraphBodies (opened : Option (List Token)) : List Token → List (List Token)
  | [] => []
  | t :: rest =>
    match opened with
    | none =>
      if t.kind = .paragraphOpen then paragraphBodies (some []) rest else paragraphBodies none rest
    | some reversed =>
      if t.kind = .paragraphClose then reversed.reverse :: paragraphBodies none rest
      else paragraphBodies (some (t :: reversed)) rest

/-- Whether a leaf of text among the tokens, or below them, holds a mark and has the given content.
-/
def HasMarkedText (ts : List Token) (text : String) : Prop :=
  (∃ t ∈ siblingsInOrder ts, t.kind = .text ∧ t.content = text) ∧ text.toList.any isMark = true

theorem HasMarkedText.append_left {ts : List Token} {text : String} (h : HasMarkedText ts text)
    (us : List Token) : HasMarkedText (us ++ ts) text := by
  obtain ⟨⟨t, ht, hkind, hcontent⟩, hmark⟩ := h
  exact ⟨⟨t, by simp [ht], hkind, hcontent⟩, hmark⟩

theorem HasMarkedText.append_right {ts : List Token} {text : String} (h : HasMarkedText ts text)
    (us : List Token) : HasMarkedText (ts ++ us) text := by
  obtain ⟨⟨t, ht, hkind, hcontent⟩, hmark⟩ := h
  exact ⟨⟨t, by simp [ht], hkind, hcontent⟩, hmark⟩

def LeavesChildless (ts : List Token) : Prop :=
  ∀ t ∈ siblingsInOrder ts, t.isMalformedLeaf = false

/-- What splicing with the emphasizer for bionic reading can give: tokens with balanced spans, or
else the error that names a marked text. -/
def GivesSpliced (ts : List Token) (result : Except EnrichError (List Token × MarkCount)) : Prop :=
  (∃ spliced, result = .ok spliced ∧ spliced.2.begins = spliced.2.ends) ∨
    ∃ text, HasMarkedText ts text ∧ result = .error (.sentinelInInput text)

mutual

theorem spliceToken_bionic (t : Token) (hleaves : LeavesChildless [t]) :
    GivesSpliced [t] (spliceToken Bionic.emphasizer t) := by
  match t with
  | ⟨kind, tag, content, attrs, children, nesting⟩ =>
    by_cases hkind : kind = .text
    · subst hkind
      have hmalformed := hleaves ⟨.text, tag, content, attrs, children, nesting⟩
        (by simp [siblingsInOrder, Token.inOrder])
      have hchildren : children.isEmpty = true := by
        simpa [Token.isMalformedLeaf, Kind.isLeaf] using hmalformed
      simp only [spliceToken, if_true, hchildren]
      rcases emphasizeText_bionic content with ⟨hmark, herror⟩ | ⟨result, hresult, heven⟩
      · have hself : ⟨.text, tag, content, attrs, children, nesting⟩ ∈
            siblingsInOrder [⟨.text, tag, content, attrs, children, nesting⟩] := by
          simp [siblingsInOrder, Token.inOrder]
        exact .inr ⟨content, ⟨⟨_, hself, rfl, rfl⟩, hmark⟩, herror⟩
      · exact .inl ⟨result, hresult, heven⟩
    · have hbelow : LeavesChildless children := by
        intro u hu
        exact hleaves u (by simp [siblingsInOrder, Token.inOrder, hu])
      simp only [spliceToken, if_neg hkind]
      rcases spliceBody_bionic children hbelow with ⟨spliced, hspliced, heven⟩ | ⟨text, htext, herror⟩
      · refine .inl ⟨([⟨kind, tag, content, attrs, spliced.1, nesting⟩], spliced.2), ?_, heven⟩
        rw [hspliced]
        rfl
      · obtain ⟨⟨u, hu, hleaf⟩, hmark⟩ := htext
        refine .inr ⟨text, ⟨⟨u, ?_, hleaf⟩, hmark⟩, by rw [herror]; rfl⟩
        simp [siblingsInOrder, Token.inOrder, hu]

theorem spliceBody_bionic (ts : List Token) (hleaves : LeavesChildless ts) :
    GivesSpliced ts (spliceBody Bionic.emphasizer ts) := by
  match ts with
  | [] => exact .inl ⟨_, rfl, rfl⟩
  | t :: rest =>
    have ht : LeavesChildless [t] := by
      intro u hu
      exact hleaves u (by simp [siblingsInOrder] at hu ⊢; exact .inl hu)
    have hrest : LeavesChildless rest := fun u hu => hleaves u (by simp [siblingsInOrder, hu])
    simp only [spliceBody]
    rcases spliceToken_bionic t ht with ⟨first, hfirst, heven⟩ | ⟨text, htext, herror⟩
    · rcases spliceBody_bionic rest hrest with ⟨others, hothers, heven'⟩ | ⟨text, htext, herror⟩
      · refine .inl ⟨(first.1 ++ others.1, first.2.add others.2), ?_, ?_⟩
        · rw [hfirst, hothers]
          rfl
        · simp [MarkCount.add, heven, heven']
      · exact .inr ⟨text, htext.append_left [t], by rw [hfirst, herror]; rfl⟩
    · exact .inr ⟨text, htext.append_right rest, by rw [herror]; rfl⟩

end

theorem spliceParagraph_bionic_error {body : List Token} {e : EnrichError}
    (hleaves : LeavesChildless body) (h : spliceParagraph Bionic.emphasizer body = .error e) :
    isPlaceholder body = false ∧ ∃ text, HasMarkedText body text ∧ e = .sentinelInInput text := by
  unfold spliceParagraph at h
  by_cases hplace : isPlaceholder body
  · simp [hplace] at h
  · refine ⟨by simpa using hplace, ?_⟩
    rw [if_neg hplace] at h
    rcases spliceBody_bionic body hleaves with ⟨spliced, hspliced, heven⟩ | ⟨text, htext, herror⟩
    · rw [hspliced] at h
      simp [bind, Except.bind, heven] at h
    · rw [herror] at h
      exact ⟨text, htext, (Except.error.inj h).symm⟩

/-! ## Pages -/

variable {emphasizer : Emphasizer}

theorem leavesChildless_of_page {ts : List Token} (h : ∀ t ∈ ts, t.IsPageToken) :
    LeavesChildless ts := by
  have hpage : Document.IsPage ⟨ts⟩ := h
  intro t ht
  rcases hpage.of_mem_inOrder ht with ht | ht
  · simp [Token.isMalformedLeaf, ht.notLeaf]
  · simp [Token.isMalformedLeaf, ht.children]

theorem spliceSiblings_leaves {ts : List Token} (h : ∀ t ∈ ts, t.IsTextLeaf) :
    spliceSiblings emphasizer none ts = .untouched ts := by
  induction ts with
  | nil => rfl
  | cons t rest ih =>
    have ht := h t (by simp)
    have hkind : t.kind ≠ .paragraphOpen := by
      intro hkind
      simpa [hkind, Kind.isLeaf] using ht.isLeaf
    have hbelow : spliceBelow emphasizer t = (t, ⟨0, 0, 0⟩, none) := by
      cases t with
      | mk kind tag content attrs children nesting =>
        obtain rfl : children = [] := ht.children
        rfl
    rw [spliceSiblings_below hkind hbelow, ih fun u hu => h u (by simp [hu])]
    rfl

theorem spliceBelow_page {t : Token} (ht : t.IsPageToken) :
    spliceBelow emphasizer t = (t, ⟨0, 0, 0⟩, none) := by
  cases t with
  | mk kind tag content attrs children nesting =>
    rw [spliceBelow, spliceSiblings_leaves ht.leaves]
    rfl

/-- The error that stops the pass over a page names a marked text of a closed paragraph. -/
theorem spliceSiblings_bionic_error {ts : List Token} {before : Option (Token × List Token)}
    {e : EnrichError} (hts : ∀ t ∈ ts, t.IsPageToken)
    (hbefore : ∀ opening reversed, before = some (opening, reversed) → ∀ t ∈ reversed, t.IsPageToken)
    (h : (spliceSiblings Bionic.emphasizer before ts).error? = some e) :
    ∃ body ∈ paragraphBodies (before.map (·.2)) ts, isPlaceholder body = false ∧
      ∃ text, HasMarkedText body text ∧ e = .sentinelInInput text := by
  -- The induction is on what is still to be read, and `before` holds the paragraph that is open.
  induction ts generalizing before with
  | nil => cases before <;> simp [spliceSiblings, Spliced.untouched] at h
  | cons t rest ih =>
    have ht := hts t (by simp)
    have hrest : ∀ u ∈ rest, u.IsPageToken := fun u hu => hts u (by simp [hu])
    cases before with
    | none =>
      by_cases hkind : t.kind = .paragraphOpen
      · rw [spliceSiblings_open hkind] at h
        have hlater := ih hrest (by simp) h
        simpa [paragraphBodies, hkind] using hlater
      · rw [spliceSiblings_below hkind (spliceBelow_page ht)] at h
        have hlater := ih hrest (by simp) h
        simpa [paragraphBodies, hkind] using hlater
    | some before =>
      obtain ⟨opening, reversed⟩ := before
      have hreversed := hbefore opening reversed rfl
      by_cases hkind : t.kind = .paragraphClose
      · cases hbody : spliceParagraph Bionic.emphasizer reversed.reverse with
        | error cause =>
          rw [spliceSiblings_close_error hkind hbody] at h
          obtain rfl : cause = e := Option.some.inj h
          have hleaves := leavesChildless_of_page fun u hu => hreversed u (List.mem_reverse.mp hu)
          have hmarked := spliceParagraph_bionic_error hleaves hbody
          exact ⟨reversed.reverse, by simp [paragraphBodies, hkind], hmarked⟩
        | ok result =>
          rw [spliceSiblings_close hkind hbody] at h
          obtain ⟨body, hmem, hmarked⟩ := ih hrest (by simp) h
          exact ⟨body, by simpa [paragraphBodies, hkind] using .inr hmem, hmarked⟩
      · rw [spliceSiblings_within hkind] at h
        have hlonger : ∀ u ∈ t :: reversed, u.IsPageToken := by
          intro u hu
          rcases List.mem_cons.mp hu with rfl | hu
          · exact ht
          · exact hreversed u hu
        have hlater := ih hrest (by rintro _ _ ⟨⟩; exact hlonger) h
        simpa [paragraphBodies, hkind] using hlater

theorem spliceAll_bionic_error {doc spliced : Document} {e : EnrichError} (hdoc : doc.IsPage)
    (h : spliceAll Bionic.emphasizer doc = (.error e, spliced)) :
    ∃ body ∈ paragraphBodies none doc.tokens, isPlaceholder body = false ∧
      ∃ text, HasMarkedText body text ∧ e = .sentinelInInput text := by
  have hresult := congrArg Prod.fst h
  have hstop : (spliceSiblings Bionic.emphasizer none doc.tokens).error? = some e := by
    cases herror : (spliceSiblings Bionic.emphasizer none doc.tokens).error? with
    | none => simp [spliceAll, herror] at hresult
    | some cause =>
      simp only [spliceAll, herror, Option.elim_some, Except.error.injEq] at hresult
      rw [hresult]
  exact spliceSiblings_bionic_error hdoc (by simp) hstop

end Folio.Emphasis
