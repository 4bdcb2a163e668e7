import Folio.Proofs.Document.Nodes
import Folio.Proofs.Emphasis.Kept

/-!
# Changes that splicing does not see

Splicing reads the kinds of tokens, the leaves of text, and the label of a paragraph, in order to
tell the place of the table of contents from others. A change that leaves all these alone is not seen
by it: the same comes out, with the change done to it, and the same counts or the same error.
-/

namespace Folio.Emphasis

open Token

/-- Whether a change of bare tokens keeps all that splicing looks at. -/
structure IsUnseen (change : Token → Token) : Prop where
  bare : ConcernsBare change
  kind (t : Token) : (change t).kind = t.kind
  piece {t : Token} (h : t.kind = .text ∨ t.kind = .inlineHtml) : change t = t
  place (body : List Token) :
    isPlaceholder (changeSiblings change body) = isPlaceholder body

def changeSpliced {α : Type} (change : Token → Token) (result : List Token × α) : List Token × α :=
  (changeSiblings change result.1, result.2)

namespace IsUnseen

variable {change : Token → Token}

theorem kind_changeAll (h : IsUnseen change) (t : Token) : (t.changeAll change).kind = t.kind := by
  cases t
  rw [changeAll, h.kind]

theorem children_changeAll (h : IsUnseen change) (t : Token) :
    (t.changeAll change).children = changeSiblings change t.children := by
  cases t
  rw [changeAll, h.bare.children]

theorem changeAll_withChildren (h : IsUnseen change) (t : Token) (us : List Token) :
    ({ t with children := us } : Token).changeAll change =
      { t.changeAll change with children := changeSiblings change us } := by
  obtain ⟨kind, tag, content, attrs, children, nesting⟩ := t
  have hleft := h.bare ⟨kind, tag, content, attrs, changeSiblings change us, nesting⟩
  have hright := h.bare ⟨kind, tag, content, attrs, changeSiblings change children, nesting⟩
  rw [changeAll, changeAll, hleft, hright]
  rfl

theorem changeAll_of_piece (h : IsUnseen change) {t : Token}
    (ht : t.kind = .text ∨ t.kind = .inlineHtml) :
    t.changeAll change = { t with children := changeSiblings change t.children } := by
  cases t
  exact h.piece ht

theorem changeSiblings_pieces (h : IsUnseen change) {ts : List Token}
    (hts : ∀ t ∈ ts, IsPiece t) : changeSiblings change ts = ts := by
  induction ts with
  | nil => rfl
  | cons t rest ih =>
    obtain ⟨ht, hrest⟩ := List.forall_mem_cons.mp hts
    have hfirst : t.changeAll change = t := by
      cases ht with
      | text content => exact h.changeAll_of_piece (.inl rfl)
      | spanOpen | spanClose => exact h.changeAll_of_piece (.inr rfl)
    rw [changeSiblings, hfirst, ih hrest]

/-! ### Paragraphs -/

variable (emphasizer : Emphasizer)

theorem emphasizeText_map (h : IsUnseen change) (text : String) :
    (emphasizeText emphasizer text).map (changeSpliced change) = emphasizeText emphasizer text := by
  cases hresult : emphasizeText emphasizer text with
  | error e => rfl
  | ok result =>
    have hpieces := h.changeSiblings_pieces (isPiece_emphasizeText hresult)
    exact congrArg (fun ts => Except.ok (ts, result.2)) hpieces

mutual

theorem spliceToken_changeAll (h : IsUnseen change) (t : Token) :
    spliceToken emphasizer (t.changeAll change) =
      (spliceToken emphasizer t).map (changeSpliced change) := by
  match t with
  | ⟨kind, tag, content, attrs, children, nesting⟩ =>
    by_cases hkind : kind = .text
    · rw [h.changeAll_of_piece (.inl hkind)]
      simp only [spliceToken, if_pos hkind, changeSiblings_eq_map, List.isEmpty_map,
        List.length_map]
      split
      · exact (h.emphasizeText_map emphasizer content).symm
      · rfl
    · have hbelow := h.spliceBody_changeSiblings children
      have hne : (Token.changeAll change ⟨kind, tag, content, attrs, children, nesting⟩).kind ≠
          .text := by
        rwa [h.kind_changeAll]
      rw [spliceToken_of_ne hne, spliceToken_of_ne hkind, h.children_changeAll, hbelow]
      cases spliceBody emphasizer children with
      | error e => rfl
      | ok result =>
        have hspliced := h.changeAll_withChildren ⟨kind, tag, content, attrs, children, nesting⟩ result.1
        exact congrArg (fun u => Except.ok ([u], result.2)) hspliced.symm

theorem spliceBody_changeSiblings (h : IsUnseen change) (ts : List Token) :
    spliceBody emphasizer (changeSiblings change ts) =
      (spliceBody emphasizer ts).map (changeSpliced change) := by
  match ts with
  | [] => rfl
  | t :: rest =>
    have hfirst := h.spliceToken_changeAll t
    have hrest := h.spliceBody_changeSiblings rest
    rw [changeSiblings, spliceBody, spliceBody, hfirst, hrest]
    cases spliceToken emphasizer t with
    | error e => rfl
    | ok first =>
      cases spliceBody emphasizer rest with
      | error e => rfl
      | ok others =>
        have happend := changeSiblings_append change first.1 others.1
        exact congrArg (fun us => Except.ok (us, first.2.add others.2)) happend.symm

end

theorem spliceParagraph_changeSiblings (h : IsUnseen change) (body : List Token) :
    spliceParagraph emphasizer (changeSiblings change body) =
      (spliceParagraph emphasizer body).map (changeSpliced change) := by
  rw [spliceParagraph, spliceParagraph, h.place, h.spliceBody_changeSiblings]
  split
  · rfl
  · cases spliceBody emphasizer body with
    | error e => rfl
    | ok result =>
      obtain ⟨spliced, count⟩ := result
      by_cases hcount : count.begins = count.ends
      · simp [bind, Except.bind, Except.map, changeSpliced, hcount]
      · simp [bind, Except.bind, Except.map, changeSpliced, hcount]

/-! ### Documents -/

def changeOutcome (change : Token → Token) (s : Spliced) : Spliced :=
  { s with tokens := changeSiblings change s.tokens }

theorem changeOutcome_after (front : List Token) (stats : SpliceStats) (s : Spliced) :
    changeOutcome change (s.after front stats) =
      (changeOutcome change s).after (changeSiblings change front) stats := by
  simp [changeOutcome, Spliced.after, changeSiblings_append]

def changeOpened (change : Token → Token) (opened : Option (Token × List Token)) :
    Option (Token × List Token) :=
  opened.map fun (opening, reversed) => (opening.changeAll change, changeSiblings change reversed)

mutual

theorem spliceBelow_changeAll (h : IsUnseen change) (t : Token) :
    spliceBelow emphasizer (t.changeAll change) =
      ((spliceBelow emphasizer t).1.changeAll change, (spliceBelow emphasizer t).2) := by
  match t with
  | ⟨kind, tag, content, attrs, children, nesting⟩ =>
    have hbelow := h.spliceSiblings_changeSiblings none children
    have hchanged := h.changeAll_withChildren ⟨kind, tag, content, attrs, children, nesting⟩
      (spliceSiblings emphasizer none children).tokens
    simp only [changeOpened, Option.map_none] at hbelow
    rw [spliceBelow_eq, spliceBelow_eq, h.children_changeAll, hbelow]
    exact Prod.ext hchanged.symm rfl

/-- Splicing changed siblings gives the spliced siblings, changed, and the same counts and the same
error. -/
theorem spliceSiblings_changeSiblings (h : IsUnseen change) (opened : Option (Token × List Token))
    (ts : List Token) :
    spliceSiblings emphasizer (changeOpened change opened) (changeSiblings change ts) =
      changeOutcome change (spliceSiblings emphasizer opened ts) := by
  -- The changed siblings take the same branch of the loop as the others, since their kinds are kept.
  match ts with
  | [] =>
    cases opened with
    | none => rfl
    | some opened =>
      simp [changeOpened, changeSiblings, spliceSiblings, changeOutcome, Spliced.untouched,
        changeSiblings_reverse]
  | t :: rest =>
    have hkind := h.kind_changeAll t
    cases opened with
    | none =>
      by_cases ht : t.kind = .paragraphOpen
      · have hlater := h.spliceSiblings_changeSiblings (some (t, [])) rest
        rw [spliceSiblings_open ht]
        exact (spliceSiblings_open (hkind.trans ht)).trans hlater
      · have hbelow := h.spliceBelow_changeAll t
        have hlater := h.spliceSiblings_changeSiblings none rest
        have hne : (t.changeAll change).kind ≠ .paragraphOpen := by rwa [hkind]
        cases hresult : spliceBelow emphasizer t with
        | mk spliced result =>
          obtain ⟨stats, e?⟩ := result
          rw [hresult] at hbelow
          cases e? with
          | none =>
            rw [spliceSiblings_below ht hresult, changeOutcome_after, ← hlater]
            exact spliceSiblings_below hne hbelow
          | some e =>
            rw [spliceSiblings_below_error ht hresult]
            exact spliceSiblings_below_error hne hbelow
    | some opened =>
      obtain ⟨opening, reversed⟩ := opened
      by_cases ht : t.kind = .paragraphClose
      · have hbody := h.spliceParagraph_changeSiblings emphasizer reversed.reverse
        have hlater := h.spliceSiblings_changeSiblings none rest
        rw [changeSiblings_reverse] at hbody
        cases hresult : spliceParagraph emphasizer reversed.reverse with
        | error e =>
          rw [hresult] at hbody
          rw [spliceSiblings_close_error ht hresult]
          exact spliceSiblings_close_error (hkind.trans ht) hbody
        | ok result =>
          obtain ⟨body, stats⟩ := result
          rw [hresult] at hbody
          rw [spliceSiblings_close ht hresult, changeOutcome_after, ← hlater]
          refine (spliceSiblings_close (hkind.trans ht) hbody).trans ?_
          simp [changeSiblings, changeSiblings_append]
          rfl
      · have hlater := h.spliceSiblings_changeSiblings (some (opening, t :: reversed)) rest
        rw [spliceSiblings_within ht]
        exact (spliceSiblings_within (by rwa [hkind])).trans hlater

end

theorem spliceAll_changeAll (h : IsUnseen change) (doc : Document) :
    spliceAll emphasizer (doc.changeAll change) =
      ((spliceAll emphasizer doc).1, (spliceAll emphasizer doc).2.changeAll change) := by
  have htokens := h.spliceSiblings_changeSiblings emphasizer none doc.tokens
  simp only [changeOpened, Option.map_none] at htokens
  simp only [spliceAll, Document.changeAll, htokens]
  rfl

end IsUnseen

end Folio.Emphasis
