import Folio.Proofs.Emphasis.MarkedText
import Folio.Proofs.Emphasis.Reach

/-!
# What a failing splice leaves

A paragraph fails at the first leaf of text in its body that cannot be emphasized, in document
order. The marks of leaves that can be are balanced, so counting them once more over the whole body
never fails. The pass ends at the first paragraph that fails. That paragraph has lost its body then,
what stands before it is spliced, and everything else is as it was.
-/

namespace Folio.Emphasis

variable {emphasizer : Emphasizer}

/-! ## The leaf that fails -/

def failure? {ε α : Type} : Except ε α → Option ε
  | .ok _ => none
  | .error e => some e

theorem failure?_bind_ok {ε α β : Type} (x : Except ε α) (f : α → β) :
    failure? (x >>= fun a => .ok (f a)) = failure? x := by
  cases x <;> rfl

theorem eq_error_of_failure? {ε α : Type} {x : Except ε α} {e : ε} (h : failure? x = some e) :
    x = .error e := by
  cases x with
  | ok a => simp [failure?] at h
  | error e' => rw [Option.some.inj h]

/-- Why a token cannot be spliced, apart from those below it. Only leaves of text can fail. -/
def leafError? (emphasizer : Emphasizer) (t : Token) : Option EnrichError :=
  if t.kind = .text then
    if t.children.isEmpty then failure? (emphasizeText emphasizer t.content)
    else some (.textHasChildren t.content t.children.length)
  else none

mutual

theorem failure?_spliceToken (t : Token) :
    failure? (spliceToken emphasizer t) = t.inOrder.findSome? (leafError? emphasizer) := by
  match t with
  | ⟨kind, tag, content, attrs, children, nesting⟩ =>
    rw [Token.inOrder_eq, List.findSome?_cons]
    by_cases hkind : kind = .text
    · by_cases hchildren : children.isEmpty
      · obtain rfl : children = [] := List.isEmpty_iff.mp hchildren
        simp only [spliceToken, leafError?, hkind, siblingsInOrder, List.isEmpty_nil, if_true]
        cases failure? (emphasizeText emphasizer content) <;> rfl
      · simp [spliceToken, leafError?, hkind, hchildren, failure?]
    · have hnone : leafError? emphasizer ⟨kind, tag, content, attrs, children, nesting⟩ = none := by
        simp [leafError?, hkind]
      rw [spliceToken, if_neg hkind, hnone, ← failure?_spliceBody children]
      exact failure?_bind_ok _ _

/-- A body fails at the first of its leaves that does. -/
theorem failure?_spliceBody (ts : List Token) :
    failure? (spliceBody emphasizer ts) =
      (siblingsInOrder ts).findSome? (leafError? emphasizer) := by
  match ts with
  | [] => rfl
  | t :: rest =>
    rw [siblingsInOrder, List.findSome?_append, ← failure?_spliceToken t,
      ← failure?_spliceBody rest, spliceBody]
    cases spliceToken emphasizer t with
    | error e => rfl
    | ok first => exact failure?_bind_ok _ _

end

theorem Emphasizes.balanced {ts spliced : List Token} {count : MarkCount}
    (h : Emphasizes emphasizer ts spliced count) : count.begins = count.ends := by
  induction h with
  | nil => rfl
  | text _ _ hpieces _ ih =>
    have hleaf := balanced_emphasizeText hpieces
    simp only at hleaf
    simp [MarkCount.add, hleaf, ih]
  | other _ _ _ ihbelow ih => simp [MarkCount.add, ihbelow, ih]

/-- Why a paragraph with the given body fails: the error of the first leaf of text in it that cannot
be emphasized. One that holds the place of the table of contents never fails. -/
structure Fails (emphasizer : Emphasizer) (body : List Token) (e : EnrichError) : Prop where
  text : isPlaceholder body = false
  first : (siblingsInOrder body).findSome? (leafError? emphasizer) = some e

theorem spliceParagraph_eq_error_iff {body : List Token} {e : EnrichError} :
    spliceParagraph emphasizer body = .error e ↔ Fails emphasizer body e := by
  have hbody : failure? (spliceBody emphasizer body) = _ := failure?_spliceBody body
  cases hplace : isPlaceholder body with
  | true =>
    rw [spliceParagraph, if_pos hplace]
    exact ⟨fun h => by simp at h, fun h => by simp [h.text] at hplace⟩
  | false =>
    rw [spliceParagraph, if_neg (by simp [hplace])]
    cases hspliced : spliceBody emphasizer body with
    | error failed =>
      rw [hspliced] at hbody
      constructor
      · rintro ⟨⟩
        exact ⟨hplace, hbody.symm⟩
      · intro h
        rw [Option.some.inj (hbody.trans h.first)]
        rfl
    | ok result =>
      have hbalanced := (spliceBody_eq_ok_iff.mp hspliced).balanced
      rw [hspliced] at hbody
      constructor
      · intro h
        simp [bind, Except.bind, hbalanced] at h
      · intro h
        simp [failure?, h.first] at hbody

/-! ## What stands before it -/

theorem SpliceStats.zero_add (stats : SpliceStats) : SpliceStats.add ⟨0, 0, 0⟩ stats = stats := by
  simp [SpliceStats.add]

theorem SpliceStats.add_assoc (a b c : SpliceStats) : (a.add b).add c = a.add (b.add c) := by
  simp [SpliceStats.add, Nat.add_assoc]

theorem Spliced.after_append (front front' : List Token) (stats stats' : SpliceStats)
    (s : Spliced) :
    Spliced.after (front ++ front') (stats.add stats') s =
      .after front stats (.after front' stats' s) := by
  simp [Spliced.after, SpliceStats.add_assoc]

theorem closesOpenings_append {ts us : List Token} (hts : ClosesOpenings ts)
    (hus : ClosesOpenings us) : ClosesOpenings (ts ++ us) := by
  induction ts with
  | nil => exact hus
  | cons t rest ih =>
    refine ⟨fun hopen => ?_, ih hts.2⟩
    obtain ⟨u, hu, hclose⟩ := hts.1 hopen
    exact ⟨u, List.mem_append_left us hu, hclose⟩

theorem ClosesOpenings.behind {front rest : List Token} (h : ClosesOpenings (front ++ rest)) :
    ClosesOpenings rest := by
  induction front with
  | nil => exact h
  | cons t front ih => exact ih h.2

theorem closesOpenings_concat {close : Token} (hclose : close.kind = .paragraphClose)
    (ts : List Token) : ClosesOpenings (ts ++ [close]) := by
  induction ts with
  | nil => exact ⟨fun hopen => by simp [hclose] at hopen, trivial⟩
  | cons t rest ih => exact ⟨fun _ => ⟨close, by simp, hclose⟩, ih⟩

/-- Siblings whose paragraphs are all closed are spliced without regard to what follows. -/
theorem Reaches.spliceSiblings_append {front front' : List Token} {stats : SpliceStats}
    (h : Reaches emphasizer false front front' stats) (hclosed : ClosesOpenings front)
    (rest : List Token) :
    spliceSiblings emphasizer none (front ++ rest) =
      .after front' stats (spliceSiblings emphasizer none rest) := by
  induction h with
  | nil => simp [Spliced.after, SpliceStats.zero_add]
  | @outside t below others others' stats stats' ht hbelow _ _ ih =>
    have hspliced : spliceBelow emphasizer t = ({ t with children := below }, stats, none) := by
      cases t
      rw [spliceBelow, hbelow.spliceSiblings_eq]
    rw [List.cons_append, spliceSiblings_below ht hspliced, ih hclosed.2, ← Spliced.after_append]
    rfl
  | @paragraph opening close body spliced others others' stats stats' hopen hbody hclose hspliced _
      ih =>
    have hresult :
        spliceParagraph emphasizer (body.reverse ++ []).reverse = .ok (spliced, stats) := by
      simpa using spliceParagraph_eq_ok_iff.mpr hspliced
    have hothers : ClosesOpenings others := hclosed.behind.2
    rw [List.append_assoc, List.cons_append, List.cons_append, spliceSiblings_open hopen,
      spliceSiblings_body hbody, spliceSiblings_close hclose hresult, ih hothers,
      ← Spliced.after_append]
    simp
  | passed hpast => simp at hpast
  | left _ hopen hunclosed =>
    obtain ⟨u, hu, hclose⟩ := hclosed.1 hopen
    exact absurd hclose (hunclosed u hu)

/-! ## The damage -/

/-- How siblings are left when a paragraph among them or below them fails. What stands before it,
with every paragraph closed, is spliced. The paragraph itself stands outside of any other. Of it,
the opening and the closing are left. -/
inductive Damages (emphasizer : Emphasizer) : List Token → List Token → EnrichError → Prop
  | here {front front' body rest : List Token} {opening close : Token} {stats : SpliceStats}
      {e : EnrichError} (hfront : spliceAll emphasizer ⟨front⟩ = (.ok stats, ⟨front'⟩))
      (hclosed : ClosesOpenings front) (hopen : opening.kind = .paragraphOpen)
      (hbody : HasNoClosing body) (hclose : close.kind = .paragraphClose)
      (hfails : Fails emphasizer body e) :
      Damages emphasizer (front ++ opening :: body ++ close :: rest)
        (front' ++ opening :: close :: rest) e
  | deeper {front front' below rest : List Token} {t : Token} {stats : SpliceStats}
      {e : EnrichError} (hfront : spliceAll emphasizer ⟨front⟩ = (.ok stats, ⟨front'⟩))
      (hclosed : ClosesOpenings front) (ht : t.kind ≠ .paragraphOpen)
      (hbelow : Damages emphasizer t.children below e) :
      Damages emphasizer (front ++ t :: rest) (front' ++ { t with children := below } :: rest) e

theorem spliceAll_nil : spliceAll emphasizer ⟨[]⟩ = (.ok ⟨0, 0, 0⟩, ⟨[]⟩) :=
  rfl

theorem Damages.behind {front front' rest left : List Token} {stats : SpliceStats} {e : EnrichError}
    (hfront : Reaches emphasizer false front front' stats) (hclosed : ClosesOpenings front)
    (h : Damages emphasizer rest left e) :
    Damages emphasizer (front ++ rest) (front' ++ left) e := by
  have hlonger : ∀ {ts ts' stats'}, spliceAll emphasizer ⟨ts⟩ = (.ok stats', ⟨ts'⟩) →
      spliceAll emphasizer ⟨front ++ ts⟩ = (.ok (stats.add stats'), ⟨front' ++ ts'⟩) := by
    intro ts ts' stats' hts
    have hspliced : Reaches emphasizer false ts ts' stats' := spliceAll_eq_ok_iff.mp hts
    simp only [spliceAll, hfront.spliceSiblings_append hclosed, hspliced.spliceSiblings_eq]
    rfl
  cases h with
  | here hmore hmoreClosed hopen hbody hclose hfails =>
    have hall := closesOpenings_append hclosed hmoreClosed
    simpa using Damages.here (hlonger hmore) hall hopen hbody hclose hfails
  | deeper hmore hmoreClosed ht hbelow =>
    have hall := closesOpenings_append hclosed hmoreClosed
    simpa using Damages.deeper (hlonger hmore) hall ht hbelow

theorem Damages.behind_token {t : Token} {below rest left : List Token} {stats : SpliceStats}
    {e : EnrichError} (ht : t.kind ≠ .paragraphOpen)
    (hbelow : Reaches emphasizer false t.children below stats)
    (h : Damages emphasizer rest left e) :
    Damages emphasizer (t :: rest) ({ t with children := below } :: left) e := by
  have hclosed : ClosesOpenings [t] := ⟨fun hopen => absurd hopen ht, trivial⟩
  exact h.behind (.outside ht hbelow .nil) hclosed

theorem Damages.behind_paragraph {opening close : Token} {body spliced rest left : List Token}
    {stats : SpliceStats} {e : EnrichError} (hopen : opening.kind = .paragraphOpen)
    (hbody : HasNoClosing body) (hclose : close.kind = .paragraphClose)
    (hspliced : SplicesBody emphasizer body spliced stats) (h : Damages emphasizer rest left e) :
    Damages emphasizer (opening :: body ++ close :: rest)
      (opening :: spliced ++ close :: left) e := by
  have hfront : Reaches emphasizer false (opening :: body ++ [close]) _ _ :=
    .paragraph hopen hbody hclose hspliced .nil
  simpa using h.behind hfront (closesOpenings_concat hclose (opening :: body))

theorem Damages.spliceSiblings_eq {ts left : List Token} {e : EnrichError}
    (h : Damages emphasizer ts left e) :
    (spliceSiblings emphasizer none ts).tokens = left ∧
      (spliceSiblings emphasizer none ts).error? = some e := by
  induction h with
  | @here front front' body rest opening close stats e hfront hclosed hopen hbody hclose hfails =>
    have hspliced : Reaches emphasizer false front front' stats := spliceAll_eq_ok_iff.mp hfront
    have hresult : spliceParagraph emphasizer (body.reverse ++ []).reverse = .error e := by
      simpa using spliceParagraph_eq_error_iff.mpr hfails
    rw [List.append_assoc, hspliced.spliceSiblings_append hclosed, List.cons_append,
      spliceSiblings_open hopen, spliceSiblings_body hbody,
      spliceSiblings_close_error hclose hresult]
    exact ⟨rfl, rfl⟩
  | @deeper front front' below rest t stats e hfront hclosed ht _ ih =>
    have hspliced : Reaches emphasizer false front front' stats := spliceAll_eq_ok_iff.mp hfront
    have hbelow : ∃ stats',
        spliceBelow emphasizer t = ({ t with children := below }, stats', some e) := by
      cases t
      exact ⟨_, by rw [spliceBelow, ih.1, ih.2]⟩
    obtain ⟨stats', hbelow⟩ := hbelow
    rw [hspliced.spliceSiblings_append hclosed, spliceSiblings_below_error ht hbelow]
    exact ⟨rfl, rfl⟩

mutual

theorem damages_children_of_spliceBelow {t : Token} {e : EnrichError}
    (herror : (spliceBelow emphasizer t).2.2 = some e) :
    ∃ below, Damages emphasizer t.children below e ∧
      (spliceBelow emphasizer t).1 = { t with children := below } := by
  match t with
  | ⟨kind, tag, content, attrs, children, nesting⟩ =>
    simp only [spliceBelow] at herror ⊢
    exact ⟨_, damages_spliceSiblings isPending_none children herror, rfl⟩

theorem damages_spliceSiblings {before : Option (Token × List Token)} (hbefore : IsPending before)
    (ts : List Token) {e : EnrichError}
    (herror : (spliceSiblings emphasizer before ts).error? = some e) :
    Damages emphasizer (pending before ++ ts) (spliceSiblings emphasizer before ts).tokens e := by
  match ts with
  | [] =>
    cases before <;> simp [spliceSiblings, Spliced.untouched] at herror
  | t :: rest =>
    cases before with
    | none =>
      by_cases hkind : t.kind = .paragraphOpen
      · rw [spliceSiblings_open hkind] at herror ⊢
        exact damages_spliceSiblings (isPending_open hkind) rest herror
      · cases hbelow : spliceBelow emphasizer t with
        | mk spliced result =>
          obtain ⟨stats, e?⟩ := result
          cases e? with
          | some failed =>
            rw [spliceSiblings_below_error hkind hbelow] at herror ⊢
            obtain rfl : failed = e := Option.some.inj herror
            obtain ⟨below, hchildren, hspliced⟩ :=
              damages_children_of_spliceBelow (t := t) (congrArg (·.2.2) hbelow)
            rw [hbelow] at hspliced
            obtain rfl : spliced = { t with children := below } := hspliced
            exact .deeper spliceAll_nil trivial hkind hchildren
          | none =>
            obtain ⟨below, hchildren, hspliced⟩ :=
              reaches_children_of_spliceBelow (t := t) (congrArg (·.2.2) hbelow)
            rw [hbelow] at hchildren hspliced
            obtain rfl : spliced = { t with children := below } := hspliced
            rw [spliceSiblings_below hkind hbelow] at herror ⊢
            exact (damages_spliceSiblings isPending_none rest herror).behind_token hkind hchildren
    | some before =>
      obtain ⟨opening, reversed⟩ := before
      obtain ⟨hopen, hreversed⟩ := hbefore _ _ rfl
      have hbody : HasNoClosing reversed.reverse := fun u hu => hreversed u (List.mem_reverse.mp hu)
      by_cases hkind : t.kind = .paragraphClose
      · cases hparagraph : spliceParagraph emphasizer reversed.reverse with
        | error failed =>
          rw [spliceSiblings_close_error hkind hparagraph] at herror ⊢
          obtain rfl : failed = e := Option.some.inj herror
          exact .here spliceAll_nil trivial hopen hbody hkind
            (spliceParagraph_eq_error_iff.mp hparagraph)
        | ok result =>
          obtain ⟨body, stats⟩ := result
          rw [spliceSiblings_close hkind hparagraph] at herror ⊢
          have hlater := damages_spliceSiblings isPending_none rest herror
          simpa [pending, Spliced.after] using hlater.behind_paragraph hopen hbody hkind
            (spliceParagraph_eq_ok_iff.mp hparagraph)
      · rw [spliceSiblings_within hkind] at herror ⊢
        have hlater := damages_spliceSiblings (hbefore.within hkind) rest herror
        simpa [pending] using hlater

end

/-- A splice that fails leaves a document in which the first paragraph that fails has lost its body.
What stands before it is spliced, and all else is as it was. -/
theorem spliceAll_eq_error_iff {doc left : Document} {e : EnrichError} :
    spliceAll emphasizer doc = (.error e, left) ↔
      Damages emphasizer doc.tokens left.tokens e := by
  constructor
  · intro h
    simp only [spliceAll, Prod.mk.injEq] at h
    obtain ⟨hresult, rfl⟩ := h
    cases herror : (spliceSiblings emphasizer none doc.tokens).error? with
    | none => simp [herror] at hresult
    | some failed =>
      obtain rfl : failed = e := by simpa [herror] using hresult
      exact damages_spliceSiblings isPending_none doc.tokens herror
  · intro h
    obtain ⟨htokens, herror⟩ := h.spliceSiblings_eq
    simp [spliceAll, htokens, herror]

end Folio.Emphasis
