import Folio.Proofs.Emphasis.Bionic
import Folio.Proofs.Document.Order
import Folio.Proofs.Emphasis.Kept

/-!
# The text that splicing reaches

A sequence of siblings is cut into paragraphs and what stands outside of them: an opening begins a
paragraph if a closing stands behind it, and the first one ends it. Text within a paragraph is
marked once, unless the paragraph is the place of the table of contents. Outside, the children of
each token are cut in the same way.

An opening without a closing behind it begins no paragraph. Splicing stops at it, and does not reach
the closed paragraphs in containers that it holds or that follow.
-/

namespace Folio.Emphasis

variable {emphasizer : Emphasizer}

/-! ## Text within a paragraph -/

/-- How the leaves of text of siblings, and of all that is below them, are replaced by the tokens for
their marked texts. Everything else is kept. The marks of all of them are counted. -/
inductive Emphasizes (emphasizer : Emphasizer) : List Token → List Token → MarkCount → Prop
  | nil : Emphasizes emphasizer [] [] ⟨0, 0⟩
  | text {t : Token} {pieces rest rest' : List Token} {count others : MarkCount}
      (ht : t.kind = .text) (hleaf : t.children = [])
      (hpieces : emphasizeText emphasizer t.content = .ok (pieces, count))
      (hrest : Emphasizes emphasizer rest rest' others) :
      Emphasizes emphasizer (t :: rest) (pieces ++ rest') (count.add others)
  | other {t : Token} {below rest rest' : List Token} {count others : MarkCount}
      (ht : t.kind ≠ .text) (hbelow : Emphasizes emphasizer t.children below count)
      (hrest : Emphasizes emphasizer rest rest' others) :
      Emphasizes emphasizer (t :: rest) ({ t with children := below } :: rest') (count.add others)

mutual

theorem emphasizes_cons_of_spliceToken {t : Token} {result : List Token × MarkCount}
    (h : spliceToken emphasizer t = .ok result) {rest rest' : List Token} {others : MarkCount}
    (hrest : Emphasizes emphasizer rest rest' others) :
    Emphasizes emphasizer (t :: rest) (result.1 ++ rest') (result.2.add others) := by
  match t with
  | ⟨kind, tag, content, attrs, children, nesting⟩ =>
    simp only [spliceToken] at h
    split at h
    · rename_i hkind
      split at h
      · rename_i hchildren
        exact .text hkind (List.isEmpty_iff.mp hchildren) h hrest
      · simp at h
    · rename_i hkind
      obtain ⟨below, hbelow, hresult⟩ := bind_eq_ok_iff.mp h
      rw [← Except.ok.inj hresult]
      exact .other hkind (emphasizes_of_spliceBody hbelow) hrest

theorem emphasizes_of_spliceBody {ts : List Token} {result : List Token × MarkCount}
    (h : spliceBody emphasizer ts = .ok result) :
    Emphasizes emphasizer ts result.1 result.2 := by
  match ts with
  | [] =>
    rw [← Except.ok.inj h]
    exact .nil
  | t :: rest =>
    simp only [spliceBody] at h
    obtain ⟨first, hfirst, h⟩ := bind_eq_ok_iff.mp h
    obtain ⟨others, hothers, hresult⟩ := bind_eq_ok_iff.mp h
    rw [← Except.ok.inj hresult]
    exact emphasizes_cons_of_spliceToken hfirst (emphasizes_of_spliceBody hothers)

end

theorem Emphasizes.spliceBody_eq {ts spliced : List Token} {count : MarkCount}
    (h : Emphasizes emphasizer ts spliced count) :
    spliceBody emphasizer ts = .ok (spliced, count) := by
  induction h with
  | nil => rfl
  | @text t pieces rest rest' count others ht hleaf hpieces _ ih =>
    have hfirst : spliceToken emphasizer t = .ok (pieces, count) := by
      cases t
      simp_all [spliceToken]
    rw [spliceBody, hfirst, ih]
    rfl
  | @other t below rest rest' count others ht _ _ ihbelow ih =>
    have hfirst : spliceToken emphasizer t = .ok ([{ t with children := below }], count) := by
      cases t
      rw [spliceToken, if_neg ht, ihbelow]
      rfl
    rw [spliceBody, hfirst, ih]
    rfl

/-- Splicing a body replaces its leaves of text, and nothing else. -/
theorem spliceBody_eq_ok_iff {ts spliced : List Token} {count : MarkCount} :
    spliceBody emphasizer ts = .ok (spliced, count) ↔ Emphasizes emphasizer ts spliced count :=
  ⟨fun h => emphasizes_of_spliceBody h, Emphasizes.spliceBody_eq⟩

/-! ## Paragraphs among siblings -/

def HasNoClosing (ts : List Token) : Prop :=
  ∀ t ∈ ts, t.kind ≠ .paragraphClose

inductive SplicesBody (emphasizer : Emphasizer) : List Token → List Token → SpliceStats → Prop
  | place {body : List Token} (hplace : isPlaceholder body = true) :
      SplicesBody emphasizer body body ⟨0, 1, 0⟩
  | text {body spliced : List Token} {count : MarkCount} (hplace : isPlaceholder body = false)
      (hspliced : Emphasizes emphasizer body spliced count) (hbalanced : count.begins = count.ends) :
      SplicesBody emphasizer body spliced ⟨1, 0, count.begins⟩

/-- What becomes of siblings when text is marked in closed paragraphs only. An opening that is never
closed is passed like any other token, or else everything from it on is left as it is. -/
inductive Reaches (emphasizer : Emphasizer) (past : Bool) :
    List Token → List Token → SpliceStats → Prop
  | nil : Reaches emphasizer past [] [] ⟨0, 0, 0⟩
  | outside {t : Token} {below rest rest' : List Token} {stats others : SpliceStats}
      (ht : t.kind ≠ .paragraphOpen) (hbelow : Reaches emphasizer past t.children below stats)
      (hrest : Reaches emphasizer past rest rest' others) :
      Reaches emphasizer past (t :: rest) ({ t with children := below } :: rest') (stats.add others)
  | paragraph {opening close : Token} {body spliced rest rest' : List Token}
      {stats others : SpliceStats} (hopen : opening.kind = .paragraphOpen) (hbody : HasNoClosing body)
      (hclose : close.kind = .paragraphClose) (hspliced : SplicesBody emphasizer body spliced stats)
      (hrest : Reaches emphasizer past rest rest' others) :
      Reaches emphasizer past (opening :: body ++ close :: rest) (opening :: spliced ++ close :: rest')
        (stats.add others)
  | passed {opening : Token} {below rest rest' : List Token} {stats others : SpliceStats}
      (hpast : past = true) (hopen : opening.kind = .paragraphOpen) (hunclosed : HasNoClosing rest)
      (hbelow : Reaches emphasizer past opening.children below stats)
      (hrest : Reaches emphasizer past rest rest' others) :
      Reaches emphasizer past (opening :: rest) ({ opening with children := below } :: rest')
        (stats.add others)
  | left {opening : Token} {rest : List Token} (hpast : past = false)
      (hopen : opening.kind = .paragraphOpen) (hunclosed : HasNoClosing rest) :
      Reaches emphasizer past (opening :: rest) (opening :: rest) ⟨0, 0, 0⟩

theorem spliceParagraph_eq_ok_iff {body spliced : List Token} {stats : SpliceStats} :
    spliceParagraph emphasizer body = .ok (spliced, stats) ↔
      SplicesBody emphasizer body spliced stats := by
  constructor
  · intro h
    unfold spliceParagraph at h
    split at h
    · rename_i hplace
      obtain ⟨rfl, rfl⟩ := Prod.mk.inj (Except.ok.inj h)
      exact .place hplace
    · rename_i hplace
      obtain ⟨⟨spliced, count⟩, hspliced, h⟩ := bind_eq_ok_iff.mp h
      simp only at h
      split at h
      · rename_i hbalanced
        obtain ⟨rfl, rfl⟩ := Prod.mk.inj (Except.ok.inj h)
        exact .text (by simpa using hplace) (spliceBody_eq_ok_iff.mp hspliced) hbalanced
      · simp at h
  · intro h
    cases h with
    | place hplace => simp [spliceParagraph, hplace]
    | text hplace hspliced hbalanced =>
      rw [spliceParagraph, if_neg (by simp [hplace]), hspliced.spliceBody_eq]
      simp [bind, Except.bind, hbalanced]

/-! ### From a run of the pass -/

/-- Whether a paragraph that is being read begins with an opening and has not been closed. -/
def IsPending (before : Option (Token × List Token)) : Prop :=
  ∀ opening reversed, before = some (opening, reversed) →
    opening.kind = .paragraphOpen ∧ HasNoClosing reversed

theorem isPending_none : IsPending none :=
  nofun

theorem isPending_open {t : Token} (ht : t.kind = .paragraphOpen) : IsPending (some (t, [])) := by
  rintro _ _ ⟨⟩
  exact ⟨ht, by simp [HasNoClosing]⟩

theorem IsPending.within {opening t : Token} {reversed : List Token}
    (h : IsPending (some (opening, reversed))) (ht : t.kind ≠ .paragraphClose) :
    IsPending (some (opening, t :: reversed)) := by
  rintro _ _ ⟨⟩
  exact ⟨(h _ _ rfl).1, List.forall_mem_cons.mpr ⟨ht, (h _ _ rfl).2⟩⟩

mutual

theorem reaches_children_of_spliceBelow {t : Token} (hok : (spliceBelow emphasizer t).2.2 = none) :
    ∃ below, Reaches emphasizer false t.children below (spliceBelow emphasizer t).2.1 ∧
      (spliceBelow emphasizer t).1 = { t with children := below } := by
  match t with
  | ⟨kind, tag, content, attrs, children, nesting⟩ =>
    simp only [spliceBelow] at hok ⊢
    exact ⟨_, reaches_spliceSiblings isPending_none children hok, rfl⟩

/-- Siblings that are spliced without an error become what they should, together with those read
before them. -/
theorem reaches_spliceSiblings {before : Option (Token × List Token)} (hbefore : IsPending before)
    (ts : List Token) (hok : (spliceSiblings emphasizer before ts).error? = none) :
    Reaches emphasizer false (pending before ++ ts) (spliceSiblings emphasizer before ts).tokens
      (spliceSiblings emphasizer before ts).stats := by
  match ts with
  | [] =>
    cases before with
    | none => exact .nil
    | some before =>
      -- What is still pending here was never closed.
      obtain ⟨hopen, hreversed⟩ := hbefore _ _ rfl
      rw [List.append_nil]
      exact .left rfl hopen fun t ht => hreversed t (List.mem_reverse.mp ht)
  | t :: rest =>
    cases before with
    | none =>
      by_cases hkind : t.kind = .paragraphOpen
      · rw [spliceSiblings_open hkind] at hok ⊢
        exact reaches_spliceSiblings (isPending_open hkind) rest hok
      · cases hbelow : spliceBelow emphasizer t with
        | mk spliced result =>
          obtain ⟨stats, e?⟩ := result
          cases e? with
          | some e => simp [spliceSiblings_below_error hkind hbelow, Spliced.failed] at hok
          | none =>
            obtain ⟨below, hchildren, hspliced⟩ :=
              reaches_children_of_spliceBelow (t := t) (by simp [hbelow])
            rw [hbelow] at hchildren hspliced
            obtain rfl : spliced = { t with children := below } := hspliced
            rw [spliceSiblings_below hkind hbelow] at hok ⊢
            exact .outside hkind hchildren (reaches_spliceSiblings isPending_none rest hok)
    | some before =>
      obtain ⟨opening, reversed⟩ := before
      obtain ⟨hopen, hreversed⟩ := hbefore _ _ rfl
      by_cases hkind : t.kind = .paragraphClose
      · cases hbody : spliceParagraph emphasizer reversed.reverse with
        | error e => simp [spliceSiblings_close_error hkind hbody, Spliced.failed] at hok
        | ok result =>
          obtain ⟨body, stats⟩ := result
          rw [spliceSiblings_close hkind hbody] at hok ⊢
          have hparagraph : Reaches emphasizer false (opening :: reversed.reverse ++ t :: rest) _ _ :=
            .paragraph hopen (fun u hu => hreversed u (List.mem_reverse.mp hu)) hkind
              (spliceParagraph_eq_ok_iff.mp hbody) (reaches_spliceSiblings isPending_none rest hok)
          simpa [pending, Spliced.after] using hparagraph
      · rw [spliceSiblings_within hkind] at hok ⊢
        have hlater := reaches_spliceSiblings (hbefore.within hkind) rest hok
        simpa [pending] using hlater

end

/-! ### To a run of the pass -/

theorem spliceSiblings_body {opening : Token} {body : List Token} (hbody : HasNoClosing body)
    (reversed rest : List Token) :
    spliceSiblings emphasizer (some (opening, reversed)) (body ++ rest) =
      spliceSiblings emphasizer (some (opening, body.reverse ++ reversed)) rest := by
  induction body generalizing reversed with
  | nil => rfl
  | cons t body ih =>
    obtain ⟨ht, hbody⟩ := List.forall_mem_cons.mp hbody
    rw [List.cons_append, spliceSiblings_within ht, ih hbody]
    simp

theorem spliceSiblings_unclosed {opening : Token} {rest : List Token}
    (hopen : opening.kind = .paragraphOpen) (hrest : HasNoClosing rest) :
    spliceSiblings emphasizer none (opening :: rest) = .untouched (opening :: rest) := by
  rw [spliceSiblings_open hopen, ← List.append_nil rest, spliceSiblings_body hrest]
  simp [spliceSiblings]

theorem Reaches.spliceSiblings_eq {ts spliced : List Token} {stats : SpliceStats}
    (h : Reaches emphasizer false ts spliced stats) :
    spliceSiblings emphasizer none ts = ⟨spliced, stats, none⟩ := by
  induction h with
  | nil => rfl
  | @outside t below rest rest' stats others ht _ _ ihbelow ih =>
    have hbelow : spliceBelow emphasizer t = ({ t with children := below }, stats, none) := by
      cases t
      rw [spliceBelow, ihbelow]
    rw [spliceSiblings_below ht hbelow, ih]
    rfl
  | @paragraph opening close body spliced rest rest' stats others hopen hbody hclose hspliced _ ih =>
    have hresult : spliceParagraph emphasizer (body.reverse ++ []).reverse = .ok (spliced, stats) := by
      simpa using spliceParagraph_eq_ok_iff.mpr hspliced
    rw [List.cons_append, spliceSiblings_open hopen, spliceSiblings_body hbody,
      spliceSiblings_close hclose hresult, ih]
    simp [Spliced.after]
  | passed hpast => simp at hpast
  | left _ hopen hunclosed => exact spliceSiblings_unclosed hopen hunclosed

/-- Splicing a document comes to an end without an error exactly if its closed paragraphs can be
spliced, those behind an opening that is never closed apart. -/
theorem spliceAll_eq_ok_iff {doc spliced : Document} {stats : SpliceStats} :
    spliceAll emphasizer doc = (.ok stats, spliced) ↔
      Reaches emphasizer false doc.tokens spliced.tokens stats := by
  constructor
  · intro h
    obtain ⟨hok, htokens⟩ := spliceSiblings_of_spliceAll h
    have hresult := congrArg Prod.fst h
    simp only [spliceAll, hok, Option.elim_none, Except.ok.injEq] at hresult
    rw [htokens, ← hresult]
    exact reaches_spliceSiblings isPending_none doc.tokens hok
  · intro h
    rw [spliceAll, h.spliceSiblings_eq]
    rfl

/-! ## Openings that are never closed -/

/-- Whether a closing stands behind each opening among the siblings. -/
def ClosesOpenings : List Token → Prop
  | [] => True
  | t :: rest =>
    (t.kind = .paragraphOpen → ∃ u ∈ rest, u.kind = .paragraphClose) ∧ ClosesOpenings rest

/-- Whether it does among the siblings and everywhere below them. -/
def ClosesAllOpenings (ts : List Token) : Prop :=
  ClosesOpenings ts ∧ ∀ t ∈ siblingsInOrder ts, ClosesOpenings t.children

theorem ClosesAllOpenings.children {t : Token} {rest : List Token}
    (h : ClosesAllOpenings (t :: rest)) : ClosesAllOpenings t.children := by
  have hmem : ∀ u ∈ t.inOrder, ClosesOpenings u.children :=
    fun u hu => h.2 u (mem_siblingsInOrder_iff.mpr ⟨t, by simp, hu⟩)
  rw [Token.inOrder_eq] at hmem
  exact List.forall_mem_cons.mp hmem

theorem ClosesAllOpenings.tail {t : Token} {rest : List Token}
    (h : ClosesAllOpenings (t :: rest)) : ClosesAllOpenings rest :=
  ⟨h.1.2, fun u hu => h.2 u (by simp [siblingsInOrder, hu])⟩

theorem ClosesAllOpenings.behind {front rest : List Token}
    (h : ClosesAllOpenings (front ++ rest)) : ClosesAllOpenings rest := by
  induction front with
  | nil => exact h
  | cons t front ih => exact ih h.tail

theorem ClosesAllOpenings.closed {opening : Token} {rest : List Token}
    (h : ClosesAllOpenings (opening :: rest)) (hopen : opening.kind = .paragraphOpen) :
    ¬ HasNoClosing rest := by
  obtain ⟨u, hu, hclose⟩ := h.1.1 hopen
  exact fun hunclosed => hunclosed u hu hclose

/-- Where every opening is closed it makes no difference whether one that is not would be passed. -/
theorem Reaches.of_closed {past past' : Bool} {ts spliced : List Token} {stats : SpliceStats}
    (h : Reaches emphasizer past ts spliced stats) (hclosed : ClosesAllOpenings ts) :
    Reaches emphasizer past' ts spliced stats := by
  induction h with
  | nil => exact .nil
  | outside ht _ _ ihbelow ih => exact .outside ht (ihbelow hclosed.children) (ih hclosed.tail)
  | paragraph hopen hbody hclose hspliced _ ih =>
    exact .paragraph hopen hbody hclose hspliced (ih hclosed.behind.tail)
  | passed _ hopen hunclosed => exact absurd hunclosed (hclosed.closed hopen)
  | left _ hopen hunclosed => exact absurd hunclosed (hclosed.closed hopen)

/-- When openings that are never closed are passed, they stand outside of all paragraphs. -/
theorem Reaches.of_unclosed {opening : Token} {rest spliced : List Token} {stats : SpliceStats}
    (h : Reaches emphasizer true (opening :: rest) spliced stats)
    (hopen : opening.kind = .paragraphOpen) (hunclosed : HasNoClosing rest) :
    ∃ below rest' statsBelow others,
      Reaches emphasizer true opening.children below statsBelow ∧
        Reaches emphasizer true rest rest' others ∧
        spliced = { opening with children := below } :: rest' ∧ stats = statsBelow.add others := by
  generalize hts : opening :: rest = ts at h
  cases h with
  | nil => simp at hts
  | outside ht _ _ =>
    obtain ⟨rfl, rfl⟩ := List.cons.inj hts
    exact absurd hopen ht
  | paragraph _ _ hclose _ _ =>
    obtain ⟨rfl, rfl⟩ := List.cons.inj hts
    exact absurd hclose (hunclosed _ (by simp))
  | passed _ _ _ hbelow hrest =>
    obtain ⟨rfl, rfl⟩ := List.cons.inj hts
    exact ⟨_, _, _, _, hbelow, hrest, rfl, rfl⟩
  | left hpast => simp at hpast

/-- Splicing gives what becomes of the document when text is marked in closed paragraphs only, all
that stands behind an opening that is never closed left as it is. A document without such openings is
spliced in all of its closed paragraphs. -/
theorem spliceAll_reaches {doc spliced : Document} {stats : SpliceStats} :
    (spliceAll emphasizer doc = (.ok stats, spliced) ↔
        Reaches emphasizer false doc.tokens spliced.tokens stats) ∧
      (ClosesAllOpenings doc.tokens →
        (spliceAll emphasizer doc = (.ok stats, spliced) ↔
          Reaches emphasizer true doc.tokens spliced.tokens stats)) := by
  refine ⟨spliceAll_eq_ok_iff, fun hclosed => ?_⟩
  rw [spliceAll_eq_ok_iff]
  exact ⟨fun h => h.of_closed hclosed, fun h => h.of_closed hclosed⟩

def container : Token :=
  { Token.block "div" "" with
    children := [.ofKind .paragraphOpen, .text "ab", .ofKind .paragraphClose] }

def closedDocument : Document where
  tokens := [.ofKind .paragraphOpen, .inline "cd" [.text "cd"], .ofKind .paragraphClose, container]

theorem spliceAll_reaches_closed :
    ClosesAllOpenings closedDocument.tokens ∧
      ∃ spliced, spliceAll Bionic.emphasizer closedDocument = (.ok ⟨2, 0, 2⟩, spliced) ∧
        Reaches Bionic.emphasizer true closedDocument.tokens spliced.tokens ⟨2, 0, 2⟩ := by
  have hclosed : ClosesAllOpenings closedDocument.tokens := by
    simp [ClosesAllOpenings, ClosesOpenings, siblingsInOrder, Token.inOrder, closedDocument,
      container, Token.block, Token.inline, Token.ofKind, Token.text]
  have hresult : (spliceAll Bionic.emphasizer closedDocument).1 = .ok ⟨2, 0, 2⟩ := by
    decide +kernel
  have hsplice : spliceAll Bionic.emphasizer closedDocument =
      (.ok ⟨2, 0, 2⟩, (spliceAll Bionic.emphasizer closedDocument).2) := Prod.ext hresult rfl
  exact ⟨hclosed, _, hsplice, (spliceAll_reaches.2 hclosed).mp hsplice⟩

/-- An opening that is never closed, and the container. -/
def danglingDocument : Document where
  tokens := [.ofKind .paragraphOpen, container]

theorem reaches_container : ∃ spliced,
    Reaches Bionic.emphasizer true [container] spliced ⟨1, 0, 1⟩ ∧
      ∀ spliced' stats, Reaches Bionic.emphasizer true [container] spliced' stats →
        stats = ⟨1, 0, 1⟩ := by
  have hclosed : ClosesAllOpenings [container] := by
    simp [ClosesAllOpenings, ClosesOpenings, siblingsInOrder, Token.inOrder, container, Token.block,
      Token.ofKind, Token.text]
  have hresult : (spliceAll Bionic.emphasizer ⟨[container]⟩).1 = .ok ⟨1, 0, 1⟩ := by
    decide
  have hsplice : spliceAll Bionic.emphasizer ⟨[container]⟩ =
      (.ok ⟨1, 0, 1⟩, (spliceAll Bionic.emphasizer ⟨[container]⟩).2) := Prod.ext hresult rfl
  refine ⟨_, (spliceAll_eq_ok_iff.mp hsplice).of_closed hclosed, fun spliced' stats h => ?_⟩
  have hother : spliceAll Bionic.emphasizer ⟨[container]⟩ = (.ok stats, ⟨spliced'⟩) :=
    spliceAll_eq_ok_iff.mpr (h.of_closed hclosed)
  rw [hother] at hresult
  exact Except.ok.inj hresult

/-- The word in the container is in a closed paragraph, and is not marked. -/
theorem spliceAll_stops_at_dangling :
    spliceAll Bionic.emphasizer danglingDocument = (.ok ⟨0, 0, 0⟩, danglingDocument) ∧
      (∃ spliced, Reaches Bionic.emphasizer true danglingDocument.tokens spliced ⟨1, 0, 1⟩) ∧
      ¬ Reaches Bionic.emphasizer true danglingDocument.tokens danglingDocument.tokens ⟨0, 0, 0⟩ := by
  have hunclosed : HasNoClosing [container] := by
    simp [HasNoClosing, container, Token.block, Token.ofKind]
  obtain ⟨spliced, hreaches, hunique⟩ := reaches_container
  have hpassed : Reaches Bionic.emphasizer true danglingDocument.tokens
      (.ofKind .paragraphOpen :: spliced) (SpliceStats.add ⟨0, 0, 0⟩ ⟨1, 0, 1⟩) :=
    .passed rfl rfl hunclosed .nil hreaches
  refine ⟨spliceAll_eq_ok_iff.mpr (.left rfl rfl hunclosed), ⟨_, hpassed⟩, fun h => ?_⟩
  obtain ⟨below, rest', statsBelow, others, -, hrest, -, hstats⟩ := h.of_unclosed rfl hunclosed
  rw [hunique _ _ hrest] at hstats
  simp [SpliceStats.add] at hstats

end Folio.Emphasis
