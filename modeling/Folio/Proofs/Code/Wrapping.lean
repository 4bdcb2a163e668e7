import Folio.Proofs.Code.WrapPoint
import Folio.Proofs.Document.Nodes

/-!
# Wrapped documents

The pass for code goes over a list of paths and changes the document at one after the other. What it
makes of a document is here said without paths: all spans of code are wrapped where they stand, or
else those before the first span with children. Nothing is lost by that, since the code of a span can
be read back from the wrapped one.
-/

namespace Folio.Code

open Token

/-! ## Reading code back -/

/-- The text without the character behind every underscore. -/
def withoutFollowers : List Char → List Char
  | [] => []
  | [c] => [c]
  | c :: d :: rest =>
    if c = '_' then c :: withoutFollowers rest else c :: withoutFollowers (d :: rest)

theorem withoutFollowers_cons {c : Char} (hc : c ≠ '_') (rest : List Char) :
    withoutFollowers (c :: rest) = c :: withoutFollowers rest := by
  cases rest with
  | nil => rfl
  | cons d rest => rw [withoutFollowers, if_neg hc]

/-- This holds whatever the code is, and so also when it has wrap points of its own. -/
theorem withoutFollowers_wrapChars (cs : List Char) : withoutFollowers (wrapChars cs) = cs := by
  induction cs with
  | nil => rfl
  | cons c rest ih =>
    rw [wrapChars, List.flatMap_cons]
    by_cases hc : c = '_'
    · rw [if_pos hc, List.cons_append, List.cons_append, List.nil_append, withoutFollowers, if_pos hc]
      exact congrArg _ ih
    · rw [if_neg hc, List.cons_append, List.nil_append, withoutFollowers_cons hc]
      exact congrArg _ ih

theorem wrapChars_of_not_mem {cs : List Char} (h : '_' ∉ cs) : wrapChars cs = cs := by
  induction cs with
  | nil => rfl
  | cons c rest ih =>
    rw [List.mem_cons, not_or] at h
    rw [wrapChars, List.flatMap_cons, if_neg (Ne.symm h.1), ← wrapChars, ih h.2,
      List.singleton_append]

/-! ## One token -/

/-- A span of code with the class added and a wrap point behind every underscore, and any other token
as it is. -/
def wrapped (t : Token) : Token :=
  if t.kind = .codeInline then
    { t with
      attrs := t.attrs ++ [("class", "code-wrappable")]
      content := String.ofList (t.content.toList.flatMap fun c =>
        if c = '_' then ['_', '\u200b'] else [c]) }
  else t

theorem wrap_eq_wrapped {t : Token} (h : t.kind = .codeInline) : wrap t = wrapped t := by
  have hchars : wrapChars t.content.toList =
      t.content.toList.flatMap fun c => if c = '_' then ['_', '\u200b'] else [c] := by
    unfold wrapChars
    congr 1
    funext c
    by_cases hc : c = '_' <;> simp [hc, wrapPoint]
  rw [wrapped, if_pos h, ← hchars]
  rfl

theorem concernsBare_wrapped : ConcernsBare wrapped := by
  intro t
  unfold wrapped
  by_cases h : t.kind = .codeInline
  · rw [if_pos h, if_pos (by rw [bare_kind, h])]
    rfl
  · rw [if_neg h, if_neg (by rwa [bare_kind])]
    cases t
    rfl

theorem wrapped_content {t : Token} (h : t.kind = .codeInline) :
    withoutFollowers (wrapped t).content.toList = t.content.toList := by
  rw [← wrap_eq_wrapped h]
  have hcontent : (wrap t).content.toList = wrapChars t.content.toList := String.toList_ofList
  rw [hcontent, withoutFollowers_wrapChars]

/-! ## One node after the other -/

/-- What becomes of nodes when the spans among them are wrapped in order: either all are, or those
before the first that has children. -/
inductive WrapsNodes : List (Token × Nat) → Option EnrichError → List (Token × Nat) → Prop
  | all {ns : List (Token × Nat)} (hleaves : ∀ n ∈ ns, n.1.kind = .codeInline → n.2 = 0) :
      WrapsNodes ns none (ns.map (changeNode wrapped))
  | upTo (before : List (Token × Nat)) {behind : List (Token × Nat)} {n : Token × Nat}
      (hleaves : ∀ m ∈ before, m.1.kind = .codeInline → m.2 = 0)
      (hspan : n.1.kind = .codeInline) (hchildren : n.2 ≠ 0) :
      WrapsNodes (before ++ n :: behind) (some (.codeInlineHasChildren n.1.content n.2))
        (before.map (changeNode wrapped) ++ n :: behind)

theorem WrapsNodes.cons {ns ms : List (Token × Nat)} {e? : Option EnrichError}
    (h : WrapsNodes ns e? ms) {n : Token × Nat} (hn : n.1.kind = .codeInline → n.2 = 0) :
    WrapsNodes (n :: ns) e? (changeNode wrapped n :: ms) := by
  cases h with
  | all hleaves => exact .all (List.forall_mem_cons.mpr ⟨hn, hleaves⟩)
  | upTo before hleaves hspan hchildren =>
    exact .upTo (n :: before) (List.forall_mem_cons.mpr ⟨hn, hleaves⟩) hspan hchildren

theorem holdsAt_isSpan (doc : Document) (path : Path) :
    Outline.holdsAt doc isSpan path = ((doc.get? path).map node).any fun n => isSpan n.1 := by
  rw [Outline.holdsAt]
  cases doc.get? path <;> rfl

theorem holdsAt_wrap (doc : Document) (path other : Path) :
    Outline.holdsAt (doc.modify path wrap) isSpan other = Outline.holdsAt doc isSpan other := by
  rw [holdsAt_isSpan, holdsAt_isSpan, doc.get?_modify_node concernsBare_wrap]
  cases doc.get? other with
  | none => rfl
  | some t => by_cases h : other = path <;> simp [h, node, isSpan, wrap, pushAttr]

theorem wrapAt_nodes {doc : Document} {front behind : List Path} {before after : List (Token × Nat)}
    (hpaths : (Outline.ofDocument doc).paths = front ++ behind)
    (hnodes : doc.nodes = before ++ after) (hlength : front.length = before.length) :
    ∃ ms, WrapsNodes after (wrapAt doc (behind.filter (Outline.holdsAt doc isSpan))).1 ms ∧
      (wrapAt doc (behind.filter (Outline.holdsAt doc isSpan))).2.nodes = before ++ ms := by
  induction behind generalizing doc front before after with
  | nil =>
    obtain ⟨-, hleft⟩ := Document.some_nodes_append hpaths hnodes hlength
    obtain rfl : after = [] := by simpa using hleft.symm
    exact ⟨[], .all (by simp), hnodes⟩
  | cons path behind ih =>
    obtain ⟨-, hleft⟩ := Document.some_nodes_append hpaths hnodes hlength
    obtain ⟨n, after, rfl⟩ : ∃ n rest, after = n :: rest := by
      cases after with
      | nil => simp at hleft
      | cons n rest => exact ⟨n, rest, rfl⟩
    obtain ⟨t, ht, rfl⟩ := Option.map_eq_some_iff.mp (List.cons.inj hleft).1
    have hholds : Outline.holdsAt doc isSpan path = isSpan t := by rw [Outline.holdsAt, ht]; rfl
    -- Whether the document is changed here or not, the loop goes on behind this path.
    have hstep : ∀ {d : Document}, Outline.ofDocument d = Outline.ofDocument doc →
        d.nodes = before ++ changeNode wrapped t.node :: after →
        (t.kind = .codeInline → t.children.length = 0) →
        ∃ ms, WrapsNodes (t.node :: after)
            (wrapAt d (behind.filter (Outline.holdsAt d isSpan))).1 ms ∧
          (wrapAt d (behind.filter (Outline.holdsAt d isSpan))).2.nodes = before ++ ms := by
      intro d houtline hd hleaf
      have hbehind : (Outline.ofDocument d).paths = front ++ [path] ++ behind := by
        rw [houtline, hpaths, List.append_cons]
      rw [List.append_cons] at hd
      obtain ⟨ms, hwraps, hms⟩ := ih hbehind hd (by simp [hlength])
      exact ⟨_, hwraps.cons hleaf, by simpa using hms⟩
    by_cases hspan : t.kind = .codeInline
    · rw [List.filter_cons_of_pos (by rw [hholds, isSpan, hspan]; rfl), wrapAt, ht]
      by_cases hchildren : t.children = []
      · have hchanged := Document.nodes_modify concernsBare_wrap hpaths hnodes hlength
        rw [← node_change concernsBare_wrap, wrap_eq_wrapped hspan,
          node_change concernsBare_wrapped] at hchanged
        have hleft := hstep (doc.outline_modify concernsBare_wrap path) hchanged (by simp [hchildren])
        rw [funext (holdsAt_wrap doc path)] at hleft
        simpa [isMalformedLeaf, hchildren] using hleft
      · have hmalformed : t.isMalformedLeaf = true := by
          simp [isMalformedLeaf, hspan, Kind.isLeaf, hchildren]
        simp only [hmalformed, if_true]
        refine ⟨_, .upTo [] ?_ hspan ?_, hnodes⟩
        · simp
        · simpa [node] using hchildren
    · rw [List.filter_cons_of_neg (by rw [hholds]; simpa [isSpan] using hspan)]
      refine hstep rfl ?_ (absurd · hspan)
      rw [← node_change concernsBare_wrapped, wrapped, if_neg hspan, hnodes]

theorem wrapAll_nodes (doc : Document) :
    ∃ e? ms, WrapsNodes doc.nodes e? ms ∧ (wrapAll doc).2.nodes = ms ∧
      (wrapAll doc).1 = e?.elim (.ok (doc.inOrder.countP isSpan)) .error := by
  have hpaths : (Outline.ofDocument doc).paths = [] ++ (Outline.ofDocument doc).paths := rfl
  have hnodes : doc.nodes = [] ++ doc.nodes := rfl
  obtain ⟨ms, hwraps, hms⟩ := wrapAt_nodes hpaths hnodes rfl
  refine ⟨_, ms, hwraps, ?_, ?_⟩
  · rw [wrapAll_eq]
    exact hms
  · rw [wrapAll_eq, ← doc.length_pathsWhere]
    rfl

def SpansAreLeaves (ts : List Token) : Prop :=
  ∀ t ∈ ts, t.kind = .codeInline → t.children = []

theorem spansAreLeaves_iff {ts : List Token} :
    SpansAreLeaves ts ↔ ∀ n ∈ ts.map node, n.1.kind = .codeInline → n.2 = 0 := by
  simp [SpansAreLeaves, node]

theorem WrapsNodes.of_none {ts : List Token} {ms : List (Token × Nat)}
    (h : WrapsNodes (ts.map node) none ms) :
    SpansAreLeaves ts ∧ ms = (ts.map node).map (changeNode wrapped) := by
  rw [spansAreLeaves_iff]
  generalize ts.map node = ns at h ⊢
  cases h with
  | all hleaves => exact ⟨hleaves, rfl⟩

theorem WrapsNodes.of_some {ts : List Token} {ms : List (Token × Nat)} {e : EnrichError}
    (h : WrapsNodes (ts.map node) (some e) ms) :
    ∃ before t behind, ts = before ++ t :: behind ∧ SpansAreLeaves before ∧
      t.kind = .codeInline ∧ t.children ≠ [] ∧
      e = .codeInlineHasChildren t.content t.children.length ∧
      ms = before.map (fun u => (wrapped u).node) ++ t.node :: behind.map node := by
  generalize hnodes : ts.map node = ns at h
  cases h with
  | upTo front hleaves hspan hchildren =>
    obtain ⟨before, rest, rfl, rfl, hrest⟩ := List.map_eq_append_iff.mp hnodes
    obtain ⟨t, behind, rfl, rfl, rfl⟩ := List.map_eq_cons_iff.mp hrest
    refine ⟨before, t, behind, rfl, spansAreLeaves_iff.mpr hleaves, hspan, ?_, rfl, ?_⟩
    · intro hnil
      exact hchildren (by rw [node, hnil, List.length_nil])
    · rw [List.map_map]
      congr 1
      exact List.map_congr_left fun u _ => (node_change concernsBare_wrapped u).symm

theorem wrapAll_eq_ok_iff {doc done : Document} {count : Nat} :
    wrapAll doc = (.ok count, done) ↔
      SpansAreLeaves doc.inOrder ∧ count = doc.inOrder.countP isSpan ∧
        done = doc.changeAll wrapped := by
  obtain ⟨e?, ms, hwraps, rfl, hresult⟩ := wrapAll_nodes doc
  have hall : wrapAll doc = ((wrapAll doc).1, (wrapAll doc).2) := rfl
  rw [hall, hresult, Prod.mk.injEq]
  cases e? with
  | none =>
    obtain ⟨hleaves, hnodes⟩ := hwraps.of_none
    have hdone : (wrapAll doc).2 = doc.changeAll wrapped := by
      apply Document.nodes_injective
      rw [doc.nodes_changeAll concernsBare_wrapped]
      exact hnodes
    rw [hdone, Option.elim_none, Except.ok.injEq]
    exact ⟨fun ⟨hcount, h⟩ => ⟨hleaves, hcount.symm, h.symm⟩,
      fun ⟨_, hcount, h⟩ => ⟨hcount.symm, h.symm⟩⟩
  | some e =>
    obtain ⟨before, t, behind, hsplit, -, hspan, hchildren, -⟩ := hwraps.of_some
    constructor
    · rintro ⟨⟨⟩, -⟩
    · rintro ⟨hleaves, -⟩
      exact absurd (hleaves t (by simp [hsplit]) hspan) hchildren

/-- The pass succeeds exactly if no span has children. Then it counts the spans and wraps all of them.
Otherwise it names the first span with children, the spans before are wrapped, and the nodes from it on
are as they were; and nodes determine a document. The code of a span can be read back from the wrapped
span, so spans of different code stay different. -/
theorem wrapAll_exact (doc : Document) :
    ((∃ count, (wrapAll doc).1 = .ok count) ↔
      SpansAreLeaves doc.inOrder) ∧
    (∀ count, (wrapAll doc).1 = .ok count →
      count = doc.inOrder.countP isSpan ∧ (wrapAll doc).2 = doc.changeAll wrapped) ∧
    (∀ e, (wrapAll doc).1 = .error e →
      ∃ before t behind, doc.inOrder = before ++ t :: behind ∧
        SpansAreLeaves before ∧ t.kind = .codeInline ∧ t.children ≠ [] ∧
        e = .codeInlineHasChildren t.content t.children.length ∧
        (wrapAll doc).2.nodes =
          before.map (fun u => (wrapped u).node) ++ t.node :: behind.map node) ∧
    Function.Injective Document.nodes ∧
    (∀ t : Token, t.kind = .codeInline →
      withoutFollowers (wrapped t).content.toList = t.content.toList) ∧
    (∀ t u : Token, t.kind = .codeInline → u.kind = .codeInline →
      (wrapped t).content = (wrapped u).content → t.content = u.content) := by
  obtain ⟨e?, ms, hwraps, rfl, hresult⟩ := wrapAll_nodes doc
  refine ⟨?_, ?_, ?_, Document.nodes_injective, fun t ht => wrapped_content ht, ?_⟩
  · cases e? with
    | none => exact iff_of_true ⟨_, hresult⟩ hwraps.of_none.1
    | some e =>
      obtain ⟨before, t, behind, hsplit, -, hspan, hchildren, -⟩ := hwraps.of_some
      refine iff_of_false ?_ fun hleaves => hchildren (hleaves t (by simp [hsplit]) hspan)
      rintro ⟨count, hcount⟩
      cases hresult.symm.trans hcount
  · intro count hcount
    cases e? with
    | none =>
      refine ⟨(Except.ok.inj (hresult.symm.trans hcount)).symm, Document.nodes_injective ?_⟩
      rw [doc.nodes_changeAll concernsBare_wrapped]
      exact hwraps.of_none.2
    | some e => cases hresult.symm.trans hcount
  · intro e he
    cases e? with
    | none => cases hresult.symm.trans he
    | some e' =>
      obtain rfl : e' = e := Except.error.inj (hresult.symm.trans he)
      exact hwraps.of_some
  · intro t u ht hu h
    have hcontent := congrArg (fun content => withoutFollowers content.toList) h
    simp only [wrapped_content ht, wrapped_content hu] at hcontent
    exact String.toList_injective hcontent

/-- Three spans of code, the second of which has a child. -/
def halfway : Document where
  tokens := [.inline "a" [.codeInline "a_b", { Token.codeInline "x_y" with children := [.text "z"] },
    .codeInline "c_d"]]

theorem wrapAll_exact_halfway :
    (wrapAll halfway).1 = .error (.codeInlineHasChildren "x_y" 1) ∧
    ∃ before t behind, halfway.inOrder = before ++ t :: behind ∧ t.content = "x_y" ∧
      (wrapAll halfway).2.nodes =
        before.map (fun u => (wrapped u).node) ++ t.node :: behind.map node := by
  have herror : (wrapAll halfway).1 = .error (.codeInlineHasChildren "x_y" 1) := by rfl
  obtain ⟨-, -, hfail, -⟩ := wrapAll_exact halfway
  obtain ⟨before, t, behind, hsplit, -, -, -, he, hnodes⟩ := hfail _ herror
  obtain ⟨hcontent, -⟩ := EnrichError.codeInlineHasChildren.inj he
  exact ⟨herror, before, t, behind, hsplit, hcontent.symm, hnodes⟩

end Folio.Code
