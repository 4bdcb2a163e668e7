import Folio.Proofs.Document.Change

/-!
# Documents as nodes

A document is as good as the list of its nodes in document order: each token without its children,
and with their number. So a change of the bare token at a position of the outline is a change of one
element of the list, and a change of all bare tokens goes through the list element by element.
-/

namespace Folio

open Token

def Document.nodes (doc : Document) : List (Token × Nat) :=
  doc.inOrder.map node

/-! ## Reading a document back -/

theorem Token.ext_node {t u : Token} (hnode : t.node = u.node) (h : t.children = u.children) :
    t = u := by
  have hbare : t.bare = u.bare := congrArg Prod.fst hnode
  cases t
  cases u
  simp_all [bare]

theorem nodes_cons (t : Token) (rest : List Token) (more : List (Token × Nat)) :
    (siblingsInOrder (t :: rest)).map node ++ more =
      t.node :: ((siblingsInOrder t.children).map node ++
        ((siblingsInOrder rest).map node ++ more)) := by
  simp [siblingsInOrder, Token.inOrder_eq]

/-- The nodes of siblings, if their number is known, say where they end and which they are. -/
theorem siblings_nodes_append_inj {ts us : List Token} {xs ys : List (Token × Nat)}
    (h : (siblingsInOrder ts).map node ++ xs = (siblingsInOrder us).map node ++ ys)
    (hlength : ts.length = us.length) : ts = us ∧ xs = ys := by
  match ts, us with
  | [], [] => exact ⟨rfl, h⟩
  | t :: ts, u :: us =>
    rw [nodes_cons, nodes_cons] at h
    obtain ⟨hnode, hbehind⟩ := List.cons.inj h
    have harity : t.children.length = u.children.length := congrArg Prod.snd hnode
    obtain ⟨hchildren, hlater⟩ := siblings_nodes_append_inj hbehind harity
    obtain ⟨hrest, hmore⟩ := siblings_nodes_append_inj hlater (Nat.succ.inj hlength)
    exact ⟨by rw [Token.ext_node hnode hchildren, hrest], hmore⟩
termination_by sizeOf ts
decreasing_by
  · have hlt := t.sizeOf_children_lt
    simp only [List.cons.sizeOf_spec]
    omega
  · simp only [List.cons.sizeOf_spec]
    omega

theorem siblings_nodes_inj {ts us : List Token}
    (h : (siblingsInOrder ts).map node = (siblingsInOrder us).map node) : ts = us := by
  induction ts generalizing us with
  | nil =>
    cases us with
    | nil => rfl
    | cons u us => simp [siblingsInOrder, Token.inOrder_eq] at h
  | cons t ts ih =>
    cases us with
    | nil => simp [siblingsInOrder, Token.inOrder_eq] at h
    | cons u us =>
      have hnodes : (siblingsInOrder [t]).map node ++ (siblingsInOrder ts).map node =
          (siblingsInOrder [u]).map node ++ (siblingsInOrder us).map node := by
        simpa [siblingsInOrder] using h
      obtain ⟨hfirst, hlater⟩ := siblings_nodes_append_inj hnodes rfl
      rw [(List.cons.inj hfirst).1, ih hlater]

theorem Document.nodes_injective : Function.Injective Document.nodes := by
  intro doc other h
  exact congrArg Document.mk (siblings_nodes_inj h)

/-! ## Changes by nodes -/

def changeNode (change : Token → Token) (n : Token × Nat) : Token × Nat :=
  ((change n.1).bare, n.2)

theorem node_change {change : Token → Token} (h : ConcernsBare change) (t : Token) :
    (change t).node = changeNode change t.node := by
  rw [node, h.children, changeNode, node, h t]
  rfl

theorem Document.some_nodes (doc : Document) :
    (Outline.ofDocument doc).paths.map (fun path => (doc.get? path).map node) =
      doc.nodes.map some := by
  have hnodes := congrArg (List.map (Option.map node)) doc.outline_map_get?
  rw [List.map_map, List.map_map] at hnodes
  rw [nodes, List.map_map]
  exact hnodes

/-- Where the outline is divided, the nodes are divided at the same position. -/
theorem Document.some_nodes_append {doc : Document} {front behind : List Path}
    (hpaths : (Outline.ofDocument doc).paths = front ++ behind) {before after : List (Token × Nat)}
    (hnodes : doc.nodes = before ++ after) (hlength : front.length = before.length) :
    front.map (fun path => (doc.get? path).map node) = before.map some ∧
      behind.map (fun path => (doc.get? path).map node) = after.map some := by
  have hsome := doc.some_nodes
  rw [hpaths, hnodes, List.map_append, List.map_append] at hsome
  exact List.append_inj hsome (by simpa using hlength)

/-- A change at a position of the outline changes the node at that position of the list. -/
theorem Document.nodes_modify {change : Token → Token} (h : ConcernsBare change) {doc : Document}
    {front behind : List Path} {path : Path}
    (hpaths : (Outline.ofDocument doc).paths = front ++ path :: behind)
    {before after : List (Token × Nat)} {n : Token × Nat}
    (hnodes : doc.nodes = before ++ n :: after) (hlength : front.length = before.length) :
    (doc.modify path change).nodes = before ++ changeNode change n :: after := by
  have hnodup := doc.outline_nodup
  rw [hpaths, List.nodup_append, List.nodup_cons] at hnodup
  obtain ⟨-, ⟨hbehind, -⟩, hfront⟩ := hnodup
  have hother : ∀ other, other ≠ path →
      ((doc.modify path change).get? other).map node = (doc.get? other).map node := by
    intro other hne
    rw [doc.get?_modify_node h]
    simp only [if_neg hne]
  obtain ⟨hbefore, hat⟩ := some_nodes_append hpaths hnodes hlength
  obtain ⟨hhere, hafter⟩ := List.cons.inj hat
  have hnew := (doc.modify path change).some_nodes
  rw [doc.outline_modify h, hpaths, List.map_append, List.map_cons] at hnew
  have hchanged : ((doc.modify path change).get? path).map node = some (changeNode change n) := by
    obtain ⟨t, ht, rfl⟩ := Option.map_eq_some_iff.mp hhere
    rw [doc.get?_modify_node h, ht, Option.map_some, if_pos rfl, node_change h]
  have hsame : ∀ paths : List Path, path ∉ paths →
      paths.map (fun other => ((doc.modify path change).get? other).map node) =
        paths.map fun other => (doc.get? other).map node := by
    intro paths hnot
    exact List.map_congr_left fun other hmem => hother other fun heq => hnot (heq ▸ hmem)
  rw [hsame front fun hmem => hfront path hmem path (by simp) rfl, hsame behind hbehind, hchanged,
    hbefore, hafter] at hnew
  apply List.map_injective_iff.mpr fun _ _ heq => Option.some.inj heq
  rw [← hnew, List.map_append, List.map_cons]

mutual

def Token.changeAll (change : Token → Token) : Token → Token
  | ⟨kind, tag, content, attrs, children, nesting⟩ =>
    change ⟨kind, tag, content, attrs, changeSiblings change children, nesting⟩

def changeSiblings (change : Token → Token) : List Token → List Token
  | [] => []
  | t :: rest => t.changeAll change :: changeSiblings change rest

end

def Document.changeAll (change : Token → Token) (doc : Document) : Document :=
  ⟨changeSiblings change doc.tokens⟩

theorem changeSiblings_eq_map (change : Token → Token) (ts : List Token) :
    changeSiblings change ts = ts.map (Token.changeAll change) := by
  induction ts with
  | nil => rfl
  | cons t rest ih => rw [changeSiblings, ih, List.map_cons]

theorem changeSiblings_append (change : Token → Token) (ts us : List Token) :
    changeSiblings change (ts ++ us) = changeSiblings change ts ++ changeSiblings change us := by
  simp [changeSiblings_eq_map]

theorem changeSiblings_reverse (change : Token → Token) (ts : List Token) :
    changeSiblings change ts.reverse = (changeSiblings change ts).reverse := by
  simp [changeSiblings_eq_map]

theorem length_changeSiblings (change : Token → Token) (ts : List Token) :
    (changeSiblings change ts).length = ts.length := by
  rw [changeSiblings_eq_map, List.length_map]

section
variable {change : Token → Token}

mutual

theorem Token.nodes_changeAll (h : ConcernsBare change) (t : Token) :
    (t.changeAll change).inOrder.map node = (t.inOrder.map node).map (changeNode change) := by
  match t with
  | ⟨kind, tag, content, attrs, children, nesting⟩ =>
    have hchildren := nodes_changeSiblings h children
    rw [Token.inOrder_eq, Token.inOrder_eq, List.map_cons, List.map_cons, List.map_cons,
      Token.changeAll, node_change h, h.children, hchildren]
    simp [node, bare, length_changeSiblings]

theorem nodes_changeSiblings (h : ConcernsBare change) (ts : List Token) :
    (siblingsInOrder (changeSiblings change ts)).map node =
      ((siblingsInOrder ts).map node).map (changeNode change) := by
  match ts with
  | [] => rfl
  | t :: rest =>
    rw [changeSiblings, siblingsInOrder, siblingsInOrder, List.map_append, List.map_append,
      List.map_append, Token.nodes_changeAll h t, nodes_changeSiblings h rest]

end

theorem Document.nodes_changeAll (h : ConcernsBare change) (doc : Document) :
    (doc.changeAll change).nodes = doc.nodes.map (changeNode change) :=
  nodes_changeSiblings h doc.tokens

end

end Folio
