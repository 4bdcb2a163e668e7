import Folio.Heading.Anchoring
import Folio.Proofs.Document.Congruence
import Folio.Proofs.Document.Enumeration

/-!
# What the anchors of headings are computed from

The pass finds, by positions in the outline, the first content behind each heading. The same anchors
are read off here from the tokens in document order. After the pass each heading carries its anchor
as its identifier, and the bare tokens are otherwise as they were.
-/

namespace Folio.Heading

open Token

/-- The content of the first token that has any, empty if none has. -/
def firstContent : List Token → String
  | [] => ""
  | t :: rest => if t.content.isEmpty then firstContent rest else t.content

/-- The tokens behind each heading of a sequence, for one heading after the other. -/
def behindHeadings : List Token → List (List Token)
  | [] => []
  | t :: rest => if isOpening t then rest :: behindHeadings rest else behindHeadings rest

def headings (doc : Document) : List Token :=
  doc.inOrder.filter isOpening

/-- The bare opening of a heading with the tokens behind it, identified by their first content. -/
def identified (opening : Token) (behind : List Token) : Token :=
  (opening.setAttr "id" (Anchor.ofSection (firstContent behind)).name).bare

theorem length_behindHeadings (doc : Document) :
    (behindHeadings doc.inOrder).length = (headings doc).length := by
  unfold headings
  induction doc.inOrder with
  | nil => rfl
  | cons t rest ih => by_cases ht : isOpening t <;> simp [behindHeadings, ht, ih]

theorem firstContent_eq_empty_iff {ts : List Token} :
    firstContent ts = "" ↔ ∀ t ∈ ts, t.content = "" := by
  induction ts with
  | nil => simp [firstContent]
  | cons t rest ih =>
    by_cases ht : t.content = ""
    · simp [firstContent, ht, ih]
    · simp [firstContent, ht]

/-! ## From positions to tokens -/

def hasContentAt (doc : Document) (path : Path) : Bool :=
  Outline.holdsAt doc (!·.content.isEmpty) path

theorem contentAt_of_path {o : Outline} {doc : Document} {i : Nat} {path : Path} {t : Token}
    (hpath : o.paths[i]? = some path) (ht : doc.get? path = some t) :
    contentAt o doc (some i) = t.content := by
  simp [contentAt, Outline.path?, hpath, ht]

variable {doc : Document} (o : Outline)

/-- Behind any place of the outline, the first marked position is that of the first content. -/
theorem contentAt_first (front : List Path) {paths : List Path} {ts : List Token}
    (ho : o.paths = front ++ paths) (hts : paths.map doc.get? = ts.map some) :
    contentAt o doc (nextMarked front.length (paths.map (hasContentAt doc))).2 =
      firstContent ts := by
  induction paths generalizing front ts with
  | nil =>
    obtain rfl : ts = [] := by simpa using hts.symm
    simp [nextMarked, contentAt, firstContent]
  | cons path paths ih =>
    cases ts with
    | nil => simp at hts
    | cons t ts =>
      obtain ⟨ht, hrest⟩ : doc.get? path = some t ∧ paths.map doc.get? = ts.map some := by
        simpa using hts
      have hpath : o.paths[front.length]? = some path := by simp [ho]
      have hmark : hasContentAt doc path = !t.content.isEmpty := by
        simp [hasContentAt, Outline.holdsAt, ht]
      have hlater := ih (front ++ [path]) (by simp [ho]) hrest
      simp only [List.length_append, List.length_singleton] at hlater
      by_cases hempty : t.content.isEmpty
      · simpa [nextMarked, hmark, firstContent, hempty] using hlater
      · simp [nextMarked, hmark, firstContent, hempty, contentAt_of_path hpath ht]

/-- What becomes of a path with the position of the first content behind it: the bare opening that is
there with its anchor, none if no heading opens there. -/
def identifiedAt? (o : Outline) (doc : Document) (path : Path) (next : Option Nat) : Option Token :=
  if Outline.holdsAt doc isOpening path then
    (doc.get? path).map fun t => (t.setAttr "id" (Anchor.ofSection (contentAt o doc next)).name).bare
  else none

/-- Behind any place of the outline, the headings are identified by what stands behind them. -/
theorem identifiedAt?_behind (front : List Path) {paths : List Path} {ts : List Token}
    (ho : o.paths = front ++ paths) (hts : paths.map doc.get? = ts.map some) :
    (paths.zip (nextMarked front.length (paths.map (hasContentAt doc))).1).filterMap
        (fun x => identifiedAt? o doc x.1 x.2) =
      List.zipWith identified (ts.filter isOpening) (behindHeadings ts) := by
  induction paths generalizing front ts with
  | nil =>
    obtain rfl : ts = [] := by simpa using hts.symm
    simp [behindHeadings]
  | cons path paths ih =>
    cases ts with
    | nil => simp at hts
    | cons t ts =>
      obtain ⟨ht, hrest⟩ : doc.get? path = some t ∧ paths.map doc.get? = ts.map some := by
        simpa using hts
      have hnext := contentAt_first o (front ++ [path]) (by simp [ho]) hrest
      have hlater := ih (front ++ [path]) (by simp [ho]) hrest
      simp only [List.length_append, List.length_singleton] at hnext hlater
      have hopen : Outline.holdsAt doc isOpening path = isOpening t := by
        simp [Outline.holdsAt, ht]
      have hfirst : identifiedAt? o doc path
          (nextMarked (front.length + 1) (paths.map (hasContentAt doc))).2 =
          if isOpening t then some (identified t ts) else none := by
        rw [identifiedAt?, hopen, ht, hnext]
        rfl
      by_cases hisOpen : isOpening t
      · simp [nextMarked, hfirst, hisOpen, behindHeadings, hlater]
      · simp [nextMarked, hfirst, hisOpen, behindHeadings, hlater]

/-! ## Setting the anchors -/

theorem outline_setAnchors (doc : Document) (assigned : List (Path × Anchor)) :
    Outline.ofDocument (setAnchors doc assigned) = Outline.ofDocument doc := by
  induction assigned generalizing doc with
  | nil => rfl
  | cons entry rest ih =>
    obtain ⟨path, a⟩ := entry
    exact (ih _).trans (doc.outline_modify (concernsBare_setAttr "id" a.name) path)

theorem setAnchors_get?_of_not_mem (doc : Document) {assigned : List (Path × Anchor)} {path : Path}
    (h : path ∉ assigned.map (·.1)) :
    ((setAnchors doc assigned).get? path).map bare = (doc.get? path).map bare := by
  induction assigned generalizing doc with
  | nil => rfl
  | cons entry rest ih =>
    obtain ⟨first, a⟩ := entry
    simp only [List.map_cons, List.mem_cons, not_or] at h
    have hstep := doc.get?_modify_bare (concernsBare_setAttr "id" a.name) first path
    simp only [if_neg h.1] at hstep
    exact (ih _ h.2).trans hstep

theorem setAnchors_get?_of_mem (doc : Document) {assigned : List (Path × Anchor)} {path : Path}
    {a : Anchor} (hnodup : (assigned.map (·.1)).Nodup) (h : (path, a) ∈ assigned) :
    ((setAnchors doc assigned).get? path).map bare =
      (doc.get? path).map fun t => (t.setAttr "id" a.name).bare := by
  induction assigned generalizing doc with
  | nil => simp at h
  | cons entry rest ih =>
    obtain ⟨first, b⟩ := entry
    simp only [List.map_cons, List.nodup_cons] at hnodup
    have hstep := doc.get?_modify_bare (concernsBare_setAttr "id" b.name) first path
    rcases List.mem_cons.mp h with heq | hrest
    · obtain ⟨rfl, rfl⟩ : path = first ∧ a = b := by simpa using heq
      have hkept := setAnchors_get?_of_not_mem (doc.modify path (setAttr "id" a.name)) hnodup.1
      simp only [if_true] at hstep
      exact hkept.trans hstep
    · have hne : path ≠ first := by
        rintro rfl
        exact hnodup.1 (List.mem_map_of_mem hrest)
      have hlater := ih (doc.modify first (setAttr "id" b.name)) hnodup.2 hrest
      have hopen : ((doc.modify first (setAttr "id" b.name)).get? path).map
          (fun t => (t.setAttr "id" a.name).bare) =
          (((doc.modify first (setAttr "id" b.name)).get? path).map bare).map
            (setAttr "id" a.name) := by
        rw [Option.map_map]
        rfl
      simp only [if_neg hne] at hstep
      refine hlater.trans ?_
      rw [hopen, hstep, Option.map_map]
      rfl

def LeadToHeadings (doc : Document) (assigned : List (Path × Anchor)) : Prop :=
  ∀ entry ∈ assigned, ∀ t, doc.get? entry.1 = some t → isOpening t = true

theorem leadToHeadings_anchors (doc : Document) : LeadToHeadings doc (anchors doc) := by
  intro entry hentry t ht
  obtain ⟨_, hmem, rfl⟩ := List.mem_map.mp hentry
  have hholds := (List.mem_filter.mp hmem).2
  simpa [Outline.holdsAt, ht] using hholds

theorem LeadToHeadings.setAttr {doc : Document} {assigned : List (Path × Anchor)}
    (h : LeadToHeadings doc assigned) (path : Path) (key value : String) :
    LeadToHeadings (doc.modify path (Token.setAttr key value)) assigned := by
  intro entry hentry t ht
  obtain ⟨u, hu, hkind⟩ :=
    Document.get?_modify_kind (concernsBare_setAttr key value) (fun _ => rfl) ht
  have hopening := h entry hentry u hu
  rwa [isOpening, hkind] at hopening

theorem setAnchors_induction (holds : Document → Prop)
    (hset : ∀ {doc : Document} {path : Path} (a : Anchor),
      (∀ t, doc.get? path = some t → isOpening t = true) → holds doc →
        holds (doc.modify path (Token.setAttr "id" a.name)))
    {doc : Document} {assigned : List (Path × Anchor)} (hheadings : LeadToHeadings doc assigned)
    (h : holds doc) : holds (setAnchors doc assigned) := by
  induction assigned generalizing doc with
  | nil => exact h
  | cons entry rest ih =>
    obtain ⟨path, a⟩ := entry
    have hrest : LeadToHeadings doc rest := fun e he => hheadings e (by simp [he])
    have hfirst := hset a (fun t ht => hheadings (path, a) (by simp) t ht) h
    exact ih (hrest.setAttr path "id" a.name) hfirst

theorem related_assignAnchors {R : List Token → List Token → Prop} (hR : Congruence R)
    (htrans : ∀ {ts us vs}, R ts us → R us vs → R ts vs)
    (hset : ∀ {t : Token} (id : String), isOpening t = true → R [t] [t.setAttr "id" id])
    (doc : Document) : R doc.tokens (assignAnchors doc).2.tokens := by
  refine setAnchors_induction (fun d => R doc.tokens d.tokens) ?_ (leadToHeadings_anchors doc)
    (hR.refl _)
  intro d path a hopening hd
  exact htrans hd (hR.modifyAt fun t ht => hset a.name (hopening t ht))

/-! ## The identifiers of headings -/

def pathsWithNext (doc : Document) : List (Path × Option Nat) :=
  let o := Outline.ofDocument doc
  o.paths.zip (o.nextWithContent doc)

theorem pathsWithNext_map_fst (doc : Document) :
    (pathsWithNext doc).map (·.1) = (Outline.ofDocument doc).paths := by
  apply List.map_fst_zip
  rw [Outline.length_nextWithContent, Outline.size]

theorem anchors_nodup (doc : Document) : ((anchors doc).map (·.1)).Nodup := by
  have hsub : ((anchors doc).map (·.1)).Sublist ((pathsWithNext doc).map (·.1)) := by
    simp only [anchors, List.map_map]
    exact List.filter_sublist.map _
  rw [pathsWithNext_map_fst] at hsub
  exact hsub.nodup doc.outline_nodup

theorem assignAnchors_count (doc : Document) :
    (assignAnchors doc).1 = doc.inOrder.countP isOpening := by
  have hpaths : (anchors doc).length =
      ((pathsWithNext doc).map (·.1)).countP (Outline.holdsAt doc isOpening) := by
    rw [List.countP_map, List.countP_eq_length_filter]
    simp only [anchors, List.length_map]
    rfl
  rw [pathsWithNext_map_fst, List.countP_eq_length_filter] at hpaths
  exact hpaths.trans (doc.length_pathsWhere isOpening)

theorem mem_anchors_iff {doc : Document} {path : Path} {a : Anchor} :
    (path, a) ∈ anchors doc ↔
      ∃ next, (path, next) ∈ pathsWithNext doc ∧ Outline.holdsAt doc isOpening path = true ∧
        Anchor.ofSection (contentAt (Outline.ofDocument doc) doc next) = a := by
  simp [anchors, pathsWithNext, and_assoc]

def bareOpening? (t : Token) : Option Token :=
  if isOpening t then some t.bare else none

@[simp] theorem isOpening_bare (t : Token) : isOpening t.bare = isOpening t := rfl

/-- At every path, the pass leaves a heading with the anchor that the path was assigned. -/
theorem bareOpening?_setAnchors {doc : Document} {path : Path} {next : Option Nat}
    (h : (path, next) ∈ pathsWithNext doc) :
    ((setAnchors doc (anchors doc)).get? path).bind bareOpening? =
      identifiedAt? (Outline.ofDocument doc) doc path next := by
  have hpath : path ∈ (Outline.ofDocument doc).paths := by
    rw [← pathsWithNext_map_fst]
    exact List.mem_map_of_mem h
  obtain ⟨t, ht⟩ := doc.get?_isSome_of_mem hpath
  have hholds : Outline.holdsAt doc isOpening path = isOpening t := by
    simp [Outline.holdsAt, ht]
  have hbare : ∀ found : Option Token, found.bind bareOpening? =
      (found.map bare).bind bareOpening? := by
    intro found
    cases found <;> rfl
  rw [hbare, identifiedAt?, hholds, ht]
  by_cases hopen : isOpening t
  · have hmem := mem_anchors_iff.mpr ⟨next, h, hholds.trans hopen, rfl⟩
    have hset : ∀ name, bareOpening? (t.setAttr "id" name).bare = some (t.setAttr "id" name).bare :=
      fun _ => if_pos hopen
    rw [setAnchors_get?_of_mem doc (anchors_nodup doc) hmem, ht, if_pos hopen]
    exact hset _
  · have hnot : path ∉ (anchors doc).map (·.1) := by
      intro hmem
      obtain ⟨⟨_, a⟩, hentry, rfl⟩ := List.mem_map.mp hmem
      obtain ⟨-, -, hheading, -⟩ := mem_anchors_iff.mp hentry
      exact hopen (hholds.symm.trans hheading)
    rw [setAnchors_get?_of_not_mem doc hnot, ht, if_neg hopen]
    simp [bareOpening?, hopen]

theorem headings_map_bare (doc : Document) :
    (headings doc).map bare =
      (Outline.ofDocument doc).paths.filterMap fun path => (doc.get? path).bind bareOpening? := by
  have hlist : (headings doc).map bare =
      (doc.inOrder.map some).filterMap fun found => found.bind bareOpening? := by
    simp only [headings, List.filterMap_map]
    induction doc.inOrder with
    | nil => rfl
    | cons t rest ih => by_cases ht : isOpening t <;> simp_all [bareOpening?]
  rw [hlist, ← doc.outline_map_get?, List.filterMap_map]
  rfl

/-- After the pass, each heading is as it was but for its identifier, which is the anchor of the
first content behind it. -/
theorem headings_assignAnchors (doc : Document) :
    (headings (assignAnchors doc).2).map bare =
      List.zipWith identified (headings doc) (behindHeadings doc.inOrder) := by
  have hkept : (pathsWithNext doc).filterMap (fun x =>
        ((setAnchors doc (anchors doc)).get? x.1).bind bareOpening?) =
      (pathsWithNext doc).filterMap fun x =>
        identifiedAt? (Outline.ofDocument doc) doc x.1 x.2 :=
    List.filterMap_congr fun x hx => bareOpening?_setAnchors hx
  have houtline : (Outline.ofDocument (setAnchors doc (anchors doc))).paths =
      (pathsWithNext doc).map (·.1) := by
    rw [outline_setAnchors, pathsWithNext_map_fst]
  calc (headings (assignAnchors doc).2).map bare
      = ((pathsWithNext doc).map (·.1)).filterMap fun path =>
          ((setAnchors doc (anchors doc)).get? path).bind bareOpening? := by
        rw [← houtline]
        exact headings_map_bare _
    _ = (pathsWithNext doc).filterMap fun x =>
          identifiedAt? (Outline.ofDocument doc) doc x.1 x.2 := by
        rw [List.filterMap_map]
        exact hkept
    _ = _ := identifiedAt?_behind (Outline.ofDocument doc) [] rfl doc.outline_map_get?

theorem map_attr?_identified (openings : List Token) (behind : List (List Token))
    (h : behind.length = openings.length) :
    (List.zipWith identified openings behind).map (·.attr? "id") =
      behind.map fun rest => some (Anchor.ofSection (firstContent rest)).name := by
  induction openings generalizing behind with
  | nil =>
    obtain rfl : behind = [] := List.length_eq_zero_iff.mp h
    rfl
  | cons t openings ih =>
    cases behind with
    | nil => simp at h
    | cons rest behind =>
      have hlater := ih behind (by simpa using h)
      have hfirst : (identified t rest).attr? "id" =
          some (Anchor.ofSection (firstContent rest)).name := by
        rw [identified, bare_attr?, attr?_setAttr, if_pos rfl]
      rw [List.zipWith_cons_cons, List.map_cons, List.map_cons, hfirst, hlater]

theorem ids_assignAnchors (doc : Document) :
    (headings (assignAnchors doc).2).map (·.attr? "id") =
      (behindHeadings doc.inOrder).map fun behind =>
        some (Anchor.ofSection (firstContent behind)).name := by
  have hids := congrArg (List.map (·.attr? "id")) (headings_assignAnchors doc)
  rw [map_attr?_identified _ _ (length_behindHeadings doc), List.map_map] at hids
  exact hids

end Folio.Heading
