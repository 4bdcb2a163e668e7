import Folio.Proofs.Figure.Embedded
import Folio.Proofs.Heading.Anchors

/-!
# Passes that are run again

The anchors of headings are computed from the kinds and contents of tokens, and setting them changes
attributes only. So a second run computes the anchors that are there. A second run of the pass for
figures finds none to embed.
-/

namespace Folio

open Token

namespace Heading

/-- What the anchors of headings are computed from: the kind of a token and its content. -/
def wording (t : Token) : Kind × String :=
  (t.kind, t.content)

theorem anchors_congr {doc other : Document}
    (houtline : Outline.ofDocument other = Outline.ofDocument doc)
    (hkept : ∀ path, (other.get? path).map wording = (doc.get? path).map wording) :
    anchors other = anchors doc := by
  -- Whatever is asked of the token at a path is asked of its wording.
  have hholds : ∀ property : Kind × String → Bool,
      Outline.holdsAt other (property ∘ wording) = Outline.holdsAt doc (property ∘ wording) := by
    intro property
    funext path
    have hany := congrArg (Option.any property) (hkept path)
    rwa [Option.any_map, Option.any_map] at hany
  have hopening : Outline.holdsAt other isOpening = Outline.holdsAt doc isOpening :=
    hholds fun w => w.1.isHeadingOpen
  have hmarked : Outline.holdsAt other (!·.content.isEmpty) =
      Outline.holdsAt doc (!·.content.isEmpty) :=
    hholds fun w => !w.2.isEmpty
  have hcontent : contentAt (Outline.ofDocument doc) other =
      contentAt (Outline.ofDocument doc) doc := by
    funext position
    unfold contentAt
    cases position.bind (Outline.ofDocument doc).path? with
    | none => rfl
    | some path =>
      have hpath := hkept path
      simp only [Option.bind_some]
      cases hother : other.get? path <;> cases hdoc : doc.get? path <;> simp_all [wording]
  simp only [anchors, Outline.nextWithContent, houtline, hopening, hmarked, hcontent]

theorem wording_setAnchors (doc : Document) {assigned : List (Path × Anchor)}
    (hnodup : (assigned.map (·.1)).Nodup) (path : Path) :
    ((setAnchors doc assigned).get? path).map wording = (doc.get? path).map wording := by
  have hbare : ∀ found : Option Token, found.map wording = (found.map bare).map wording := by
    intro found
    rw [Option.map_map]
    rfl
  by_cases hpath : path ∈ assigned.map (·.1)
  · obtain ⟨⟨_, a⟩, hentry, rfl⟩ := List.mem_map.mp hpath
    rw [hbare, setAnchors_get?_of_mem doc hnodup hentry, Option.map_map]
    rfl
  · rw [hbare, setAnchors_get?_of_not_mem doc hpath, ← hbare]

theorem anchors_setAnchors (doc : Document) :
    anchors (setAnchors doc (anchors doc)) = anchors doc :=
  anchors_congr (outline_setAnchors doc _) (wording_setAnchors doc (anchors_nodup doc))

def HasAnchors (doc : Document) (assigned : List (Path × Anchor)) : Prop :=
  ∀ entry ∈ assigned, ∀ t, doc.get? entry.1 = some t → t.attr? "id" = some entry.2.name

theorem hasAnchors_setAnchors (doc : Document) {assigned : List (Path × Anchor)}
    (hnodup : (assigned.map (·.1)).Nodup) : HasAnchors (setAnchors doc assigned) assigned := by
  intro entry hentry t ht
  have hset := setAnchors_get?_of_mem doc hnodup hentry
  rw [ht, Option.map_some] at hset
  obtain ⟨u, -, hbare⟩ := Option.map_eq_some_iff.mp hset.symm
  rw [← bare_attr?, ← hbare, bare_attr?, attr?_setAttr, if_pos rfl]

theorem setAnchors_eq_self {doc : Document} {assigned : List (Path × Anchor)}
    (h : HasAnchors doc assigned) : setAnchors doc assigned = doc := by
  induction assigned with
  | nil => rfl
  | cons entry rest ih =>
    obtain ⟨path, a⟩ := entry
    obtain ⟨hentry, hrest⟩ := List.forall_mem_cons.mp h
    have hkept : doc.modify path (setAttr "id" a.name) = doc :=
      Document.modify_eq_self fun t ht => setAttr_of_attr? (hentry t ht)
    calc setAnchors doc ((path, a) :: rest)
        = setAnchors (doc.modify path (setAttr "id" a.name)) rest := rfl
      _ = doc := by rw [hkept, ih hrest]

/-- The second run counts the same headings, and they have their anchors already. -/
theorem assignAnchors_again (doc : Document) :
    assignAnchors (assignAnchors doc).2 = assignAnchors doc := by
  have hkept := setAnchors_eq_self (hasAnchors_setAnchors doc (anchors_nodup doc))
  simp only [assignAnchors, anchors_setAnchors, hkept]

end Heading

namespace Figure

/-- Once all figures are embedded, none is left for any provider. -/
theorem embedAll_again {resources : Provider} {doc done : Document} {n : Nat}
    (h : embedAll resources doc = (.ok n, done)) (others : Provider) :
    embedAll others done = (.ok 0, done) :=
  embedAll_of_no_figure others (embedded_embedAll h).not_isFigure

end Figure

/-- Running a pass again on what it left changes nothing. The headings are identified as they are, and
after all figures have been embedded no provider is asked for one again. -/
theorem passes_again (doc : Document) :
    Heading.assignAnchors (Heading.assignAnchors doc).2 = Heading.assignAnchors doc ∧
      ∀ resources n done, Figure.embedAll resources doc = (.ok n, done) →
        ∀ others, Figure.embedAll others done = (.ok 0, done) :=
  ⟨Heading.assignAnchors_again doc, fun _ _ _ h others => Figure.embedAll_again h others⟩

/-- A heading with two identifiers, and a figure whose image holds another. -/
def identifiedTwice : Document where
  tokens := [
    { Token.ofKind (.headingOpen 1) with attrs := [("id", "a"), ("class", "x"), ("id", "b")] },
    .inline "Inner life" [.text "Inner life"], .ofKind (.headingClose 1),
    .inline "" [{ Token.image "a.png" "outer" with
      children := [.inline "" [.image "a.png" "inner"]] }]]

theorem passes_again_nested :
    Heading.assignAnchors (Heading.assignAnchors identifiedTwice).2 =
        Heading.assignAnchors identifiedTwice ∧
      ∃ done, Figure.embedAll Figure.threeOctets identifiedTwice = (.ok 2, done) ∧
        Figure.embedAll ResourceStore.empty.provider done = (.ok 0, done) := by
  obtain ⟨hheadings, hfigures⟩ := passes_again identifiedTwice
  have hcount : (Figure.embedAll Figure.threeOctets identifiedTwice).1 = .ok 2 := by
    decide +kernel
  have hdone : Figure.embedAll Figure.threeOctets identifiedTwice =
      (.ok 2, (Figure.embedAll Figure.threeOctets identifiedTwice).2) :=
    Prod.ext hcount rfl
  exact ⟨hheadings, _, hdone, hfigures _ _ _ hdone _⟩

end Folio
