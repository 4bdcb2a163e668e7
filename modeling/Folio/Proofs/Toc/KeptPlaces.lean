import Folio.Proofs.Document.Congruence
import Folio.Proofs.Toc.Place

/-!
# Changes that keep the place

Whether and where a page has its place is told by the kinds of its tokens and the text in them. A
change of tokens that keeps these, and uses known tags only, leaves the page one that can be searched,
with its place where it was.
-/

namespace Folio

open Html Toc

/-- Whether the label of a container that holds nothing but text is that text. -/
def Token.IsLabelled (t : Token) : Prop :=
  t.kind = .inline → ∀ cs, plainText? t.children = some cs → t.content.toList = cs

/-- Whether the search for the place tells one token from another. -/
structure Token.ReadsAs (u t : Token) : Prop where
  kind : u.kind = t.kind
  content : t.kind = .inline ∨ t.kind = .text → u.content = t.content
  text : plainText? u.children = plainText? t.children

def ReadSame (ts us : List Token) : Prop :=
  List.Forall₂ (fun t u => u.ReadsAs t) ts us

def KeepsQuiet (ts us : List Token) : Prop :=
  (∀ t ∈ siblingsInOrder ts, t.IsQuiet) → ∀ u ∈ siblingsInOrder us, u.IsQuiet

variable {ts us : List Token} {t u : Token}

namespace Token.ReadsAs

theorem refl (t : Token) : t.ReadsAs t :=
  ⟨rfl, fun _ => rfl, rfl⟩

theorem trans {v : Token} (h : u.ReadsAs t) (h' : v.ReadsAs u) : v.ReadsAs t where
  kind := h'.kind.trans h.kind
  content hkind := (h'.content (by rwa [h.kind])).trans (h.content hkind)
  text := h'.text.trans h.text

theorem holdsPlace_eq (h : u.ReadsAs t) : u.holdsPlace = t.holdsPlace := by
  rw [holdsPlace, holdsPlace, h.kind, h.text]

theorem isLabelled (h : u.ReadsAs t) (ht : t.IsLabelled) : u.IsLabelled := by
  intro hkind cs hcs
  rw [h.kind] at hkind
  rw [h.text] at hcs
  rw [h.content (.inl hkind)]
  exact ht hkind cs hcs

end Token.ReadsAs

namespace ReadSame

theorem trans {vs : List Token} (h : ReadSame ts us) (h' : ReadSame us vs) : ReadSame ts vs := by
  induction h generalizing vs with
  | nil => exact h'
  | cons hfirst _ ih =>
    obtain _ | ⟨hfirst', hrest'⟩ := h'
    exact .cons (hfirst.trans hfirst') (ih hrest')

theorem plainText?_eq (h : ReadSame ts us) : plainText? us = plainText? ts := by
  induction h with
  | nil => rfl
  | @cons t u ts us hfirst _ ih =>
    by_cases ht : t.kind = .text
    · rw [plainText?, plainText?, hfirst.kind, if_pos ht, if_pos ht, hfirst.content (.inr ht), ih]
    · rw [plainText?, plainText?, hfirst.kind, if_neg ht, if_neg ht]

theorem paragraphed (h : ReadSame ts us) (hts : Paragraphed ts) : Paragraphed us := by
  induction hts generalizing us with
  | nil =>
    cases h
    exact .nil
  | other hopen hclose _ ih =>
    obtain _ | ⟨hfirst, hrest⟩ := h
    exact .other (by rwa [hfirst.kind]) (by rwa [hfirst.kind]) (ih hrest)
  | paragraph hopen hcontainer hclose _ ih =>
    obtain _ | ⟨hfirst, _ | ⟨hsecond, _ | ⟨hthird, hrest⟩⟩⟩ := h
    exact .paragraph (hfirst.kind.trans hopen) (hsecond.kind.trans hcontainer)
      (hthird.kind.trans hclose) (ih hrest)

theorem placeAt?_eq (h : ReadSame ts us) (hts : Paragraphed ts) : placeAt? us = placeAt? ts := by
  induction hts generalizing us with
  | nil =>
    cases h
    rfl
  | other hopen hclose _ ih =>
    obtain _ | ⟨hfirst, hrest⟩ := h
    rw [placeAt?_cons (by rwa [hfirst.kind]), placeAt?_cons hopen, ih hrest]
  | paragraph hopen hcontainer hclose _ ih =>
    obtain _ | ⟨hfirst, _ | ⟨hsecond, _ | ⟨hthird, hrest⟩⟩⟩ := h
    rw [placeAt?_paragraph (hfirst.kind.trans hopen) (hsecond.kind.trans hcontainer)
      (hthird.kind.trans hclose), placeAt?_paragraph hopen hcontainer hclose,
      hsecond.holdsPlace_eq, ih hrest]

theorem isLabelled (h : ReadSame ts us) (hts : ∀ t ∈ ts, t.IsLabelled) : ∀ u ∈ us, u.IsLabelled := by
  induction h with
  | nil => exact hts
  | cons hfirst _ ih =>
    rw [List.forall_mem_cons] at hts ⊢
    exact ⟨hfirst.isLabelled hts.1, ih hts.2⟩

end ReadSame

theorem congruence_readSame : Congruence ReadSame where
  refl _ := List.forall₂_same.mpr fun t _ => .refl t
  append h h' := List.rel_append h h'
  children _ _ h := .cons ⟨rfl, fun _ => rfl, h.plainText?_eq⟩ .nil

theorem keepsQuiet_of_bare (hchildren : u.children = t.children) (h : t.IsQuiet → u.IsQuiet) :
    KeepsQuiet [t] [u] := by
  intro hall
  simp only [siblingsInOrder, Token.inOrder_eq, List.append_nil, List.forall_mem_cons] at hall ⊢
  rw [hchildren]
  exact ⟨h hall.1, hall.2⟩

theorem congruence_keepsQuiet : Congruence KeepsQuiet where
  refl _ := id
  append := by
    intro ts ts' us us' h h' hall
    rw [siblingsInOrder_append, List.forall_mem_append] at hall ⊢
    exact ⟨h hall.1, h' hall.2⟩
  children _ _ h := by
    intro hall
    simp only [siblingsInOrder, Token.inOrder_eq, List.append_nil, List.forall_mem_cons] at hall ⊢
    exact ⟨hall.1, h hall.2⟩

/-- Whether a change leaves a page to be searched as it was. -/
structure KeepsPlace (ts us : List Token) : Prop where
  read : ReadSame ts us
  quiet : KeepsQuiet ts us

theorem KeepsPlace.trans {vs : List Token} (h : KeepsPlace ts us) (h' : KeepsPlace us vs) :
    KeepsPlace ts vs :=
  ⟨h.read.trans h'.read, h'.quiet ∘ h.quiet⟩

theorem congruence_keepsPlace : Congruence KeepsPlace where
  refl ts := ⟨congruence_readSame.refl ts, congruence_keepsQuiet.refl ts⟩
  append h h' :=
    ⟨congruence_readSame.append h.read h'.read, congruence_keepsQuiet.append h.quiet h'.quiet⟩
  children t _ h := ⟨congruence_readSame.children t h.read, congruence_keepsQuiet.children t h.quiet⟩

end Folio
