import Folio.Proofs.Anchor.Section
import Folio.Proofs.Html.Written
import Folio.Proofs.Toc.Counting
import Folio.Toc.Placeholder

/-!
# The tags of a table of contents

A table of contents ends all the elements that it opens, whatever the levels and labels of its
entries. The place it is put at is a paragraph in the sense of tags: it is found as a piece of text,
but in a text with known tags only a beginning and an end of a paragraph can look like that. So the
page with the table in place takes the open elements from and to the same as the page without.
-/

namespace Folio

open Html Text

namespace Anchor

theorem normalize_free (cs : List Char) : ∀ c ∈ normalize cs, isDelimiter c = false := by
  intro c hc
  have havoids := normalize_avoids cs c hc
  simp only [replacedChars, List.mem_cons, List.not_mem_nil, or_false, not_or] at havoids
  simp [isDelimiter, havoids]

theorem href_free (content : String) : ∀ c ∈ (ofSection content).href.toList, isDelimiter c = false := by
  intro c hc
  simp only [href, ofSection, sectionStem, String.toList_append, String.toList_ofList,
    List.mem_append] at hc
  rcases hc with hc | hc | hc
  · exact free_of_all (by decide : ("#".toList.all fun c => !isDelimiter c) = true) c hc
  · exact free_of_all (by decide : ("section_".toList.all fun c => !isDelimiter c) = true) c hc
  · exact normalize_free _ c hc

end Anchor

namespace Toc

/-! ## Items and lists -/

theorem repr_plain (n : Nat) : ∀ c ∈ n.repr.toList, isSpecial c = false := by
  intro c hc
  have hdigit : c.isDigit = true := by
    rw [Nat.toList_repr] at hc
    exact Nat.isDigit_of_mem_toDigits (by decide) (by decide) hc
  have hne : ∀ d : Char, d.isDigit = false → c ≠ d := by
    rintro d hd rfl
    simp [hd] at hdigit
  simp [isSpecial, hne '&' rfl, hne '<' rfl, hne '>' rfl, hne '\x22' rfl, hne '\x27' rfl]

def itemClass (level : Nat) : String :=
  "toc-level" ++ level.repr ++ "-content"

theorem itemClass_plain (level : Nat) : ∀ c ∈ (itemClass level).toList, isSpecial c = false := by
  intro c hc
  simp only [itemClass, String.toList_append, List.mem_append] at hc
  rcases hc with (hc | hc) | hc
  · exact plain_of_all (by decide : ("toc-level".toList.all (!isSpecial ·)) = true) c hc
  · exact repr_plain _ c hc
  · exact plain_of_all (by decide : ("-content".toList.all (!isSpecial ·)) = true) c hc

def itemTag (e : TocEntry) : Tag :=
  .opening "li" [("class", some (itemClass e.level.toNat))]

def linkTag (e : TocEntry) : Tag :=
  .opening "a" [("class", some "toc-hyper-link"), ("href", some (Anchor.ofSection e.label).href),
    ("title", some (escape e.label))]

theorem isKnown_itemTag (e : TocEntry) : (itemTag e).IsKnown := by
  refine ⟨by decide, ?_⟩
  simp only [List.mem_singleton, forall_eq, Option.some.injEq, forall_eq']
  exact ⟨by decide, fun c hc => isDelimiter_of_plain (itemClass_plain _ c hc)⟩

theorem isKnown_linkTag (e : TocEntry) : (linkTag e).IsKnown := by
  refine ⟨by decide, ?_⟩
  simp only [List.mem_cons, List.not_mem_nil, or_false, forall_eq_or_imp, forall_eq,
    Option.some.injEq, forall_eq']
  exact ⟨⟨by decide, free_of_all (by decide)⟩, ⟨by decide, Anchor.href_free e.label⟩,
    ⟨by decide, escape_free e.label⟩⟩

theorem item_toList (e : TocEntry) :
    (item e).toList = (itemTag e).chars ++ (linkTag e).chars ++ (escape e.label).toList ++
      (Tag.closing "a").chars ++ (Tag.closing "li").chars := by
  unfold item
  simp only [itemTag, linkTag, itemClass, Tag.chars, Tag.inside, List.flatMap_cons, List.flatMap_nil,
    attributeChars, String.toList_append]
  generalize (escape e.label).toList = label
  generalize (Anchor.ofSection e.label).href.toList = href
  generalize e.level.toNat.repr.toList = level
  simp

def itemTags (e : TocEntry) : List Tag :=
  [itemTag e, linkTag e, .closing "a", .closing "li"]

theorem reads_item (e : TocEntry) : Reads (item e).toList (itemTags e) := by
  have hitem := reads_tag (isKnown_itemTag e)
  have hlink := reads_tag (isKnown_linkTag e)
  have hlabel : Reads (escape e.label).toList [] :=
    reads_of_free fun c hc => not_bracket_of_free (escape_free e.label c hc)
  have hlinkEnd : Reads (Tag.closing "a").chars [.closing "a"] :=
    reads_tag (by decide : "a" ∈ elementNames)
  have hitemEnd : Reads (Tag.closing "li").chars [.closing "li"] :=
    reads_tag (by decide : "li" ∈ elementNames)
  rw [item_toList]
  exact (((hitem.append hlink).append hlabel).append hlinkEnd).append hitemEnd

/-- What is found is the first place: none begins before it. -/
theorem splitAtPlaceholder?_first {cs before behind : List Char}
    (h : splitAtPlaceholder? cs = some (before, behind)) :
    ∃ here, cs = before ++ (here ++ behind) ∧ eqIgnoringCase here placeholder = true ∧
      ∀ front rest, cs = front ++ rest → front.length < before.length →
        startsWithPlaceholder rest = false := by
  induction cs generalizing before with
  | nil => simp [splitAtPlaceholder?] at h
  | cons c cs ih =>
    rw [splitAtPlaceholder?] at h
    split at h
    · rename_i hstarts
      obtain ⟨rfl, rfl⟩ := Prod.mk.inj (Option.some.inj h)
      exact ⟨(c :: cs).take placeholder.length, by simp, hstarts, by simp⟩
    · rename_i hstarts
      obtain ⟨⟨first, second⟩, hsplit, heq⟩ := Option.map_eq_some_iff.mp h
      obtain ⟨rfl, rfl⟩ := Prod.mk.inj heq
      obtain ⟨here, hcs, hhere, hfirst⟩ := ih hsplit
      refine ⟨here, by rw [hcs, List.cons_append], hhere, ?_⟩
      intro front rest hparts hshort
      cases front with
      | nil =>
        rw [List.nil_append] at hparts
        rw [← hparts]
        simpa using hstarts
      | cons d front =>
        exact hfirst front rest (List.cons.inj hparts).2 (Nat.lt_of_succ_lt_succ hshort)

theorem eq_of_asciiLower_eq {c d : Char} (h : asciiLower c = d) (hd : ¬('a' ≤ d ∧ d ≤ 'z')) :
    c = d := by
  unfold asciiLower at h
  split at h
  · rename_i hc
    obtain ⟨hfirst, hlast⟩ : 'A'.toNat ≤ c.toNat ∧ c.toNat ≤ 'Z'.toNat := by
      simpa [Char.le_def, UInt32.le_iff_toNat_le] using hc
    have hletters : ∀ n < 91, 65 ≤ n → 'a' ≤ Char.ofNat (n + 32) ∧ Char.ofNat (n + 32) ≤ 'z' := by
      decide
    rw [← h] at hd
    exact absurd (hletters c.toNat (Nat.lt_succ_of_le hlast) hfirst) hd
  · exact h

theorem not_bracket_of_asciiLower {c : Char} (h : asciiLower c ≠ '<' ∧ asciiLower c ≠ '>') :
    c ≠ '<' ∧ c ≠ '>' := by
  constructor
  · rintro rfl
    exact h.1 rfl
  · rintro rfl
    exact h.2 rfl

/-- What looks like the place of the table is the text of a paragraph. -/
theorem placeholder_cases {here : List Char} (h : eqIgnoringCase here placeholder = true) :
    ∃ (x y : Char) (word : List Char), asciiLower x = 'p' ∧ asciiLower y = 'p' ∧
      (∀ c ∈ word, c ≠ '<' ∧ c ≠ '>') ∧
      here = '<' :: x :: '>' :: (word ++ ['<', '/', y, '>']) := by
  have hlower : here.map asciiLower =
      ['<', 'p', '>', '[', 't', 'o', 'c', ']', '<', '/', 'p', '>'] := by
    have hplaceholder : placeholder.map asciiLower =
        ['<', 'p', '>', '[', 't', 'o', 'c', ']', '<', '/', 'p', '>'] := by decide
    simpa [eqIgnoringCase, hplaceholder] using h
  simp only [List.map_eq_cons_iff, List.map_eq_nil_iff] at hlower
  obtain ⟨a, _, rfl, ha, x, _, rfl, hx, b, _, rfl, hb, c₁, _, rfl, h₁, c₂, _, rfl, h₂, c₃, _, rfl,
    h₃, c₄, _, rfl, h₄, c₅, _, rfl, h₅, d, _, rfl, hd, e, _, rfl, he, y, _, rfl, hy, f, _, rfl, hf,
    rfl⟩ := hlower
  obtain rfl := eq_of_asciiLower_eq ha (by decide)
  obtain rfl := eq_of_asciiLower_eq hb (by decide)
  obtain rfl := eq_of_asciiLower_eq hd (by decide)
  obtain rfl := eq_of_asciiLower_eq he (by decide)
  obtain rfl := eq_of_asciiLower_eq hf (by decide)
  refine ⟨x, y, [c₁, c₂, c₃, c₄, c₅], hx, hy, ?_, rfl⟩
  intro c hc
  apply not_bracket_of_asciiLower
  simp only [List.mem_cons, List.not_mem_nil, or_false] at hc
  rcases hc with rfl | rfl | rfl | rfl | rfl <;> simp [h₁, h₂, h₃, h₄, h₅]

theorem name_of_short {name : String} (h : name ∈ elementNames) (hlength : name.toList.length ≤ 1) :
    name = "p" ∨ name = "a" := by
  have hall : ∀ name ∈ elementNames, name.toList.length ≤ 1 → name = "p" ∨ name = "a" := by
    decide
  exact hall name h hlength

theorem tag_of_letter {t : Tag} {x : Char} (ht : t.IsKnown) (hx : asciiLower x = 'p')
    (hinside : t.inside = [x]) : ∃ attrs, t = .opening "p" attrs := by
  cases t with
  | opening name attrs =>
    have hlength := congrArg List.length hinside
    simp only [Tag.inside, List.length_append, List.length_singleton] at hlength
    rcases name_of_short ht.1 (by omega) with rfl | rfl
    · exact ⟨attrs, rfl⟩
    · obtain rfl : 'a' = x := (List.cons.inj hinside).1
      simp [asciiLower] at hx
  | closing name =>
    obtain rfl : '/' = x := (List.cons.inj hinside).1
    simp [asciiLower] at hx

theorem tag_of_slash {t : Tag} {y : Char} (ht : t.IsKnown) (hy : asciiLower y = 'p')
    (hinside : t.inside = ['/', y]) : t = .closing "p" := by
  cases t with
  | opening name attrs => exact absurd hinside (opening_inside_ne_slash ht.1 _)
  | closing name =>
    have hname : name.toList = [y] := (List.cons.inj hinside).2
    rcases name_of_short ht (by simp [hname]) with rfl | rfl
    · rfl
    · obtain rfl : 'a' = y := (List.cons.inj hname).1
      simp [asciiLower] at hy

end Toc

end Folio
