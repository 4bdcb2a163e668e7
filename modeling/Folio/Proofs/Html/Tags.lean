import Mathlib.Data.List.Basic

/-!
# Tags in a text

HTML is read here as text between tags. A tag stands between angle brackets, which occur nowhere
else; it names an element that pages are written with, and its attributes have no bracket and no
quote in their values. A text is balanced if its tags match like parentheses, where some elements
have no end of their own. Cutting a text at a bracket that begins a tag cuts the sequence of its
tags as well.
-/

namespace Folio.Html

def elementNames : List String :=
  ["h1", "h2", "h3", "h4", "h5", "h6", "p", "blockquote", "ul", "ol", "li", "table", "thead", "tr",
    "th", "td", "pre", "code", "em", "strong", "del", "a", "span", "figcaption", "img", "br", "hr",
    "input"]

def voidNames : List String :=
  ["img", "br", "hr", "input"]

def attributeNames : List String :=
  ["id", "class", "start", "src", "alt", "title", "href", "type", "checked", "disabled"]

/-- A tag as it is written. An attribute has a value, or stands alone. -/
inductive Tag where
  | opening (name : String) (attrs : List (String × Option String))
  | closing (name : String)

def isDelimiter (c : Char) : Bool :=
  c == '<' || c == '>' || c == '\x22'

def attributeChars : String × Option String → List Char
  | (key, none) => ' ' :: key.toList
  | (key, some value) => ' ' :: key.toList ++ '=' :: '\x22' :: value.toList ++ ['\x22']

namespace Tag

def inside : Tag → List Char
  | opening name attrs => name.toList ++ attrs.flatMap attributeChars
  | closing name => '/' :: name.toList

def chars (t : Tag) : List Char :=
  '<' :: t.inside ++ ['>']

def IsKnown : Tag → Prop
  | opening name attrs =>
    name ∈ elementNames ∧ ∀ attr ∈ attrs, attr.1 ∈ attributeNames ∧
      ∀ value, attr.2 = some value → ∀ c ∈ value.toList, isDelimiter c = false
  | closing name => name ∈ elementNames

/-- The open elements after a tag, the innermost first. There are none if the tag ends an element
that is not the innermost. -/
def openAfter (opened : List String) : Tag → Option (List String)
  | opening name _ => some (if name ∈ voidNames then opened else name :: opened)
  | closing name =>
    match opened with
    | [] => none
    | innermost :: outer => if innermost = name then some outer else none

end Tag

/-- Reading a text as characters that are no brackets and tags that pages are written with. -/
inductive Reads : List Char → List Tag → Prop
  | nil : Reads [] []
  | char {c : Char} {cs : List Char} {tags : List Tag} (hopen : c ≠ '<') (hclose : c ≠ '>')
      (h : Reads cs tags) : Reads (c :: cs) tags
  | tag {t : Tag} {cs : List Char} {tags : List Tag} (ht : t.IsKnown) (h : Reads cs tags) :
      Reads (t.chars ++ cs) (t :: tags)

theorem free_of_all {cs : List Char} (h : (cs.all fun c => !isDelimiter c) = true) :
    ∀ c ∈ cs, isDelimiter c = false := by
  simpa using h

theorem not_bracket_of_free {c : Char} (h : isDelimiter c = false) : c ≠ '<' ∧ c ≠ '>' := by
  constructor <;> rintro rfl <;> simp [isDelimiter] at h

theorem elementName_free {name : String} (h : name ∈ elementNames) :
    ∀ c ∈ name.toList, isDelimiter c = false := by
  have hall : ∀ name ∈ elementNames, (name.toList.all fun c => !isDelimiter c) = true := by
    decide
  exact free_of_all (hall name h)

theorem attributeName_free {key : String} (h : key ∈ attributeNames) :
    ∀ c ∈ key.toList, isDelimiter c = false := by
  have hall : ∀ key ∈ attributeNames, (key.toList.all fun c => !isDelimiter c) = true := by
    decide
  exact free_of_all (hall key h)

theorem attributeChars_free {attr : String × Option String} (hkey : attr.1 ∈ attributeNames)
    (hvalue : ∀ value, attr.2 = some value → ∀ c ∈ value.toList, isDelimiter c = false) :
    ∀ c ∈ attributeChars attr, c ≠ '<' ∧ c ≠ '>' := by
  obtain ⟨key, value⟩ := attr
  have hkeychars : ∀ c ∈ key.toList, c ≠ '<' ∧ c ≠ '>' :=
    fun c hc => not_bracket_of_free (attributeName_free hkey c hc)
  cases value with
  | none =>
    intro c hc
    rcases List.mem_cons.mp hc with rfl | hc
    · decide
    · exact hkeychars c hc
  | some value =>
    intro c hc
    simp only [attributeChars, List.cons_append, List.mem_cons, List.mem_append, List.not_mem_nil,
      or_false] at hc
    rcases hc with rfl | (hc | rfl | rfl | hc) | rfl
    · decide
    · exact hkeychars c hc
    · decide
    · decide
    · exact not_bracket_of_free (hvalue value rfl c hc)
    · decide

theorem opening_inside_ne_slash {name : String} {attrs : List (String × Option String)}
    (hname : name ∈ elementNames) (rest : List Char) :
    (Tag.opening name attrs).inside ≠ '/' :: rest := by
  have hslash : ∀ name ∈ elementNames, name.toList.head?.any (· != '/') = true := by
    decide
  have hfirst := hslash name hname
  intro h
  cases hchars : name.toList with
  | nil => simp [hchars] at hfirst
  | cons c more =>
    rw [Tag.inside, hchars] at h
    obtain rfl : c = '/' := (List.cons.inj h).1
    simp [hchars] at hfirst

/-- A known tag ends at the next bracket. -/
theorem Tag.IsKnown.inside_free {t : Tag} (h : t.IsKnown) :
    ∀ c ∈ t.inside, c ≠ '<' ∧ c ≠ '>' := by
  cases t with
  | opening name attrs =>
    intro c hc
    rcases List.mem_append.mp hc with hc | hc
    · exact not_bracket_of_free (elementName_free h.1 c hc)
    · obtain ⟨attr, hattr, hc⟩ := List.mem_flatMap.mp hc
      obtain ⟨hkey, hvalue⟩ := h.2 attr hattr
      exact attributeChars_free hkey hvalue c hc
  | closing name =>
    intro c hc
    rcases List.mem_cons.mp hc with rfl | hc
    · decide
    · exact not_bracket_of_free (elementName_free h c hc)

/-! ## Reading -/

theorem Reads.append {cs ds : List Char} {tags others : List Tag} (h : Reads cs tags)
    (hd : Reads ds others) : Reads (cs ++ ds) (tags ++ others) := by
  induction h with
  | nil => exact hd
  | char hopen hclose _ ih => exact .char hopen hclose ih
  | tag ht _ ih =>
    rw [List.append_assoc]
    exact .tag ht ih

theorem reads_of_free {cs : List Char} (h : ∀ c ∈ cs, c ≠ '<' ∧ c ≠ '>') : Reads cs [] := by
  induction cs with
  | nil => exact .nil
  | cons c rest ih =>
    have hc := h c (by simp)
    exact .char hc.1 hc.2 (ih fun d hd => h d (by simp [hd]))

theorem reads_tag {t : Tag} (ht : t.IsKnown) : Reads t.chars [t] := by
  simpa using Reads.tag ht .nil

theorem Reads.tail {c : Char} {cs : List Char} {tags : List Tag} (h : Reads (c :: cs) tags)
    (hc : c ≠ '<') : Reads cs tags := by
  generalize hall : c :: cs = all at h
  cases h with
  | nil => simp at hall
  | char _ _ h =>
    obtain ⟨rfl, rfl⟩ := List.cons.inj hall
    exact h
  | tag ht h =>
    have hfirst := (List.cons.inj hall).1
    exact absurd hfirst hc

/-- Two texts that are divided where a property of characters first fails have the same parts. -/
theorem append_inj_of_stops {holds : Char → Bool} {xs ys cs ds : List Char}
    (hxs : ∀ c ∈ xs, holds c = true) (hys : ∀ c ∈ ys, holds c = true)
    (hcs : cs.head?.any holds = false) (hds : ds.head?.any holds = false)
    (h : xs ++ cs = ys ++ ds) : xs = ys ∧ cs = ds := by
  have hstop : ∀ {zs : List Char}, zs.head?.any holds = false → zs.takeWhile holds = [] := by
    intro zs hzs
    cases zs with
    | nil => rfl
    | cons z zs =>
      have hz : holds z = false := by simpa using hzs
      simp [hz]
  have htake := congrArg (List.takeWhile holds) h
  rw [List.takeWhile_append_of_pos hxs, List.takeWhile_append_of_pos hys, hstop hcs, hstop hds,
    List.append_nil, List.append_nil] at htake
  subst htake
  exact ⟨rfl, List.append_cancel_left h⟩

theorem append_bracket_inj {xs ys cs ds : List Char} (hxs : ∀ c ∈ xs, c ≠ '>')
    (hys : ∀ c ∈ ys, c ≠ '>') (h : xs ++ '>' :: cs = ys ++ '>' :: ds) : xs = ys ∧ cs = ds := by
  have hbracket : ∀ {zs : List Char}, (∀ c ∈ zs, c ≠ '>') → ∀ c ∈ zs, (c != '>') = true :=
    fun hzs c hc => bne_iff_ne.mpr (hzs c hc)
  obtain ⟨hinside, hbehind⟩ := append_inj_of_stops (hbracket hxs) (hbracket hys) rfl rfl h
  exact ⟨hinside, (List.cons.inj hbehind).2⟩

theorem Reads.of_tag {inside rest : List Char} {tags : List Tag} (hinside : ∀ c ∈ inside, c ≠ '>')
    (h : Reads ('<' :: (inside ++ '>' :: rest)) tags) :
    ∃ (t : Tag) (others : List Tag), t.IsKnown ∧ t.inside = inside ∧ Reads rest others ∧
      tags = t :: others := by
  generalize hall : '<' :: (inside ++ '>' :: rest) = all at h
  cases h with
  | nil => simp at hall
  | char hopen _ h => exact absurd (List.cons.inj hall).1.symm hopen
  | @tag t cs others ht h =>
    have hparts : inside ++ '>' :: rest = t.inside ++ '>' :: cs := by
      simpa [Tag.chars] using hall
    obtain ⟨rfl, rfl⟩ :=
      append_bracket_inj hinside (fun c hc => (ht.inside_free c hc).2) hparts
    exact ⟨t, others, ht, rfl, h, rfl⟩

/-- An opening bracket that does not stand in a tag stands behind it. -/
theorem split_behind_tag {inside rest front cs : List Char} (hfree : ∀ c ∈ inside, c ≠ '<')
    (h : front ++ '<' :: cs = inside ++ '>' :: rest) :
    ∃ behind, front = inside ++ '>' :: behind ∧ rest = behind ++ '<' :: cs := by
  rcases List.append_eq_append_iff.mp h with ⟨middle, hinside, hcs⟩ | ⟨middle, hfront, hrest⟩
  · cases middle with
    | nil => simp at hcs
    | cons c middle =>
      obtain rfl : '<' = c := (List.cons.inj hcs).1
      exact absurd rfl (hfree '<' (by simp [hinside]))
  · cases middle with
    | nil => simp at hrest
    | cons c middle =>
      obtain ⟨rfl, hbehind⟩ := List.cons.inj hrest
      exact ⟨middle, hfront, hbehind⟩

/-- A text that is cut before an opening bracket is cut between tags. -/
theorem Reads.split {front cs : List Char} {tags : List Tag} (h : Reads (front ++ '<' :: cs) tags) :
    ∃ first second, Reads front first ∧ Reads ('<' :: cs) second ∧ tags = first ++ second := by
  generalize hall : front ++ '<' :: cs = all at h
  induction h generalizing front with
  | nil => simp at hall
  | @char c rest tags hopen hclose _ ih =>
    cases front with
    | nil => exact absurd (List.cons.inj hall).1.symm hopen
    | cons d front =>
      obtain ⟨rfl, hrest⟩ := List.cons.inj hall
      obtain ⟨first, second, hfirst, hsecond, htags⟩ := ih hrest
      exact ⟨first, second, .char hopen hclose hfirst, hsecond, htags⟩
  | @tag t rest tags ht h ih =>
    cases front with
    | nil =>
      rw [List.nil_append] at hall
      refine ⟨[], t :: tags, .nil, ?_, rfl⟩
      rw [hall]
      exact .tag ht h
    | cons d front =>
      -- The bracket stands behind the first tag, since no tag has one inside.
      obtain ⟨rfl, hinside⟩ : d = '<' ∧ front ++ '<' :: cs = t.inside ++ '>' :: rest := by
        simpa [Tag.chars] using hall
      obtain ⟨behind, rfl, hrest⟩ := split_behind_tag (fun c hc => (ht.inside_free c hc).1) hinside
      obtain ⟨first, second, hfirst, hsecond, htags⟩ := ih hrest.symm
      refine ⟨t :: first, second, ?_, hsecond, by rw [htags]; rfl⟩
      simpa [Tag.chars] using Reads.tag ht hfirst

/-! ## Open elements -/

/-- Whether reading the text takes the open elements from some to others. -/
def Takes (html : String) (opened opened' : List String) : Prop :=
  ∃ tags, Reads html.toList tags ∧ tags.foldlM Tag.openAfter opened = some opened'

theorem Takes.append {s u : String} {opened middle opened' : List String}
    (h : Takes s opened middle) (hu : Takes u middle opened') : Takes (s ++ u) opened opened' := by
  obtain ⟨tags, hreads, hrun⟩ := h
  obtain ⟨others, hothers, hrest⟩ := hu
  refine ⟨tags ++ others, ?_, ?_⟩
  · rw [String.toList_append]
    exact hreads.append hothers
  · rw [List.foldlM_append, hrun]
    exact hrest

theorem takes_of_free {s : String} (h : ∀ c ∈ s.toList, c ≠ '<' ∧ c ≠ '>')
    (opened : List String) : Takes s opened opened :=
  ⟨[], reads_of_free h, rfl⟩

theorem takes_empty (opened : List String) : Takes "" opened opened :=
  takes_of_free (by simp) opened

theorem takes_tag {t : Tag} (ht : t.IsKnown) {s : String} (hs : s.toList = t.chars)
    {opened opened' : List String} (hopened : t.openAfter opened = some opened') :
    Takes s opened opened' := by
  refine ⟨[t], ?_, ?_⟩
  · rw [hs]
    exact reads_tag ht
  · simpa using hopened

end Folio.Html
