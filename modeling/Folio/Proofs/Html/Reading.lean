import Folio.Proofs.Html.Tags

/-!
# A text has one reading

A name and a key end at the first blank or equals sign, and a value ends at the first quote, so a
known tag is told by the characters it is written with. A text is therefore read as one sequence of
tags at most.
-/

namespace Folio.Html

def isNameChar (c : Char) : Bool :=
  c != ' ' && c != '='

theorem elementName_chars {name : String} (h : name ∈ elementNames) :
    ∀ c ∈ name.toList, isNameChar c = true := by
  have hall : ∀ name ∈ elementNames, name.toList.all isNameChar = true := by decide
  simpa using hall name h

theorem attributeName_chars {key : String} (h : key ∈ attributeNames) :
    ∀ c ∈ key.toList, isNameChar c = true := by
  have hall : ∀ key ∈ attributeNames, key.toList.all isNameChar = true := by decide
  simpa using hall key h

/-! ## Attributes -/

def IsKnownAttribute (attr : String × Option String) : Prop :=
  attr.1 ∈ attributeNames ∧
    ∀ value, attr.2 = some value → ∀ c ∈ value.toList, isDelimiter c = false

/-- Behind its key, an attribute goes on with its value or not at all. -/
def valueChars : Option String → List Char
  | none => []
  | some value => '=' :: '\x22' :: value.toList ++ ['\x22']

theorem attributeChars_eq (attr : String × Option String) :
    attributeChars attr = ' ' :: (attr.1.toList ++ valueChars attr.2) := by
  obtain ⟨key, value⟩ := attr
  cases value <;> simp [attributeChars, valueChars]

theorem head?_attributes (attrs : List (String × Option String)) :
    (attrs.flatMap attributeChars).head? = none ∨
      (attrs.flatMap attributeChars).head? = some ' ' := by
  cases attrs with
  | nil => exact .inl rfl
  | cons attr rest => simp [attributeChars_eq]

theorem attributes_stop (attrs : List (String × Option String)) :
    (attrs.flatMap attributeChars).head?.any isNameChar = false := by
  rcases head?_attributes attrs with h | h <;> rw [h] <;> rfl

theorem value_stops (value : Option String) (attrs : List (String × Option String)) :
    (valueChars value ++ attrs.flatMap attributeChars).head?.any isNameChar = false := by
  cases value with
  | none => exact attributes_stop attrs
  | some value => rfl

theorem valueChars_inj {value other : Option String} {attrs others : List (String × Option String)}
    (hvalue : ∀ v, value = some v → ∀ c ∈ v.toList, isDelimiter c = false)
    (hother : ∀ v, other = some v → ∀ c ∈ v.toList, isDelimiter c = false)
    (h : valueChars value ++ attrs.flatMap attributeChars =
      valueChars other ++ others.flatMap attributeChars) :
    value = other ∧ attrs.flatMap attributeChars = others.flatMap attributeChars := by
  have hquoted : ∀ {v : String}, (∀ c ∈ v.toList, isDelimiter c = false) →
      ∀ c ∈ v.toList, (c != '\x22') = true := by
    intro v hv c hc
    have hfree := hv c hc
    simp only [isDelimiter, Bool.or_eq_false_iff] at hfree
    simp [bne, hfree.2]
  cases value with
  | none =>
    cases other with
    | none => exact ⟨rfl, h⟩
    | some v =>
      have hhead := congrArg List.head? h
      rcases head?_attributes attrs with hattrs | hattrs <;>
        simp [valueChars, hattrs] at hhead
  | some v =>
    cases other with
    | none =>
      have hhead := congrArg List.head? h
      rcases head?_attributes others with hothers | hothers <;>
        simp [valueChars, hothers] at hhead
    | some w =>
      have hparts : v.toList ++ '\x22' :: attrs.flatMap attributeChars =
          w.toList ++ '\x22' :: others.flatMap attributeChars := by
        simpa [valueChars] using h
      obtain ⟨hvw, hrest⟩ := append_inj_of_stops (hquoted (hvalue v rfl)) (hquoted (hother w rfl))
        rfl rfl hparts
      exact ⟨congrArg some (String.toList_inj.mp hvw), (List.cons.inj hrest).2⟩

theorem attributes_inj {attrs others : List (String × Option String)}
    (hattrs : ∀ attr ∈ attrs, IsKnownAttribute attr)
    (hothers : ∀ attr ∈ others, IsKnownAttribute attr)
    (h : attrs.flatMap attributeChars = others.flatMap attributeChars) : attrs = others := by
  induction attrs generalizing others with
  | nil =>
    cases others with
    | nil => rfl
    | cons other others => simp [attributeChars_eq] at h
  | cons attr attrs ih =>
    cases others with
    | nil => simp [attributeChars_eq] at h
    | cons other others =>
      have hattr := hattrs attr List.mem_cons_self
      have hother := hothers other List.mem_cons_self
      have hparts : attr.1.toList ++ (valueChars attr.2 ++ attrs.flatMap attributeChars) =
          other.1.toList ++ (valueChars other.2 ++ others.flatMap attributeChars) := by
        simpa [attributeChars_eq] using h
      obtain ⟨hkey, hbehind⟩ := append_inj_of_stops (attributeName_chars hattr.1)
        (attributeName_chars hother.1) (value_stops attr.2 attrs) (value_stops other.2 others) hparts
      obtain ⟨hvalue, hrest⟩ := valueChars_inj hattr.2 hother.2 hbehind
      have hlater := ih (fun a ha => hattrs a (List.mem_cons_of_mem attr ha))
        (fun a ha => hothers a (List.mem_cons_of_mem other ha)) hrest
      rw [Prod.ext (String.toList_inj.mp hkey) hvalue, hlater]

/-! ## Tags -/

theorem Tag.inside_inj {t u : Tag} (ht : t.IsKnown) (hu : u.IsKnown) (h : t.inside = u.inside) :
    t = u := by
  cases t with
  | opening name attrs =>
    cases u with
    | opening other others =>
      obtain ⟨hname, hattrs⟩ := append_inj_of_stops (elementName_chars ht.1)
        (elementName_chars hu.1) (attributes_stop attrs) (attributes_stop others) h
      rw [String.toList_inj.mp hname, attributes_inj ht.2 hu.2 hattrs]
    | closing other => exact absurd h (opening_inside_ne_slash ht.1 _)
  | closing name =>
    cases u with
    | opening other others => exact absurd h.symm (opening_inside_ne_slash hu.1 _)
    | closing other => rw [String.toList_inj.mp (List.cons.inj h).2]

theorem Reads.eq_nil {tags : List Tag} (h : Reads [] tags) : tags = [] := by
  generalize hall : ([] : List Char) = all at h
  cases h with
  | nil => rfl
  | char _ _ _ => simp at hall
  | tag _ _ => simp [Tag.chars] at hall

theorem Reads.unique {cs : List Char} {tags others : List Tag} (h : Reads cs tags)
    (h' : Reads cs others) : tags = others := by
  induction h generalizing others with
  | nil => exact h'.eq_nil.symm
  | char hopen _ _ ih => exact ih (h'.tail hopen)
  | @tag t cs tags ht _ ih =>
    have hchars : t.chars ++ cs = '<' :: (t.inside ++ '>' :: cs) := by simp [Tag.chars]
    rw [hchars] at h'
    obtain ⟨u, rest, hu, hinside, hrest, rfl⟩ :=
      h'.of_tag fun c hc => (ht.inside_free c hc).2
    rw [Tag.inside_inj hu ht hinside, ih hrest]

end Folio.Html
