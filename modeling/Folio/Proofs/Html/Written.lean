import Folio.Document.Html
import Folio.Proofs.Document.Congruence
import Folio.Proofs.Html.Escaping
import Folio.Proofs.Html.Tags

/-!
# Documents as tags

Writing a token takes the open elements from some to others: a marker opens or ends an element, text
changes nothing, and a container does what its children do one after the other. What tokens do is
stated here on the tokens themselves, so that the passes over a document can be followed without
looking at text, and it is proved to be what their HTML does.
-/

namespace Folio

open Html

namespace Html

/-! ## Text and tags -/

theorem escape_free (s : String) : ∀ c ∈ (escape s).toList, isDelimiter c = false := by
  intro c hc
  rw [escape_toList] at hc
  have hplain := isMarkupChar_escapeChars s.toList c hc
  simp only [isMarkupChar, Bool.or_eq_false_iff] at hplain
  simp only [isDelimiter, hplain, Bool.or_self]

theorem plain_of_all {cs : List Char} (h : cs.all (!isSpecial ·) = true) :
    ∀ c ∈ cs, isSpecial c = false := by
  simpa using h

theorem isDelimiter_of_plain {c : Char} (h : isSpecial c = false) : isDelimiter c = false := by
  simp only [isSpecial, Bool.or_eq_false_iff] at h
  simp only [isDelimiter, h, Bool.or_self]

theorem escape_of_plain {s : String} (h : ∀ c ∈ s.toList, isSpecial c = false) : escape s = s := by
  have hnone : s.toList.any isSpecial = false := by simpa using h
  rw [escape, hnone]
  rfl

/-- Escaped text opens and ends nothing. -/
theorem takes_escape (s : String) (opened : List String) : Takes (escape s) opened opened :=
  takes_of_free (fun c hc => not_bracket_of_free (escape_free s c hc)) opened

theorem takes_newline (opened : List String) : Takes "\n" opened opened :=
  takes_of_free (fun c hc => not_bracket_of_free (free_of_all (by decide) c hc)) opened

def KnownAttrs (attrs : List (String × String)) : Prop :=
  ∀ attr ∈ attrs, attr.1 ∈ attributeNames

theorem knownAttrs_append {attrs others : List (String × String)} :
    KnownAttrs (attrs ++ others) ↔ KnownAttrs attrs ∧ KnownAttrs others :=
  List.forall_mem_append

def writtenAttr : String × String → String × Option String
  | (key, value) => (key, some (escape value))

theorem attrsHtml_toList (attrs : List (String × String)) :
    (attrsHtml attrs).toList = (attrs.map writtenAttr).flatMap attributeChars := by
  induction attrs with
  | nil => rfl
  | cons attr rest ih =>
    obtain ⟨key, value⟩ := attr
    have hsplit : attrsHtml ((key, value) :: rest) = attrHtml (key, value) ++ attrsHtml rest := by
      simp [attrsHtml, String.join_cons]
    rw [hsplit, String.toList_append, ih]
    simp [attrHtml, writtenAttr, attributeChars]

theorem startTag_toList (name : String) (attrs : List (String × String)) :
    (startTag name attrs).toList = (Tag.opening name (attrs.map writtenAttr)).chars := by
  simp [startTag, Tag.chars, Tag.inside, attrsHtml_toList]

theorem isKnown_opening {name : String} {attrs : List (String × String)}
    (hname : name ∈ elementNames) (hattrs : KnownAttrs attrs) :
    (Tag.opening name (attrs.map writtenAttr)).IsKnown := by
  refine ⟨hname, ?_⟩
  intro attr hattr
  obtain ⟨⟨key, value⟩, hmem, rfl⟩ := List.mem_map.mp hattr
  refine ⟨hattrs (key, value) hmem, ?_⟩
  rintro _ ⟨⟩
  exact escape_free value

theorem takes_startTag {name : String} {attrs : List (String × String)}
    (hname : name ∈ elementNames) (hvoid : name ∉ voidNames) (hattrs : KnownAttrs attrs)
    (opened : List String) : Takes (startTag name attrs) opened (name :: opened) :=
  takes_tag (isKnown_opening hname hattrs) (startTag_toList name attrs)
    (by simp [Tag.openAfter, hvoid])

theorem takes_voidTag {name : String} {attrs : List (String × String)}
    (hname : name ∈ elementNames) (hvoid : name ∈ voidNames) (hattrs : KnownAttrs attrs)
    (opened : List String) : Takes (startTag name attrs) opened opened :=
  takes_tag (isKnown_opening hname hattrs) (startTag_toList name attrs)
    (by simp [Tag.openAfter, hvoid])

theorem takes_endTag {name : String} (hname : name ∈ elementNames) (opened : List String) :
    Takes (endTag name) (name :: opened) opened :=
  takes_tag (t := .closing name) hname (by simp [endTag, Tag.chars, Tag.inside])
    (by simp [Tag.openAfter])

theorem knownAttrs_imageAttrs {content : String} {attrs : List (String × String)}
    (h : KnownAttrs attrs) : KnownAttrs (imageAttrs content attrs) := by
  intro attr hattr
  obtain ⟨⟨key, value⟩, hmem, rfl⟩ := List.mem_map.mp hattr
  exact h (key, value) hmem

/-! ## What tokens do -/

/-- Whether a marker with the attributes takes the open elements from some to others by opening an
element. -/
structure Opens (name : String) (attrs : List (String × String)) (opened opened' : List String) :
    Prop where
  isElement : name ∈ elementNames
  notVoid : name ∉ voidNames
  knownAttrs : KnownAttrs attrs
  opened_eq : opened' = name :: opened

structure Ends (name : String) (opened opened' : List String) : Prop where
  isElement : name ∈ elementNames
  opened_eq : opened = name :: opened'

theorem Opens.takes {name : String} {attrs : List (String × String)} {opened opened' : List String}
    (h : Opens name attrs opened opened') : Takes (startTag name attrs) opened opened' := by
  rw [h.opened_eq]
  exact takes_startTag h.isElement h.notVoid h.knownAttrs opened

theorem Ends.takes {name : String} {opened opened' : List String} (h : Ends name opened opened') :
    Takes (endTag name) opened opened' := by
  rw [h.opened_eq]
  exact takes_endTag h.isElement opened'

end Html

def blockMoves (tag content : String) (attrs : List (String × String)) (nesting : Int8)
    (opened opened' : List String) : Prop :=
  if nesting = 1 then Opens tag attrs opened opened'
  else if nesting = -1 then Ends tag opened opened'
  else content ≠ "" ∧ Takes content opened opened'

mutual

def Token.Moves (opened opened' : List String) : Token → Prop
  | ⟨kind, tag, content, attrs, children, nesting⟩ =>
    match kind with
    | .headingOpen level => Opens (headingName level) attrs opened opened'
    | .headingClose level => Ends (headingName level) opened opened'
    | .paragraphOpen => Opens "p" attrs opened opened'
    | .paragraphClose => Ends "p" opened opened'
    | .inline => siblingsMove opened opened' children
    | .text => opened = opened'
    | .inlineHtml => Takes content opened opened'
    | .codeInline | .image => KnownAttrs attrs ∧ opened = opened'
    | .block => blockMoves tag content attrs nesting opened opened'

def siblingsMove (opened opened' : List String) : List Token → Prop
  | [] => opened = opened'
  | t :: rest => ∃ middle, t.Moves opened middle ∧ siblingsMove middle opened' rest

end

theorem blockMoves.takes {tag content : String} {attrs : List (String × String)} {nesting : Int8}
    {opened opened' : List String} (h : blockMoves tag content attrs nesting opened opened') :
    Takes (blockHtml tag content attrs nesting) opened opened' := by
  unfold blockMoves at h
  unfold blockHtml
  split at h
  · rename_i hone
    rw [if_pos hone]
    exact h.takes.append (takes_newline _)
  · rename_i hone
    rw [if_neg hone]
    split at h
    · rename_i hminus
      rw [if_pos hminus]
      exact h.takes.append (takes_newline _)
    · rename_i hminus
      have hcontent : content.isEmpty = false := by simpa using h.1
      simp only [hminus, hcontent, if_false, Bool.false_eq_true]
      split
      · exact h.2
      · exact h.2.append (takes_newline _)

mutual

theorem Token.Moves.takes {t : Token} {opened opened' : List String} (h : t.Moves opened opened') :
    Takes t.html opened opened' := by
  match t with
  | ⟨kind, tag, content, attrs, children, nesting⟩ =>
    cases kind with
    | headingOpen level | paragraphOpen =>
      simp only [Token.Moves] at h
      simpa only [Token.html] using h.takes
    | headingClose level | paragraphClose =>
      simp only [Token.Moves] at h
      simpa only [Token.html] using h.takes.append (takes_newline _)
    | inline =>
      simp only [Token.Moves] at h
      simpa only [Token.html] using siblingsMove.takes h
    | text =>
      simp only [Token.Moves] at h
      subst h
      simpa only [Token.html] using takes_escape content opened
    | inlineHtml =>
      simp only [Token.Moves] at h
      simpa only [Token.html] using h
    | codeInline =>
      simp only [Token.Moves] at h
      obtain ⟨hattrs, rfl⟩ := h
      have hopen : Takes (startTag "code" attrs) opened ("code" :: opened) :=
        takes_startTag (by decide) (by decide) hattrs opened
      have hclose : Takes (endTag "code") ("code" :: opened) opened :=
        takes_endTag (by decide) opened
      simpa only [Token.html] using (hopen.append (takes_escape content _)).append hclose
    | image =>
      simp only [Token.Moves] at h
      obtain ⟨hattrs, rfl⟩ := h
      have himg : Takes (startTag "img" (imageAttrs content attrs)) opened opened :=
        takes_voidTag (by decide) (by decide) (knownAttrs_imageAttrs hattrs) opened
      simpa only [Token.html] using himg
    | block =>
      simp only [Token.Moves] at h
      simpa only [Token.html] using h.takes

theorem siblingsMove.takes {ts : List Token} {opened opened' : List String}
    (h : siblingsMove opened opened' ts) : Takes (siblingsHtml ts) opened opened' := by
  match ts with
  | [] =>
    simp only [siblingsMove] at h
    subst h
    simpa only [siblingsHtml] using takes_empty opened
  | t :: rest =>
    simp only [siblingsMove] at h
    obtain ⟨middle, ht, hrest⟩ := h
    simpa only [siblingsHtml] using (Token.Moves.takes ht).append (siblingsMove.takes hrest)

end

theorem siblingsHtml_append (ts us : List Token) :
    siblingsHtml (ts ++ us) = siblingsHtml ts ++ siblingsHtml us := by
  induction ts with
  | nil => simp [siblingsHtml]
  | cons t rest ih => simp [siblingsHtml, ih, String.append_assoc]

theorem siblingsHtml_singleton (t : Token) : siblingsHtml [t] = t.html := by
  simp [siblingsHtml]

theorem html_of_text {t : Token} (ht : t.kind = .text) : t.html = escape t.content := by
  cases t with
  | mk kind tag content attrs children nesting =>
    obtain rfl : kind = .text := ht
    simp [Token.html]

/-! ## Single tokens -/

section Single

variable {opened opened' : List String}

theorem siblingsMove_singleton {t : Token} :
    siblingsMove opened opened' [t] ↔ t.Moves opened opened' := by
  simp [siblingsMove]

@[simp] theorem moves_inline (source : String) (children : List Token) :
    (Token.inline source children).Moves opened opened' ↔
      siblingsMove opened opened' children := by
  simp [Token.inline, Token.ofKind, Token.Moves]

@[simp] theorem moves_inlineHtml (html : String) :
    (Token.inlineHtml html).Moves opened opened' ↔ Takes html opened opened' := by
  simp [Token.inlineHtml, Token.ofKind, Token.Moves]

theorem moves_blockOpen {tag : String} (htag : tag ∈ elementNames) (hvoid : tag ∉ voidNames) :
    (Token.blockOpen tag).Moves opened (tag :: opened) :=
  ⟨htag, hvoid, by simp [Token.ofKind, KnownAttrs], rfl⟩

theorem moves_blockClose {tag : String} (htag : tag ∈ elementNames) :
    (Token.blockClose tag).Moves (tag :: opened) opened :=
  ⟨htag, rfl⟩

theorem moves_block {tag content : String} (hcontent : content ≠ "")
    (h : Takes content opened opened') : (Token.block tag content).Moves opened opened' :=
  ⟨hcontent, h⟩

end Single

/-! ## Changes that keep what tokens do -/

theorem siblingsMove_append {ts us : List Token} {opened opened' : List String} :
    siblingsMove opened opened' (ts ++ us) ↔
      ∃ middle, siblingsMove opened middle ts ∧ siblingsMove middle opened' us := by
  induction ts generalizing opened with
  | nil => simp [siblingsMove]
  | cons t rest ih =>
    simp only [List.cons_append, siblingsMove, ih]
    constructor
    · rintro ⟨first, ht, middle, hrest, hus⟩
      exact ⟨middle, ⟨first, ht, hrest⟩, hus⟩
    · rintro ⟨middle, ⟨first, ht, hrest⟩, hus⟩
      exact ⟨first, ht, middle, hrest, hus⟩

end Folio
