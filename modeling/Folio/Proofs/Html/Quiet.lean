import Folio.Proofs.Html.Written
import Folio.Proofs.Markdown.PageShape

/-!
# Text without tags of paragraphs

A text is quiet if all its tags are known and none of them is one of a paragraph. A token of a page is
written as a quiet text if its name and attributes are known and the HTML that it takes over is quiet,
unless it is a marker of a paragraph.
-/

namespace Folio

namespace Html

def Tag.name : Tag → String
  | opening name _ => name
  | closing name => name

/-- Whether the text consists of known tags, none of them of a paragraph, and of characters that belong
to no tag. -/
def Quiet (cs : List Char) : Prop :=
  ∃ tags, Reads cs tags ∧ ∀ t ∈ tags, t.name ≠ "p"

variable {cs ds : List Char}

theorem Quiet.append (h : Quiet cs) (hd : Quiet ds) : Quiet (cs ++ ds) := by
  obtain ⟨tags, hreads, hnames⟩ := h
  obtain ⟨others, hothers, hrest⟩ := hd
  refine ⟨tags ++ others, hreads.append hothers, ?_⟩
  rw [List.forall_mem_append]
  exact ⟨hnames, hrest⟩

theorem quiet_of_free (h : ∀ c ∈ cs, c ≠ '<' ∧ c ≠ '>') : Quiet cs :=
  ⟨[], reads_of_free h, by simp⟩

theorem quiet_tag {t : Tag} (ht : t.IsKnown) (hname : t.name ≠ "p") : Quiet t.chars :=
  ⟨[t], reads_tag ht, by simpa using hname⟩

/-! ## Markup -/

def quietNames : List String :=
  elementNames.filter (· ≠ "p")

/-- Whether a fragment of HTML is one known tag, and none of a paragraph. -/
def IsMarkup (html : String) : Prop :=
  ∃ t : Tag, t.IsKnown ∧ t.name ≠ "p" ∧ html.toList = t.chars

theorem mem_quietNames {name : String} : name ∈ quietNames ↔ name ∈ elementNames ∧ name ≠ "p" := by
  simp [quietNames]

theorem isMarkup_startTag {name : String} {attrs : List (String × String)}
    (hname : name ∈ quietNames) (hattrs : KnownAttrs attrs) : IsMarkup (startTag name attrs) := by
  obtain ⟨helement, hp⟩ := mem_quietNames.mp hname
  exact ⟨_, isKnown_opening helement hattrs, hp, startTag_toList name attrs⟩

theorem isMarkup_bare {html name : String} (hhtml : html = startTag name [])
    (hname : name ∈ quietNames) : IsMarkup html := by
  rw [hhtml]
  exact isMarkup_startTag hname (by simp [KnownAttrs])

theorem isMarkup_endTag {name : String} (hname : name ∈ quietNames) : IsMarkup (endTag name) := by
  obtain ⟨helement, hp⟩ := mem_quietNames.mp hname
  exact ⟨.closing name, helement, hp, by simp [endTag, Tag.chars, Tag.inside]⟩

theorem IsMarkup.quiet {html : String} (h : IsMarkup html) : Quiet html.toList := by
  obtain ⟨t, ht, hname, hchars⟩ := h
  rw [hchars]
  exact quiet_tag ht hname

theorem IsMarkup.bracket_mem {html : String} (h : IsMarkup html) : '<' ∈ html.toList := by
  obtain ⟨t, -, -, hchars⟩ := h
  simp [hchars, Tag.chars]

theorem quiet_escape (s : String) : Quiet (escape s).toList :=
  quiet_of_free fun c hc => not_bracket_of_free (escape_free s c hc)

theorem quiet_newline : Quiet "\n".toList :=
  quiet_of_free (by simp)

end Html

open Html

/-! ## Tokens -/

def IsQuietBlock (tag content : String) (attrs : List (String × String)) (nesting : Int8) : Prop :=
  if nesting = 1 then tag ∈ quietNames ∧ KnownAttrs attrs
  else if nesting = -1 then tag ∈ quietNames
  else content ≠ "" ∧ Quiet content.toList

/-- Whether a token without its children is written with known tags, none of them of a paragraph
except for its markers. -/
def Token.IsQuiet (t : Token) : Prop :=
  match t.kind with
  | .headingOpen level => headingName level ∈ quietNames ∧ KnownAttrs t.attrs
  | .headingClose level => headingName level ∈ quietNames
  | .paragraphOpen => t.attrs = []
  | .paragraphClose | .inline | .text => True
  | .inlineHtml => IsMarkup t.content
  | .codeInline | .image => KnownAttrs t.attrs
  | .block => IsQuietBlock t.tag t.content t.attrs t.nesting

theorem IsQuietBlock.quiet {tag content : String} {attrs : List (String × String)} {nesting : Int8}
    (h : IsQuietBlock tag content attrs nesting) :
    Quiet (blockHtml tag content attrs nesting).toList := by
  unfold IsQuietBlock at h
  unfold blockHtml
  split at h
  · rename_i hone
    rw [if_pos hone, String.toList_append]
    exact (isMarkup_startTag h.1 h.2).quiet.append quiet_newline
  · rename_i hone
    rw [if_neg hone]
    split at h
    · rename_i hminus
      rw [if_pos hminus, String.toList_append]
      exact (isMarkup_endTag h).quiet.append quiet_newline
    · rename_i hminus
      have hcontent : content.isEmpty = false := by simpa using h.1
      simp only [hminus, hcontent, if_false, Bool.false_eq_true]
      split
      · exact h.2
      · rw [String.toList_append]
        exact h.2.append quiet_newline

namespace Token

variable {t : Token}

theorem quiet_leaf (hleaf : t.IsTextLeaf) (h : t.IsQuiet) : Quiet t.html.toList := by
  have hkind := hleaf.isLeaf
  cases t with
  | mk kind tag content attrs children nesting =>
    cases kind with
    | text => simpa [Token.html] using quiet_escape content
    | inlineHtml => simpa [Token.html] using IsMarkup.quiet h
    | image =>
      have hattrs : KnownAttrs (imageAttrs content attrs) := knownAttrs_imageAttrs h
      have himage := isMarkup_startTag (by decide : "img" ∈ quietNames) hattrs
      simpa [Token.html] using himage.quiet
    | codeInline =>
      have hopen := (isMarkup_startTag (by decide : "code" ∈ quietNames) h).quiet
      have hclose := (isMarkup_endTag (by decide : "code" ∈ quietNames)).quiet
      simpa [Token.html] using (hopen.append (quiet_escape content)).append hclose
    | _ => simp [Kind.isLeaf] at hkind

theorem bracket_mem_leaf (hleaf : t.IsTextLeaf) (h : t.IsQuiet) (htext : t.kind ≠ .text) :
    '<' ∈ t.html.toList := by
  have hkind := hleaf.isLeaf
  cases t with
  | mk kind tag content attrs children nesting =>
    cases kind with
    | inlineHtml => simpa [Token.html] using IsMarkup.bracket_mem h
    | image | codeInline => simp [Token.html, startTag]
    | text => exact absurd rfl htext
    | _ => simp [Kind.isLeaf] at hkind

end Token

theorem quiet_siblings {ts : List Token} (hleaves : ∀ t ∈ ts, t.IsTextLeaf)
    (h : ∀ t ∈ ts, t.IsQuiet) : Quiet (siblingsHtml ts).toList := by
  induction ts with
  | nil => exact quiet_of_free (by simp [siblingsHtml])
  | cons t rest ih =>
    have ht := Token.quiet_leaf (hleaves t (by simp)) (h t (by simp))
    have hrest := ih (fun u hu => hleaves u (by simp [hu])) fun u hu => h u (by simp [hu])
    rw [siblingsHtml, String.toList_append]
    exact ht.append hrest

theorem Token.quiet_html {t : Token} (hpage : t.IsPageToken) (h : t.IsQuiet)
    (hchildren : ∀ c ∈ t.children, c.IsQuiet) (hopen : t.kind ≠ .paragraphOpen)
    (hclose : t.kind ≠ .paragraphClose) : Quiet t.html.toList := by
  have hleaf := hpage.notLeaf
  cases t with
  | mk kind tag content attrs children nesting =>
    cases kind with
    | headingOpen level =>
      simpa [Token.html] using (isMarkup_startTag h.1 h.2).quiet
    | headingClose level =>
      simpa [Token.html] using (isMarkup_endTag h).quiet.append quiet_newline
    | inline => simpa [Token.html] using quiet_siblings hpage.leaves hchildren
    | block => simpa [Token.html] using IsQuietBlock.quiet h
    | paragraphOpen => exact absurd rfl hopen
    | paragraphClose => exact absurd rfl hclose
    | text | inlineHtml | image | codeInline => simp [Kind.isLeaf] at hleaf

end Folio
