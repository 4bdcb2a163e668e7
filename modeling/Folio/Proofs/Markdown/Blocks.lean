import Folio.Markdown.ParsedPage

/-!
# The blocks of a page

The top-level tokens of a page are blocks one after the other: containers of running text, finished
blocks, paragraphs and headings around one container each, and markers around further blocks. What is
said of a page by nesting, by position or entry by entry is read off this grammar.
-/

namespace Folio

def Kind.textEnd? : Kind → Option Kind
  | headingOpen level => some (headingClose level)
  | paragraphOpen => some paragraphClose
  | headingClose _ | paragraphClose | text | inlineHtml | image | codeInline | inline | block => none

def Kind.entry? (label : String) : Kind → Option TocEntry
  | headingOpen level => some ⟨level, label⟩
  | _ => none

/-- Whether a marker ends what another begins: a heading of the same level, a paragraph, or a block
with the same tag. -/
def Token.isEndOf (closing opening : Token) : Bool :=
  match opening.kind with
  | .block => closing.kind == .block && closing.tag == opening.tag
  | kind => kind.textEnd? == some closing.kind

/-- The open markers after one more token, the innermost first. There are none if the token is an end
of something other than the innermost. -/
def openMarkers (opened : List Token) (t : Token) : Option (List Token) :=
  if t.nesting = 1 then some (t :: opened)
  else if t.nesting = -1 then
    match opened with
    | [] => none
    | opening :: outer => if t.isEndOf opening then some outer else none
  else if t.nesting = 0 then some opened
  else none

open Token

/-- Tokens that are blocks one after the other, with the entries of the headings among them. -/
inductive Blocks : List Token → List TocEntry → Prop
  | nil : Blocks [] []
  | append {ts us : List Token} {entries others : List TocEntry} (h : Blocks ts entries)
      (hu : Blocks us others) : Blocks (ts ++ us) (entries ++ others)
  | container (source : String) (children : List Token) : Blocks [Token.inline source children] []
  | whole (tag content : String) : Blocks [block tag content] []
  | text {kind close : Kind} (hclose : kind.textEnd? = some close) (source : String)
      (children : List Token) :
      Blocks [ofKind kind, Token.inline source children, ofKind close] (kind.entry? source).toList
  | nested (tag : String) (attrs : List (String × String)) {ts : List Token}
      {entries : List TocEntry} (h : Blocks ts entries) :
      Blocks ({ blockOpen tag with attrs } :: (ts ++ [blockClose tag])) entries

namespace Blocks

variable {ts us : List Token} {entries : List TocEntry}

theorem append_others (h : Blocks ts entries) (hu : Blocks us []) : Blocks (ts ++ us) entries := by
  simpa using h.append hu

theorem between (tag : String) (h : Blocks ts entries) :
    Blocks (blockOpen tag :: (ts ++ [blockClose tag])) entries :=
  h.nested tag []

/-! ## By nesting -/

theorem textEnd?_cases {kind close : Kind} (h : kind.textEnd? = some close) :
    (∃ level, kind = .headingOpen level ∧ close = .headingClose level) ∨
      kind = .paragraphOpen ∧ close = .paragraphClose := by
  cases kind with
  | headingOpen level => exact .inl ⟨level, rfl, (Option.some.inj h).symm⟩
  | paragraphOpen => exact .inr ⟨rfl, (Option.some.inj h).symm⟩
  | _ => simp [Kind.textEnd?] at h

theorem openMarkers_text {kind close : Kind} (h : kind.textEnd? = some close) (source : String)
    (children opened : List Token) :
    [ofKind kind, Token.inline source children, ofKind close].foldlM openMarkers opened =
      some opened := by
  have hinline : ∀ opened, openMarkers opened (Token.inline source children) = some opened :=
    fun _ => rfl
  have hopen : openMarkers opened (ofKind kind) = some (ofKind kind :: opened) := by
    obtain ⟨level, rfl, -⟩ | ⟨rfl, -⟩ := textEnd?_cases h <;> rfl
  have hclose : openMarkers (ofKind kind :: opened) (ofKind close) = some opened := by
    obtain ⟨level, rfl, rfl⟩ | ⟨rfl, rfl⟩ := textEnd?_cases h
    · have hnesting : (ofKind (.headingClose level)).nesting = -1 := rfl
      have hend : (ofKind (.headingClose level)).isEndOf (ofKind (.headingOpen level)) = true := by
        simp [isEndOf, ofKind, Kind.textEnd?]
      simp [openMarkers, hnesting, hend]
    · rfl
  simp [List.foldlM_cons, hopen, hinline, hclose]

theorem markers (h : Blocks ts entries) (opened : List Token) :
    ts.foldlM openMarkers opened = some opened := by
  induction h generalizing opened with
  | nil => rfl
  | append _ _ ih ihu => simp [List.foldlM_append, ih, ihu]
  | container source children => rfl
  | whole tag content => rfl
  | text hclose source children => exact openMarkers_text hclose source children opened
  | nested tag attrs _ ih =>
    have hopen : openMarkers opened { blockOpen tag with attrs } =
        some ({ blockOpen tag with attrs } :: opened) := rfl
    have hclose : openMarkers ({ blockOpen tag with attrs } :: opened) (blockClose tag) =
        some opened := by
      simp [openMarkers, blockOpen, blockClose, ofKind, isEndOf]
    simp [List.foldlM_cons, List.foldlM_append, hopen, ih, hclose]

theorem nesting (h : Blocks ts entries) :
    ∀ t ∈ ts, t.kind ≠ .block → t.nesting = t.kind.defaultNesting := by
  induction h with
  | nil => simp
  | append _ _ ih ihu =>
    intro t ht
    rcases List.mem_append.mp ht with ht | ht
    · exact ih t ht
    · exact ihu t ht
  | container source children => simp [Token.inline, ofKind]
  | whole tag content => simp [block, ofKind]
  | text hclose source children => simp [Token.inline, ofKind]
  | nested tag attrs _ ih =>
    intro t ht hkind
    rcases List.mem_cons.mp ht with rfl | ht
    · exact absurd rfl hkind
    · rcases List.mem_append.mp ht with ht | ht
      · exact ih t ht hkind
      · rw [List.mem_singleton.mp ht] at hkind
        exact absurd rfl hkind

end Blocks

/-! ## By position -/

/-- Whether one container, and nothing else, stands between the markers of running text. -/
def Filled (ts : List Token) : Prop :=
  ∀ i opening close, ts[i]? = some opening → opening.kind.textEnd? = some close →
    ∃ source children, ts[i + 1]? = some (Token.inline source children) ∧
      ts[i + 2]? = some (ofKind close)

theorem Filled.append {ts us : List Token} (h : Filled ts) (hu : Filled us) : Filled (ts ++ us) := by
  intro i opening close hi hclose
  by_cases hlt : i < ts.length
  · rw [List.getElem?_append_left hlt] at hi
    obtain ⟨source, children, hcontainer, hend⟩ := h i opening close hi hclose
    have hbound : i + 2 < ts.length := (List.getElem?_eq_some_iff.mp hend).choose
    refine ⟨source, children, ?_, ?_⟩
    · rw [List.getElem?_append_left (by omega), hcontainer]
    · rw [List.getElem?_append_left hbound, hend]
  · have hle : ts.length ≤ i := by omega
    rw [List.getElem?_append_right hle] at hi
    obtain ⟨source, children, hcontainer, hend⟩ := hu _ opening close hi hclose
    refine ⟨source, children, ?_, ?_⟩
    · rw [List.getElem?_append_right (by omega), Nat.sub_add_comm hle, hcontainer]
    · rw [List.getElem?_append_right (by omega), Nat.sub_add_comm hle, hend]

theorem filled_of_no_text {ts : List Token} (h : ∀ t ∈ ts, t.kind.textEnd? = none) : Filled ts := by
  intro i opening close hi hclose
  have hnone := h opening (List.mem_of_getElem? hi)
  rw [hclose] at hnone
  cases hnone

theorem filled_text {kind close : Kind} (h : kind.textEnd? = some close) (source : String)
    (children : List Token) :
    Filled [ofKind kind, Token.inline source children, ofKind close] := by
  have hrest : Filled [Token.inline source children, ofKind close] := by
    apply filled_of_no_text
    obtain ⟨level, -, rfl⟩ | ⟨-, rfl⟩ := Blocks.textEnd?_cases h <;>
      simp [Token.inline, ofKind, Kind.textEnd?]
  intro i opening close' hi hclose
  cases i with
  | zero =>
    obtain rfl : ofKind kind = opening := Option.some.inj hi
    obtain rfl : close = close' := Option.some.inj (h.symm.trans hclose)
    exact ⟨source, children, rfl, rfl⟩
  | succ i => exact hrest i opening close' hi hclose

theorem Blocks.filled {ts : List Token} {entries : List TocEntry} (h : Blocks ts entries) :
    Filled ts := by
  induction h with
  | nil => exact filled_of_no_text (by simp)
  | append _ _ ih ihu => exact ih.append ihu
  | container source children => exact filled_of_no_text (by simp [Token.inline, ofKind, Kind.textEnd?])
  | whole tag content => exact filled_of_no_text (by simp [block, ofKind, Kind.textEnd?])
  | text hclose source children => exact filled_text hclose source children
  | nested tag attrs _ ih =>
    have hopen : Filled [{ blockOpen tag with attrs }] :=
      filled_of_no_text (by simp [blockOpen, ofKind, Kind.textEnd?])
    have hclose : Filled [blockClose tag] :=
      filled_of_no_text (by simp [blockClose, ofKind, Kind.textEnd?])
    exact hopen.append (ih.append hclose)

end Folio
