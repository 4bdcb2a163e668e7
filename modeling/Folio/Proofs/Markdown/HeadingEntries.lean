import Folio.Proofs.Heading.Anchors
import Folio.Proofs.Markdown.PageBlocks
import Folio.Proofs.Markdown.PageShape

/-!
# Headings and their entries

Reading properly nested events gives one entry for each heading, in order. Right behind the opening
of a heading stands its container, and the text of the container is the label of the entry. So the
entries of a page can be read off its tokens.
-/

namespace Folio.Markdown

open Token Heading

/-- Whether the headings among top-level tokens are those of the entries, one by one. -/
inductive Listed : List Token → List TocEntry → Prop
  | nil : Listed [] []
  | other {t : Token} {ts : List Token} {entries : List TocEntry} (ht : isOpening t = false)
      (h : Listed ts entries) : Listed (t :: ts) entries
  | heading {ts : List Token} {entries : List TocEntry} (level : UInt8) (label : String)
      (children : List Token) (h : Listed ts entries) :
      Listed (ofKind (.headingOpen level) :: inline label children :: ts)
        (⟨level, label⟩ :: entries)

theorem Listed.append {ts us : List Token} {entries others : List TocEntry}
    (h : Listed ts entries) (hu : Listed us others) :
    Listed (ts ++ us) (entries ++ others) := by
  induction h with
  | nil => exact hu
  | other ht _ ih => exact .other ht ih
  | heading level label children _ ih => exact .heading level label children ih

theorem listed_of_no_opening (ts : List Token) (h : ∀ t ∈ ts, isOpening t = false) :
    Listed ts [] := by
  induction ts with
  | nil => exact .nil
  | cons t rest ih =>
    exact .other (h t (by simp)) (ih fun u hu => h u (by simp [hu]))

theorem Listed.append_other {ts us : List Token} {entries : List TocEntry} (h : Listed ts entries)
    (hu : ∀ t ∈ us, isOpening t = false) : Listed (ts ++ us) entries := by
  simpa using h.append (listed_of_no_opening us hu)

theorem Listed.countP_isOpening {ts : List Token} {entries : List TocEntry}
    (h : Listed ts entries) : ts.countP isOpening = entries.length := by
  induction h with
  | nil => rfl
  | other ht _ ih => rw [List.countP_cons_of_neg (by simp [ht]), ih]
  | heading level label children _ ih =>
    have hopening : isOpening (ofKind (.headingOpen level)) = true := rfl
    have hlabel : isOpening (inline label children) = false := rfl
    rw [List.countP_cons_of_pos hopening, List.countP_cons_of_neg (by simp [hlabel]), ih,
      List.length_cons]

/-! ## Blocks -/

theorem isOpening_listed {kind close : Kind} (h : kind.textEnd? = some close) (source : String)
    (children : List Token) :
    Listed [ofKind kind, inline source children, ofKind close] (kind.entry? source).toList := by
  have hrest : ∀ t ∈ [inline source children, ofKind close], isOpening t = false := by
    obtain ⟨level, -, rfl⟩ | ⟨-, rfl⟩ := Blocks.textEnd?_cases h <;>
      simp [isOpening, Token.inline, ofKind, Kind.isHeadingOpen]
  obtain ⟨level, rfl, rfl⟩ | ⟨rfl, rfl⟩ := Blocks.textEnd?_cases h
  · exact .heading level source children (.other rfl .nil)
  · exact .other rfl (listed_of_no_opening _ hrest)

theorem listed_of_blocks {ts : List Token} {entries : List TocEntry} (h : Blocks ts entries) :
    Listed ts entries := by
  induction h with
  | nil => exact .nil
  | append _ _ ih ihu => exact ih.append ihu
  | container source children => exact .other rfl .nil
  | whole tag content => exact .other rfl .nil
  | text hclose source children => exact isOpening_listed hclose source children
  | nested tag attrs _ ih =>
    have hclose : ∀ t ∈ [blockClose tag], isOpening t = false := by simp; rfl
    exact .other rfl (ih.append_other hclose)

theorem listed_ofEvents {events : List Event} (h : WellNested (barsBlocks Element.holdsText) events) :
    Listed (ParsedPage.ofEvents events).document.tokens (ParsedPage.ofEvents events).toc :=
  listed_of_blocks (blocks_ofEvents (h.mono fun _ _ => barsBlocks_of_shape))

/-- The entries of the headings among top-level tokens, labelled by the tokens right behind them. -/
def headingEntries : List Token → List TocEntry
  | [] => []
  | [_] => []
  | t :: u :: rest => (t.kind.entry? u.content).toList ++ headingEntries (u :: rest)

theorem headingEntries_cons {t : Token} (ht : isOpening t = false) (rest : List Token) :
    headingEntries (t :: rest) = headingEntries rest := by
  have hnone : ∀ label, t.kind.entry? label = none := by
    intro label
    cases hkind : t.kind <;> simp_all [isOpening, Kind.isHeadingOpen, Kind.entry?]
  cases rest with
  | nil => rfl
  | cons u rest => simp [headingEntries, hnone]

theorem Listed.headingEntries_eq {ts : List Token} {entries : List TocEntry}
    (h : Listed ts entries) : headingEntries ts = entries := by
  induction h with
  | nil => rfl
  | other ht _ ih => rw [headingEntries_cons ht, ih]
  | @heading ts entries level label children _ ih =>
    have hlabel : headingEntries (inline label children :: ts) = entries := by
      rw [headingEntries_cons rfl, ih]
    simp [headingEntries, hlabel, ofKind, Kind.entry?]
    rfl

end Folio.Markdown
