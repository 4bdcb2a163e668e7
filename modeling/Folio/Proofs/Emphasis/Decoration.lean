import Folio.Proofs.Emphasis.Kept
import Folio.Proofs.Html.Written

/-!
# Emphasis as decoration

An emphasizer keeps text if it gives the text back once the marks are deleted. What splicing with
such an emphasizer adds are the tags of its spans: without them, the leaves that took the place of a
text hold the same characters in the same order. Escaping goes character by character, so the HTML is
the same too.
-/

namespace Folio

def unmarked (cs : List Char) : List Char :=
  cs.filter (!isMark ·)

/-- Whether nothing but marks is put into a text that has none. -/
def Emphasizer.KeepsText (emphasizer : Emphasizer) : Prop :=
  ∀ text : String, text.toList.any isMark = false → unmarked (emphasizer text).toList = text.toList

theorem unmarked_of_plain {cs : List Char} (h : ∀ c ∈ cs, isMark c = false) : unmarked cs = cs := by
  apply List.filter_eq_self.mpr
  intro c hc
  simp [h c hc]

theorem unmarked_append (xs ys : List Char) : unmarked (xs ++ ys) = unmarked xs ++ unmarked ys :=
  List.filter_append xs ys

namespace Emphasis

def isSpanTag (t : Token) : Bool :=
  t.kind == .inlineHtml && (t.content == spanOpenHtml || t.content == spanCloseHtml)

end Emphasis

open Emphasis

mutual

def Token.withoutSpans : Token → Token
  | ⟨kind, tag, content, attrs, children, nesting⟩ =>
    ⟨kind, tag, content, attrs, siblingsWithoutSpans children, nesting⟩

def siblingsWithoutSpans : List Token → List Token
  | [] => []
  | t :: rest =>
    if isSpanTag t then siblingsWithoutSpans rest
    else t.withoutSpans :: siblingsWithoutSpans rest

end

/-- The document without the tags of spans, at any depth. -/
def Document.withoutSpans (doc : Document) : Document :=
  ⟨siblingsWithoutSpans doc.tokens⟩

theorem Token.withoutSpans_eq (t : Token) :
    t.withoutSpans = { t with children := siblingsWithoutSpans t.children } := by
  cases t
  simp [Token.withoutSpans]

theorem siblingsWithoutSpans_append (ts us : List Token) :
    siblingsWithoutSpans (ts ++ us) = siblingsWithoutSpans ts ++ siblingsWithoutSpans us := by
  induction ts with
  | nil => simp [siblingsWithoutSpans]
  | cons t rest ih => by_cases ht : isSpanTag t <;> simp [siblingsWithoutSpans, ht, ih]

namespace Emphasis

/-! ## Leaves of text -/

/-- Whether the tokens are leaves of text that hold the characters, one leaf after the other. -/
structure Spells (ts : List Token) (cs : List Char) : Prop where
  leaves : ∀ t ∈ ts, t.kind = .text ∧ t.children = []
  content : ts.flatMap (·.content.toList) = cs

theorem Spells.append {ts us : List Token} {cs ds : List Char} (h : Spells ts cs)
    (hus : Spells us ds) : Spells (ts ++ us) (cs ++ ds) := by
  refine ⟨?_, by simp [h.content, hus.content]⟩
  intro t ht
  rcases List.mem_append.mp ht with ht | ht
  · exact h.leaves t ht
  · exact hus.leaves t ht

theorem Spells.html {ts : List Token} {cs : List Char} (h : Spells ts cs) :
    siblingsHtml ts = Html.escape (String.ofList cs) := by
  induction ts generalizing cs with
  | nil =>
    obtain rfl : [] = cs := h.content
    rfl
  | cons t rest ih =>
    have hrest : Spells rest (rest.flatMap (·.content.toList)) :=
      ⟨fun u hu => h.leaves u (by simp [hu]), rfl⟩
    have ht : t.html = Html.escape t.content := html_of_text (h.leaves t (by simp)).1
    have hcontent : t.content ++ String.ofList (rest.flatMap (·.content.toList)) =
        String.ofList cs := by
      rw [← h.content]
      simp [String.ofList_append]
    rw [siblingsHtml, ht, ih hrest, ← Html.escape_append, hcontent]

theorem spells_textLeaf (cs : List Char) : Spells (siblingsWithoutSpans (textLeaf cs)) cs := by
  unfold textLeaf
  by_cases hcs : cs.isEmpty
  · obtain rfl : cs = [] := List.isEmpty_iff.mp hcs
    exact ⟨by simp [siblingsWithoutSpans], by simp [siblingsWithoutSpans]⟩
  · have hleaf : siblingsWithoutSpans [Token.text (String.ofList cs)] =
        [Token.text (String.ofList cs)] := rfl
    rw [if_neg hcs, hleaf]
    exact ⟨by simp [Token.text, Token.ofKind], by simp [Token.text]⟩

theorem spells_spanTokens (cs : List Char) : Spells (siblingsWithoutSpans (spanTokens cs)) cs := by
  have hopen : isSpanTag (.inlineHtml spanOpenHtml) = true := rfl
  have hclose : siblingsWithoutSpans [.inlineHtml spanCloseHtml] = [] := rfl
  have hspan : siblingsWithoutSpans (spanTokens cs) = siblingsWithoutSpans (textLeaf cs) := by
    rw [spanTokens, List.cons_append, siblingsWithoutSpans, if_pos hopen,
      siblingsWithoutSpans_append, hclose, List.append_nil]
  rw [hspan]
  exact spells_textLeaf cs

theorem spells_readMarked {marked : String} {position : Nat} {inside : Bool}
    {segment cs : List Char} {count : MarkCount} {result : List Token × MarkCount}
    (h : readMarked marked position inside segment count cs = .ok result) :
    Spells (siblingsWithoutSpans result.1) (segment.reverse ++ unmarked cs) := by
  -- A mark turns the segment into a leaf, and what follows starts from an empty one.
  induction cs generalizing position inside segment count result with
  | nil =>
    simp only [readMarked] at h
    split at h
    · simp at h
    · obtain rfl := Except.ok.inj h
      simpa [unmarked] using spells_textLeaf segment.reverse
  | cons c rest ih =>
    obtain ⟨rfl, -, others, hothers, rfl⟩ | ⟨rfl, -, others, hothers, rfl⟩ | ⟨hc, hnext⟩ :=
      readMarked_cons_cases h
    · have hrest : unmarked (spanBegin :: rest) = unmarked rest := rfl
      rw [siblingsWithoutSpans_append, hrest]
      exact (spells_textLeaf _).append (ih hothers)
    · have hrest : unmarked (spanEnd :: rest) = unmarked rest := rfl
      rw [siblingsWithoutSpans_append, hrest]
      exact (spells_spanTokens _).append (ih hothers)
    · have hrest : unmarked (c :: rest) = c :: unmarked rest := by simp [unmarked, hc]
      have hlater := ih hnext
      rw [List.reverse_cons, List.append_assoc] at hlater
      rw [hrest]
      exact hlater

theorem spells_emphasizeText {emphasizer : Emphasizer} (hkeeps : emphasizer.KeepsText)
    {text : String} {result : List Token × MarkCount}
    (h : emphasizeText emphasizer text = .ok result) :
    Spells (siblingsWithoutSpans result.1) text.toList := by
  unfold emphasizeText at h
  split at h
  · simp at h
  · rename_i hmarks
    have hspells := spells_readMarked h
    rw [hkeeps text (by simpa using hmarks)] at hspells
    exact hspells

/-! ## Documents -/

def SameUndecorated (ts us : List Token) : Prop :=
  siblingsHtml (siblingsWithoutSpans us) = siblingsHtml (siblingsWithoutSpans ts)

theorem html_withChildren {t : Token} {children others : List Token}
    (h : siblingsHtml children = siblingsHtml others) :
    ({ t with children } : Token).html = ({ t with children := others } : Token).html := by
  cases t with
  | mk kind tag content attrs old nesting => cases kind <;> simp [Token.html, h]

theorem congruence_sameUndecorated : Congruence SameUndecorated where
  refl ts := rfl
  append h h' := by
    unfold SameUndecorated at *
    rw [siblingsWithoutSpans_append, siblingsWithoutSpans_append, siblingsHtml_append,
      siblingsHtml_append, h, h']
  children t us h := by
    have htag : isSpanTag { t with children := us } = isSpanTag t := rfl
    unfold SameUndecorated at *
    by_cases ht : isSpanTag t = true
    · simp [siblingsWithoutSpans, htag, ht]
    · simp only [siblingsWithoutSpans, htag, if_neg ht, siblingsHtml_singleton,
        Token.withoutSpans_eq]
      exact html_withChildren h

theorem relatesText_sameUndecorated {emphasizer : Emphasizer} (hkeeps : emphasizer.KeepsText) :
    RelatesText SameUndecorated emphasizer := by
  intro t spliced count hkind hchildren hspliced
  have htag : isSpanTag t = false := by simp [isSpanTag, hkind]
  have hself : siblingsWithoutSpans [t] = [t] := by
    cases t with
    | mk kind tag content attrs children nesting =>
      obtain rfl : children = [] := hchildren
      simp [siblingsWithoutSpans, htag, Token.withoutSpans]
  unfold SameUndecorated
  rw [(spells_emphasizeText hkeeps hspliced).html, hself, siblingsHtml_singleton,
    html_of_text hkind, String.ofList_toList]

theorem html_withoutSpans_spliceAll {emphasizer : Emphasizer} (hkeeps : emphasizer.KeepsText)
    {doc spliced : Document} {stats : SpliceStats}
    (h : spliceAll emphasizer doc = (.ok stats, spliced)) :
    spliced.withoutSpans.html = doc.withoutSpans.html :=
  related_spliceAll congruence_sameUndecorated (relatesText_sameUndecorated hkeeps) h

/-! ## Bionic reading -/

theorem unmarked_markWord {word : List Char} (hword : ∀ c ∈ word, isMark c = false) :
    unmarked (Bionic.markWord word) = word := by
  obtain ⟨rfl, -⟩ | ⟨-, head, tail, rfl, -, hmarked⟩ := Bionic.markWord_cases word
  · rfl
  · obtain ⟨hhead, htail⟩ := List.forall_mem_append.mp hword
    have hbegin : ∀ cs, unmarked (spanBegin :: cs) = unmarked cs := fun _ => rfl
    have hend : ∀ cs, unmarked (spanEnd :: cs) = unmarked cs := fun _ => rfl
    rw [hmarked, List.cons_append, hbegin, unmarked_append, hend, unmarked_of_plain hhead,
      unmarked_of_plain htail]

theorem unmarked_markFrom {cs : List Char} (hcs : ∀ c ∈ cs, isMark c = false) :
    unmarked (Bionic.markFrom [] cs) = cs := by
  refine Bionic.markFrom_induction (motive := fun text marked => unmarked marked = text) rfl ?_ ?_ hcs
  · intro word rest marked hword _ ih
    have hself : unmarked (Bionic.markWord word) = word :=
      unmarked_markWord fun c hc => Bionic.isMark_of_isAlphanumeric (hword c hc)
    rw [unmarked_append, hself, ih]
  · intro c rest marked hc _ ih
    have hself : unmarked [c] = [c] := unmarked_of_plain (by simpa using hc)
    rw [← List.singleton_append, unmarked_append, hself, ih]
    rfl

theorem keepsText_bionic : Bionic.emphasizer.KeepsText := by
  intro text hmarks
  have hplain : ∀ c ∈ text.toList, isMark c = false := by
    simpa using List.any_eq_false.mp hmarks
  have hmarked := unmarked_markFrom hplain
  simpa [Bionic.emphasizer] using hmarked

end Emphasis

end Folio
