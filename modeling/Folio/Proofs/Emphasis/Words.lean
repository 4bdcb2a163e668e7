import Folio.Proofs.Emphasis.MarkedText
import Folio.Proofs.Emphasis.Paragraphs
import Folio.Proofs.Emphasis.Reach

/-!
# The words that are emphasized

Bionic reading begins one span for each word. So the spans that splicing counts on a page are the
words in the leaves of text of its closed paragraphs, each leaf taken by itself, where a paragraph
that holds the place of the table of contents counts as passed over.
-/

namespace Folio.Emphasis

open Text

/-! ## Words of a text -/

/-- The words of a text: its longest stretches of letters and digits. -/
def words (cs : List Char) : List (List Char) :=
  (cs.splitOnP (!isAlphanumeric ·)).filter (!·.isEmpty)

theorem words_append_other {c : Char} (hc : isAlphanumeric c = false) (xs ys : List Char) :
    words (xs ++ c :: ys) = words xs ++ words ys := by
  unfold words
  rw [List.splitOnP_append_cons xs ys (by simp [hc]), List.filter_append]

theorem words_alphanumeric {word : List Char} (h : ∀ c ∈ word, isAlphanumeric c = true) :
    words word = if word.isEmpty then [] else [word] := by
  unfold words
  rw [List.splitOnP_eq_singleton (by simpa using h)]
  cases word <;> rfl

theorem count_markWord {word : List Char} (hword : ∀ c ∈ word, isAlphanumeric c = true) :
    (Bionic.markWord word).count spanBegin = (words word).length := by
  have hnone : ∀ {part : List Char}, (∀ c ∈ part, isMark c = false) → part.count spanBegin = 0 := by
    intro part hpart
    apply List.count_eq_zero.mpr
    intro hmem
    have hmark := hpart _ hmem
    simp [isMark] at hmark
  have hmarks : ∀ c ∈ word, isMark c = false := fun c hc =>
    Bionic.isMark_of_isAlphanumeric (hword c hc)
  have hend : spanEnd ≠ spanBegin := by decide
  rw [words_alphanumeric hword]
  obtain ⟨rfl, -⟩ | ⟨hne, head, tail, rfl, -, hmarked⟩ := Bionic.markWord_cases word
  · rfl
  · obtain ⟨hhead, htail⟩ := List.forall_mem_append.mp hmarks
    rw [hmarked, List.isEmpty_eq_false_iff.mpr hne]
    simp [List.count_append, hend, hnone hhead, hnone htail]

theorem count_markFrom {cs : List Char} (hcs : ∀ c ∈ cs, isMark c = false) :
    (Bionic.markFrom [] cs).count spanBegin = (words cs).length := by
  refine Bionic.markFrom_induction
    (motive := fun text marked => marked.count spanBegin = (words text).length) rfl ?_ ?_ hcs
  · intro word rest marked hword hnext ih
    rw [List.count_append, count_markWord hword, ih]
    cases rest with
    | nil =>
      rw [List.append_nil]
      rfl
    | cons c rest =>
      have hc : isAlphanumeric c = false := hnext c rfl
      have hrest : words (c :: rest) = words rest := words_append_other hc [] rest
      rw [words_append_other hc, hrest, List.length_append]
  · intro c rest marked hc hother ih
    have hrest : words (c :: rest) = words rest := words_append_other hother [] rest
    have hne : c ≠ spanBegin := by
      rintro rfl
      simp [isMark] at hc
    rw [List.count_cons_of_ne hne, ih, hrest]

theorem begins_emphasizeText {text : String} {result : List Token × MarkCount}
    (h : emphasizeText Bionic.emphasizer text = .ok result) :
    result.2.begins = (words text.toList).length := by
  cases htext : text.toList.any isMark with
  | true => simp [emphasizeText, htext] at h
  | false =>
    have hplain : ∀ c ∈ text.toList, isMark c = false := by
      simpa using List.any_eq_false.mp htext
    have houtcome := outcome_emphasizeText Bionic.emphasizer htext
    rw [h] at houtcome
    cases houtcome with
    | read _ =>
      have hcount : (Bionic.markFrom [] text.toList).count spanBegin = (words text.toList).length :=
        count_markFrom hplain
      simpa [countMarks, Bionic.emphasizer] using hcount

/-! ## Words of a paragraph -/

def leafTexts (ts : List Token) : List String :=
  ((siblingsInOrder ts).filter (·.kind == .text)).map (·.content)

/-- The number of words in texts, each taken by itself. -/
def wordCount (texts : List String) : Nat :=
  (texts.flatMap fun text => words text.toList).length

theorem wordCount_append (texts others : List String) :
    wordCount (texts ++ others) = wordCount texts + wordCount others := by
  simp [wordCount]

theorem leafTexts_cons (t : Token) (rest : List Token) :
    leafTexts (t :: rest) =
      (if t.kind = .text then [t.content] else []) ++ leafTexts t.children ++ leafTexts rest := by
  by_cases ht : t.kind = .text <;> simp [leafTexts, siblingsInOrder, Token.inOrder_eq, ht]

theorem Emphasizes.begins_eq {ts spliced : List Token} {count : MarkCount}
    (h : Emphasizes Bionic.emphasizer ts spliced count) :
    count.begins = wordCount (leafTexts ts) := by
  induction h with
  | nil => rfl
  | @text t pieces rest rest' count others ht hleaf hpieces _ ih =>
    have hwords := begins_emphasizeText hpieces
    have hleaves : leafTexts t.children = [] := by
      rw [hleaf]
      rfl
    simp only at hwords
    rw [leafTexts_cons, if_pos ht, hleaves, List.append_nil, wordCount_append, ← ih,
      MarkCount.add, hwords]
    simp [wordCount]
  | other ht _ _ ihbelow ih =>
    rw [leafTexts_cons, if_neg ht, List.nil_append, wordCount_append, ← ihbelow, ← ih,
      MarkCount.add]

def countBodies (bodies : List (List Token)) : SpliceStats where
  paragraphs := bodies.countP (!isPlaceholder ·)
  skipped := bodies.countP isPlaceholder
  spans := wordCount ((bodies.filter (!isPlaceholder ·)).flatMap leafTexts)

theorem SplicesBody.stats_eq {body spliced : List Token} {stats : SpliceStats}
    (h : SplicesBody Bionic.emphasizer body spliced stats) : stats = countBodies [body] := by
  cases h with
  | place hplace => simp [countBodies, hplace, wordCount]
  | text hplace hspliced _ => simp [countBodies, hplace, hspliced.begins_eq]

theorem countBodies_cons (body : List Token) (bodies : List (List Token)) :
    countBodies (body :: bodies) = (countBodies [body]).add (countBodies bodies) := by
  cases hplace : isPlaceholder body <;>
    simp [countBodies, SpliceStats.add, hplace, wordCount, Nat.add_comm]

/-! ## Words of a page -/

theorem paragraphBodies_body {body : List Token} (hbody : HasNoClosing body)
    (reversed rest : List Token) :
    paragraphBodies (some reversed) (body ++ rest) =
      paragraphBodies (some (body.reverse ++ reversed)) rest := by
  induction body generalizing reversed with
  | nil => rfl
  | cons t body ih =>
    obtain ⟨ht, hbody⟩ := List.forall_mem_cons.mp hbody
    rw [List.cons_append, paragraphBodies]
    simp [ht, ih hbody]

theorem paragraphBodies_closed {opening close : Token} {body : List Token}
    (hopen : opening.kind = .paragraphOpen) (hbody : HasNoClosing body)
    (hclose : close.kind = .paragraphClose) (rest : List Token) :
    paragraphBodies none (opening :: body ++ close :: rest) =
      body :: paragraphBodies none rest := by
  rw [List.cons_append, paragraphBodies]
  simp only [hopen, if_true]
  rw [paragraphBodies_body hbody, paragraphBodies]
  simp [hclose]

theorem paragraphBodies_unclosed {opening : Token} {rest : List Token}
    (hopen : opening.kind = .paragraphOpen) (hrest : HasNoClosing rest) :
    paragraphBodies none (opening :: rest) = [] := by
  have hall := paragraphBodies_body hrest [] []
  rw [List.append_nil] at hall
  simp [paragraphBodies, hopen, hall]

theorem Reaches.stats_eq {ts spliced : List Token} {stats : SpliceStats}
    (h : Reaches Bionic.emphasizer false ts spliced stats) (hpage : ∀ t ∈ ts, t.IsPageToken) :
    stats = countBodies (paragraphBodies none ts) := by
  induction h with
  | nil => rfl
  | @outside t below rest rest' stats others ht hbelow _ _ ih =>
    obtain ⟨htop, hrest⟩ := List.forall_mem_cons.mp hpage
    have hnone : stats = ⟨0, 0, 0⟩ := by
      have hleaves := hbelow.spliceSiblings_eq.symm.trans (spliceSiblings_leaves htop.leaves)
      exact congrArg Spliced.stats hleaves
    have hbodies : paragraphBodies none (t :: rest) = paragraphBodies none rest := by
      simp [paragraphBodies, ht]
    rw [hbodies, ← ih hrest, hnone]
    simp [SpliceStats.add]
  | @paragraph opening close body spliced rest rest' stats others hopen hbody hclose hspliced _
      ih =>
    have hrest : ∀ t ∈ rest, t.IsPageToken := fun t ht => hpage t (by simp [ht])
    rw [paragraphBodies_closed hopen hbody hclose, countBodies_cons, ← hspliced.stats_eq,
      ← ih hrest]
  | passed hpast => simp at hpast
  | left _ hopen hunclosed =>
    rw [paragraphBodies_unclosed hopen hunclosed]
    rfl

theorem stats_spliceAll {doc spliced : Document} {stats : SpliceStats} (hpage : doc.IsPage)
    (h : spliceAll Bionic.emphasizer doc = (.ok stats, spliced)) :
    stats = countBodies (paragraphBodies none doc.tokens) :=
  (spliceAll_eq_ok_iff.mp h).stats_eq hpage

end Folio.Emphasis
