import Folio.Proofs.Emphasis.Damage

/-!
# Spans come in pairs

What takes the place of a leaf of text is a sequence of texts and whole spans, each with one text
between its tags at most. So a span that splicing inserts encloses nothing else, and the tags of
either kind become more by the number of spans that are counted, whatever tags the document had
before. The marks of a paragraph are balanced because those of each leaf are: counting them once more
over the whole of it refuses nothing.
-/

namespace Folio.Emphasis

variable {emphasizer : Emphasizer}

/-! ## Spans of a leaf -/

/-- A sequence of texts and so many spans, each with one text between its tags at most. -/
inductive SpanSequence : List Token → Nat → Prop
  | nil : SpanSequence [] 0
  | text {content : String} {ts : List Token} {n : Nat} (hrest : SpanSequence ts n) :
      SpanSequence (.text content :: ts) n
  | span {ts : List Token} {n : Nat} (between : Option String) (hrest : SpanSequence ts n) :
      SpanSequence (.inlineHtml spanOpenHtml ::
        ((between.map Token.text).toList ++ .inlineHtml spanCloseHtml :: ts)) (n + 1)

theorem SpanSequence.textLeaf_append {ts : List Token} {n : Nat} (h : SpanSequence ts n)
    (cs : List Char) : SpanSequence (textLeaf cs ++ ts) n := by
  unfold textLeaf
  split
  · exact h
  · exact h.text

theorem SpanSequence.spanTokens_append {ts : List Token} {n : Nat} (h : SpanSequence ts n)
    (cs : List Char) : SpanSequence (spanTokens cs ++ ts) (n + 1) := by
  unfold spanTokens textLeaf
  split
  · simpa using h.span none
  · simpa using h.span (some (String.ofList cs))

/-- What is read from a position on. Within a span, its beginning has been counted already. -/
theorem spanSequence_readMarked {marked : String} {position : Nat} {inside : Bool}
    {segment cs : List Char} {count : MarkCount} {result : List Token × MarkCount}
    (h : readMarked marked position inside segment count cs = .ok result) :
    ∃ n, SpanSequence result.1 n ∧
      result.2.begins + (if inside then 1 else 0) = count.begins + n := by
  induction cs generalizing position inside segment count result with
  | nil =>
    simp only [readMarked] at h
    split at h
    · simp at h
    · rename_i hinside
      obtain rfl := Except.ok.inj h
      have hleaf := SpanSequence.nil.textLeaf_append segment.reverse
      exact ⟨0, by simpa using hleaf, by simp [hinside]⟩
  | cons c rest ih =>
    obtain ⟨-, rfl, others, hothers, rfl⟩ | ⟨-, rfl, others, hothers, rfl⟩ | ⟨-, hnext⟩ :=
      readMarked_cons_cases h
    · obtain ⟨n, hspans, hcount⟩ := ih hothers
      simp only [if_true] at hcount
      exact ⟨n, hspans.textLeaf_append _, by simp; omega⟩
    · obtain ⟨n, hspans, hcount⟩ := ih hothers
      simp only [Bool.false_eq_true, if_false] at hcount
      exact ⟨n + 1, hspans.spanTokens_append _, by simp; omega⟩
    · exact ih hnext

theorem spanSequence_emphasizeText {text : String} {result : List Token × MarkCount}
    (h : emphasizeText emphasizer text = .ok result) :
    SpanSequence result.1 result.2.begins := by
  unfold emphasizeText at h
  split at h
  · simp at h
  · obtain ⟨n, hspans, hcount⟩ := spanSequence_readMarked h
    obtain rfl : result.2.begins = n := by simpa using hcount
    exact hspans

/-! ## Spans of a document -/

/-- How siblings change when leaves of text among them, or below them, are replaced by sequences of
texts and spans, so many spans in all. Everything else stays where it is. -/
inductive InsertsSpans : List Token → List Token → Nat → Prop
  | same (ts : List Token) : InsertsSpans ts ts 0
  | append {ts us ts' us' : List Token} {n m : Nat} (h : InsertsSpans ts us n)
      (h' : InsertsSpans ts' us' m) : InsertsSpans (ts ++ ts') (us ++ us') (n + m)
  | children {t : Token} {us : List Token} {n : Nat} (h : InsertsSpans t.children us n) :
      InsertsSpans [t] [{ t with children := us }] n
  | leaf {t : Token} {us : List Token} {n : Nat} (ht : t.kind = .text) (hleaf : t.children = [])
      (hspans : SpanSequence us n) : InsertsSpans [t] us n

theorem Emphasizes.insertsSpans {ts spliced : List Token} {count : MarkCount}
    (h : Emphasizes emphasizer ts spliced count) : InsertsSpans ts spliced count.begins := by
  induction h with
  | nil => exact .same []
  | text ht hleaf hpieces _ ih =>
    have hspans := spanSequence_emphasizeText hpieces
    exact .append (.leaf ht hleaf hspans) ih
  | other _ _ _ ihbelow ih => exact .append (.children ihbelow) ih

theorem SplicesBody.insertsSpans {body spliced : List Token} {stats : SpliceStats}
    (h : SplicesBody emphasizer body spliced stats) : InsertsSpans body spliced stats.spans := by
  cases h with
  | place _ => exact .same body
  | text _ hspliced _ => exact hspliced.insertsSpans

theorem Reaches.insertsSpans {past : Bool} {ts spliced : List Token} {stats : SpliceStats}
    (h : Reaches emphasizer past ts spliced stats) : InsertsSpans ts spliced stats.spans := by
  induction h with
  | nil => exact .same []
  | outside _ _ _ ihbelow ih => exact .append (.children ihbelow) ih
  | @paragraph opening close body spliced rest rest' stats others _ _ _ hspliced _ ih =>
    have hbody : InsertsSpans (opening :: body) (opening :: spliced) (0 + stats.spans) :=
      .append (.same [opening]) hspliced.insertsSpans
    have hrest : InsertsSpans (close :: rest) (close :: rest') (0 + others.spans) :=
      .append (.same [close]) ih
    rw [Nat.zero_add] at hbody hrest
    exact .append hbody hrest
  | passed _ _ _ _ _ ihbelow ih => exact .append (.children ihbelow) ih
  | left _ _ _ => exact .same _

/-! ## Tags of a document -/

def isTag (html : String) (t : Token) : Bool :=
  t.kind == .inlineHtml && t.content == html

def countTags (html : String) (doc : Document) : Nat :=
  doc.inOrder.countP (isTag html)

theorem isTag_of_text {html : String} {t : Token} (ht : t.kind = .text) : isTag html t = false := by
  simp [isTag, ht]

theorem SpanSequence.countP_isTag {html : String} {ts : List Token} {n : Nat}
    (hhtml : html = spanOpenHtml ∨ html = spanCloseHtml) (h : SpanSequence ts n) :
    (siblingsInOrder ts).countP (isTag html) = n := by
  have hpair : [Token.inlineHtml spanOpenHtml].countP (isTag html) +
      [Token.inlineHtml spanCloseHtml].countP (isTag html) = 1 := by
    rcases hhtml with rfl | rfl <;> decide
  have hself : ∀ html : String, (Token.inlineHtml html).inOrder = [.inlineHtml html] := fun _ => rfl
  induction h with
  | nil => rfl
  | text _ ih => simpa [siblingsInOrder, Token.inOrder_eq, Token.text, Token.ofKind, isTag] using ih
  | span between _ ih =>
    have hbetween : (siblingsInOrder (between.map Token.text).toList).countP (isTag html) = 0 := by
      cases between <;> simp [siblingsInOrder, Token.inOrder_eq, Token.text, Token.ofKind, isTag]
    simp only [siblingsInOrder, siblingsInOrder_append, hself, List.countP_append, hbetween, ih]
    omega

theorem InsertsSpans.countP_isTag {html : String} {ts us : List Token} {n : Nat}
    (hhtml : html = spanOpenHtml ∨ html = spanCloseHtml) (h : InsertsSpans ts us n) :
    (siblingsInOrder us).countP (isTag html) = (siblingsInOrder ts).countP (isTag html) + n := by
  induction h with
  | same ts => rfl
  | append _ _ ih ih' =>
    rw [siblingsInOrder_append, siblingsInOrder_append, List.countP_append, List.countP_append, ih,
      ih']
    omega
  | @children t us n _ ih =>
    have hself : isTag html { t with children := us } = isTag html t := rfl
    simp only [siblingsInOrder, Token.inOrder_eq, List.append_nil, List.countP_cons, hself, ih]
    omega
  | @leaf t us n ht hleaf hspans =>
    simp [siblingsInOrder, Token.inOrder_eq, hleaf, isTag_of_text ht, hspans.countP_isTag hhtml]

/-- Where splicing comes to its end, leaves of text have been replaced by texts and whole spans, and
either tag of a span occurs once more for each span that is counted. In no document does the check of
a whole paragraph refuse anything: the marks of a body that can be spliced are balanced, so that a
paragraph fails for what is in its body only. -/
theorem spliceAll_spanPairs (emphasizer : Emphasizer) :
    (∀ doc spliced stats, spliceAll emphasizer doc = (.ok stats, spliced) →
        InsertsSpans doc.tokens spliced.tokens stats.spans ∧
          countTags spanOpenHtml spliced = countTags spanOpenHtml doc + stats.spans ∧
          countTags spanCloseHtml spliced = countTags spanCloseHtml doc + stats.spans) ∧
      (∀ body spliced count, spliceBody emphasizer body = .ok (spliced, count) →
        count.begins = count.ends) ∧
      ∀ body e, spliceParagraph emphasizer body = .error e → spliceBody emphasizer body = .error e := by
  refine ⟨fun doc spliced stats h => ?_, fun body spliced count h => ?_, fun body e h => ?_⟩
  · have hinserts := (spliceAll_eq_ok_iff.mp h).insertsSpans
    exact ⟨hinserts, hinserts.countP_isTag (.inl rfl), hinserts.countP_isTag (.inr rfl)⟩
  · exact (spliceBody_eq_ok_iff.mp h).balanced
  · have hfirst := (spliceParagraph_eq_error_iff.mp h).first
    rw [← failure?_spliceBody] at hfirst
    exact eq_error_of_failure? hfirst

/-- A document that holds a span of its own in front of the text. -/
def spannedDocument : Document where
  tokens := [.ofKind .paragraphOpen, .inlineHtml spanOpenHtml, .inlineHtml spanCloseHtml,
    .inline "ab c" [.text "ab c"], .ofKind .paragraphClose]

theorem spliceAll_spanPairs_spanned : ∃ spliced,
    spliceAll Bionic.emphasizer spannedDocument = (.ok ⟨1, 0, 2⟩, spliced) ∧
      InsertsSpans spannedDocument.tokens spliced.tokens 2 ∧
      countTags spanOpenHtml spliced = 3 ∧ countTags spanCloseHtml spliced = 3 := by
  have hresult : (spliceAll Bionic.emphasizer spannedDocument).1 = .ok ⟨1, 0, 2⟩ := by
    decide +kernel
  have hsplice : spliceAll Bionic.emphasizer spannedDocument =
      (.ok ⟨1, 0, 2⟩, (spliceAll Bionic.emphasizer spannedDocument).2) := Prod.ext hresult rfl
  obtain ⟨hinserts, hopens, hcloses⟩ := (spliceAll_spanPairs Bionic.emphasizer).1 _ _ _ hsplice
  exact ⟨_, hsplice, hinserts, hopens, hcloses⟩

end Folio.Emphasis
