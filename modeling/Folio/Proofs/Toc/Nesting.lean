import Folio.Proofs.Html.Escaping
import Folio.Proofs.Html.Reading
import Folio.Proofs.Toc.Counting
import Folio.Proofs.Toc.Tags

/-!
# A table of contents is a nested list

A table of contents is a sequence of pieces: the beginning of a list, the end of a list, or an item.
An item of a level stands in as many lists, and on the way from one item to the next lists only begin
or only end. The pieces are all the tags there are, since no label can be read as a tag.
-/

namespace Folio.Toc

open Html

/-! ## Pieces -/

inductive Piece where
  | listStart
  | listEnd
  | item (e : TocEntry)

namespace Piece

def html : Piece → String
  | listStart => listOpen
  | listEnd => listClose
  | item e => Toc.item e

def tags : Piece → List Tag
  | listStart => [.opening "ul" [("class", some "toc-tree")]]
  | listEnd => [.closing "ul"]
  | item e => itemTags e

def entry? : Piece → Option TocEntry
  | listStart | listEnd => none
  | item e => some e

/-- How many more lists are open behind a piece than before it. -/
def rise : Piece → Int
  | listStart => 1
  | listEnd => -1
  | item _ => 0

end Piece

def openLists : List Piece → Int
  | [] => 0
  | p :: rest => p.rise + openLists rest

/-- Whether the pieces are lists within lists, with each item at the depth of its level. -/
structure IsNested (pieces : List Piece) : Prop where
  /-- Only open lists are ended. -/
  nonneg : ∀ front, front <+: pieces → 0 ≤ openLists front
  ended : openLists pieces = 0
  /-- An item stands in as many lists as its level says. -/
  atLevel : ∀ front e behind, pieces = front ++ .item e :: behind → openLists front = e.level.toNat
  /-- Between two items, lists only begin or only end. -/
  oneWay : ∀ front e between e' behind,
    pieces = front ++ .item e :: (between ++ .item e' :: behind) →
      (∀ p ∈ between, p.entry? = none) →
      (∀ p ∈ between, p = .listStart) ∨ ∀ p ∈ between, p = .listEnd

def climb (depth level : Nat) : List Piece :=
  List.replicate (level - depth) .listStart ++ List.replicate (depth - level) .listEnd

def piecesFrom (depth : Nat) : List TocEntry → List Piece
  | [] => climb depth 0
  | e :: rest => climb depth e.level.toNat ++ .item e :: piecesFrom e.level.toNat rest

@[simp] theorem openLists_nil : openLists [] = 0 := rfl

@[simp] theorem openLists_cons (p : Piece) (rest : List Piece) :
    openLists (p :: rest) = p.rise + openLists rest := rfl

@[simp] theorem openLists_append (front behind : List Piece) :
    openLists (front ++ behind) = openLists front + openLists behind := by
  induction front with
  | nil => simp
  | cons p front ih => simp [ih, Int.add_assoc]

@[simp] theorem openLists_replicate (n : Nat) (p : Piece) :
    openLists (List.replicate n p) = n * p.rise := by
  induction n with
  | zero => simp
  | succ n ih => simp [List.replicate_succ, ih, Int.add_mul, Int.add_comm]

theorem openLists_climb (depth level : Nat) :
    depth + openLists (climb depth level) = level := by
  simp only [climb, openLists_append, openLists_replicate, Piece.rise]
  omega

theorem climb_cases (depth level : Nat) :
    (∃ n, climb depth level = List.replicate n .listStart) ∨
      ∃ n ≤ depth, climb depth level = List.replicate n .listEnd := by
  rcases Nat.le_total depth level with h | h
  · exact .inl ⟨level - depth, by simp [climb, Nat.sub_eq_zero_of_le h]⟩
  · exact .inr ⟨depth - level, Nat.sub_le depth level, by simp [climb, Nat.sub_eq_zero_of_le h]⟩

theorem entry?_climb (depth level : Nat) : ∀ p ∈ climb depth level, p.entry? = none := by
  intro p hp
  simp only [climb, List.mem_append, List.mem_replicate] at hp
  rcases hp with ⟨-, rfl⟩ | ⟨-, rfl⟩ <;> rfl

theorem nonneg_climb {depth level : Nat} {front : List Piece} (h : front <+: climb depth level) :
    0 ≤ depth + openLists front := by
  rcases climb_cases depth level with ⟨n, hclimb⟩ | ⟨n, hn, hclimb⟩
  · rw [hclimb, List.prefix_replicate_iff] at h
    rw [h.2, openLists_replicate, Piece.rise]
    omega
  · rw [hclimb, List.prefix_replicate_iff] at h
    have hle := h.1
    rw [h.2, openLists_replicate, Piece.rise]
    omega

theorem cut_at_item {before behind front more : List Piece} {e e' : TocEntry}
    (hbefore : ∀ p ∈ before, p.entry? = none)
    (h : before ++ .item e :: behind = front ++ .item e' :: more) :
    (front = before ∧ e = e' ∧ behind = more) ∨
      ∃ later, front = before ++ .item e :: later ∧ behind = later ++ .item e' :: more := by
  rcases List.append_eq_append_iff.mp h with ⟨middle, hfront, hrest⟩ | ⟨middle, hsplit, hrest⟩
  · cases middle with
    | nil =>
      simp only [List.nil_append, List.cons.injEq, Piece.item.injEq] at hrest
      exact .inl ⟨by simpa using hfront, hrest.1, hrest.2⟩
    | cons p later =>
      simp only [List.cons_append, List.cons.injEq] at hrest
      exact .inr ⟨later, by rw [hfront, hrest.1], hrest.2⟩
  · cases middle with
    | nil =>
      simp only [List.nil_append, List.cons.injEq, Piece.item.injEq] at hrest
      exact .inl ⟨by simpa using hsplit.symm, hrest.1.symm, hrest.2.symm⟩
    | cons p later =>
      simp only [List.cons_append, List.cons.injEq] at hrest
      have hitem := hbefore (.item e') (by simp [hsplit, ← hrest.1])
      simp [Piece.entry?] at hitem

theorem not_item_of_climb {depth level : Nat} {front behind : List Piece} {e : TocEntry}
    (h : climb depth level = front ++ .item e :: behind) : False := by
  have hitem := entry?_climb depth level (.item e) (by simp [h])
  simp [Piece.entry?] at hitem

/-! ## The pieces of a table -/

theorem html_climb (depth level : Nat) :
    String.join ((climb depth level).map Piece.html) =
      times (level - depth) listOpen ++ times (depth - level) listClose := by
  simp [climb, times, Piece.html, String.join_append]

theorem html_piecesFrom (depth : Nat) (entries : List TocEntry) :
    itemsFrom depth entries = String.join ((piecesFrom depth entries).map Piece.html) := by
  induction entries generalizing depth with
  | nil => simp [itemsFrom, piecesFrom, html_climb, times]
  | cons e rest ih =>
    simp [itemsFrom, piecesFrom, String.join_append, String.join_cons, html_climb, Piece.html, ih,
      String.append_assoc]

theorem entries_climb (depth level : Nat) : (climb depth level).filterMap Piece.entry? = [] :=
  List.filterMap_eq_nil_iff.mpr (entry?_climb depth level)

theorem entries_piecesFrom (depth : Nat) (entries : List TocEntry) :
    (piecesFrom depth entries).filterMap Piece.entry? = entries := by
  induction entries generalizing depth with
  | nil => exact entries_climb depth 0
  | cons e rest ih => simp [piecesFrom, entries_climb, Piece.entry?, ih]

theorem nonneg_piecesFrom {depth : Nat} {entries : List TocEntry} {front : List Piece}
    (h : front <+: piecesFrom depth entries) : 0 ≤ depth + openLists front := by
  induction entries generalizing depth front with
  | nil => exact nonneg_climb h
  | cons e rest ih =>
    obtain ⟨behind, hsplit⟩ := h
    rw [piecesFrom] at hsplit
    rcases List.append_eq_append_iff.mp hsplit with ⟨middle, hclimb, -⟩ | ⟨middle, hfront, hrest⟩
    · exact nonneg_climb ⟨middle, hclimb.symm⟩
    · have hlevel := openLists_climb depth e.level.toNat
      cases middle with
      | nil =>
        rw [hfront, List.append_nil]
        omega
      | cons p middle =>
        simp only [List.cons_append, List.cons.injEq] at hrest
        have hlater := ih ⟨behind, hrest.2.symm⟩
        rw [hfront, openLists_append, openLists_cons, ← hrest.1, Piece.rise]
        omega

theorem ended_piecesFrom (depth : Nat) (entries : List TocEntry) :
    depth + openLists (piecesFrom depth entries) = 0 := by
  induction entries generalizing depth with
  | nil => exact openLists_climb depth 0
  | cons e rest ih =>
    have hlevel := openLists_climb depth e.level.toNat
    have hrest := ih e.level.toNat
    rw [piecesFrom, openLists_append, openLists_cons, Piece.rise]
    omega

theorem atLevel_piecesFrom {depth : Nat} {entries : List TocEntry} {front behind : List Piece}
    {e : TocEntry} (h : piecesFrom depth entries = front ++ .item e :: behind) :
    depth + openLists front = e.level.toNat := by
  induction entries generalizing depth front with
  | nil => exact (not_item_of_climb h).elim
  | cons first rest ih =>
    have hlevel := openLists_climb depth first.level.toNat
    rcases cut_at_item (entry?_climb _ _) h with ⟨rfl, rfl, -⟩ | ⟨later, rfl, hlater⟩
    · exact hlevel
    · have hrest := ih hlater
      rw [openLists_append, openLists_cons, Piece.rise]
      omega

theorem oneWay_climb (depth level : Nat) :
    (∀ p ∈ climb depth level, p = .listStart) ∨ ∀ p ∈ climb depth level, p = .listEnd := by
  rcases climb_cases depth level with ⟨n, hclimb⟩ | ⟨n, -, hclimb⟩
  · exact .inl fun p hp => List.eq_of_mem_replicate (hclimb ▸ hp)
  · exact .inr fun p hp => List.eq_of_mem_replicate (hclimb ▸ hp)

theorem oneWay_piecesFrom {depth : Nat} {entries : List TocEntry}
    {front between behind : List Piece} {e e' : TocEntry}
    (h : piecesFrom depth entries = front ++ .item e :: (between ++ .item e' :: behind))
    (hbetween : ∀ p ∈ between, p.entry? = none) :
    (∀ p ∈ between, p = .listStart) ∨ ∀ p ∈ between, p = .listEnd := by
  induction entries generalizing depth front with
  | nil => exact (not_item_of_climb h).elim
  | cons first rest ih =>
    rcases cut_at_item (entry?_climb _ _) h with ⟨-, -, hnext⟩ | ⟨later, -, hlater⟩
    · cases rest with
      | nil => exact (not_item_of_climb hnext).elim
      | cons second rest =>
        rcases cut_at_item (entry?_climb _ _) hnext with ⟨rfl, -, -⟩ | ⟨later, rfl, -⟩
        · exact oneWay_climb _ _
        · have hitem := hbetween (.item second) (by simp)
          simp [Piece.entry?] at hitem
    · exact ih hlater

theorem isNested_piecesFrom (entries : List TocEntry) : IsNested (piecesFrom 0 entries) where
  nonneg _ h := by simpa using nonneg_piecesFrom h
  ended := by simpa using ended_piecesFrom 0 entries
  atLevel _ _ _ h := by simpa using atLevel_piecesFrom h
  oneWay _ _ _ _ _ h hbetween := oneWay_piecesFrom h hbetween

/-! ## The tags of a table -/

theorem reads_piece (p : Piece) : Reads p.html.toList p.tags := by
  cases p with
  | listStart =>
    have hchars : listOpen.toList = (Tag.opening "ul" [("class", some "toc-tree")]).chars := by
      decide
    rw [Piece.html, hchars]
    exact reads_tag ⟨by decide, by simp [attributeNames, isDelimiter]⟩
  | listEnd =>
    have hchars : listClose.toList = (Tag.closing "ul").chars := by decide
    rw [Piece.html, hchars]
    exact reads_tag (by decide : "ul" ∈ elementNames)
  | item e => exact reads_item e

theorem reads_pieces (pieces : List Piece) :
    Reads (String.join (pieces.map Piece.html)).toList (pieces.flatMap Piece.tags) := by
  induction pieces with
  | nil => exact .nil
  | cons p rest ih =>
    rw [List.map_cons, String.join_cons, String.toList_append, List.flatMap_cons]
    exact (reads_piece p).append ih

/-! ## Nested lists -/

/-- The tags of a table of contents are those of a nested list of the listed entries, each at the
depth of its level. There are no others, whatever the labels are: a label stands escaped in the title
of the link and in its text, and is read back from both. The counts of open lists stay in their
bounds. -/
theorem render_isNested (maxLevel : UInt8) (entries : List TocEntry) :
    (∃ pieces : List Piece,
      (∀ tags, Reads (render maxLevel entries).toList tags ↔ tags = pieces.flatMap Piece.tags) ∧
        render maxLevel entries = String.join (pieces.map Piece.html) ∧ IsNested pieces ∧
        pieces.filterMap Piece.entry? = entries.filter fun e => 1 ≤ e.level ∧ e.level ≤ maxLevel) ∧
      (∀ e : TocEntry, ∃ written : String,
        unescapeChars written.toList = e.label.toList ∧
          linkTag e = .opening "a" [("class", some "toc-hyper-link"),
            ("href", some (Anchor.ofSection e.label).href), ("title", some written)] ∧
          (item e).toList = (itemTag e).chars ++ (linkTag e).chars ++ written.toList ++
            (Tag.closing "a").chars ++ (Tag.closing "li").chars) ∧
      renderCounting? maxLevel entries = some (render maxLevel entries) := by
  have hhtml : render maxLevel entries =
      String.join ((piecesFrom 0 (entries.filter (isListed maxLevel))).map Piece.html) :=
    html_piecesFrom 0 _
  have hreads := reads_pieces (piecesFrom 0 (entries.filter (isListed maxLevel)))
  rw [← hhtml] at hreads
  refine ⟨⟨_, fun tags => ⟨fun h => h.unique hreads, ?_⟩, hhtml, isNested_piecesFrom _, ?_⟩, ?_,
    renderCounting?_eq maxLevel entries⟩
  · rintro rfl
    exact hreads
  · rw [entries_piecesFrom]
    refine List.filter_congr fun e _ => ?_
    have hzero : e.level ≠ 0 ↔ 1 ≤ e.level := by
      rw [UInt8.le_iff_toNat_le, ← UInt8.toNat_inj.ne]
      exact Nat.pos_iff_ne_zero.symm
    rw [Bool.eq_iff_iff]
    simp [isListed, ← hzero]
  · exact fun e => ⟨escape e.label, unescapeChars_escape e.label, rfl, item_toList e⟩

end Folio.Toc
