import Mathlib.Data.List.Basic
import Folio.Toc.Placeholder

/-!
# Tables of different depths

A deeper table lists more entries, and each entry makes it longer: what an item adds is never made
up for by lists that no longer have to be opened or closed. So two depths give the same table only
if they list the same entries, and the same page only if there is no place for a table besides.
-/

namespace Folio.Toc

/-! ## The length of a table -/

/-- The length of what opens or closes the lists between two levels. -/
def climbLength (depth level : Nat) : Nat :=
  (level - depth) * listOpen.length + (depth - level) * listClose.length

theorem length_itemsFrom_nil (depth : Nat) :
    (itemsFrom depth []).length = climbLength depth 0 := by
  simp [itemsFrom, times, climbLength]

theorem length_itemsFrom_cons (depth : Nat) (e : TocEntry) (rest : List TocEntry) :
    (itemsFrom depth (e :: rest)).length =
      climbLength depth e.level.toNat + (item e).length + (itemsFrom e.level.toNat rest).length := by
  simp [itemsFrom, times, climbLength, String.length_append]

/-- A stop in between never shortens the way. -/
theorem climbLength_triangle (a b c : Nat) :
    climbLength a c ≤ climbLength a b + climbLength b c := by
  have hopen : listOpen.length = 21 := by decide
  have hclose : listClose.length = 5 := by decide
  simp only [climbLength, hopen, hclose]
  omega

theorem length_itemsFrom_detour (depth level : Nat) (entries : List TocEntry) :
    (itemsFrom depth entries).length ≤
      climbLength depth level + (itemsFrom level entries).length := by
  cases entries with
  | nil =>
    simp only [length_itemsFrom_nil]
    exact climbLength_triangle depth level 0
  | cons e rest =>
    have htriangle := climbLength_triangle depth level e.level.toNat
    simp only [length_itemsFrom_cons]
    omega

theorem length_item_pos (e : TocEntry) : 0 < (item e).length := by
  have hend : 0 < "</a></li>".length := by decide
  unfold item
  simp only [String.length_append]
  exact Nat.add_pos_right _ hend

/-- Each entry that is left out makes the table shorter. -/
theorem length_itemsFrom_sublist {es fs : List TocEntry} (h : es.Sublist fs) (depth : Nat) :
    (itemsFrom depth es).length + (fs.length - es.length) ≤ (itemsFrom depth fs).length := by
  -- Leaving out an entry saves its item, and the way from the entry before it to the one behind is
  -- no longer than the way by its level.
  induction h generalizing depth with
  | slnil => simp
  | @cons es fs f h ih =>
    have hdetour := length_itemsFrom_detour depth f.level.toNat es
    have hrest := ih f.level.toNat
    have hitem := length_item_pos f
    rw [length_itemsFrom_cons, List.length_cons]
    omega
  | @cons_cons es fs e h ih =>
    have hrest := ih e.level.toNat
    rw [length_itemsFrom_cons, length_itemsFrom_cons, List.length_cons, List.length_cons]
    omega

theorem itemsFrom_inj_of_sublist {es fs : List TocEntry} (h : es.Sublist fs) {depth : Nat}
    (heq : itemsFrom depth es = itemsFrom depth fs) : es = fs := by
  have hlength := length_itemsFrom_sublist h depth
  rw [heq] at hlength
  exact h.eq_of_length_le (by omega)

/-! ## Two depths -/

theorem isListed_mono {m n : UInt8} (hle : m ≤ n) {e : TocEntry} (h : isListed m e = true) :
    isListed n e = true := by
  simp only [isListed, Bool.and_eq_true, decide_eq_true_eq] at h ⊢
  exact ⟨h.1, UInt8.le_trans h.2 hle⟩

theorem isListed_eq_of_render_eq {m n : UInt8} (hle : m ≤ n) {entries : List TocEntry}
    (h : render m entries = render n entries) : ∀ e ∈ entries, isListed m e = isListed n e := by
  have hsublist : (entries.filter (isListed m)).Sublist (entries.filter (isListed n)) :=
    List.monotone_filter_right entries fun _ => isListed_mono hle
  have hfilter := itemsFrom_inj_of_sublist hsublist h
  intro e he
  have hmem : e ∈ entries.filter (isListed m) ↔ e ∈ entries.filter (isListed n) := by rw [hfilter]
  simpa [he] using hmem

/-- Two depths give the same table exactly if they list the same entries. -/
theorem render_eq_iff {m n : UInt8} {entries : List TocEntry} :
    render m entries = render n entries ↔ ∀ e ∈ entries, isListed m e = isListed n e := by
  constructor
  · intro h
    rcases UInt8.le_total m n with hle | hle
    · exact isListed_eq_of_render_eq hle h
    · exact fun e he => (isListed_eq_of_render_eq hle h.symm e he).symm
  · intro h
    rw [render, render, List.filter_congr h]

theorem injectRendered_eq_iff {html a b : String} :
    injectRendered html a = injectRendered html b ↔ findPlaceholder? html = none ∨ a = b := by
  unfold injectRendered findPlaceholder?
  cases splitAtPlaceholder? html.toList with
  | none => simp
  | some parts => simp [← String.toList_inj]

/-- Two depths give the same page exactly if there is no place for a table or the tables list the
same entries. -/
theorem inject_eq_iff {m n : UInt8} {html : String} {entries : List TocEntry} :
    inject m html entries = inject n html entries ↔
      findPlaceholder? html = none ∨ ∀ e ∈ entries, isListed m e = isListed n e := by
  rw [inject_eq, inject_eq, injectRendered_eq_iff, render_eq_iff]

end Folio.Toc
