import Mathlib.Data.List.Basic
import RowQuery.Request

/-!
# Places in a window

Which rows a window holds, told by their places, counted from one. A window that starts at a row
holds the places from its start row up to before its end row. A window whose start row is zero is
cut from the first row, but has the length of a window from zero: it holds the row at its end row
too, which the window that adjoins it holds again.
-/
namespace RowQuery
variable {Item : Type}

/-- The items at the places from `first` up to before `stop`, in their order. -/
def rowsBetween (first stop : Nat) (items : List Item) : List Item :=
  ((items.zipIdx 1).filter fun row => first ≤ row.2 && row.2 < stop).map Prod.fst

/-- By induction on the items, whose places are counted from any number on: an item in front of the
first place is passed over, one behind the last place ends the count. -/
theorem take_drop_zipIdx (items : List Item) (start first stop : Nat) :
    ((items.zipIdx start).drop (first - start)).take (stop - max first start) =
      (items.zipIdx start).filter fun row => first ≤ row.2 && row.2 < stop := by
  induction items generalizing start with
  | nil => simp
  | cons item items ih =>
    have onward := ih (start + 1)
    rw [List.zipIdx_cons]
    rcases Nat.lt_or_ge start first with before | reached
    · have skip : first - start = (first - (start + 1)) + 1 := by omega
      have same : max first start = max first (start + 1) := by omega
      rw [skip, List.drop_succ_cons, same, onward,
        List.filter_cons_of_neg (by simp [Nat.not_le.2 before])]
    · have here : first - start = 0 := by omega
      have next : first - (start + 1) = 0 := by omega
      rw [next, List.drop_zero] at onward
      rw [here, List.drop_zero]
      rcases Nat.lt_or_ge start stop with within | behind
      · have one : stop - max first start = (stop - max first (start + 1)) + 1 := by omega
        rw [one, List.take_succ_cons, onward,
          List.filter_cons_of_pos (by simp [reached, within])]
      · have none_left : stop - max first start = 0 := by omega
        have none_next : stop - max first (start + 1) = 0 := by omega
        rw [none_next, List.take_zero] at onward
        rw [none_left, List.take_zero, List.filter_cons_of_neg (by simp [behind]), onward]

theorem rowsBetween_eq (first stop : Nat) (items : List Item) :
    rowsBetween first stop items = (items.drop (first - 1)).take (stop - max first 1) := by
  rw [rowsBetween, ← take_drop_zipIdx, List.map_take, List.map_drop, List.zipIdx_map_fst]

namespace Pagination

/-- The place behind the last one that a window holds. -/
def stop (p : Pagination) : Nat := if p.startRow = 0 then p.endRow.toNat + 1 else p.endRow.toNat

theorem startRow_toNat_eq_zero {p : Pagination} : p.startRow.toNat = 0 ↔ p.startRow = 0 :=
  ⟨fun zero => UInt64.toNat_inj.1 zero, fun zero => congrArg UInt64.toNat zero⟩

theorem limit_eq (p : Pagination) : p.limit = p.stop - max p.startRow.toNat 1 := by
  rw [limit, stop]
  split
  · rename_i zero
    have start := startRow_toNat_eq_zero.2 zero
    omega
  · rename_i positive
    have start := mt startRow_toNat_eq_zero.1 positive
    omega

/-- A window of rows that carry their places. -/
theorem window_zipIdx (p : Pagination) (items : List Item) :
    p.window (items.zipIdx 1) =
      (items.zipIdx 1).filter fun row => p.startRow.toNat ≤ row.2 && row.2 < p.stop := by
  rw [window, offset, limit_eq, take_drop_zipIdx]

theorem window_eq (p : Pagination) (items : List Item) :
    p.window items = rowsBetween p.startRow.toNat p.stop items := by
  rw [window, offset, limit_eq, rowsBetween_eq]

/-- A window from zero, and the rows up to before its end row. -/
theorem window_zero_eq (last : UInt64) (items : List Item) :
    window ⟨0, last⟩ items = items.take last.toNat ∧
      rowsBetween 0 last.toNat items = items.take (last.toNat - 1) := by
  have first : (0 : UInt64).toNat = 0 := rfl
  constructor
  · rw [window, offset, limit, first, Nat.zero_sub, List.drop_zero, Nat.sub_zero]
  · rw [rowsBetween_eq, Nat.zero_sub, List.drop_zero, Nat.max_eq_right (Nat.zero_le 1)]

/-- A window from zero holds the row at its end row. -/
theorem window_zero_append (last : UInt64) (items : List Item) :
    window ⟨0, last⟩ items =
      window ⟨1, last⟩ items ++ rowsBetween last.toNat (last.toNat + 1) items := by
  have one : (1 : UInt64).toNat = 1 := rfl
  rw [(window_zero_eq last items).1, rowsBetween_eq, window, offset, limit, one, Nat.sub_self,
    List.drop_zero]
  rcases Nat.eq_zero_or_pos last.toNat with none_before | some_before
  · simp [none_before]
  · have whole : last.toNat = last.toNat - 1 + 1 := by omega
    have single : last.toNat + 1 - max last.toNat 1 = 1 := by omega
    rw [single]
    conv => lhs; rw [whole]
    exact List.take_add

/-- What a window holds is what its rows describe unless it is cut from zero and a row stands at
its end row. -/
theorem window_eq_described_iff (p : Pagination) (items : List Item) :
    p.window items = rowsBetween p.startRow.toNat p.endRow.toNat items ↔
      ¬ (p.startRow = 0 ∧ 1 ≤ p.endRow.toNat ∧ p.endRow.toNat ≤ items.length) := by
  obtain ⟨first, last⟩ := p
  by_cases zero : first = 0
  · subst zero
    obtain ⟨cut, described⟩ := window_zero_eq last items
    have start : (0 : UInt64).toNat = 0 := rfl
    dsimp only
    rw [cut, start, described, List.take_eq_take_iff]
    simp only [true_and]
    omega
  · have same : stop ⟨first, last⟩ = last.toNat := if_neg zero
    rw [window_eq, same]
    simp [zero]

theorem mem_window_zipIdx {p : Pagination} {items : List Item} {row : Item × Nat} :
    row ∈ p.window (items.zipIdx 1) ↔
      row ∈ items.zipIdx 1 ∧ p.startRow.toNat ≤ row.2 ∧ row.2 < p.stop := by
  rw [window_zipIdx, List.mem_filter, Bool.and_eq_true, decide_eq_true_iff, decide_eq_true_iff]

/-- The rows that a window shares with the one that adjoins it. -/
theorem shared_row_iff (p : Pagination) (last : UInt64) (items : List Item) (row : Item × Nat) :
    row ∈ p.window (items.zipIdx 1) ∧ row ∈ window ⟨p.endRow, last⟩ (items.zipIdx 1) ↔
      row ∈ items.zipIdx 1 ∧ p.startRow = 0 ∧ row.2 = p.endRow.toNat ∧ p.endRow < last := by
  have counted : row ∈ items.zipIdx 1 → 1 ≤ row.2 := List.le_snd_of_mem_zipIdx
  rw [mem_window_zipIdx, mem_window_zipIdx, UInt64.lt_iff_toNat_lt]
  dsimp only
  constructor
  · rintro ⟨⟨member, -, inside⟩, -, reached, onward⟩
    have place := counted member
    have start : p.startRow = 0 := by
      by_contra positive
      rw [stop, if_neg positive] at inside
      omega
    rw [stop, if_pos start] at inside
    have at_end : row.2 = p.endRow.toNat := by omega
    have further : p.endRow ≠ 0 := by
      intro zero
      rw [zero, UInt64.toNat_zero] at at_end
      omega
    have adjoined : stop ⟨p.endRow, last⟩ = last.toNat := if_neg further
    rw [adjoined] at onward
    exact ⟨member, start, at_end, by omega⟩
  · rintro ⟨member, start, at_end, further⟩
    have place := counted member
    have first : p.startRow.toNat = 0 := startRow_toNat_eq_zero.2 start
    have positive : p.endRow ≠ 0 := by
      intro zero
      rw [zero, UInt64.toNat_zero] at at_end
      omega
    have adjoined : stop ⟨p.endRow, last⟩ = last.toNat := if_neg positive
    rw [adjoined, stop, if_pos start]
    exact ⟨⟨member, by omega, by omega⟩, member, by omega, by omega⟩

/-- A window holds, in their order, the rows from its start row up to before its end row; cut from
zero it holds the row at its end row besides. So it is as described unless it is cut from zero and
a row stands at its end row, a window from zero holds that row and what the one from the first row
holds, and it is the one row that a window shares with the window that adjoins it. -/
theorem window_places (p : Pagination) (items : List Item) :
    p.window items = rowsBetween p.startRow.toNat p.stop items ∧
    (p.window items = rowsBetween p.startRow.toNat p.endRow.toNat items ↔
      ¬ (p.startRow = 0 ∧ 1 ≤ p.endRow.toNat ∧ p.endRow.toNat ≤ items.length)) ∧
    window ⟨0, p.endRow⟩ items =
      window ⟨1, p.endRow⟩ items ++ rowsBetween p.endRow.toNat (p.endRow.toNat + 1) items ∧
    ∀ last row, row ∈ p.window (items.zipIdx 1) ∧ row ∈ window ⟨p.endRow, last⟩ (items.zipIdx 1) ↔
      row ∈ items.zipIdx 1 ∧ p.startRow = 0 ∧ row.2 = p.endRow.toNat ∧ p.endRow < last :=
  ⟨window_eq p items, window_eq_described_iff p items, window_zero_append p.endRow items,
    fun last row => shared_row_iff p last items row⟩

/-- Of three rows, the window from zero up to before the second holds the second, and so does the
window that adjoins it. -/
theorem zero_window_holds_end :
    window ⟨0, 2⟩ ['a', 'b', 'c'] = ['a', 'b'] ∧ rowsBetween 0 2 ['a', 'b', 'c'] = ['a'] ∧
      window ⟨1, 2⟩ ['a', 'b', 'c'] = ['a'] ∧ window ⟨2, 3⟩ ['a', 'b', 'c'] = ['b'] := by
  decide

end Pagination
end RowQuery
