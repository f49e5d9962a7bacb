import RowQuery.Proofs.Request.Agreement

/-!
# Pages of a request

Going through a request page by page neither loses nor repeats a row. Each page filters and sorts
from the start, but arrives at the same rows in the same order, of which it cuts out its window; and
windows that adjoin, one ending where the next one starts, make up one window.
-/
namespace RowQuery
open Outcome

namespace Pagination
variable {Item : Type}

/-- Two windows that adjoin make up one. -/
theorem window_append {first middle last : UInt64} (start : 1 ≤ first) (up : first ≤ middle)
    (on : middle ≤ last) (items : List Item) :
    window ⟨first, middle⟩ items ++ window ⟨middle, last⟩ items = window ⟨first, last⟩ items := by
  rw [UInt64.le_iff_toNat_le] at start up on
  have one : (1 : UInt64).toNat = 1 := rfl
  simp only [window, offset, limit]
  have onward : middle.toNat - 1 = first.toNat - 1 + (middle.toNat - first.toNat) := by omega
  have whole : last.toNat - first.toNat =
      middle.toNat - first.toNat + (last.toNat - middle.toNat) := by omega
  rw [onward, ← List.drop_drop, whole, List.take_add]

/-- A window from the first row that ends behind the last one holds all rows. -/
theorem window_eq_self {last : UInt64} {items : List Item} (behind : items.length < last.toNat) :
    window ⟨1, last⟩ items = items := by
  have one : (1 : UInt64).toNat = 1 := rfl
  simp only [window, offset, limit, one, Nat.sub_self, List.drop_zero]
  exact List.take_of_length_le (by omega)

theorem cuts_pos {cuts : Nat → UInt64} {k : Nat} (first : cuts 0 = 1)
    (ascending : ∀ i < k, cuts i ≤ cuts (i + 1)) : 1 ≤ cuts k := by
  induction k with
  | zero => rw [first]; exact UInt64.le_refl 1
  | succ k ih =>
    have before : 1 ≤ cuts k := ih fun i below => ascending i (Nat.lt_succ_of_lt below)
    exact UInt64.le_trans before (ascending k (Nat.lt_succ_self k))

/-- The windows between ascending cuts make up the window from the first cut to the last. -/
theorem flatten_windows {cuts : Nat → UInt64} {k : Nat} (first : cuts 0 = 1)
    (ascending : ∀ i < k, cuts i ≤ cuts (i + 1)) (items : List Item) :
    ((List.range k).map fun i => window ⟨cuts i, cuts (i + 1)⟩ items).flatten =
      window ⟨1, cuts k⟩ items := by
  induction k with
  | zero => simp [first, window, limit]
  | succ k ih =>
    have earlier : ∀ i < k, cuts i ≤ cuts (i + 1) :=
      fun i below => ascending i (Nat.lt_succ_of_lt below)
    rw [List.range_succ, List.map_append, List.flatten_append, ih earlier, List.map_singleton,
      List.flatten_singleton]
    exact window_append (UInt64.le_refl 1) (cuts_pos first earlier)
      (ascending k (Nat.lt_succ_self k)) items

end Pagination

namespace GridRequest
variable {c : Catalog} [DecidableEq c.Entity] {Item : Type} {compiler : FilterCompiler c}
  {e : c.Entity} {view : Item → c.Row e} {items rows : List Item} {request : GridRequest}

/-- A page of a request is its window of the rows that the request has without a page. -/
theorem apply_page (unpaged : request.pagination = none)
    (applied : request.apply compiler e view items = .ok rows) (page : Pagination) :
    ({ request with pagination := some page } : GridRequest).apply compiler e view items =
      .ok (page.window rows) := by
  obtain ⟨filter, compiled, sorted⟩ := bind_success.1 applied
  rw [cut, unpaged] at sorted
  cases sorted
  exact bind_success.2 ⟨filter, compiled, rfl⟩

/-- Going through a request page by page loses and repeats nothing. Between cuts that ascend from
the first row to behind the last one, every page succeeds, and the pages one after another are the
rows that the request has without pages. -/
theorem flatten_pages (unpaged : request.pagination = none)
    (applied : request.apply compiler e view items = .ok rows) (k : Nat) (cuts : Nat → UInt64)
    (first : cuts 0 = 1) (ascending : ∀ i < k, cuts i ≤ cuts (i + 1))
    (behind : rows.length < (cuts k).toNat) :
    ∃ pages, (List.range k).mapM (fun i =>
        ({ request with pagination := some ⟨cuts i, cuts (i + 1)⟩ } : GridRequest).apply compiler e
          view items) = .ok pages ∧
      pages.flatten = rows := by
  refine ⟨_, mapM_of_forall fun i _ => apply_page unpaged applied _, ?_⟩
  rw [Pagination.flatten_windows first ascending, Pagination.window_eq_self behind]

end GridRequest

/-! ## Three pages of employees -/

def carol : Employee := ⟨"Carol", none, some bob⟩

/-- All employees, those with the best rated superiors first. -/
def byRating : GridRequest where
  filter := some ⟨[("unknown", none)], by decide⟩
  sort := [⟨"superior.rating", .desc⟩, ⟨"unknown", .desc⟩]

def byRatingSorter : Sorter Employee := .compile staff () byRating.sort

/-- Two employees have no superior with a rating and tie behind the one who has. -/
theorem byRatingSorter_sort : byRatingSorter.sort id [alice, bob, carol] = [bob, alice, carol] := by
  have moved : byRatingSorter.compare alice bob = .gt := by decide +kernel
  have tied : byRatingSorter.compare alice carol = .eq := by decide +kernel
  have placed : byRatingSorter.compare bob carol = .lt := by decide +kernel
  rw [Sorter.sort]
  simp [List.mergeSort, moved, tied, placed]

theorem byRating_apply :
    byRating.apply staffCompiler () id [alice, bob, carol] = .ok [bob, alice, carol] := by
  have compiled : byRating.compileFilter staffCompiler () = .ok .always := by
    simp only [GridRequest.compileFilter, byRating, FilterCompiler.compile,
      FilterCompiler.sortedEntries, List.filterMap_cons, List.filterMap_nil, Option.map_none,
      List.mergeSort_nil]
    rfl
  exact bind_success.2 ⟨.always, compiled, congrArg Except.ok byRatingSorter_sort⟩

/-- A page of one row, an empty one, and one that ends behind the last row. -/
def staffCuts (i : Nat) : UInt64 := [1, 2, 2, 5].getD i 5

theorem byRating_pages :
    ∃ pages, (List.range 3).mapM (fun i =>
        ({ byRating with pagination := some ⟨staffCuts i, staffCuts (i + 1)⟩ } : GridRequest).apply
          staffCompiler () id [alice, bob, carol]) = .ok pages ∧
      pages.flatten = [bob, alice, carol] :=
  GridRequest.flatten_pages rfl byRating_apply 3 staffCuts rfl (by decide) (by decide)

end RowQuery
