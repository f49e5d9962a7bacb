import RowQuery.Sorting
import RowQuery.Proofs.Value.Kind

/-!
# The order of rows

Sorting compares two values by their kinds, then by their places on the line of their kind, or as
texts. This is a total preorder of all cells, whatever they hold, and so is the order of rows that a
list of keys makes of it.
-/
namespace RowQuery
open Std

namespace Value

theorem rank_eq_iff (a b : Value) : a.rank = b.rank ↔ a.kind = b.kind := by
  cases a <;> cases b <;> simp [rank, kind]

/-- Values of different kinds are sorted by their kinds. -/
theorem sortCompare_of_kind_ne {a b : Value} (kinds : a.kind ≠ b.kind) :
    a.sortCompare b = compare a.rank b.rank := by
  unfold sortCompare
  split
  · exact absurd rfl kinds
  · rw [compare?_of_kind_ne kinds, Option.getD_none]

/-- Sorting values of one kind sorts them by their places, or by their characters. -/
theorem sortCompare_of_kind_eq {a b : Value} (kinds : a.kind = b.kind) :
    a.sortCompare b = (compare a.place b.place).then (compare a.words b.words) := by
  by_cases float : a.kind = .float
  · obtain ⟨x, rfl⟩ := eq_float_of_kind float
    obtain ⟨y, rfl⟩ := eq_float_of_kind (kinds.symm.trans float)
    simp only [sortCompare, place, words, ReflOrd.compare_self, Ordering.then_eq]
  · unfold sortCompare
    split
    · exact absurd rfl float
    · rw [compare?_of_kind_eq kinds float, Option.getD_some]

theorem sortCompare_eq_lex :
    sortCompare = compareLex (compareOn rank) (compareLex (compareOn place) (compareOn words)) := by
  funext a b
  by_cases kinds : a.kind = b.kind
  · have ranks : a.rank = b.rank := (rank_eq_iff a b).2 kinds
    simp only [sortCompare_of_kind_eq kinds, compareLex, compareOn, ranks, ReflOrd.compare_self,
      Ordering.eq_then]
  · have ranks : compare a.rank b.rank ≠ .eq := by
      rw [Ne, Std.compare_eq_iff_eq, rank_eq_iff]
      exact kinds
    rw [sortCompare_of_kind_ne kinds, compareLex, compareOn]
    cases order : compare a.rank b.rank with
    | eq => exact absurd order ranks
    | _ => rfl

instance : TransCmp sortCompare := by
  rw [sortCompare_eq_lex]
  infer_instance

theorem sortCompare_swap (v w : Value) : v.sortCompare w = (w.sortCompare v).swap :=
  OrientedCmp.eq_swap

theorem sortCompare_trans {v w x : Value} (first : (v.sortCompare w).isLE)
    (second : (w.sortCompare x).isLE) : (v.sortCompare x).isLE :=
  TransCmp.isLE_trans first second

end Value

theorem Cell.sortCompare_swap (a b : Cell) :
    Cell.sortCompare a b = (Cell.sortCompare b a).swap := by
  cases a with
  | none => cases b <;> rfl
  | some v =>
    cases b with
    | none => rfl
    | some w => exact Value.sortCompare_swap v w

instance : TransCmp Cell.sortCompare where
  eq_swap := Cell.sortCompare_swap _ _
  isLE_trans {a b c} first second := by
    cases a with
    | none => cases c <;> rfl
    | some v =>
      cases b with
      | none => cases first
      | some w =>
        cases c with
        | none => cases second
        | some x => exact Value.sortCompare_trans first second

/-! ## Keys and sorters -/

variable {α R : Type}

/-- An order of views is an order of what is viewed. -/
theorem transCmp_on (cmp : R → R → Ordering) [TransCmp cmp] (view : α → R) :
    TransCmp fun a b => cmp (view a) (view b) where
  eq_swap {a b} := by
    have turned : cmp (view a) (view b) = (cmp (view b) (view a)).swap := OrientedCmp.eq_swap
    exact turned
  isLE_trans {a b c} first second := by
    have both : (cmp (view a) (view c)).isLE := TransCmp.isLE_trans first second
    exact both

theorem SortOrder.transCmp_apply (order : SortOrder) (cmp : α → α → Ordering) [TransCmp cmp] :
    TransCmp fun a b => order.apply (cmp a b) := by
  cases order with
  | asc => exact inferInstanceAs (TransCmp cmp)
  | desc =>
    have turned : (fun a b => SortOrder.desc.apply (cmp a b)) = fun a b => cmp b a := by
      funext a b
      have swapped : cmp b a = (cmp a b).swap := OrientedCmp.eq_swap
      exact swapped.symm
    rw [turned]
    exact inferInstanceAs (TransCmp fun a b => cmp b a)

instance (k : SortKey R) : TransCmp k.compare :=
  have := transCmp_on Cell.sortCompare k.property.get
  k.order.transCmp_apply _

/-- Rows stay totally preordered with every key that is added in front. -/
theorem transCmp_foldr {Key : Type} (cmp : Key → R → R → Ordering) [∀ k, TransCmp (cmp k)]
    (keys : List Key) :
    TransCmp fun a b => keys.foldr (fun k rest => (cmp k a b).then rest) .eq := by
  induction keys with
  | nil => exact { eq_swap := rfl, isLE_trans := fun _ _ => rfl }
  | cons k keys ih => exact inferInstanceAs (TransCmp (compareLex (cmp k) _))

instance (s : Sorter R) : TransCmp s.compare := transCmp_foldr SortKey.compare s.keys

end RowQuery
