import Mathlib.Data.List.Pairwise
import RowQuery.Proofs.Sorting.Stable

/-!
# Where nulls go

Sorting puts nulls before all values, so that they come last under a descending key. The same keys
may also sort rows with nulls behind all values. Both ways agree on rows that no null parts: two
rows are parted by a null when a key finds a null in just one of them and the keys before it find
them equal. Rows that are parted by a null stand in opposite orders in the two ways.
-/
namespace RowQuery
open Std

/-- The order of two cells with nulls before all values, or behind them. -/
def Cell.compareNulls (smallest : Bool) : Cell → Cell → Ordering
  | none, none => .eq
  | none, some _ => if smallest then .lt else .gt
  | some _, none => if smallest then .gt else .lt
  | some v, some w => v.sortCompare w

theorem Cell.compareNulls_true : Cell.compareNulls true = Cell.sortCompare := by
  funext a b
  cases a <;> cases b <;> rfl

theorem Cell.compareNulls_swap (smallest : Bool) (a b : Cell) :
    Cell.compareNulls smallest a b = (Cell.compareNulls smallest b a).swap := by
  cases a with
  | none => cases b <;> cases smallest <;> rfl
  | some v =>
    cases b with
    | none => cases smallest <;> rfl
    | some w => exact Value.sortCompare_swap v w

instance (smallest : Bool) : TransCmp (Cell.compareNulls smallest) where
  eq_swap := Cell.compareNulls_swap smallest _ _
  isLE_trans {a b c} first second := by
    cases smallest with
    | true =>
      rw [Cell.compareNulls_true] at first second ⊢
      exact TransCmp.isLE_trans first second
    | false =>
      cases c with
      | none => cases a <;> rfl
      | some x =>
        cases b with
        | none => cases second
        | some w =>
          cases a with
          | none => cases first
          | some v => exact Value.sortCompare_trans first second

variable {α R : Type} {a b : R}

/-- The order of two rows under one key, with nulls at one end or the other. -/
def SortKey.compareNulls (smallest : Bool) (k : SortKey R) (a b : R) : Ordering :=
  k.order.apply (Cell.compareNulls smallest (k.property.get a) (k.property.get b))

instance (smallest : Bool) (k : SortKey R) : TransCmp (k.compareNulls smallest) :=
  have := transCmp_on (Cell.compareNulls smallest) k.property.get
  k.order.transCmp_apply _

theorem SortKey.compareNulls_true (k : SortKey R) : k.compareNulls true = k.compare := by
  funext a b
  rw [compareNulls, Cell.compareNulls_true, compare]

/-- A key that finds nulls in both rows or in neither orders them in one way. -/
theorem SortKey.compareNulls_of_same {k : SortKey R} (smallest : Bool)
    (same : (k.property.get a).isNone = (k.property.get b).isNone) :
    k.compareNulls smallest a b = k.compare a b := by
  rw [compareNulls, compare]
  cases first : k.property.get a <;> cases second : k.property.get b
  case none.none => rfl
  case some.some => rfl
  all_goals
    rw [first, second] at same
    cases same

/-- A key that finds a null in just one of two rows orders them in opposite ways. -/
theorem SortKey.compareNulls_of_apart {k : SortKey R}
    (apart : (k.property.get a).isNone ≠ (k.property.get b).isNone) :
    k.compareNulls false a b = (k.compare a b).swap ∧ k.compare a b ≠ .eq := by
  rw [compareNulls, compare]
  cases first : k.property.get a <;> cases second : k.property.get b
  case none.some => cases k.order <;> exact ⟨rfl, nofun⟩
  case some.none => cases k.order <;> exact ⟨rfl, nofun⟩
  all_goals
    rw [first, second] at apart
    exact absurd rfl apart

theorem SortKey.isNone_eq_of_tied {k : SortKey R} (tied : k.compare a b = .eq) :
    (k.property.get a).isNone = (k.property.get b).isNone :=
  Decidable.byContradiction fun apart => (compareNulls_of_apart apart).2 tied

namespace Sorter

/-- The order of two rows under the first key that tells them apart, with nulls at one end or the
other. -/
def compareNulls (smallest : Bool) (s : Sorter R) (a b : R) : Ordering :=
  s.keys.foldr (fun k rest => (k.compareNulls smallest a b).then rest) .eq

instance (smallest : Bool) (s : Sorter R) : TransCmp (s.compareNulls smallest) :=
  transCmp_foldr (SortKey.compareNulls smallest) s.keys

theorem compareNulls_true (s : Sorter R) : s.compareNulls true = s.compare := by
  funext a b
  simp only [compareNulls, compare, SortKey.compareNulls_true]

/-- The items in the order of their rows, with nulls at one end or the other. -/
def sortNulls (smallest : Bool) (s : Sorter R) (view : α → R) (items : List α) : List α :=
  items.mergeSort fun a b => s.compareNulls smallest (view a) (view b) != .gt

theorem sortNulls_true (s : Sorter R) (view : α → R) (items : List α) :
    s.sortNulls true view items = s.sort view items := by
  rw [sortNulls, compareNulls_true, sort]

theorem sortNulls_stablySorted (smallest : Bool) (s : Sorter R) (view : α → R) (items : List α) :
    StablySorted (fun a b => s.compareNulls smallest (view a) (view b)) items
      (s.sortNulls smallest view items) :=
  have := transCmp_on (s.compareNulls smallest) view
  StablySorted.mergeSort items

/-- A null parts two rows: a key finds a null in just one of them, and the keys before it find them
equal. -/
inductive PartedByNull (a b : R) : List (SortKey R) → Prop
  | here (k : SortKey R) (later : List (SortKey R))
      (apart : (k.property.get a).isNone ≠ (k.property.get b).isNone) :
      PartedByNull a b (k :: later)
  | later (k : SortKey R) {later : List (SortKey R)} (tied : k.compare a b = .eq)
      (parted : PartedByNull a b later) : PartedByNull a b (k :: later)

/-- By induction on where the null stands: keys that find the rows equal find nulls in both or in
neither. -/
theorem compareNulls_of_parted {keys : List (SortKey R)} (parted : PartedByNull a b keys) :
    compareNulls false ⟨keys⟩ a b = (compare ⟨keys⟩ a b).swap ∧ compare ⟨keys⟩ a b ≠ .eq := by
  induction parted with
  | here k later apart =>
    obtain ⟨turned, decided⟩ := SortKey.compareNulls_of_apart apart
    simp only [compareNulls, compare, List.foldr_cons, turned]
    cases order : k.compare a b with
    | eq => exact absurd order decided
    | lt => exact ⟨rfl, nofun⟩
    | gt => exact ⟨rfl, nofun⟩
  | later k tied parted ih =>
    have same := SortKey.isNone_eq_of_tied tied
    simpa only [compareNulls, compare, List.foldr_cons, SortKey.compareNulls_of_same false same,
      tied, Ordering.eq_then] using ih

theorem compareNulls_of_not_parted {keys : List (SortKey R)}
    (together : ¬ PartedByNull a b keys) :
    compareNulls false ⟨keys⟩ a b = compare ⟨keys⟩ a b := by
  induction keys with
  | nil => rfl
  | cons k keys ih =>
    have same : (k.property.get a).isNone = (k.property.get b).isNone :=
      Decidable.byContradiction fun apart => together (.here k keys apart)
    simp only [compareNulls, compare, List.foldr_cons, SortKey.compareNulls_of_same false same]
    by_cases tied : k.compare a b = .eq
    · rw [tied, Ordering.eq_then, Ordering.eq_then]
      exact ih fun parted => together (.later k tied parted)
    · cases order : k.compare a b with
      | eq => exact absurd order tied
      | lt => rfl
      | gt => rfl

variable {s : Sorter R} {view : α → R} {rows items : List α}

theorem PartedByNull.symm {keys : List (SortKey R)} (parted : PartedByNull a b keys) :
    PartedByNull b a keys := by
  induction parted with
  | here k later apart => exact .here k later apart.symm
  | later k tied _ ih => exact .later k (OrientedCmp.eq_symm tied) ih

theorem not_partedByNull_self (s : Sorter R) (a : R) : ¬ PartedByNull a a s.keys := by
  intro parted
  have tied : s.compare a a = .eq := ReflCmp.compare_self
  exact (compareNulls_of_parted parted).2 tied

/-- A list that is in order both ways holds no two rows that a null parts: one of them comes first,
and one way or the other it has to come second. -/
theorem not_parted_of_ordered
    (ordered : rows.Pairwise fun a b => s.compare (view a) (view b) ≠ .gt)
    (other : rows.Pairwise fun a b => s.compareNulls false (view a) (view b) ≠ .gt) :
    ∀ a ∈ rows, ∀ b ∈ rows, ¬ PartedByNull (view a) (view b) s.keys := by
  have together : rows.Pairwise fun a b => ¬ PartedByNull (view a) (view b) s.keys := by
    refine (ordered.and other).imp ?_
    rintro a b ⟨placed, placedNulls⟩ parted
    obtain ⟨turned, decided⟩ := compareNulls_of_parted parted
    cases order : s.compare (view a) (view b) with
    | lt => exact placedNulls (turned.trans (congrArg Ordering.swap order))
    | eq => exact decided order
    | gt => exact placed order
  have : Std.Symm fun a b => ¬ PartedByNull (view a) (view b) s.keys :=
    ⟨fun _ _ apart parted => apart parted.symm⟩
  intro a first b second
  by_cases same : a = b
  · rw [same]
    exact not_partedByNull_self s (view b)
  · exact together.forall first second same

/-- Rows are placed alike with nulls at either end exactly if no null parts two of them. -/
theorem sortNulls_eq_sort_iff (s : Sorter R) (view : α → R) (items : List α) :
    s.sortNulls false view items = s.sort view items ↔
      ∀ a ∈ items, ∀ b ∈ items, ¬ PartedByNull (view a) (view b) s.keys := by
  have sorted := s.sort_stablySorted view items
  have sortedNulls := s.sortNulls_stablySorted false view items
  constructor
  · intro same a first b second
    rw [same] at sortedNulls
    exact not_parted_of_ordered sorted.ordered sortedNulls.ordered
      a (sorted.perm.symm.subset first) b (sorted.perm.symm.subset second)
  · intro together
    have := transCmp_on s.compare view
    refine StablySorted.eq (sortedNulls.congr ?_) sorted
    intro a first b second
    exact compareNulls_of_not_parted (together a first b second)

end Sorter
end RowQuery
