import RowQuery.Proofs.Value.Kind

/-!
# The order in which values compare

Values compare only with values of their kind, and what is not a number with nothing. Apart from
this, comparing is a total preorder: by a quantity, or for texts by their characters. Both zeros are
one quantity, which tells this order from the one in which values are sorted.
-/
namespace RowQuery
open Std

namespace Value

/-- The quantity by which a value compares with those of its kind. Texts have their order from
elsewhere. -/
def quantity : Value → Int
  | float x => x.signed
  | v => v.place

/-- The order of values of one kind, all of them numbers. -/
def order : Value → Value → Ordering := compareLex (compareOn quantity) (compareOn words)

instance : TransCmp order := inferInstanceAs (TransCmp (compareLex _ _))

theorem compare?_eq_order {a b : Value} (kinds : a.kind = b.kind) (left : a.isNaN = false)
    (right : b.isNaN = false) : a.compare? b = some (order a b) := by
  by_cases float : a.kind = .float
  · obtain ⟨x, rfl⟩ := eq_float_of_kind float
    obtain ⟨y, rfl⟩ := eq_float_of_kind (kinds.symm.trans float)
    rw [isNaN] at left right
    simp [compare?, Binary.compare?, left, right, order, compareLex, compareOn, quantity, words]
  · have other : b.kind ≠ .float := kinds ▸ float
    have quantity_eq : ∀ v : Value, v.kind ≠ .float → v.quantity = v.place := by
      intro v other
      cases v with
      | float x => exact absurd rfl other
      | _ => rfl
    rw [compare?_of_kind_eq kinds float, order, compareLex, compareOn, compareOn,
      quantity_eq a float, quantity_eq b other]

/-- What compares is of one kind and all numbers, and compares by the order. -/
theorem compare?_eq_some_iff {a b : Value} {o : Ordering} :
    a.compare? b = some o ↔
      a.kind = b.kind ∧ a.isNaN = false ∧ b.isNaN = false ∧ order a b = o := by
  constructor
  · intro compared
    have ordered : a.compare? b ≠ none := by simp [compared]
    rw [Ne, compare?_eq_none_iff, not_or, not_or, Decidable.not_not, Bool.not_eq_true,
      Bool.not_eq_true] at ordered
    obtain ⟨kinds, left, right⟩ := ordered
    rw [compare?_eq_order kinds left right] at compared
    exact ⟨kinds, left, right, Option.some.inj compared⟩
  · rintro ⟨kinds, left, right, rfl⟩
    exact compare?_eq_order kinds left right

/-- What is less than a value is less than every value that it is not greater than. -/
theorem compare?_lt_of_not_gt {v a b : Value} {o : Ordering} (less : v.compare? a = some .lt)
    (compared : a.compare? b = some o) (upTo : o ≠ .gt) : v.compare? b = some .lt := by
  obtain ⟨kinds, number, -, less⟩ := compare?_eq_some_iff.1 less
  obtain ⟨kinds', -, number', rfl⟩ := compare?_eq_some_iff.1 compared
  have within : (order a b).isLE := Ordering.isLE_iff_ne_gt.2 upTo
  exact compare?_eq_some_iff.2
    ⟨kinds.trans kinds', number, number', TransCmp.lt_of_lt_of_isLE less within⟩

/-- What is greater than a value is greater than every value that is not greater than that one. -/
theorem compare?_gt_of_not_gt {v a b : Value} {o : Ordering} (greater : v.compare? b = some .gt)
    (compared : a.compare? b = some o) (upTo : o ≠ .gt) : v.compare? a = some .gt := by
  obtain ⟨kinds, number, -, greater⟩ := compare?_eq_some_iff.1 greater
  obtain ⟨kinds', number', -, rfl⟩ := compare?_eq_some_iff.1 compared
  have turned : order b a = (order a b).swap := OrientedCmp.eq_swap
  have within : (order b a).isGE := by
    rw [turned, Ordering.isGE_swap]
    exact Ordering.isLE_iff_ne_gt.2 upTo
  exact compare?_eq_some_iff.2
    ⟨kinds.trans kinds'.symm, number, number', TransCmp.gt_of_gt_of_isGE greater within⟩

end Value

namespace Cell
variable {cell : Cell} {a b : Value} {o : Ordering}

/-- So it is for cells, since a null is less than nothing. -/
theorem compare?_lt_of_not_gt (less : cell.compare? (some a) = some .lt)
    (compared : a.compare? b = some o) (upTo : o ≠ .gt) : cell.compare? (some b) = some .lt := by
  cases cell with
  | none => cases less
  | some v => exact Value.compare?_lt_of_not_gt less compared upTo

theorem compare?_gt_of_not_gt (greater : cell.compare? (some b) = some .gt)
    (compared : a.compare? b = some o) (upTo : o ≠ .gt) : cell.compare? (some a) = some .gt := by
  cases cell with
  | none => cases greater
  | some v => exact Value.compare?_gt_of_not_gt greater compared upTo

end Cell
end RowQuery
