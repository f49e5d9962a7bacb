import RowQuery.Proofs.Sorting.Stable
import Mathlib.Data.List.Forall2

/-!
# Sorters

What a list of sort models asks for is an order of rows: a total preorder in which the first key
that tells two rows apart decides, whatever the rows hold. The keys are those of the models whose
paths lead somewhere, in the order of the list, and sorting by them is stable.
-/
namespace RowQuery
open Std

/-- An order that places any two elements, where elements may tie. -/
structure TotalPreorder {α : Type} (cmp : α → α → Ordering) : Prop where
  reflexive : ∀ a, cmp a a = .eq
  turned : ∀ a b, cmp a b = (cmp b a).swap
  transitive : ∀ a b c, cmp a b ≠ .gt → cmp b c ≠ .gt → cmp a c ≠ .gt

theorem totalPreorder_of_transCmp {α : Type} (cmp : α → α → Ordering) [TransCmp cmp] :
    TotalPreorder cmp where
  reflexive _ := ReflCmp.compare_self
  turned _ _ := OrientedCmp.eq_swap
  transitive a b c first second := by
    rw [Ne, Ordering.ne_gt_iff_isLE] at first second ⊢
    exact TransCmp.isLE_trans first second

variable {R : Type}

namespace Sorter

/-- How keys decide the order of two rows: the first key that tells them apart gives it, and rows
that no key tells apart tie. -/
inductive Decides (a b : R) : List (SortKey R) → Ordering → Prop
  | tie (keys : List (SortKey R)) (ties : ∀ k ∈ keys, k.compare a b = .eq) : Decides a b keys .eq
  | first (before : List (SortKey R)) (k : SortKey R) (after : List (SortKey R))
      (ties : ∀ earlier ∈ before, earlier.compare a b = .eq) (apart : k.compare a b ≠ .eq) :
      Decides a b (before ++ k :: after) (k.compare a b)

theorem Decides.cons {a b : R} {k : SortKey R} {keys : List (SortKey R)} {o : Ordering}
    (tied : k.compare a b = .eq) (rest : Decides a b keys o) : Decides a b (k :: keys) o := by
  cases rest with
  | tie _ ties => exact .tie _ (List.forall_mem_cons.2 ⟨tied, ties⟩)
  | first before k' after ties apart =>
    exact .first (k :: before) k' after (List.forall_mem_cons.2 ⟨tied, ties⟩) apart

theorem compare_decides (s : Sorter R) (a b : R) : Decides a b s.keys (s.compare a b) := by
  unfold compare
  induction s.keys with
  | nil => exact .tie [] (by simp)
  | cons k keys ih =>
    rw [List.foldr_cons]
    by_cases tied : k.compare a b = .eq
    · rw [tied, Ordering.eq_then]
      exact ih.cons tied
    · have decided : (k.compare a b).then
          (keys.foldr (fun k rest => (k.compare a b).then rest) .eq) = k.compare a b := by
        cases order : k.compare a b with
        | eq => exact absurd order tied
        | _ => rfl
      rw [decided]
      exact .first [] k keys (by simp) tied

variable (c : Catalog) (e : c.Entity)

/-- The key that a sort model asks for. -/
def KeyFor (sort : SortModel) (k : SortKey (c.Row e)) : Prop :=
  c.resolve e sort.property .nullSafe = .ok k.property ∧ k.order = sort.order

/-- Whether the path of a sort model leads to a property. -/
def leads (sort : SortModel) : Bool := (c.resolve e sort.property .nullSafe).isOk

/-- Exactly the models whose paths lead somewhere have keys, in the order of the list. -/
theorem keys_compile (sorts : List SortModel) :
    List.Forall₂ (KeyFor c e) (sorts.filter (leads c e)) (compile c e sorts).keys := by
  unfold compile
  induction sorts with
  | nil => exact .nil
  | cons sort sorts ih =>
    rw [List.filter_cons, List.filterMap_cons, leads]
    cases resolved : c.resolve e sort.property .nullSafe with
    | error failure => exact ih
    | ok p => exact .cons ⟨resolved, rfl⟩ ih

/-- A list of sort models sorts rows stably by a total preorder. The models whose paths lead
somewhere give the keys, the first key that tells two rows apart decides, and of the rows that tie
none moves in front of another; beneath it lies a total preorder of all cells, null and what is not
a number among them. -/
theorem compile_sorts_stably (sorts : List SortModel) :
    List.Forall₂ (KeyFor c e) (sorts.filter (leads c e)) (compile c e sorts).keys ∧
    (∀ a b, Decides a b (compile c e sorts).keys ((compile c e sorts).compare a b)) ∧
    TotalPreorder (compile c e sorts).compare ∧
    (∀ (Item : Type) (view : Item → c.Row e) (items : List Item),
      StablySorted (fun a b => (compile c e sorts).compare (view a) (view b)) items
        ((compile c e sorts).sort view items)) ∧
    TotalPreorder Cell.sortCompare := by
  refine ⟨keys_compile c e sorts, compare_decides _, totalPreorder_of_transCmp _, ?_,
    totalPreorder_of_transCmp _⟩
  intro Item view items
  exact (compile c e sorts).sort_stablySorted view items

end Sorter
end RowQuery
