import RowQuery.Proofs.Sorting.Order

/-!
# Stable sorting

A list is the stably sorted form of another when it holds the same rows, none of them after one that
it has to come before, and rows that tie in the order in which they came. There is exactly one such
list, whatever is done to find it, and sorters find it.
-/
namespace RowQuery
open Std

variable {α : Type} {cmp : α → α → Ordering}

/-- The rows that tie with a given one, in their order. -/
def tiesWith (cmp : α → α → Ordering) (a : α) (rows : List α) : List α :=
  rows.filter fun b => cmp a b == .eq

theorem mem_tiesWith {a b : α} {rows : List α} :
    b ∈ tiesWith cmp a rows ↔ b ∈ rows ∧ cmp a b = .eq := by
  rw [tiesWith, List.mem_filter, beq_iff_eq]

theorem tiesWith_cons_of_eq {a b : α} (tie : cmp a b = .eq) (rows : List α) :
    tiesWith cmp a (b :: rows) = b :: tiesWith cmp a rows :=
  List.filter_cons_of_pos (beq_iff_eq.2 tie)

theorem tiesWith_cons_of_ne {a b : α} (apart : cmp a b ≠ .eq) (rows : List α) :
    tiesWith cmp a (b :: rows) = tiesWith cmp a rows :=
  List.filter_cons_of_neg fun tie => apart (beq_iff_eq.1 tie)

theorem mem_of_same_ties [TransCmp cmp] {a : α} {s t : List α}
    (same : tiesWith cmp a s = tiesWith cmp a t) (member : a ∈ s) : a ∈ t := by
  have tied : a ∈ tiesWith cmp a s := mem_tiesWith.2 ⟨member, ReflCmp.compare_self⟩
  rw [same] at tied
  exact (mem_tiesWith.1 tied).1

theorem eq_of_ne_gt [OrientedCmp cmp] {a b : α} (first : cmp a b ≠ .gt) (second : cmp b a ≠ .gt) :
    cmp a b = .eq := by
  have turned : cmp b a = (cmp a b).swap := OrientedCmp.eq_swap
  rw [turned] at second
  cases order : cmp a b with
  | lt => exact absurd (congrArg Ordering.swap order) second
  | eq => rfl
  | gt => exact absurd order first

/-- Two sorted lists are equal when rows that tie stand in the same order in both. -/
theorem eq_of_same_ties [TransCmp cmp] {s t : List α}
    (left : s.Pairwise fun a b => cmp a b ≠ .gt) (right : t.Pairwise fun a b => cmp a b ≠ .gt)
    (same : ∀ a, a ∈ s ∨ a ∈ t → tiesWith cmp a s = tiesWith cmp a t) : s = t := by
  induction s generalizing t with
  | nil =>
    cases t with
    | nil => rfl
    | cons b t => cases mem_of_same_ties (same b (by simp)).symm List.mem_cons_self
  | cons a s ih =>
    cases t with
    | nil => cases mem_of_same_ties (same a (by simp)) List.mem_cons_self
    | cons b t =>
      obtain ⟨before, leftRest⟩ := List.pairwise_cons.1 left
      obtain ⟨after, rightRest⟩ := List.pairwise_cons.1 right
      -- Each head stands in the other list too, so that neither comes before the other.
      have tie : cmp a b = .eq := by
        rcases List.mem_cons.1 (mem_of_same_ties (same a (by simp)) List.mem_cons_self) with
          rfl | later
        · exact ReflCmp.compare_self
        rcases List.mem_cons.1 (mem_of_same_ties (same b (by simp)).symm List.mem_cons_self) with
          rfl | sooner
        · exact ReflCmp.compare_self
        exact eq_of_ne_gt (before b sooner) (after a later)
      have heads := same a (by simp)
      rw [tiesWith_cons_of_eq ReflCmp.compare_self, tiesWith_cons_of_eq tie] at heads
      obtain ⟨rfl, -⟩ := List.cons.inj heads
      have rest : s = t := by
        apply ih leftRest rightRest
        intro c member
        have both := same c (member.imp (List.mem_cons_of_mem a) (List.mem_cons_of_mem a))
        by_cases first : cmp c a = .eq
        · rw [tiesWith_cons_of_eq first, tiesWith_cons_of_eq first] at both
          exact (List.cons.inj both).2
        · rwa [tiesWith_cons_of_ne first, tiesWith_cons_of_ne first] at both
      rw [rest]

structure StablySorted (cmp : α → α → Ordering) (rows sorted : List α) : Prop where
  perm : sorted.Perm rows
  ordered : sorted.Pairwise fun a b => cmp a b ≠ .gt
  stable : ∀ a ∈ rows, tiesWith cmp a sorted = tiesWith cmp a rows

namespace StablySorted
variable {rows sorted : List α}

/-- Only the order of the rows themselves matters. -/
theorem congr {other : α → α → Ordering} (same : ∀ a ∈ rows, ∀ b ∈ rows, cmp a b = other a b)
    (stably : StablySorted cmp rows sorted) : StablySorted other rows sorted where
  perm := stably.perm
  ordered := by
    apply stably.ordered.imp_of_mem
    intro a b first second placed
    rwa [← same a (stably.perm.subset first) b (stably.perm.subset second)]
  stable a member := by
    have ties : ∀ part, part ⊆ rows → tiesWith cmp a part = tiesWith other a part := by
      intro part within
      apply List.filter_congr
      intro b belongs
      rw [same a member b (within belongs)]
    rw [← ties sorted stably.perm.subset, ← ties rows (List.Subset.refl rows)]
    exact stably.stable a member

/-- There is only one way to sort stably. -/
theorem eq [TransCmp cmp] {other : List α} (left : StablySorted cmp rows sorted)
    (right : StablySorted cmp rows other) : sorted = other := by
  apply eq_of_same_ties left.ordered right.ordered
  intro a member
  have belongs : a ∈ rows := member.elim (left.perm.subset ·) (right.perm.subset ·)
  rw [left.stable a belongs, right.stable a belongs]

/-- What is kept of a sorted list is the stably sorted form of what is kept of the rows. -/
theorem filter (stably : StablySorted cmp rows sorted) (keep : α → Bool) :
    StablySorted cmp (rows.filter keep) (sorted.filter keep) where
  perm := stably.perm.filter keep
  ordered := stably.ordered.filter keep
  stable a member := by
    have kept : ∀ part : List α,
        tiesWith cmp a (part.filter keep) = (tiesWith cmp a part).filter keep := by
      intro part
      rw [tiesWith, tiesWith, List.filter_filter, List.filter_filter]
      simp only [Bool.and_comm]
    rw [kept, kept, stably.stable a (List.mem_filter.1 member).1]

/-- Rows that are in order already stay as they are. -/
theorem of_ordered (ordered : rows.Pairwise fun a b => cmp a b ≠ .gt) :
    StablySorted cmp rows rows where
  perm := List.Perm.refl rows
  ordered
  stable _ _ := rfl

/-- Merging keeps the order of rows that tie, for they are a sorted part of the rows. -/
theorem mergeSort [TransCmp cmp] (rows : List α) :
    StablySorted cmp rows (rows.mergeSort fun a b => cmp a b != .gt) := by
  have le_iff : ∀ a b, (cmp a b != .gt) = true ↔ (cmp a b).isLE = true := by
    intro a b
    cases cmp a b <;> decide
  have trans : ∀ a b c, (cmp a b != .gt) = true → (cmp b c != .gt) = true →
      (cmp a c != .gt) = true := by
    intro a b c first second
    rw [le_iff] at first second ⊢
    exact TransCmp.isLE_trans first second
  have total : ∀ a b, ((cmp a b != .gt) || (cmp b a != .gt)) = true := by
    intro a b
    have turned : cmp b a = (cmp a b).swap := OrientedCmp.eq_swap
    rw [turned]
    cases cmp a b <;> decide
  have perm := List.mergeSort_perm rows fun a b => cmp a b != .gt
  refine ⟨perm, ?_, fun a _ => ?_⟩
  · exact (List.pairwise_mergeSort trans total rows).imp fun placed => by simpa using placed
  · have tied : (tiesWith cmp a rows).Pairwise fun b c => (cmp b c != .gt) = true := by
      refine List.pairwise_filter.2 (List.pairwise_of_forall fun b c first second => ?_)
      have tie : cmp b c = .eq :=
        TransCmp.eq_trans (OrientedCmp.eq_symm (beq_iff_eq.1 first)) (beq_iff_eq.1 second)
      rw [tie]
      rfl
    have kept := List.sublist_mergeSort trans total tied List.filter_sublist
    have within := kept.filter fun b => cmp a b == .eq
    have again : (tiesWith cmp a rows).filter (fun b => cmp a b == .eq) = tiesWith cmp a rows := by
      simp [tiesWith]
    rw [again] at within
    exact (within.eq_of_length (perm.filter _).length_eq.symm).symm

end StablySorted

/-- Sorters sort stably. -/
theorem Sorter.sort_stablySorted {R : Type} (s : Sorter R) (view : α → R) (items : List α) :
    StablySorted (fun a b => s.compare (view a) (view b)) items (s.sort view items) :=
  have := transCmp_on s.compare view
  StablySorted.mergeSort items

end RowQuery
