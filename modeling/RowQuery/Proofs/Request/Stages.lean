import RowQuery.Proofs.Request.Paging

/-!
# Stages in another order, and twice

Filtering only leaves rows out, so it neither disturbs the order of the others nor minds when they
are put in order; and two filters in a row are one. What a request returns is in order already, all
of it passes the filter, and a window that starts at the first row starts there again: the same
request on its own result returns it as it is.
-/
namespace RowQuery
open Outcome

/-! ## Filtering on demand -/

/-- A source of items: the next one and what is left then. Every source runs dry. -/
structure Source (Item : Type) where
  State : Type
  next : State → Option (Item × State)
  left : State → Nat
  shrinks : ∀ s item rest, next s = some (item, rest) → left rest < left s

namespace Source
variable {Item : Type} (src : Source Item)

/-- The next item that passes a test. Those before it are passed over. -/
def find (keep : Item → Bool) (s : src.State) : Option (Item × src.State) :=
  match drawn : src.next s with
  | none => none
  | some (item, rest) =>
    have := src.shrinks s item rest drawn
    if keep item then some (item, rest) else find keep rest
termination_by src.left s

theorem left_of_find (keep : Item → Bool) (s : src.State) (item : Item) (rest : src.State)
    (found : src.find keep s = some (item, rest)) : src.left rest < src.left s := by
  fun_induction find src keep s with
  | case1 s drawn => cases found
  | case2 s first after drawn smaller kept =>
    cases found
    exact smaller
  | case3 s first after drawn smaller passed ih =>
    exact Nat.lt_trans (ih found) smaller

/-- The source with a test in front. No item is drawn before one is asked for. -/
def filtered (keep : Item → Bool) : Source Item where
  State := src.State
  next := src.find keep
  left := src.left
  shrinks := src.left_of_find keep

/-- All items that a source has left. -/
def drain (s : src.State) : List Item :=
  match drawn : src.next s with
  | none => []
  | some (item, rest) =>
    have := src.shrinks s item rest drawn
    item :: drain rest
termination_by src.left s

theorem drain_of_none {s : src.State} (drawn : src.next s = none) : src.drain s = [] := by
  rw [drain]
  split
  · rfl
  · rename_i another
    cases drawn.symm.trans another

theorem drain_of_some {s rest : src.State} {item : Item}
    (drawn : src.next s = some (item, rest)) : src.drain s = item :: src.drain rest := by
  rw [drain]
  split
  · rename_i nothing
    cases drawn.symm.trans nothing
  · rename_i another
    cases drawn.symm.trans another
    rfl

/-- A source yields nothing behind a test exactly if none of its items passes; else the items up to
the first one that passes are gone. -/
theorem filter_drain_of_find (keep : Item → Bool) (s : src.State) :
    (src.drain s).filter keep =
      match src.find keep s with
      | none => []
      | some (item, rest) => item :: (src.drain rest).filter keep := by
  fun_induction find src keep s with
  | case1 s drawn => rw [src.drain_of_none drawn, List.filter_nil]
  | case2 s item rest drawn smaller kept =>
    rw [src.drain_of_some drawn, List.filter_cons_of_pos kept]
  | case3 s item rest drawn smaller passed ih =>
    rw [src.drain_of_some drawn, List.filter_cons_of_neg passed, ih]

/-- Drawn to the end, a source behind a test yields what passes of its items, in their order. -/
theorem drain_filtered (keep : Item → Bool) (s : src.State) :
    (src.filtered keep).drain s = (src.drain s).filter keep := by
  fun_induction drain (src.filtered keep) s with
  | case1 s drawn =>
    have behind := src.filter_drain_of_find keep s
    have nothing : src.find keep s = none := drawn
    rw [nothing] at behind
    exact behind.symm
  | case2 s item rest drawn smaller ih =>
    have behind := src.filter_drain_of_find keep s
    have found : src.find keep s = some (item, rest) := drawn
    rw [found] at behind
    exact (congrArg (item :: ·) ih).trans behind.symm

end Source

/-! ## Filters and sorters -/

variable {R Item : Type}

/-- A source of which only the items are drawn that a filter selects. -/
def CompiledFilter.draw (f : CompiledFilter R) (view : Item → R) (src : Source Item) :
    Source Item :=
  src.filtered fun item => f.test (view item)

theorem CompiledFilter.select_select (f g : CompiledFilter R) (view : Item → R)
    (items : List Item) : g.select view (f.select view items) = (f.both g).select view items := by
  rw [select, select, List.filter_filter, select]
  simp only [both, Predicate.both, Bool.and_comm]

/-- The rows that a filter leaves of a sorted list are the sorted ones of those it leaves. -/
theorem Sorter.select_sort (s : Sorter R) (f : CompiledFilter R) (view : Item → R)
    (items : List Item) : f.select view (s.sort view items) = s.sort view (f.select view items) :=
  have := transCmp_on s.compare view
  ((s.sort_stablySorted view items).filter _).eq (s.sort_stablySorted view _)

/-- Sorting leaves a list that is in order as it is. -/
theorem Sorter.sort_of_ordered (s : Sorter R) (view : Item → R) {items : List Item}
    (ordered : items.Pairwise fun a b => s.compare (view a) (view b) ≠ .gt) :
    s.sort view items = items :=
  have := transCmp_on s.compare view
  (s.sort_stablySorted view items).eq (.of_ordered ordered)

/-- Filtering commutes with sorting and fuses with itself: it does not matter whether a filter is
applied before rows are sorted or after it, and two filters one after the other select the rows, in
the order, that both together select. That holds of filters that draw rows from any source as they
are asked for, since each of them yields in the end what it selects of a list. -/
theorem CompiledFilter.select_commutes_and_fuses (f g : CompiledFilter R) (s : Sorter R)
    (view : Item → R) :
    (∀ items, f.select view (s.sort view items) = s.sort view (f.select view items)) ∧
    (∀ items, g.select view (f.select view items) = (f.both g).select view items) ∧
    ∀ (src : Source Item) (start : src.State),
      (f.draw view src).drain start = f.select view (src.drain start) ∧
      (g.draw view (f.draw view src)).drain start = ((f.both g).draw view src).drain start := by
  have drawn : ∀ (f : CompiledFilter R) (src : Source Item) (start : src.State),
      (f.draw view src).drain start = f.select view (src.drain start) := by
    intro f src start
    exact src.drain_filtered _ start
  refine ⟨s.select_sort f view, f.select_select g view, fun src start => ⟨drawn f src start, ?_⟩⟩
  have inner := drawn f src start
  have outer := drawn g (f.draw view src) start
  rw [outer, inner, select_select, ← drawn]

/-! ## Requests on their own results -/

/-- A window from the first row is found again in what it cuts out. -/
theorem Pagination.window_window {page : Pagination} (early : page.startRow ≤ 1)
    (items : List Item) : page.window (page.window items) = page.window items := by
  have first : page.offset = 0 := by
    have bound := UInt64.le_iff_toNat_le.1 early
    have one : (1 : UInt64).toNat = 1 := rfl
    rw [offset]
    omega
  simp only [window, first, List.drop_zero, List.take_take, Nat.min_self]

namespace GridRequest
variable {c : Catalog} [DecidableEq c.Entity] {compiler : FilterCompiler c} {e : c.Entity}
  {view : Item → c.Row e} {items rows : List Item} {request : GridRequest}

theorem apply_success :
    request.apply compiler e view items = .ok rows ↔
      ∃ filter, request.compileFilter compiler e = .ok filter ∧
        request.cut (request.sorted e filter view items) = rows := by
  rw [apply, bind_success]
  exact exists_congr fun filter => and_congr_right fun _ => pure_success

theorem cut_sublist (request : GridRequest) (rows : List Item) :
    (request.cut rows).Sublist rows := by
  rw [cut]
  split
  · exact (List.take_sublist _ _).trans (List.drop_sublist _ _)
  · exact List.Sublist.refl rows

theorem cut_cut (early : ∀ page, request.pagination = some page → page.startRow ≤ 1)
    (rows : List Item) : request.cut (request.cut rows) = request.cut rows := by
  unfold cut
  split
  · rename_i page asked
    exact Pagination.window_window (early page asked) rows
  · rfl

omit [DecidableEq c.Entity] in
/-- Rows that a request may have returned need no filtering or sorting any more. -/
theorem sorted_of_sublist {filter : CompiledFilter (c.Row e)}
    (part : rows.Sublist (request.sorted e filter view items)) :
    request.sorted e filter view rows = rows := by
  have stably := (Sorter.compile c e request.sort).sort_stablySorted view (filter.select view items)
  have passed : filter.select view rows = rows := by
    rw [CompiledFilter.select, List.filter_eq_self]
    intro row member
    have selected := stably.perm.subset (part.subset member)
    exact (List.mem_filter.1 selected).2
  rw [sorted, passed]
  exact Sorter.sort_of_ordered _ view (stably.ordered.sublist part)

/-- Applying a request twice changes nothing, unless it leaves out rows in front: what it returns,
it returns of that again, in the same order. -/
theorem apply_result (early : ∀ page, request.pagination = some page → page.startRow ≤ 1)
    (applied : request.apply compiler e view items = .ok rows) :
    request.apply compiler e view rows = .ok rows := by
  obtain ⟨filter, compiled, rfl⟩ := apply_success.1 applied
  refine apply_success.2 ⟨filter, compiled, ?_⟩
  rw [sorted_of_sublist (cut_sublist request _), cut_cut early]

end GridRequest

/-- The two best placed of three employees, by a window that counts from zero. -/
theorem byRating_result :
    ({ byRating with pagination := some ⟨0, 2⟩ } : GridRequest).apply staffCompiler () id
        [alice, bob, carol] = .ok [bob, alice] ∧
    ({ byRating with pagination := some ⟨0, 2⟩ } : GridRequest).apply staffCompiler () id
        [bob, alice] = .ok [bob, alice] := by
  have applied := GridRequest.apply_page rfl byRating_apply ⟨0, 2⟩
  refine ⟨applied, GridRequest.apply_result (fun page asked => ?_) applied⟩
  cases asked
  decide

end RowQuery
