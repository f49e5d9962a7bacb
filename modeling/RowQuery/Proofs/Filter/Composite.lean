import RowQuery.Proofs.Filter.Enumeration

/-!
# Composite filters

A composite filter put together by hand may be empty or hold a condition of another kind, which is
refused before any bound is read. Otherwise it is made of the filters to which its conditions
compile by themselves: it compiles when they all do, fails where the first of them does, and selects
the rows that all of them select, or at least one.
-/
namespace RowQuery
open Outcome

namespace Combinator
variable {α β ε : Type} {combinator : Combinator}

/-- Neither the order nor the repetition of things matters to a combinator. -/
theorem Holds.of_same_members {so : α → Prop} {xs ys : List α} (same : ∀ x, x ∈ xs ↔ x ∈ ys) :
    combinator.Holds so xs ↔ combinator.Holds so ys := by
  cases combinator with
  | all => simp only [Holds, same]
  | any => simp only [Holds, same]

/-- What holds of the results of a run is what holds of each step by itself. -/
theorem holds_mapM {so : β → Prop} {f : α → Except ε β} {xs : List α} {ys : List β}
    (run : xs.mapM f = .ok ys) :
    combinator.Holds so ys ↔ combinator.Holds (fun x => ∃ y, f x = .ok y ∧ so y) xs := by
  have member_iff := mem_mapM_iff run
  cases combinator with
  | all =>
    constructor
    · intro all x member
      obtain ⟨y, stepped⟩ := mapM_succeeds_iff.1 ⟨ys, run⟩ x member
      exact ⟨y, stepped, all y ((member_iff y).2 ⟨x, member, stepped⟩)⟩
    · intro all y member
      obtain ⟨x, belongs, stepped⟩ := (member_iff y).1 member
      obtain ⟨z, again, holds⟩ := all x belongs
      cases stepped.symm.trans again
      exact holds
  | any =>
    constructor
    · rintro ⟨y, member, holds⟩
      obtain ⟨x, belongs, stepped⟩ := (member_iff y).1 member
      exact ⟨x, belongs, y, stepped, holds⟩
    · rintro ⟨x, belongs, y, stepped, holds⟩
      exact ⟨y, (member_iff y).2 ⟨x, belongs, stepped⟩, holds⟩

end Combinator

namespace FilterCompiler
variable {c : Catalog} [DecidableEq c.Entity] {compiler : FilterCompiler c} {e : c.Entity}
  {p : ResolvedProperty (c.Row e)}

section
variable {combinator : Combinator} {first : Condition} {rest : List Condition}

theorem compileAll_succeeds_iff :
    (∃ f, compiler.compileAll e p combinator first rest = .ok f) ↔
      ∀ condition ∈ first :: rest, ∃ g, compiler.compileCondition e p condition = .ok g := by
  rw [← mapM_succeeds_iff]
  constructor
  · rintro ⟨f, success⟩
    obtain ⟨start, parts, begun, others, -⟩ := (compiler.compileAll_success e).1 success
    exact ⟨_, mapM_cons_success.2 ⟨start, parts, begun, others, rfl⟩⟩
  · rintro ⟨_, run⟩
    obtain ⟨start, parts, begun, others, -⟩ := mapM_cons_success.1 run
    exact ⟨_, (compiler.compileAll_success e).2 ⟨start, parts, begun, others, rfl⟩⟩

theorem compileAll_test_iff {f : CompiledFilter (c.Row e)}
    (success : compiler.compileAll e p combinator first rest = .ok f) (row : c.Row e) :
    f.test row = true ↔ combinator.Holds
      (fun condition => ∃ g, compiler.compileCondition e p condition = .ok g ∧ g.test row = true)
      (first :: rest) := by
  obtain ⟨start, parts, begun, others, rfl⟩ := (compiler.compileAll_success e).1 success
  have run := mapM_cons_success.2 ⟨start, parts, begun, others, rfl⟩
  rw [CompiledFilter.test_foldl_join, Combinator.holds_mapM run]

end

theorem compileResolved_composite_succeeds_iff {kind : FilterKind} {combinator : Combinator}
    {conditions : List Condition} :
    (∃ f, compiler.compileResolved e p (.composite kind combinator conditions) = .ok f) ↔
      conditions ≠ [] ∧ ∀ condition ∈ conditions,
        condition.kind = kind ∧ ∃ g, compiler.compileCondition e p condition = .ok g := by
  constructor
  · rintro ⟨f, success⟩
    obtain ⟨first, rest, rfl, alike, compiled⟩ :=
      (compiler.compileResolved_composite_success e).1 success
    have each := compileAll_succeeds_iff.1 ⟨f, compiled⟩
    exact ⟨List.cons_ne_nil first rest, fun condition member =>
      ⟨alike condition member, each condition member⟩⟩
  · rintro ⟨given, each⟩
    obtain ⟨first, rest, rfl⟩ := List.exists_cons_of_ne_nil given
    obtain ⟨f, compiled⟩ := compileAll_succeeds_iff.2 fun condition member =>
      (each condition member).2
    exact ⟨f, (compiler.compileResolved_composite_success e).2
      ⟨first, rest, rfl, fun condition member => (each condition member).1, compiled⟩⟩

theorem compileResolved_composite_test_iff {kind : FilterKind} {combinator : Combinator}
    {conditions : List Condition} {f : CompiledFilter (c.Row e)}
    (success : compiler.compileResolved e p (.composite kind combinator conditions) = .ok f)
    (row : c.Row e) :
    f.test row = true ↔ combinator.Holds
      (fun condition => ∃ g, compiler.compileCondition e p condition = .ok g ∧ g.test row = true)
      conditions := by
  obtain ⟨first, rest, rfl, -, compiled⟩ := (compiler.compileResolved_composite_success e).1 success
  exact compileAll_test_iff compiled row

theorem compileSpec_of_resolved {path : String}
    (resolved : c.resolve e path compiler.access = .ok p) (spec : FilterSpec) :
    compiler.compileSpec e path spec = compiler.compileResolved e p spec := by
  rw [compileSpec, resolved]
  rfl

section
variable {kind : FilterKind} {combinator : Combinator} {conditions : List Condition}

/-- The shape of a composite filter is refused exactly if it has no conditions or one of another
kind: where its conditions are refused, it is for their bounds. -/
theorem compileResolved_malformed_iff :
    (∃ cause, compiler.compileResolved e p (.composite kind combinator conditions) =
        .error (.malformedFilter cause)) ↔
      conditions = [] ∨ ∃ condition ∈ conditions, condition.kind ≠ kind := by
  cases conditions with
  | nil => exact iff_of_true ⟨.noConditions, rfl⟩ (Or.inl rfl)
  | cons first rest =>
    rw [or_iff_right (List.cons_ne_nil first rest)]
    cases found : (first :: rest).find? fun condition => condition.kind != kind with
    | some stray =>
      have differs := List.find?_some found
      exact iff_of_true
        ⟨.strayCondition stray.kind kind, by simp only [compileResolved, found]⟩
        ⟨stray, List.mem_of_find?_eq_some found, bne_iff_ne.1 differs⟩
    | none =>
      have alike := find?_stray_eq_none_iff.1 found
      apply iff_of_false
      · rintro ⟨cause, refused⟩
        rw [compiler.compileResolved_uniform e alike, compileAll_failure] at refused
        obtain ⟨_, condition, _, -, -, failure⟩ := mapM_failure.1 refused
        exact Condition.compile_failure failure
      · rintro ⟨condition, member, stray⟩
        exact stray (alike condition member)

/-- Conditions that are the same but for their order and repetition compile to filters that select
the same rows. -/
theorem compileResolved_of_same_members {others : List Condition}
    (same : ∀ condition, condition ∈ others ↔ condition ∈ conditions)
    {f : CompiledFilter (c.Row e)}
    (success : compiler.compileResolved e p (.composite kind combinator conditions) = .ok f) :
    ∃ g, compiler.compileResolved e p (.composite kind combinator others) = .ok g ∧
      ∀ row, g.test row = f.test row := by
  obtain ⟨first, rest, rfl, alike, compiled⟩ :=
    (compiler.compileResolved_composite_success e).1 success
  obtain ⟨other, remaining, rfl⟩ :=
    List.exists_cons_of_ne_nil (List.ne_nil_of_mem ((same first).2 List.mem_cons_self))
  have each : ∀ condition ∈ other :: remaining,
      ∃ g, compiler.compileCondition e p condition = .ok g := by
    intro condition member
    exact compileAll_succeeds_iff.1 ⟨f, compiled⟩ condition ((same condition).1 member)
  obtain ⟨g, compiledOthers⟩ := compileAll_succeeds_iff.2 each
  refine ⟨g, (compiler.compileResolved_composite_success e).2
    ⟨other, remaining, rfl, ?_, compiledOthers⟩, ?_⟩
  · intro condition member
    exact alike condition ((same condition).1 member)
  · intro row
    rw [Bool.eq_iff_iff, compileAll_test_iff compiledOthers, compileAll_test_iff compiled]
    exact Combinator.Holds.of_same_members same

end

/-- The law of composite filters, on any path that leads to a property. The shape is refused exactly
if there are no conditions, or one of another kind. Otherwise the filter compiles exactly when each
condition does by itself, fails with the error of the first one that does not, and selects the rows
that all of the conditions' own filters select, or at least one, as the combinator says. The order
of the conditions and their repetition change neither whether it compiles nor what it selects. -/
theorem compileSpec_composite (compiler : FilterCompiler c) (e : c.Entity) (path : String)
    (p : ResolvedProperty (c.Row e)) (resolved : c.resolve e path compiler.access = .ok p)
    (kind : FilterKind) (combinator : Combinator) (conditions : List Condition) :
    ((∃ cause, compiler.compileSpec e path (.composite kind combinator conditions) =
        .error (.malformedFilter cause)) ↔
      conditions = [] ∨ ∃ condition ∈ conditions, condition.kind ≠ kind) ∧
    (conditions ≠ [] → (∀ condition ∈ conditions, condition.kind = kind) →
      ((∃ f, compiler.compileSpec e path (.composite kind combinator conditions) = .ok f) ↔
        ∀ condition ∈ conditions, ∃ g, compiler.compileSpec e path (.plain condition) = .ok g) ∧
      (∀ error, compiler.compileSpec e path (.composite kind combinator conditions) =
          .error error ↔
        ∃ before condition after, conditions = before ++ condition :: after ∧
          (∀ earlier ∈ before, ∃ g, compiler.compileSpec e path (.plain earlier) = .ok g) ∧
          compiler.compileSpec e path (.plain condition) = .error error) ∧
      (∀ f, compiler.compileSpec e path (.composite kind combinator conditions) = .ok f →
        ∀ row, f.test row = true ↔ combinator.Holds
          (fun condition => ∃ g, compiler.compileSpec e path (.plain condition) = .ok g ∧
            g.test row = true) conditions)) ∧
    (∀ others, (∀ condition, condition ∈ others ↔ condition ∈ conditions) →
      ∀ f, compiler.compileSpec e path (.composite kind combinator conditions) = .ok f →
        ∃ g, compiler.compileSpec e path (.composite kind combinator others) = .ok g ∧
          ∀ row, g.test row = f.test row) := by
  simp only [compileSpec_of_resolved resolved]
  refine ⟨compileResolved_malformed_iff, fun given alike => ?_, fun others same f success => ?_⟩
  · obtain ⟨first, rest, rfl⟩ := List.exists_cons_of_ne_nil given
    rw [compiler.compileResolved_uniform e alike]
    refine ⟨compileAll_succeeds_iff, fun error => ?_, fun f success => compileAll_test_iff success⟩
    rw [compileAll_failure, mapM_failure]
    rfl
  · exact compileResolved_of_same_members same success

end FilterCompiler

def aboveHalf : Condition := .number ⟨.greaterThan, some "0.5", none⟩

def unrated : Condition := .number ⟨.blank, none, none⟩

/-- Employees whose superior is rated above one half, or not rated, asked for in two ways: one
without a superior is among them. -/
theorem unrated_composite :
    ∃ f g,
      staffCompiler.compileSpec () "superior.rating"
        (.composite .number .any [aboveHalf, unrated]) = .ok f ∧
      staffCompiler.compileSpec () "superior.rating"
        (.composite .number .any [unrated, aboveHalf, unrated]) = .ok g ∧
      f.test alice = true ∧ g.test alice = true := by
  have found : staff.resolve () "superior.rating" .nullSafe = .ok superiorRating := rfl
  obtain ⟨-, uniform, reordered⟩ := FilterCompiler.compileSpec_composite staffCompiler ()
    "superior.rating" superiorRating found .number .any [aboveHalf, unrated]
  obtain ⟨compiles, -, selects⟩ := uniform (by decide) (by decide)
  have own : staffCompiler.compileSpec () "superior.rating" (.plain unrated) =
      .ok (whenNull superiorRating) := rfl
  have each : ∀ condition ∈ [aboveHalf, unrated],
      ∃ g, staffCompiler.compileSpec () "superior.rating" (.plain condition) = .ok g :=
    List.forall_mem_cons.2 ⟨⟨_, rfl⟩, List.forall_mem_singleton.2 ⟨_, own⟩⟩
  obtain ⟨f, success⟩ := compiles.2 each
  obtain ⟨g, successToo, same⟩ :=
    reordered [unrated, aboveHalf, unrated] (by simp [or_comm]) f success
  have selected : f.test alice = true :=
    (selects f success alice).2 ⟨unrated, by simp, _, own, rfl⟩
  exact ⟨f, g, success, successToo, selected, (same alice).trans selected⟩

end RowQuery
