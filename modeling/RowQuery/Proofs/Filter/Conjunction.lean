import RowQuery.Filter.Compiler
import RowQuery.Proofs.Outcome

/-!
# Filters of several conditions

A composite filter is the fold of its conditions' filters, and the filter of a map is the fold of
its entries' filters: compilation first prepares all entries and then joins them one by one, but it
succeeds exactly when each entry compiles by itself, and then it is the conjunction of those
filters.
-/
namespace RowQuery
open Outcome

/-- What a combinator says of several things: that all of them are so, or at least one. -/
def Combinator.Holds {α : Type} (combinator : Combinator) (so : α → Prop) (xs : List α) : Prop :=
  match combinator with
  | .all => ∀ x ∈ xs, so x
  | .any => ∃ x ∈ xs, so x

namespace CompiledFilter
variable {R : Type}

theorem test_both (f g : CompiledFilter R) (row : R) :
    (f.both g).test row = (f.test row && g.test row) := rfl

theorem test_either (f g : CompiledFilter R) (row : R) :
    (f.either g).test row = (f.test row || g.test row) := rfl

/-- A fold of joins selects what the combinator makes of its start and all its parts. -/
theorem test_foldl_join (combinator : Combinator) (parts : List (CompiledFilter R))
    (start : CompiledFilter R) (row : R) :
    (parts.foldl (join combinator) start).test row = true ↔
      combinator.Holds (fun part => part.test row = true) (start :: parts) := by
  induction parts generalizing start with
  | nil => cases combinator <;> simp [Combinator.Holds]
  | cons part parts ih =>
    rw [List.foldl_cons, ih]
    cases combinator with
    | all => simp [Combinator.Holds, join, test_both, and_assoc]
    | any => simp [Combinator.Holds, join, test_either, or_assoc]

/-- A fold of conjunctions selects what its start and all its parts select. -/
theorem test_foldl_both (parts : List (CompiledFilter R)) (start : CompiledFilter R) (row : R) :
    (parts.foldl both start).test row = true ↔
      start.test row = true ∧ ∀ part ∈ parts, part.test row = true :=
  (test_foldl_join .all parts start row).trans List.forall_mem_cons

end CompiledFilter

/-- The map without the entries that ask for nothing. -/
def FilterMap.present (m : FilterMap) : FilterMap where
  entries := m.entries.filter fun entry => entry.2.isSome
  nodup := m.nodup.sublist (List.filter_sublist.map _)

namespace FilterCompiler
variable {c : Catalog} [DecidableEq c.Entity] (compiler : FilterCompiler c) (e : c.Entity)

theorem mem_sortedEntries (filters : FilterMap) (entry : String × FilterModel) :
    entry ∈ sortedEntries filters ↔ (entry.1, some entry.2) ∈ filters.entries := by
  rw [sortedEntries, List.mem_mergeSort, List.mem_filterMap]
  constructor
  · intro given
    obtain ⟨⟨path, model⟩, member, kept⟩ := given
    obtain ⟨value, rfl, rfl⟩ := Option.map_eq_some_iff.1 kept
    exact member
  · intro member
    exact ⟨(entry.1, some entry.2), member, rfl⟩

theorem sortedEntries_present (filters : FilterMap) :
    sortedEntries filters.present = sortedEntries filters := by
  unfold sortedEntries FilterMap.present
  rw [List.filterMap_filter]
  congr 2
  funext entry
  obtain ⟨path, model⟩ := entry
  cases model <;> rfl

omit [DecidableEq c.Entity] in
theorem prepare_success {entry : String × FilterModel} {p : ResolvedProperty (c.Row e)}
    {spec : FilterSpec} :
    compiler.prepare e entry = .ok (p, spec) ↔
      c.resolve e entry.1 compiler.access = .ok p ∧ FilterSpec.ofModel entry.2 = .ok spec := by
  simp only [prepare, bind_success, pure_success, Prod.mk.injEq]
  constructor
  · rintro ⟨_, resolved, _, shaped, rfl, rfl⟩
    exact ⟨resolved, shaped⟩
  · rintro ⟨resolved, shaped⟩
    exact ⟨p, resolved, spec, shaped, rfl, rfl⟩

/-- Preparing an entry and compiling what was prepared is compiling it by itself, although a lone
filter has its shape checked before its path. -/
theorem compileProperty_success {entry : String × FilterModel} {g : CompiledFilter (c.Row e)} :
    compiler.compileProperty e entry.1 entry.2 = .ok g ↔
      ∃ p spec, compiler.prepare e entry = .ok (p, spec) ∧
        compiler.compileResolved e p spec = .ok g := by
  simp only [compileProperty, compileSpec, bind_success, prepare_success]
  constructor
  · intro given
    obtain ⟨spec, shaped, p, resolved, compiled⟩ := given
    exact ⟨p, spec, ⟨resolved, shaped⟩, compiled⟩
  · intro given
    obtain ⟨p, spec, ⟨resolved, shaped⟩, compiled⟩ := given
    exact ⟨spec, shaped, p, resolved, compiled⟩

/-- A map compiles to the conjunction of the filters to which its entries compile by themselves. -/
theorem compile_success {filters : FilterMap} {f : CompiledFilter (c.Row e)} :
    compiler.compile e filters = .ok f ↔
      ∃ parts, (sortedEntries filters).mapM
          (fun entry => compiler.compileProperty e entry.1 entry.2) = .ok parts ∧
        f = parts.foldl .both .always := by
  have lone : ∀ entry g, compiler.compileProperty e entry.1 entry.2 = .ok g ↔
      (compiler.prepare e entry >>= fun prepared =>
        compiler.compileResolved e prepared.1 prepared.2) = .ok g := by
    intro entry g
    rw [compileProperty_success, bind_success, Prod.exists]
  simp only [compile, bind_success, foldlM_success, mapM_success_congr lone, ← mapM_bind_success]
  constructor
  · intro given
    obtain ⟨prepared, ready, parts, compiled, same⟩ := given
    exact ⟨parts, ⟨prepared, ready, compiled⟩, same⟩
  · intro given
    obtain ⟨parts, ⟨prepared, ready, compiled⟩, same⟩ := given
    exact ⟨prepared, ready, parts, compiled, same⟩

/-- Several conditions on one property compile to the fold of their filters. -/
theorem compileAll_success {p : ResolvedProperty (c.Row e)} {combinator : Combinator}
    {first : Condition} {rest : List Condition} {f : CompiledFilter (c.Row e)} :
    compiler.compileAll e p combinator first rest = .ok f ↔
      ∃ start parts, compiler.compileCondition e p first = .ok start ∧
        rest.mapM (compiler.compileCondition e p) = .ok parts ∧
        f = parts.foldl (.join combinator) start := by
  simp only [compileAll, bind_success, foldlM_success, exists_and_left]

theorem find?_stray_eq_none_iff {kind : FilterKind} {conditions : List Condition} :
    (conditions.find? fun condition => condition.kind != kind) = none ↔
      ∀ condition ∈ conditions, condition.kind = kind := by
  simp [List.find?_eq_none]

/-- Conditions that are all of the filter's kind get past the check of kinds. -/
theorem compileResolved_uniform {p : ResolvedProperty (c.Row e)} {kind : FilterKind}
    {combinator : Combinator} {first : Condition} {rest : List Condition}
    (alike : ∀ condition ∈ first :: rest, condition.kind = kind) :
    compiler.compileResolved e p (.composite kind combinator (first :: rest)) =
      compiler.compileAll e p combinator first rest := by
  simp only [compileResolved, find?_stray_eq_none_iff.2 alike]

theorem compileResolved_composite_success {p : ResolvedProperty (c.Row e)} {kind : FilterKind}
    {combinator : Combinator} {conditions : List Condition} {f : CompiledFilter (c.Row e)} :
    compiler.compileResolved e p (.composite kind combinator conditions) = .ok f ↔
      ∃ first rest, conditions = first :: rest ∧
        (∀ condition ∈ first :: rest, condition.kind = kind) ∧
        compiler.compileAll e p combinator first rest = .ok f := by
  constructor
  · intro success
    cases conditions with
    | nil => cases success
    | cons first rest =>
      cases found : (first :: rest).find? fun condition => condition.kind != kind with
      | some stray =>
        simp only [compileResolved, found] at success
        cases success
      | none =>
        have alike := find?_stray_eq_none_iff.1 found
        rw [compiler.compileResolved_uniform e alike] at success
        exact ⟨first, rest, rfl, alike, success⟩
  · rintro ⟨first, rest, rfl, alike, success⟩
    rwa [compiler.compileResolved_uniform e alike]

theorem compile_succeeds_iff (filters : FilterMap) :
    (∃ f, compiler.compile e filters = .ok f) ↔
      ∀ path model, (path, some model) ∈ filters.entries →
        ∃ g, compiler.compileProperty e path model = .ok g := by
  constructor
  · intro given path model member
    obtain ⟨f, success⟩ := given
    obtain ⟨parts, compiled, -⟩ := (compiler.compile_success e).1 success
    exact mapM_succeeds_iff.1 ⟨parts, compiled⟩ (path, model) ((mem_sortedEntries _ _).2 member)
  · intro each
    have compiles : ∀ entry ∈ sortedEntries filters,
        ∃ g, compiler.compileProperty e entry.1 entry.2 = .ok g := by
      intro entry member
      exact each entry.1 entry.2 ((mem_sortedEntries filters entry).1 member)
    obtain ⟨parts, compiled⟩ := mapM_succeeds_iff.2 compiles
    exact ⟨_, (compiler.compile_success e).2 ⟨parts, compiled, rfl⟩⟩

theorem compile_test_iff {filters : FilterMap} {f : CompiledFilter (c.Row e)}
    (success : compiler.compile e filters = .ok f) (row : c.Row e) :
    f.test row = true ↔
      ∀ path model g, (path, some model) ∈ filters.entries →
        compiler.compileProperty e path model = .ok g → g.test row = true := by
  obtain ⟨parts, compiled, rfl⟩ := (compiler.compile_success e).1 success
  have member_iff := mem_mapM_iff compiled
  rw [CompiledFilter.test_foldl_both]
  constructor
  · intro given path model g member compiledEntry
    obtain ⟨-, all⟩ := given
    exact all g ((member_iff g).2 ⟨(path, model), (mem_sortedEntries _ _).2 member, compiledEntry⟩)
  · intro all
    refine ⟨rfl, fun part belongs => ?_⟩
    obtain ⟨entry, member, compiledEntry⟩ := (member_iff part).1 belongs
    exact all entry.1 entry.2 part ((mem_sortedEntries _ _).1 member) compiledEntry

/-- The law of conjunction: a map compiles exactly when each entry that holds a filter compiles by
itself, and then it selects the rows that all those filters select. Entries without a filter never
matter, whatever their paths; the empty map selects every row; and entries whose paths are different
spellings of one property are both enforced. -/
theorem compile_conjunction (filters : FilterMap) :
    ((∃ f, compiler.compile e filters = .ok f) ↔
      ∀ path model, (path, some model) ∈ filters.entries →
        ∃ g, compiler.compileProperty e path model = .ok g) ∧
    (∀ f, compiler.compile e filters = .ok f → ∀ row, f.test row = true ↔
      ∀ path model g, (path, some model) ∈ filters.entries →
        compiler.compileProperty e path model = .ok g → g.test row = true) ∧
    compiler.compile e filters.present = compiler.compile e filters ∧
    (∃ all, compiler.compile e .empty = .ok all ∧ ∀ row, all.test row = true) ∧
    (∀ f path₁ path₂ model₁ model₂ p₁ p₂ g₁ g₂, compiler.compile e filters = .ok f →
      (path₁, some model₁) ∈ filters.entries → (path₂, some model₂) ∈ filters.entries →
      c.resolve e path₁ compiler.access = .ok p₁ → c.resolve e path₂ compiler.access = .ok p₂ →
      path₁ ≠ path₂ → p₁.name = p₂.name →
      compiler.compileProperty e path₁ model₁ = .ok g₁ →
      compiler.compileProperty e path₂ model₂ = .ok g₂ →
      ∀ row, f.test row = true → g₁.test row = true ∧ g₂.test row = true) := by
  refine ⟨compiler.compile_succeeds_iff e filters, ?_, ?_, ?_, ?_⟩
  · intro f success
    exact compiler.compile_test_iff e success
  · rw [compile, compile, sortedEntries_present]
  · refine ⟨.always, (compiler.compile_success e).2 ⟨[], ?_, rfl⟩, fun _ => rfl⟩
    rw [sortedEntries, FilterMap.empty, List.filterMap_nil, List.mergeSort_nil]
    rfl
  · intro f path₁ path₂ model₁ model₂ _ _ g₁ g₂ success member₁ member₂ _ _ _ _ compiled₁ compiled₂
      row selected
    have enforced := (compiler.compile_test_iff e success row).1 selected
    exact ⟨enforced path₁ model₁ g₁ member₁ compiled₁, enforced path₂ model₂ g₂ member₂ compiled₂⟩

end FilterCompiler
end RowQuery
