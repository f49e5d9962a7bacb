import RowQuery.Proofs.Filter.Outline
import RowQuery.Proofs.Request.Agreement

/-!
# Statements of requests

The text of a statement is settled by what a request asks apart from values. Whatever texts its
filters bring with them, and whichever page it cuts out, these are parameters of the statement, so
that no value of a request can become a part of the language.
-/
namespace RowQuery
open Outcome

namespace GridRequest

/-- Two requests ask the same but for values: their filters have one outline, in whatever order they
are enumerated, they sort alike, and both or neither cut out a page. -/
structure Alike (request other : GridRequest) : Prop where
  filters : (request.filter.getD .empty).outline.Perm (other.filter.getD .empty).outline
  sort : request.sort = other.sort
  page : request.pagination.isSome = other.pagination.isSome

variable {c : Catalog} [DecidableEq c.Entity] (compiler : FilterCompiler c) (e : c.Entity)
  {request other : GridRequest}

/-- A missing filter compiles as the empty map does. -/
theorem compileFilter_eq (request : GridRequest) :
    request.compileFilter compiler e = compiler.compile e (request.filter.getD .empty) := by
  rw [compileFilter]
  cases request.filter with
  | none =>
    rw [Option.getD_none, FilterCompiler.compile, FilterCompiler.sortedEntries, FilterMap.empty,
      List.filterMap_nil, List.mergeSort_nil]
    rfl
  | some filters => rfl

theorem toSelect_success {table : String} {select : Sql.Select} :
    request.toSelect compiler e table = .ok select ↔
      ∃ filter, request.compileFilter compiler e = .ok filter ∧
        select = request.selection e filter table := by
  constructor
  · intro success
    obtain ⟨filter, compiled, built⟩ := bind_success.1 success
    exact ⟨filter, compiled, (pure_success.1 built).symm⟩
  · rintro ⟨filter, compiled, rfl⟩
    exact toSelect_of_compiled compiled table

/-- The values of a request never reach the text of its statement. Requests that ask the same but
for values, if both compile, become statements of one text in every dialect, with equally many
parameters, and in each place of one type. -/
theorem write_of_alike (alike : request.Alike other) (table : String) {select select' : Sql.Select}
    (success : request.toSelect compiler e table = .ok select)
    (success' : other.toSelect compiler e table = .ok select') (d : Sql.Dialect) :
    (select.write d).1 = (select'.write d).1 ∧
      (select.write d).2.map Sql.Param.typeName = (select'.write d).2.map Sql.Param.typeName := by
  obtain ⟨filter, compiled, rfl⟩ := (toSelect_success compiler e).1 success
  obtain ⟨filter', compiled', rfl⟩ := (toSelect_success compiler e).1 success'
  rw [compileFilter_eq] at compiled compiled'
  have conditions : filter.erased = filter'.erased :=
    FilterCompiler.compile_erased alike.filters compiled compiled'
  have pages : (request.pagination.map fun _ => ((0, 0) : Nat × Nat)) =
      other.pagination.map fun _ => (0, 0) := by
    have page := alike.page
    cases first : request.pagination <;> cases second : other.pagination <;>
      simp [first, second] at page ⊢
  apply Sql.Select.write_of_erase_eq
  rw [CompiledFilter.erased, CompiledFilter.erased] at conditions
  simp only [Sql.Select.erase, selection, Option.map_map, Function.comp_def, conditions, pages,
    alike.sort]

end GridRequest

/-! ## A text that looks like a condition -/

/-- The second page of the employees whose names do not hold a text that, set between quotes, would
read as a condition that always holds. -/
def secondUnquotedEmployee : GridRequest where
  filter := some ⟨[("unknown", none),
    ("name", some { plainName with filter := some "' OR '' = '" })], by decide⟩
  sort := [⟨"superior.rating", .asc⟩, ⟨"unknown", .desc⟩]
  pagination := some ⟨2, 3⟩

theorem firstPlainEmployee_alike : firstPlainEmployee.Alike secondUnquotedEmployee where
  filters := List.Perm.swap ("unknown", none)
    ("name", some (some (FilterOutline.plain (.text .notContains)))) []
  sort := rfl
  page := rfl

theorem secondUnquotedEmployee_compiles :
    ∃ filter, secondUnquotedEmployee.compileFilter staffCompiler () = .ok filter := by
  apply (staffCompiler.compile_succeeds_iff () _).2
  intro path model member
  have only : path = "name" ∧ model = { plainName with filter := some "' OR '' = '" } := by
    simpa using member
  obtain ⟨rfl, rfl⟩ := only
  exact ⟨_, rfl⟩

/-- Such a text stands in a parameter like any other. -/
theorem secondUnquotedEmployee_write :
    ∃ select select', firstPlainEmployee.toSelect staffCompiler () "staff" = .ok select ∧
      secondUnquotedEmployee.toSelect staffCompiler () "staff" = .ok select' ∧
      (select.write .sqlite).1 = (select'.write .sqlite).1 ∧
      (select.write .sqlite).2.map Sql.Param.typeName =
        (select'.write .sqlite).2.map Sql.Param.typeName := by
  obtain ⟨filter, compiled⟩ := firstPlainEmployee_compiles
  obtain ⟨filter', compiled'⟩ := secondUnquotedEmployee_compiles
  have success := GridRequest.toSelect_of_compiled compiled "staff"
  have success' := GridRequest.toSelect_of_compiled compiled' "staff"
  exact ⟨_, _, success, success', GridRequest.write_of_alike staffCompiler ()
    firstPlainEmployee_alike "staff" success success' .sqlite⟩

end RowQuery
