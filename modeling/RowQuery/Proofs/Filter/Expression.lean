import RowQuery.Proofs.Filter.Agreement
import RowQuery.Proofs.Filter.Conjunction

/-!
# Expressions of filters

Whatever is put together from compiled filters selects the same rows in memory and in a database.
The two forms agree for each condition, and joining keeps the agreement, so that it holds for
composite filters, for maps and for every expression over them.
-/
namespace RowQuery
open Outcome
open Sql (Engine Cells)

/-- The conditions of a specification. -/
def FilterSpec.conditions : FilterSpec → List Condition
  | plain condition => [condition]
  | composite _ _ conditions => conditions

namespace FilterCompiler
variable {c : Catalog} [DecidableEq c.Entity] (compiler : FilterCompiler c) {e : c.Entity}
  {db : Engine} {cells : Cells} {row : c.Row e}

/-- A database can read a row for a specification: the column of the property to which the path
leads holds what the property holds in the row, and what the conditions compare there has an
order. -/
def Legible (e : c.Entity) (cells : Cells) (row : c.Row e) (path : String) (spec : FilterSpec) :
    Prop :=
  ∀ p, c.resolve e path compiler.access = .ok p →
    cells p.column = p.get row ∧ ∀ condition ∈ spec.conditions, condition.Comparable p row

/-- A database can read a row for every entry of a map. -/
def LegibleMap (e : c.Entity) (cells : Cells) (row : c.Row e) (filters : FilterMap) : Prop :=
  ∀ path model spec, (path, some model) ∈ filters.entries → FilterSpec.ofModel model = .ok spec →
    compiler.Legible e cells row path spec

theorem compileAll_agrees (lawful : db.Lawful) {p : ResolvedProperty (c.Row e)}
    (mirrored : cells p.column = p.get row) {combinator : Combinator} {first : Condition}
    {rest : List Condition}
    (comparable : ∀ condition ∈ first :: rest, condition.Comparable p row)
    {f : CompiledFilter (c.Row e)}
    (success : compiler.compileAll e p combinator first rest = .ok f) :
    f.AgreesAt db cells row := by
  obtain ⟨start, parts, compiled, others, rfl⟩ := compiler.compileAll_success e |>.1 success
  obtain ⟨head, tail⟩ := List.forall_mem_cons.1 comparable
  apply CompiledFilter.foldl_join_agrees
  · exact Condition.compile_agrees lawful mirrored head compiled
  · intro part belongs
    obtain ⟨condition, member, compiledPart⟩ := (mem_mapM_iff others part).1 belongs
    exact Condition.compile_agrees lawful mirrored (tail condition member) compiledPart

theorem compileResolved_agrees (lawful : db.Lawful) {p : ResolvedProperty (c.Row e)}
    (mirrored : cells p.column = p.get row) {spec : FilterSpec}
    (comparable : ∀ condition ∈ spec.conditions, condition.Comparable p row)
    {f : CompiledFilter (c.Row e)} (success : compiler.compileResolved e p spec = .ok f) :
    f.AgreesAt db cells row := by
  cases spec with
  | plain condition =>
    exact Condition.compile_agrees lawful mirrored (comparable condition List.mem_cons_self) success
  | composite kind combinator conditions =>
    obtain ⟨first, rest, rfl, -, joined⟩ := (compiler.compileResolved_composite_success e).1 success
    exact compiler.compileAll_agrees lawful mirrored comparable joined

theorem compileSpec_agrees (lawful : db.Lawful) {path : String} {spec : FilterSpec}
    (legible : compiler.Legible e cells row path spec) {f : CompiledFilter (c.Row e)}
    (success : compiler.compileSpec e path spec = .ok f) : f.AgreesAt db cells row := by
  obtain ⟨p, resolved, compiled⟩ := bind_success.1 success
  obtain ⟨mirrored, comparable⟩ := legible p resolved
  exact compiler.compileResolved_agrees lawful mirrored comparable compiled

theorem compileProperty_agrees (lawful : db.Lawful) {path : String} {model : FilterModel}
    (legible : ∀ spec, FilterSpec.ofModel model = .ok spec →
      compiler.Legible e cells row path spec)
    {f : CompiledFilter (c.Row e)} (success : compiler.compileProperty e path model = .ok f) :
    f.AgreesAt db cells row := by
  obtain ⟨spec, shaped, compiled⟩ := bind_success.1 success
  exact compiler.compileSpec_agrees lawful (legible spec shaped) compiled

theorem compile_agrees (lawful : db.Lawful) {filters : FilterMap}
    (legible : compiler.LegibleMap e cells row filters) {f : CompiledFilter (c.Row e)}
    (success : compiler.compile e filters = .ok f) : f.AgreesAt db cells row := by
  obtain ⟨parts, compiled, rfl⟩ := (compiler.compile_success e).1 success
  apply CompiledFilter.foldl_join_agrees .all CompiledFilter.always_agrees
  intro part belongs
  obtain ⟨⟨path, model⟩, member, compiledPart⟩ := (mem_mapM_iff compiled part).1 belongs
  have listed := (mem_sortedEntries filters (path, model)).1 member
  exact compiler.compileProperty_agrees lawful
    (fun spec shaped => legible path model spec listed shaped) compiledPart

end FilterCompiler

/-- A filter as it is put together from compiled filters, each by a compiler of its own. -/
inductive FilterExpression (c : Catalog) where
  | always
  | map (compiler : FilterCompiler c) (filters : FilterMap)
  | property (compiler : FilterCompiler c) (path : String) (model : FilterModel)
  | spec (compiler : FilterCompiler c) (path : String) (spec : FilterSpec)
  | join (combinator : Combinator) (left right : FilterExpression c)

namespace FilterExpression
variable {c : Catalog} [DecidableEq c.Entity]

/-- The filter that an expression stands for, if all its parts compile. -/
def build (e : c.Entity) : FilterExpression c → Except FilterError (CompiledFilter (c.Row e))
  | always => .ok .always
  | map compiler filters => compiler.compile e filters
  | property compiler path model => compiler.compileProperty e path model
  | spec compiler path s => compiler.compileSpec e path s
  | join combinator left right => do
    let f ← left.build e
    let g ← right.build e
    return f.join combinator g

/-- A database can read a row for every part of an expression. -/
def Legible (e : c.Entity) (cells : Cells) (row : c.Row e) : FilterExpression c → Prop
  | always => True
  | map compiler filters => compiler.LegibleMap e cells row filters
  | property compiler path model =>
    ∀ spec, FilterSpec.ofModel model = .ok spec → compiler.Legible e cells row path spec
  | spec compiler path s => compiler.Legible e cells row path s
  | join _ left right => left.Legible e cells row ∧ right.Legible e cells row

/-- The two forms of a filter agree: whatever compiled filters it is put together from, it selects a
row exactly when its condition is true for the row's cells, and never when it is false or
unknown. -/
theorem test_iff_condition_holds {db : Engine} (lawful : db.Lawful) {e : c.Entity} {row : c.Row e}
    {cells : Cells} (x : FilterExpression c) (legible : x.Legible e cells row)
    {f : CompiledFilter (c.Row e)} (built : x.build e = .ok f) :
    f.test row = true ↔ f.condition.eval db cells = .holds := by
  change f.AgreesAt db cells row
  induction x generalizing f with
  | always =>
    cases built
    exact CompiledFilter.always_agrees
  | map compiler filters => exact compiler.compile_agrees lawful legible built
  | property compiler path model => exact compiler.compileProperty_agrees lawful legible built
  | spec compiler path s => exact compiler.compileSpec_agrees lawful legible built
  | join combinator left right leftAgrees rightAgrees =>
    obtain ⟨g, builtLeft, success⟩ := bind_success.1 built
    obtain ⟨h, builtRight, joined⟩ := bind_success.1 success
    cases joined
    exact CompiledFilter.join_agrees combinator (leftAgrees legible.1 builtLeft)
      (rightAgrees legible.2 builtRight)

end FilterExpression

/-! ## Employees in a table -/

/-- The cells of an employee and, in the table that is joined for it, of the superior. -/
def Employee.cells (row : Employee) : Cells := fun column =>
  if column = ⟨none, "Name"⟩ then some (.text row.name)
  else if column = ⟨some "boss", "Rating"⟩ then superiorRating.get row
  else none

/-- An employee without a superior. -/
def alice : Employee := ⟨"Alice", none, none⟩

theorem resolve_name : staff.resolve () "name" .nullSafe =
    .ok ⟨"Name", .text, false, fun row => some row.name, ⟨none, "Name"⟩⟩ := rfl

def staffCompiler : FilterCompiler staff := { settings := {} }

/-- Employees whose superior is rated above one half, or whose name holds no percent sign. -/
def aboveHalfOrPlain : FilterExpression staff :=
  .join .any
    (.join .all .always
      (.spec staffCompiler "superior.rating" (.plain (.number ⟨.greaterThan, some "0.5", none⟩))))
    (.spec staffCompiler "name" (.plain (.text ⟨.notContains, some "%"⟩)))

theorem aboveHalfOrPlain_legible :
    aboveHalfOrPlain.Legible () alice.cells alice := by
  refine ⟨⟨trivial, ?_⟩, ?_⟩
  · intro p resolved
    have found : staff.resolve () "superior.rating" .nullSafe = .ok superiorRating := rfl
    cases found.symm.trans resolved
    refine ⟨rfl, fun condition member => ?_⟩
    cases List.mem_singleton.1 member
    change superiorRating.Comparable _ parseNumber [some "0.5", none]
    refine ⟨by decide, rfl, fun raw listed bound parsed => ?_⟩
    have half : (parseNumber "0.5" .float32).toOption = some (⟨false, 0x3f000000⟩ : Binary32) := by
      decide +kernel
    have same : raw = "0.5" := by simpa using listed
    subst same
    change parseNumber "0.5" .float32 = .ok bound at parsed
    rw [parsed] at half
    cases half
    decide +kernel
  · intro p resolved
    cases resolve_name.symm.trans resolved
    refine ⟨rfl, fun condition member => ?_⟩
    cases List.mem_singleton.1 member
    trivial

/-- Without a superior the first condition is unknown, but the second one holds. -/
theorem aboveHalfOrPlain_holds :
    ∃ f, aboveHalfOrPlain.build () = .ok f ∧ f.test alice = true ∧
      f.condition.eval .standard alice.cells = .holds := by
  obtain ⟨f, built, selected⟩ :
      ∃ f, aboveHalfOrPlain.build () = .ok f ∧ f.test alice = true := ⟨_, rfl, rfl⟩
  exact ⟨f, built, selected, (FilterExpression.test_iff_condition_holds Engine.standard_lawful
    aboveHalfOrPlain aboveHalfOrPlain_legible built).1 selected⟩

end RowQuery
