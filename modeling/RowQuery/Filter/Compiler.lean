import RowQuery.Filter.Condition
import RowQuery.Json.Documents
import RowQuery.Settings

/-!
# Compiling filters

A compiler holds the case settings and the access mode with which it reads filters. It compiles the
filter of one property, given as a model or as a specification, and whole maps of filters, which
select the rows that all their entries select.

Entries of a map are taken in the order of their paths, so that neither the result nor the reported
error depends on the order in which they arrive. Paths and shapes of all entries are checked before
any bound is read.
-/
namespace RowQuery

structure FilterCompiler (c : Catalog) where
  settings : CaseSettings c.Entity
  access : AccessMode := .nullSafe

namespace FilterCompiler
variable {c : Catalog} [DecidableEq c.Entity]

/-- One condition on a resolved property. -/
def compileCondition (compiler : FilterCompiler c) (e : c.Entity)
    (p : ResolvedProperty (c.Row e)) (condition : Condition) :
    Except FilterError (CompiledFilter (c.Row e)) :=
  condition.compile p (compiler.settings.ignoresCaseAt e p.name)

/-- Several conditions, joined from the left. -/
def compileAll (compiler : FilterCompiler c) (e : c.Entity) (p : ResolvedProperty (c.Row e))
    (combinator : Combinator) (first : Condition) (rest : List Condition) :
    Except FilterError (CompiledFilter (c.Row e)) := do
  let start ← compiler.compileCondition e p first
  rest.foldlM
    (fun filter condition => do
      return filter.join combinator (← compiler.compileCondition e p condition))
    start

/-- A specification on a resolved property. A composite one, which may have been put together by
hand, has to hold conditions, all of its kind. -/
def compileResolved (compiler : FilterCompiler c) (e : c.Entity)
    (p : ResolvedProperty (c.Row e)) :
    FilterSpec → Except FilterError (CompiledFilter (c.Row e))
  | .plain condition => compiler.compileCondition e p condition
  | .composite _ _ [] => .error (.malformedFilter .noConditions)
  | .composite kind combinator (first :: rest) =>
    match (first :: rest).find? fun condition => condition.kind != kind with
    | some stray => .error (.malformedFilter (.strayCondition stray.kind kind))
    | none => compiler.compileAll e p combinator first rest

/-- The filter that a specification puts on the property at the end of a path. -/
def compileSpec (compiler : FilterCompiler c) (e : c.Entity) (path : String) (spec : FilterSpec) :
    Except FilterError (CompiledFilter (c.Row e)) := do
  let p ← c.resolve e path compiler.access
  compiler.compileResolved e p spec

/-- The filter that a model puts on the property at the end of a path. -/
def compileProperty (compiler : FilterCompiler c) (e : c.Entity) (path : String)
    (model : FilterModel) : Except FilterError (CompiledFilter (c.Row e)) := do
  let spec ← FilterSpec.ofModel model
  compiler.compileSpec e path spec

/-- The entries of a map that hold a filter, in ascending order of their paths. -/
def sortedEntries (filters : FilterMap) : List (String × FilterModel) :=
  (filters.entries.filterMap fun (path, model) => model.map (path, ·)).mergeSort
    fun a b => decide (a.1 ≤ b.1)

/-- The property and the specification of one entry. -/
def prepare (compiler : FilterCompiler c) (e : c.Entity) (entry : String × FilterModel) :
    Except FilterError (ResolvedProperty (c.Row e) × FilterSpec) := do
  let p ← c.resolve e entry.1 compiler.access
  let spec ← FilterSpec.ofModel entry.2
  return (p, spec)

/-- The filter of a whole map. -/
def compile (compiler : FilterCompiler c) (e : c.Entity) (filters : FilterMap) :
    Except FilterError (CompiledFilter (c.Row e)) := do
  let prepared ← (sortedEntries filters).mapM (compiler.prepare e)
  prepared.foldlM
    (fun filter (p, spec) => do return filter.both (← compiler.compileResolved e p spec))
    CompiledFilter.always

/-- The filter of the map that a document holds. -/
def readFilter (compiler : FilterCompiler c) (e : c.Entity) (document : String) :
    Except FilterError (CompiledFilter (c.Row e)) := do
  let filters ← FilterMap.read document
  compiler.compile e filters

end FilterCompiler
end RowQuery
