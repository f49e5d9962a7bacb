import RowQuery.Request

/-!
# Sessions

A run of steps over one list of rows, with settings that are installed for all that follows. What is
kept under a name stays as it is: a compiler holds the settings that were installed when it was
made, and a filter holds the test and the condition that it was compiled to. Only a filter or a
request that is read without a named compiler looks at the settings installed at that moment.
Installing settings replaces the earlier ones as a whole. A step that fails changes nothing.
-/
namespace RowQuery

structure Session (c : Catalog) (e : c.Entity) where
  settings : CaseSettings c.Entity := {}
  compilers : Assoc String (FilterCompiler c) := []
  filters : Assoc String (CompiledFilter (c.Row e)) := []

/-- The rows that a session works on, and the table that stands for them in a database. -/
structure SessionData {c : Catalog} (e : c.Entity) (Item : Type) where
  view : Item → c.Row e
  items : List Item
  table : String

inductive SessionStep (Entity : Type) where
  /-- Installs the settings of the given blocks. -/
  | install (blocks : List (Entity × List CaseCall))
  /-- Asks for a flag of the installed settings. -/
  | flag (entity : Entity) (property : Option String)
  /-- Keeps a compiler with the installed settings. -/
  | compiler (name : String) (access : AccessMode)
  /-- Reads and keeps a filter, with a kept compiler or with the installed settings. -/
  | filter (name document : String) (compiler : Option String)
  /-- Asks for the rows of a kept filter. -/
  | rows (name : String)
  /-- Asks for the statement of a kept filter. -/
  | sql (name : String) (dialect : Sql.Dialect)
  /-- Joins two kept filters and keeps the result. -/
  | join (combinator : Combinator) (name left right : String)
  /-- Runs a request with the installed settings. -/
  | request (document : String)
  /-- Asks for the statement of a request with the installed settings. -/
  | requestSql (document : String) (dialect : Sql.Dialect)

inductive SessionAnswer (Item : Type) where
  | installed
  | flag (b : Bool)
  | access (mode : AccessMode)
  | rows (items : List Item)
  | sql (text : String) (params : List Sql.Param)

inductive SessionError where
  | filter (e : FilterError)
  | noSuchFilter
  | noSuchCompiler
  deriving DecidableEq, Repr

namespace Session
variable {c : Catalog} [DecidableEq c.Entity] {e : c.Entity} {Item : Type}

/-- A compiler with the installed settings. -/
def newCompiler (s : Session c e) (access : AccessMode := .nullSafe) : FilterCompiler c :=
  ⟨s.settings, access⟩

def findFilter (s : Session c e) (name : String) :
    Except SessionError (CompiledFilter (c.Row e)) :=
  match s.filters.get? name with
  | some f => .ok f
  | none => .error .noSuchFilter

/-- The compiler of a step: a kept one, or else one with the installed settings. -/
def findCompiler (s : Session c e) : Option String → Except SessionError (FilterCompiler c)
  | none => .ok s.newCompiler
  | some name =>
    match s.compilers.get? name with
    | some compiler => .ok compiler
    | none => .error .noSuchCompiler

/-- The session with a filter kept, and the rows of that filter. -/
def keep (s : Session c e) (data : SessionData e Item) (name : String)
    (f : CompiledFilter (c.Row e)) : Session c e × SessionAnswer Item :=
  ({ s with filters := s.filters.put name f }, .rows (f.select data.view data.items))

/-- The statement of a filter in a dialect. -/
def statement (data : SessionData e Item) (dialect : Sql.Dialect) (f : CompiledFilter (c.Row e)) :
    SessionAnswer Item :=
  let (text, params) :=
    Sql.Select.write dialect { table := data.table, condition := f.condition }
  .sql text params

/-- One step: the session after it and its answer. -/
def step (s : Session c e) (data : SessionData e Item) :
    SessionStep c.Entity → Except SessionError (Session c e × SessionAnswer Item)
  | .install blocks => .ok ({ s with settings := .ofBlocks blocks }, .installed)
  | .flag entity property => .ok (s, .flag (s.settings.flag entity property))
  | .compiler name access =>
    .ok ({ s with compilers := s.compilers.put name (s.newCompiler access) }, .access access)
  | .filter name document compilerName => do
    let compiler ← s.findCompiler compilerName
    let f ← (compiler.readFilter e document).mapError .filter
    return s.keep data name f
  | .rows name => do
    let f ← s.findFilter name
    return (s, .rows (f.select data.view data.items))
  | .sql name dialect => do
    let f ← s.findFilter name
    return (s, statement data dialect f)
  | .join combinator name left right => do
    let l ← s.findFilter left
    let r ← s.findFilter right
    return s.keep data name (l.join combinator r)
  | .request document => do
    let request ← (GridRequest.read document).mapError .filter
    let items ← (request.apply s.newCompiler e data.view data.items).mapError .filter
    return (s, .rows items)
  | .requestSql document dialect => do
    let request ← (GridRequest.read document).mapError .filter
    let select ← (request.toSelect s.newCompiler e data.table).mapError .filter
    let (text, params) := select.write dialect
    return (s, .sql text params)

/-- A step whose failure changes nothing. -/
def stepOrStay (s : Session c e) (data : SessionData e Item) (st : SessionStep c.Entity) :
    Session c e × Except SessionError (SessionAnswer Item) :=
  match s.step data st with
  | .ok (s, answer) => (s, .ok answer)
  | .error failure => (s, .error failure)

/-- The answers of a run of steps. -/
def run (s : Session c e) (data : SessionData e Item) :
    List (SessionStep c.Entity) → List (Except SessionError (SessionAnswer Item))
  | [] => []
  | st :: rest =>
    let (s, answer) := s.stepOrStay data st
    answer :: run s data rest

end Session
end RowQuery
