import RowQuery.Request
import RowQuery.Proofs.Filter.Expression
import RowQuery.Proofs.Sql.Selection

/-!
# Agreement of the two ways to run a request

A request picks the same rows, in the same order, from a list in memory and from a table: the
filters agree row by row, the sort terms order rows as the sorter does, a stable order leaves no
choice, and both cut out the same window.
-/
namespace RowQuery
open Outcome
open Sql (Engine Cells)

namespace GridRequest
variable {c : Catalog} [DecidableEq c.Entity] {Item : Type}

/-- A database can read a row for all that a request asks for. -/
structure Legible (request : GridRequest) (compiler : FilterCompiler c) (e : c.Entity)
    (cells : Cells) (row : c.Row e) : Prop where
  filters : ∀ filters, request.filter = some filters → compiler.LegibleMap e cells row filters
  keys : ∀ k ∈ (Sorter.compile c e request.sort).keys, k.Legible cells row

variable {request : GridRequest} {compiler : FilterCompiler c} {e : c.Entity}
  {filter : CompiledFilter (c.Row e)} {db : Engine} {row : c.Row e}

theorem compileFilter_agrees (lawful : db.Lawful) {cells : Cells}
    (legible : request.Legible compiler e cells row)
    (compiled : request.compileFilter compiler e = .ok filter) :
    filter.AgreesAt db cells row := by
  cases asked : request.filter with
  | none =>
    simp only [compileFilter, asked] at compiled
    cases compiled
    exact CompiledFilter.always_agrees
  | some filters =>
    simp only [compileFilter, asked] at compiled
    exact compiler.compile_agrees lawful (legible.filters filters asked) compiled

variable {cells : Item → Cells} {view : Item → c.Row e} {items : List Item}

theorem matching_selection (lawful : db.Lawful)
    (legible : ∀ item ∈ items, request.Legible compiler e (cells item) (view item))
    (compiled : request.compileFilter compiler e = .ok filter) (table : String) :
    (request.selection e filter table).matching db cells items = filter.select view items := by
  apply List.filter_congr
  intro item member
  have agrees := compileFilter_agrees lawful (legible item member) compiled
  rw [Bool.eq_iff_iff, decide_eq_true_iff, Sql.Condition.eval_toClause]
  exact agrees.symm

omit [DecidableEq c.Entity] in
/-- A statement cuts out the same window as its request. -/
theorem cut_selection (request : GridRequest) (filter : CompiledFilter (c.Row e)) (table : String)
    (rows : List Item) : (request.selection e filter table).cut rows = request.cut rows := by
  rw [selection, Sql.Select.cut, cut]
  cases request.pagination <;> rfl

theorem returns_iff (lawful : db.Lawful) (orders : db.OrdersLawfully)
    (legible : ∀ item ∈ items, request.Legible compiler e (cells item) (view item))
    (compiled : request.compileFilter compiler e = .ok filter) (table : String)
    (result : List Item) :
    (request.selection e filter table).Returns db cells items result ↔
      result = request.cut (request.sorted e filter view items) := by
  have selected := matching_selection lawful legible compiled table
  have same : ∀ a ∈ filter.select view items, ∀ b ∈ filter.select view items,
      db.compareRows (request.selection e filter table).order (cells a) (cells b) =
        (Sorter.compile c e request.sort).compare (view a) (view b) := by
    intro a first b second
    exact Sorter.compareRows_orderBy orders _
      (legible a (List.mem_filter.1 first).1).keys (legible b (List.mem_filter.1 second).1).keys
  have stably := (Sorter.compile c e request.sort).sort_stablySorted view (filter.select view items)
  unfold Sql.Select.Returns
  simp only [selected, cut_selection]
  constructor
  · intro returned
    obtain ⟨arranged, found, rfl⟩ := returned
    have := transCmp_on (Sorter.compile c e request.sort).compare view
    rw [(found.congr same).eq stably, sorted]
  · rintro rfl
    refine ⟨_, stably.congr fun a first b second => (same a first b second).symm, rfl⟩

theorem apply_of_compiled (compiled : request.compileFilter compiler e = .ok filter)
    (view : Item → c.Row e) (items : List Item) :
    request.apply compiler e view items =
      .ok (request.cut (request.sorted e filter view items)) := by
  rw [apply, compiled]
  rfl

theorem toSelect_of_compiled (compiled : request.compileFilter compiler e = .ok filter)
    (table : String) :
    request.toSelect compiler e table = .ok (request.selection e filter table) := by
  rw [toSelect, compiled]
  rfl

variable (request compiler e)

/-- A request selects the same rows in the same order in memory and in a database. If its filter
compiles, both ways succeed, and what the database returns for the statement is the list in memory
and nothing else; if not, both fail with the error of the filter. -/
theorem apply_agrees_with_select (table : String) (view : Item → c.Row e) (items : List Item) :
    (∀ error, request.compileFilter compiler e = .error error →
      request.apply compiler e view items = .error error ∧
        request.toSelect compiler e table = .error error) ∧
    ∀ filter, request.compileFilter compiler e = .ok filter →
      ∃ out select, request.apply compiler e view items = .ok out ∧
        request.toSelect compiler e table = .ok select ∧
        ∀ (db : Engine) (cells : Item → Cells), db.Lawful → db.OrdersLawfully →
          (∀ item ∈ items, request.Legible compiler e (cells item) (view item)) →
          ∀ result, select.Returns db cells items result ↔ result = out := by
  constructor
  · intro error failed
    rw [apply, toSelect, failed]
    exact ⟨rfl, rfl⟩
  · intro filter compiled
    refine ⟨_, _, apply_of_compiled compiled view items,
      toSelect_of_compiled compiled table, ?_⟩
    intro db cells lawful orders legible result
    exact returns_iff lawful orders legible compiled table result

end GridRequest

/-! ## A page of employees -/

/-- An employee whose superior has a rating. -/
def bob : Employee := ⟨"Bob", none, some ⟨"Alice", some default, none⟩⟩

def plainName : FilterModel :=
  { filterType := some "text", operator := some "notContains", filter := some "%" }

/-- The first employee by the superior's rating, among those whose names hold no percent sign. -/
def firstPlainEmployee : GridRequest where
  filter := some ⟨[("name", some plainName), ("unknown", none)], by decide⟩
  sort := [⟨"superior.rating", .asc⟩, ⟨"unknown", .desc⟩]
  pagination := some ⟨1, 2⟩

theorem firstPlainEmployee_legible {row : Employee} (listed : row ∈ [bob, alice]) :
    firstPlainEmployee.Legible staffCompiler () row.cells row := by
  constructor
  · intro filters asked path model spec member shaped p resolved
    cases Option.some.inj asked
    have only : path = "name" ∧ model = plainName := by simpa using member
    obtain ⟨rfl, rfl⟩ := only
    have plain : FilterSpec.ofModel plainName = .ok (.plain (.text ⟨.notContains, some "%"⟩)) := rfl
    cases plain.symm.trans shaped
    cases resolve_name.symm.trans resolved
    refine ⟨rfl, fun condition asks => ?_⟩
    cases List.mem_singleton.1 asks
    trivial
  · intro k member
    have keys : (Sorter.compile staff () firstPlainEmployee.sort).keys = [⟨superiorRating, .asc⟩] :=
      rfl
    rw [keys] at member
    cases List.mem_singleton.1 member
    refine ⟨rfl, fun v read => ?_⟩
    have rated : v = .float ⟨false, 0⟩ := by
      rcases List.mem_cons.1 listed with rfl | listed
      · have zero : superiorRating.get bob = some (.float ⟨false, 0⟩) := by decide +kernel
        exact Option.some.inj (read.symm.trans zero)
      · cases List.mem_singleton.1 listed
        cases read
    subst rated
    exact ⟨by decide, by decide +kernel, by decide⟩

theorem firstPlainEmployee_compiles :
    ∃ filter, firstPlainEmployee.compileFilter staffCompiler () = .ok filter := by
  apply (staffCompiler.compile_succeeds_iff () _).2
  intro path model member
  have only : path = "name" ∧ model = plainName := by simpa using member
  obtain ⟨rfl, rfl⟩ := only
  exact ⟨_, rfl⟩

/-- A page of the staff, asked for both ways: the statement may return what the list yields. -/
theorem firstPlainEmployee_agrees :
    ∃ out select, firstPlainEmployee.apply staffCompiler () id [bob, alice] = .ok out ∧
      firstPlainEmployee.toSelect staffCompiler () "staff" = .ok select ∧
      select.Returns .standard Employee.cells [bob, alice] out := by
  obtain ⟨filter, compiled⟩ := firstPlainEmployee_compiles
  have both := GridRequest.apply_agrees_with_select firstPlainEmployee staffCompiler () "staff" id
    [bob, alice]
  obtain ⟨out, select, applied, selected, same⟩ := both.2 filter compiled
  have returned := same .standard Employee.cells Engine.standard_lawful
    Engine.standard_ordersLawfully (fun row listed => firstPlainEmployee_legible listed) out
  exact ⟨out, select, applied, selected, returned.2 rfl⟩

end RowQuery
