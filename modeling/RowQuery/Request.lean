import RowQuery.Filter.Compiler
import RowQuery.Sorting

/-!
# Requests

A request filters, then sorts, then cuts out a page; each stage may be missing. It runs on a list of
rows, or becomes the statement that asks a database for the same rows.

A page is a window of rows, which count from one. It starts at the start row, or at the first row if
the start row is zero, and holds as many rows as the end row lies behind the start row. So the end
row is left out, except from a window whose start row is zero: it reaches through the end row. A
window that ends before it starts is empty.
-/
namespace RowQuery

namespace Pagination

/-- The number of rows before the window. -/
def offset (p : Pagination) : Nat := p.startRow.toNat - 1

/-- The greatest number of rows in the window. -/
def limit (p : Pagination) : Nat := p.endRow.toNat - p.startRow.toNat

/-- The items in the window. -/
def window {Item : Type} (p : Pagination) (items : List Item) : List Item :=
  (items.drop p.offset).take p.limit

end Pagination

namespace GridRequest
variable {c : Catalog} [DecidableEq c.Entity]

/-- The filter of a request; without one every row is selected. -/
def compileFilter (request : GridRequest) (compiler : FilterCompiler c) (e : c.Entity) :
    Except FilterError (CompiledFilter (c.Row e)) :=
  match request.filter with
  | some filters => compiler.compile e filters
  | none => .ok .always

/-- The items that a request leaves once they are filtered and sorted, where `view` is the row of
an item. -/
def sorted {Item : Type} (request : GridRequest) (e : c.Entity)
    (filter : CompiledFilter (c.Row e)) (view : Item → c.Row e) (items : List Item) : List Item :=
  (Sorter.compile c e request.sort).sort view (filter.select view items)

/-- The last stage: a page of the rows, or all of them. -/
def cut {Item : Type} (request : GridRequest) (rows : List Item) : List Item :=
  match request.pagination with
  | some page => page.window rows
  | none => rows

/-- The items that a request asks for. -/
def apply {Item : Type} (request : GridRequest) (compiler : FilterCompiler c) (e : c.Entity)
    (view : Item → c.Row e) (items : List Item) : Except FilterError (List Item) := do
  let filter ← request.compileFilter compiler e
  return request.cut (request.sorted e filter view items)

/-- The statement of a request whose filter is compiled. -/
def selection (request : GridRequest) (e : c.Entity) (filter : CompiledFilter (c.Row e))
    (table : String) : Sql.Select where
  table
  condition := filter.condition
  order := (Sorter.compile c e request.sort).orderBy
  window := request.pagination.map fun page => (page.limit, page.offset)

/-- The statement that asks a table for the rows of a request. -/
def toSelect (request : GridRequest) (compiler : FilterCompiler c) (e : c.Entity)
    (table : String) : Except FilterError Sql.Select := do
  let filter ← request.compileFilter compiler e
  return request.selection e filter table

end GridRequest
end RowQuery
