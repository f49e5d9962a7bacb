import RowQuery.Filter.Model
import RowQuery.Schema.Path
import RowQuery.Sql.Statement

/-!
# Sorting

A sorter orders rows by a list of keys, of which a later one decides only between rows that the
earlier ones leave equal. Nulls come first in ascending and last in descending order. Rows that all
keys leave equal stay in the order in which they came. A sort model whose path leads nowhere is
passed over.
-/
namespace RowQuery

def SortOrder.direction : SortOrder → Sql.Direction
  | asc => .asc
  | desc => .desc

/-- A comparison in the given order. -/
def SortOrder.apply : SortOrder → Ordering → Ordering
  | asc, o => o
  | desc, o => o.swap

structure SortKey (R : Type) where
  property : ResolvedProperty R
  order : SortOrder

structure Sorter (R : Type) where
  keys : List (SortKey R)

namespace SortKey
variable {R : Type}

/-- The order of two rows under one key. -/
def compare (k : SortKey R) (a b : R) : Ordering :=
  k.order.apply (Cell.sortCompare (k.property.get a) (k.property.get b))

end SortKey

namespace Sorter
variable {R : Type}

/-- The sorter of a list of sort models. -/
def compile (c : Catalog) (e : c.Entity) (sorts : List SortModel) : Sorter (c.Row e) :=
  ⟨sorts.filterMap fun sort =>
    match c.resolve e sort.property .nullSafe with
    | .ok p => some ⟨p, sort.order⟩
    | .error _ => none⟩

def isEmpty (s : Sorter R) : Bool := s.keys.isEmpty

/-- The names of the properties by which rows are ordered. -/
def names (s : Sorter R) : List String := s.keys.map (·.property.name)

/-- The order of two rows under the first key that tells them apart. -/
def compare (s : Sorter R) (a b : R) : Ordering :=
  s.keys.foldr (fun k rest => (k.compare a b).then rest) .eq

/-- The items in the order of their rows. -/
def sort {Item : Type} (s : Sorter R) (view : Item → R) (items : List Item) : List Item :=
  items.mergeSort fun a b => s.compare (view a) (view b) != .gt

/-- The columns by which a database orders rows. -/
def orderBy (s : Sorter R) : List (Sql.Column × Sql.Direction) :=
  s.keys.map fun k => (k.property.column, k.order.direction)

end Sorter
end RowQuery
