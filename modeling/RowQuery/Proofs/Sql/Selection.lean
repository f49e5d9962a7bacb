import RowQuery.Sql.Statement
import RowQuery.Proofs.Schema.Typing
import RowQuery.Proofs.Sorting.Nulls
import RowQuery.Proofs.Sql.Truth

/-!
# Rows of a selection

What a database returns for a selection: the rows for which the condition is true, in the order of
the sort terms, with rows that tie in the order in which the table holds them, and of these the
window.
-/
namespace RowQuery.Sql

/-- The order of two cells, with nulls before or after all values. -/
def Engine.compareCells (db : Engine) : Cell → Cell → Ordering
  | none, none => .eq
  | none, some _ => if db.nullsSmallest then .lt else .gt
  | some _, none => if db.nullsSmallest then .gt else .lt
  | some v, some w => db.order v w

def Direction.apply : Direction → Ordering → Ordering
  | .asc, o => o
  | .desc, o => o.swap

/-- The order of two rows under the first sort term that tells them apart. -/
def Engine.compareRows (db : Engine) (terms : List (Column × Direction)) (a b : Cells) : Ordering :=
  terms.foldr
    (fun term rest => (term.2.apply (db.compareCells (a term.1) (b term.1))).then rest) .eq

namespace Select
variable {Item : Type}

/-- The rows for which the condition, as it is written out, is true. -/
def matching (s : Select) (db : Engine) (cells : Item → Cells) (items : List Item) : List Item :=
  items.filter fun item => s.condition.toClause.eval db (cells item) = .holds

/-- The rows that are left after passing over the first ones, up to the limit. -/
def cut (s : Select) (items : List Item) : List Item :=
  match s.window with
  | some (limit, offset) => (items.drop offset).take limit
  | none => items

/-- What a database may return for a table that holds the items. -/
def Returns (s : Select) (db : Engine) (cells : Item → Cells) (items result : List Item) : Prop :=
  ∃ sorted, StablySorted (fun a b => db.compareRows s.order (cells a) (cells b))
      (s.matching db cells items) sorted ∧
    result = s.cut sorted

end Select
end RowQuery.Sql

namespace RowQuery

/-- Values that databases order as sorting does. They store lengths of time in another unit, have no
place for what is not a number, and take the negative zero for zero. -/
structure Value.Sortable (v : Value) : Prop where
  timeless : v.kind ≠ .duration
  number : v.isNaN = false
  positive : v ≠ .float ⟨true, 0⟩

/-- A database has nulls before all values and orders the values of one kind as sorting does. -/
structure Sql.Engine.OrdersLawfully (db : Sql.Engine) : Prop where
  nullsSmallest : db.nullsSmallest = true
  order_eq : ∀ v w : Value, v.kind = w.kind → v.Sortable → w.Sortable →
    db.order v w = v.sortCompare w

theorem Sql.Engine.standard_ordersLawfully : standard.OrdersLawfully where
  nullsSmallest := rfl
  order_eq _ _ _ _ _ := rfl

variable {R : Type} {db : Sql.Engine} {a b : R} {cellsA cellsB : Sql.Cells}

/-- A database can read a row for a sort key: the column holds what the property holds in the row,
which has a place in the database's order. -/
structure SortKey.Legible (k : SortKey R) (cells : Sql.Cells) (row : R) : Prop where
  mirrored : cells k.property.column = k.property.get row
  sortable : ∀ v, k.property.get row = some v → v.Sortable

theorem SortOrder.direction_apply (order : SortOrder) (o : Ordering) :
    order.direction.apply o = order.apply o := by
  cases order <;> rfl

/-- A database orders the values of one kind as sorting does. -/
def Sql.Engine.OrdersValues (db : Sql.Engine) : Prop :=
  ∀ v w : Value, v.kind = w.kind → v.Sortable → w.Sortable → db.order v w = v.sortCompare w

theorem SortKey.compareCells_eq (orders : db.OrdersValues) {k : SortKey R}
    (left : k.Legible cellsA a) (right : k.Legible cellsB b) :
    db.compareCells (cellsA k.property.column) (cellsB k.property.column) =
      Cell.compareNulls db.nullsSmallest (k.property.get a) (k.property.get b) := by
  rw [left.mirrored, right.mirrored]
  cases readA : k.property.get a with
  | none => cases k.property.get b <;> rfl
  | some v =>
    cases readB : k.property.get b with
    | none => rfl
    | some w =>
      have kinds : v.kind = w.kind := by
        rw [k.property.kind_of_get readA, k.property.kind_of_get readB]
      exact orders v w kinds (left.sortable v readA) (right.sortable w readB)

/-- The sort terms of a sorter order rows as the sorter does with nulls at the database's end. -/
theorem Sorter.compareRows_eq (orders : db.OrdersValues) (s : Sorter R)
    (left : ∀ k ∈ s.keys, k.Legible cellsA a) (right : ∀ k ∈ s.keys, k.Legible cellsB b) :
    db.compareRows s.orderBy cellsA cellsB = s.compareNulls db.nullsSmallest a b := by
  unfold orderBy compareNulls Sql.Engine.compareRows
  rw [List.foldr_map]
  generalize s.keys = keys at left right
  induction keys with
  | nil => rfl
  | cons k keys ih =>
    obtain ⟨headA, tailA⟩ := List.forall_mem_cons.1 left
    obtain ⟨headB, tailB⟩ := List.forall_mem_cons.1 right
    rw [List.foldr_cons, List.foldr_cons, ih tailA tailB, SortOrder.direction_apply,
      SortKey.compareCells_eq orders headA headB, SortKey.compareNulls]

/-- The sort terms of a sorter order rows as the sorter does. -/
theorem Sorter.compareRows_orderBy (lawful : db.OrdersLawfully) (s : Sorter R)
    (left : ∀ k ∈ s.keys, k.Legible cellsA a) (right : ∀ k ∈ s.keys, k.Legible cellsB b) :
    db.compareRows s.orderBy cellsA cellsB = s.compare a b := by
  rw [compareRows_eq lawful.order_eq s left right, lawful.nullsSmallest, compareNulls_true]

end RowQuery
