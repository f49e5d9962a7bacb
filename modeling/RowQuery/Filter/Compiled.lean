import RowQuery.Sql.Clause

/-!
# Compiled filters

A filter in the two forms in which it is used: a test of rows in memory, and the condition that
selects the same rows in a database.
-/
namespace RowQuery

/-- A test of rows. -/
abbrev Predicate (R : Type) := R → Bool

namespace Predicate
variable {R : Type}

def always : Predicate R := fun _ => true
def never : Predicate R := fun _ => false
def both (p q : Predicate R) : Predicate R := fun row => p row && q row
def either (p q : Predicate R) : Predicate R := fun row => p row || q row

end Predicate

structure CompiledFilter (R : Type) where
  test : Predicate R
  condition : Sql.Condition

namespace CompiledFilter
variable {R : Type}

/-- Selects every row. -/
def always : CompiledFilter R := ⟨.always, .always⟩

/-- Selects the rows that both select. -/
def both (f g : CompiledFilter R) : CompiledFilter R :=
  ⟨f.test.both g.test, .pair .all f.condition g.condition⟩

/-- Selects the rows that either selects. -/
def either (f g : CompiledFilter R) : CompiledFilter R :=
  ⟨f.test.either g.test, .pair .any f.condition g.condition⟩

/-- Joins two filters. -/
def join : Combinator → CompiledFilter R → CompiledFilter R → CompiledFilter R
  | .all => both
  | .any => either

/-- The rows that a filter selects, in their order. -/
def select {Item : Type} (f : CompiledFilter R) (view : Item → R) (items : List Item) :
    List Item :=
  items.filter fun item => f.test (view item)

end CompiledFilter
end RowQuery
