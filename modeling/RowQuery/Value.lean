import RowQuery.ValueType
import RowQuery.Number.FloatText
import RowQuery.Calendar.Written

/-!
# Values

A value as filters and sorters see it: integers of all widths of one signedness have widened to one
kind, and so have both floating-point formats. Only values of one kind compare. A property that may
be absent is read as an optional value, where `none` is null.

There are six ways of comparing what a property holds with a bound. Where there is no order, because
the cell is null or a side is not a number, every comparison fails but inequality, which holds.
-/
namespace RowQuery

inductive Value where
  | bool (b : Bool)
  | int (n : Int)
  | nat (n : Nat)
  | float (x : Binary64)
  | decimal (x : Decimal)
  | text (s : String)
  | offsetTimestamp (t : OffsetTimestamp)
  | localTimestamp (t : LocalTimestamp)
  | date (d : Date)
  | time (c : Clock)
  | duration (d : Duration)
  | uuid (u : Uuid)
  deriving DecidableEq, Repr

namespace Value

/-- The value that a property of a given type holds. -/
def of : (τ : ValueType) → τ.Carrier → Value
  | .bool, b => bool b
  | .int8, n => int n.toInt
  | .int16, n => int n.toInt
  | .int32, n => int n.toInt
  | .int64, n => int n.toInt
  | .nat8, n => nat n.toNat
  | .nat16, n => nat n.toNat
  | .nat32, n => nat n.toNat
  | .nat64, n => nat n.toNat
  | .float32, x => float (Binary32.widen x)
  | .float64, x => float x
  | .decimal, x => decimal x
  | .text, s => text s
  | .uuid, u => uuid u
  | .offsetTimestamp, t => offsetTimestamp t
  | .localTimestamp, t => localTimestamp t
  | .date, d => date d
  | .time, c => time c
  | .duration, d => duration d

/-- The text of a text value. -/
def text? : Value → Option String
  | text s => some s
  | _ => none

/-- The order of two values of one kind. Timestamps with offsets compare as instants and decimals as
numbers; values of different kinds, and what is not a number, do not compare. -/
def compare? : Value → Value → Option Ordering
  | bool a, bool b => some (compare a b)
  | int a, int b => some (compare a b)
  | nat a, nat b => some (compare a b)
  | float a, float b => a.compare? b
  | decimal a, decimal b => some (compare a.position b.position)
  | text a, text b => some (compareOfLessAndEq a b)
  | offsetTimestamp a, offsetTimestamp b => some (compare a.position b.position)
  | localTimestamp a, localTimestamp b => some (compare a.position b.position)
  | date a, date b => some (compare a.position b.position)
  | time a, time b => some (compare a.position b.position)
  | duration a, duration b => some (compare a.nanos b.nanos)
  | uuid a, uuid b => some (compare a.value.val b.value.val)
  | _, _ => none

/-- Whether two values compare as equal. -/
def equal (a b : Value) : Bool := a.compare? b == some .eq

/-- The place of a value's kind in the order of all values; null comes before every kind. -/
def rank : Value → Nat
  | bool _ => 1
  | int _ => 2
  | nat _ => 3
  | float _ => 4
  | decimal _ => 5
  | text _ => 6
  | offsetTimestamp _ => 7
  | localTimestamp _ => 8
  | date _ => 9
  | time _ => 10
  | duration _ => 11
  | uuid _ => 12

/-- The order in which values are sorted. It tells apart all patterns of floating-point numbers, so
that it is an order for them too, and puts values of different kinds in the order of their kinds. -/
def sortCompare : Value → Value → Ordering
  | float a, float b => compare a.position b.position
  | a, b => (a.compare? b).getD (compare a.rank b.rank)

/-- The text of a value. -/
def writeChars : Value → List Char
  | bool b => (if b then "true" else "false").toList
  | int n => Text.signedNumeral n
  | nat n => Text.numeral n
  | float x => FloatText.write x
  | decimal x => x.write
  | text s => s.toList
  | offsetTimestamp t => t.write
  | localTimestamp t => t.write
  | date d => d.write
  | time c => c.write
  | duration d => d.write
  | uuid u => u.write

/-- The text of a value: what sets and text filters match on properties of other types. -/
def write (v : Value) : String := String.ofList v.writeChars

end Value

/-- What a property of one row holds: a value, or null. -/
abbrev Cell := Option Value

namespace Cell

/-- The order of two cells that hold values. -/
def compare? : Cell → Cell → Option Ordering
  | some a, some b => a.compare? b
  | _, _ => none

/-- Whether two cells are both null or hold equal values. -/
def equal : Cell → Cell → Bool
  | none, none => true
  | some a, some b => a.equal b
  | _, _ => false

/-- The order in which cells are sorted: nulls first. -/
def sortCompare : Cell → Cell → Ordering
  | none, none => .eq
  | none, some _ => .lt
  | some _, none => .gt
  | some a, some b => a.sortCompare b

/-- The text of a cell that holds a value. -/
def text? (c : Cell) : Option String := c.map Value.write

end Cell

/-! ## Comparisons with a bound -/

inductive Comparison where
  | eq | ne | lt | le | gt | ge
  deriving DecidableEq, Repr

namespace Comparison

/-- Whether the comparison accepts the order of a cell and a bound. -/
def accepts : Comparison → Option Ordering → Bool
  | eq, o => o == some .eq
  | ne, o => o != some .eq
  | lt, o => o == some .lt
  | le, o => o == some .lt || o == some .eq
  | gt, o => o == some .gt
  | ge, o => o == some .gt || o == some .eq

/-- Whether a cell compares with a bound in the given way. -/
def holds (c : Comparison) (cell : Cell) (bound : Value) : Bool :=
  c.accepts (cell.compare? (some bound))

end Comparison
end RowQuery
