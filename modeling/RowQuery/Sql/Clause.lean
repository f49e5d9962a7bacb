import RowQuery.Value
import RowQuery.Filter.Kind

/-!
# SQL conditions

The language of conditions on columns: tests joined by AND and OR. Bounds are parameters, so no text
of a filter is part of a condition's text. A `Condition` is the tree in which conditions are put
together, with junctions of any number of parts; a `Clause` is the same with binary connectives, as
it is written out.
-/
namespace RowQuery.Sql

/-- A column, of the queried table or of one that is joined under the name of a link. -/
structure Column where
  table : Option String
  name : String
  deriving DecidableEq, Repr

/-- A bound value. A duration is bound as whole milliseconds. -/
inductive Param where
  | bool (b : Bool)
  | int (n : Int)
  | nat (n : Nat)
  | float (x : Binary64)
  | decimal (x : Decimal)
  | text (s : String)
  | offsetTimestamp (t : OffsetTimestamp)
  | localTimestamp (t : LocalTimestamp)
  | date (d : Date)
  | time (c : Clock)
  | uuid (u : Uuid)
  deriving DecidableEq, Repr

namespace Param

/-- The parameter that binds a value. -/
def ofValue : Value → Param
  | .bool b => bool b
  | .int n => int n
  | .nat n => nat n
  | .float x => float x
  | .decimal x => decimal x
  | .text s => text s
  | .offsetTimestamp t => offsetTimestamp t
  | .localTimestamp t => localTimestamp t
  | .date d => date d
  | .time c => time c
  | .duration d => int d.millis
  | .uuid u => uuid u

/-- The value that a parameter binds. -/
def toValue : Param → Value
  | bool b => .bool b
  | int n => .int n
  | nat n => .nat n
  | float x => .float x
  | decimal x => .decimal x
  | text s => .text s
  | offsetTimestamp t => .offsetTimestamp t
  | localTimestamp t => .localTimestamp t
  | date d => .date d
  | time c => .time c
  | uuid u => .uuid u

/-- The database type of a parameter. -/
def typeName : Param → String
  | bool _ => "Bool"
  | int _ => "BigInt"
  | nat _ => "BigUnsigned"
  | float _ => "Double"
  | decimal _ => "Decimal"
  | text _ => "String"
  | offsetTimestamp _ => "DateTimeOffset"
  | localTimestamp _ => "DateTime"
  | date _ => "Date"
  | time _ => "Time"
  | uuid _ => "Uuid"

end Param

/-- What a test looks at: a column, its text, or its text in capital letters. -/
inductive Operand where
  | column (c : Column)
  | asText (o : Operand)
  | upper (o : Operand)
  deriving DecidableEq, Repr

inductive Test where
  | compare (o : Operand) (op : Comparison) (bound : Param)
  /-- The pattern's special characters are `%`, `_` and the escape character. -/
  | like (o : Operand) (pattern : String)
  | notLike (o : Operand) (pattern : String)
  | isNull (c : Column)
  | isNotNull (c : Column)
  | isIn (o : Operand) (texts : List String)
  /-- Fails for every row. -/
  | never
  deriving DecidableEq, Repr

inductive Clause where
  | test (t : Test)
  | truth (b : Bool)
  | join (c : Combinator) (left right : Clause)
  deriving DecidableEq, Repr

/-- Tests and their junctions. -/
inductive Condition where
  | clause (c : Clause)
  | junction (c : Combinator) (parts : List Condition)

namespace Condition

/-- A junction of one part is that part. -/
def part : Condition → Condition
  | junction _ [c] => c
  | c => c

/-- The junction of two conditions. -/
def pair (c : Combinator) (left right : Condition) : Condition :=
  junction c [left.part, right.part]

/-- The junction that holds for every row. -/
def always : Condition := junction .all []

/-- A junction that holds exactly when the clause does. -/
def ofClause (c : Clause) : Condition := junction .all [clause c]

/-- The number of parts. -/
def length : Condition → Nat
  | clause _ => 1
  | junction _ parts => parts.length

end Condition

/-- Clauses joined from the left. The empty conjunction is true and the empty disjunction false. -/
def Clause.joinAll (c : Combinator) : List Clause → Clause
  | [] => .truth (c == .all)
  | first :: rest => rest.foldl (.join c) first

mutual

/-- The condition with binary connectives. -/
def Condition.toClause : Condition → Clause
  | .clause c => c
  | .junction c parts => Clause.joinAll c (Condition.toClauses parts)

def Condition.toClauses : List Condition → List Clause
  | [] => []
  | c :: cs => c.toClause :: Condition.toClauses cs

end

/-- The character that takes the special meaning from the one after it in a pattern. It needs no
quoting in a literal of any dialect. -/
def likeEscape : Char := '!'

/-- A pattern that matches the characters themselves. -/
def likeLiteral : List Char → List Char
  | [] => []
  | c :: cs =>
    if c = '%' ∨ c = '_' ∨ c = likeEscape then likeEscape :: c :: likeLiteral cs
    else c :: likeLiteral cs

end RowQuery.Sql
