import RowQuery.Filter.Model
import RowQuery.Filter.Operator

/-!
# Filter specifications

A model with its shape settled: one kind, known operators, and either one condition or several that
are joined. A bound that is an empty text counts as absent for dates and numbers, and as itself for
texts.
-/
namespace RowQuery

structure TextCondition where
  op : TextOp
  value : Option String
  deriving DecidableEq, Repr

structure DateCondition where
  op : DateOp
  first : Option String
  last : Option String
  deriving DecidableEq, Repr

structure NumberCondition where
  op : NumberOp
  value : Option String
  valueTo : Option String
  deriving DecidableEq, Repr

/-- A set of values. The entry `none` stands for null. -/
structure SetCondition where
  values : List (Option String)
  deriving DecidableEq, Repr

inductive Condition where
  | text (c : TextCondition)
  | date (c : DateCondition)
  | number (c : NumberCondition)
  | set (c : SetCondition)
  deriving DecidableEq, Repr

/-- A bound that is not the empty text. -/
def nonEmpty (bound : Option String) : Option String := bound.filter (· != "")

namespace Condition

def kind : Condition → FilterKind
  | text _ => .text
  | date _ => .date
  | number _ => .number
  | set _ => .set

/-- The condition of a given kind that a model states. A missing operator is the empty one, which
no kind has. -/
def ofModel (kind : FilterKind) (m : ConditionModel) : Except FilterError Condition :=
  let operator := m.operator.getD ""
  match kind with
  | .text => do return .text ⟨← TextOp.parse operator, m.filter⟩
  | .date => do return .date ⟨← DateOp.parse operator, nonEmpty m.dateFrom, nonEmpty m.dateTo⟩
  | .number => do return .number ⟨← NumberOp.parse operator, nonEmpty m.filter, nonEmpty m.filterTo⟩
  | .set => .ok (.set ⟨m.values.getD []⟩)

end Condition

inductive FilterSpec where
  | plain (c : Condition)
  | composite (kind : FilterKind) (combinator : Combinator) (conditions : List Condition)
  deriving DecidableEq, Repr

/-- The kind that a tag names; a missing tag is the empty one. -/
def parseTag (tag : Option String) : Except FilterError FilterKind := FilterKind.parse (tag.getD "")

/-- Refuses a condition with a tag of another kind. -/
def checkTag (kind : FilterKind) : Option String → Except FilterError Unit
  | none => .ok ()
  | some tag => do
    let own ← FilterKind.parse tag
    if own = kind then .ok () else .error (.malformedFilter (.strayCondition own kind))

/-- The combinator of a model. A blank one is none. -/
def parseCombinator (word : Option String) : Except FilterError (Option Combinator) :=
  match word.map Text.trim with
  | none => .ok none
  | some word => if word = "" then .ok none else (Combinator.parse word).map some

namespace FilterSpec

def kind : FilterSpec → FilterKind
  | plain c => c.kind
  | composite kind _ _ => kind

/-- One condition of a composite model. -/
def conditionOfModel (kind : FilterKind) (m : ConditionModel) : Except FilterError Condition := do
  checkTag kind m.filterType
  Condition.ofModel kind m

/-- The specification that a model states. -/
def ofModel (m : FilterModel) : Except FilterError FilterSpec := do
  let kind ← parseTag m.filterType
  match ← parseCombinator m.combinator with
  | none =>
    if m.conditions.isEmpty then return plain (← Condition.ofModel kind m.plainCondition)
    else .error (.malformedFilter .missingCombinator)
  | some combinator =>
    if m.conditions.isEmpty then .error (.malformedFilter .noConditions)
    else return composite kind combinator (← m.conditions.mapM (conditionOfModel kind))

end FilterSpec
end RowQuery
