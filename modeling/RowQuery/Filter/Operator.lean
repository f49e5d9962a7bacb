import RowQuery.Error

/-!
# Operators

What a condition of each kind can ask of a property. An operator has a name, which messages use, and
a wire name, which filter models use. Either is read in any case, as is the older spelling of
inequality.
-/
namespace RowQuery

/-- The first of several operators that a text names, under one of its names. -/
def findNamed {α : Type} (all : List α) (names : α → List String) (raw : String) : Option α :=
  all.find? fun op => (names op).any fun n => Text.equalIgnoringAsciiCase (Text.trim raw) n

inductive TextOp where
  | equals | notEquals | contains | notContains | startsWith | endsWith | blank | notBlank
  deriving DecidableEq, Repr

namespace TextOp

def all : List TextOp :=
  [equals, notEquals, contains, notContains, startsWith, endsWith, blank, notBlank]

def name : TextOp → String
  | equals => "Equals"
  | notEquals => "NotEquals"
  | contains => "Contains"
  | notContains => "NotContains"
  | startsWith => "StartsWith"
  | endsWith => "EndsWith"
  | blank => "Blank"
  | notBlank => "NotBlank"

def wireName : TextOp → String
  | equals => "equals"
  | notEquals => "notEquals"
  | contains => "contains"
  | notContains => "notContains"
  | startsWith => "startsWith"
  | endsWith => "endsWith"
  | blank => "blank"
  | notBlank => "notBlank"

/-- The names under which an operator is read. -/
def spellings : TextOp → List String
  | notEquals => ["NotEquals", "notEqual"]
  | op => [op.name]

def parse (raw : String) : Except FilterError TextOp :=
  match findNamed all spellings raw with
  | some op => .ok op
  | none => .error (.unsupportedOperator .text raw)

end TextOp

inductive DateOp where
  | equals | notEquals | lessThan | greaterThan | inRange | blank | notBlank | empty
  deriving DecidableEq, Repr

namespace DateOp

def all : List DateOp :=
  [equals, notEquals, lessThan, greaterThan, inRange, blank, notBlank, empty]

def name : DateOp → String
  | equals => "Equals"
  | notEquals => "NotEquals"
  | lessThan => "LessThan"
  | greaterThan => "GreaterThan"
  | inRange => "InRange"
  | blank => "Blank"
  | notBlank => "NotBlank"
  | empty => "Empty"

def wireName : DateOp → String
  | equals => "equals"
  | notEquals => "notEquals"
  | lessThan => "lessThan"
  | greaterThan => "greaterThan"
  | inRange => "inRange"
  | blank => "blank"
  | notBlank => "notBlank"
  | empty => "empty"

/-- The names under which an operator is read. -/
def spellings : DateOp → List String
  | notEquals => ["NotEquals", "notEqual"]
  | op => [op.name]

def parse (raw : String) : Except FilterError DateOp :=
  match findNamed all spellings raw with
  | some op => .ok op
  | none => .error (.unsupportedOperator .date raw)

end DateOp

inductive NumberOp where
  | equals | notEquals | lessThan | lessThanOrEqual | greaterThan | greaterThanOrEqual | inRange
  | blank | notBlank
  deriving DecidableEq, Repr

namespace NumberOp

def all : List NumberOp :=
  [equals, notEquals, lessThan, lessThanOrEqual, greaterThan, greaterThanOrEqual, inRange, blank,
   notBlank]

def name : NumberOp → String
  | equals => "Equals"
  | notEquals => "NotEquals"
  | lessThan => "LessThan"
  | lessThanOrEqual => "LessThanOrEqual"
  | greaterThan => "GreaterThan"
  | greaterThanOrEqual => "GreaterThanOrEqual"
  | inRange => "InRange"
  | blank => "Blank"
  | notBlank => "NotBlank"

def wireName : NumberOp → String
  | equals => "equals"
  | notEquals => "notEquals"
  | lessThan => "lessThan"
  | lessThanOrEqual => "lessThanOrEqual"
  | greaterThan => "greaterThan"
  | greaterThanOrEqual => "greaterThanOrEqual"
  | inRange => "inRange"
  | blank => "blank"
  | notBlank => "notBlank"

/-- The names under which an operator is read. -/
def spellings : NumberOp → List String
  | notEquals => ["NotEquals", "notEqual"]
  | op => [op.name]

def parse (raw : String) : Except FilterError NumberOp :=
  match findNamed all spellings raw with
  | some op => .ok op
  | none => .error (.unsupportedOperator .number raw)

end NumberOp

/-- The kind that a text names. -/
def FilterKind.parse (raw : String) : Except FilterError FilterKind :=
  match FilterKind.parse? raw with
  | some kind => .ok kind
  | none => .error (.unknownFilterType raw)

/-- The combinator that a text names. -/
def Combinator.parse (raw : String) : Except FilterError Combinator :=
  match Combinator.parse? raw with
  | some combinator => .ok combinator
  | none => .error (.malformedFilter (.unknownCombinator raw))

end RowQuery
