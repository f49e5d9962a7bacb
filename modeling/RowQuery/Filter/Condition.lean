import RowQuery.Filter.Compiled
import RowQuery.Filter.Spec
import RowQuery.Schema.Path
import RowQuery.Text.Basic
import RowQuery.Value.Reading

/-!
# Compiling conditions

Each kind of condition on a resolved property, as a test of rows and as a condition on the
property's column. Bounds are read here, once, as values of the property's type.
-/
namespace RowQuery
variable {R : Type}

/-! ## Comparisons -/

/-- The condition that compares a column with a bound. A null differs from every bound. -/
def Comparison.clause (op : Comparison) (column : Sql.Column) (bound : Sql.Param) : Sql.Clause :=
  let test := .test (.compare (.column column) op bound)
  match op with
  | .ne => .join .any test (.test (.isNull column))
  | _ => test

/-- The property compared with a bound. -/
def compareWith (p : ResolvedProperty R) (op : Comparison) (bound : p.type.Carrier) :
    CompiledFilter R :=
  let value := Value.of p.type bound
  ⟨fun row => op.holds (p.get row) value,
    .ofClause (op.clause p.column (Sql.Param.ofValue value))⟩

/-- The property between two bounds. -/
def between (p : ResolvedProperty R) (lower : Comparison) (first : p.type.Carrier)
    (upper : Comparison) (last : p.type.Carrier) : CompiledFilter R :=
  (compareWith p lower first).both (compareWith p upper last)

/-- The property is null. -/
def whenNull (p : ResolvedProperty R) : CompiledFilter R :=
  ⟨fun row => (p.get row).isNone, .ofClause (.test (.isNull p.column))⟩

/-- The property is not null. -/
def whenPresent (p : ResolvedProperty R) : CompiledFilter R :=
  ⟨fun row => (p.get row).isSome, .ofClause (.test (.isNotNull p.column))⟩

/-! ## Dates and numbers -/

/-- A bound that has to be there, read by `parse`. -/
def requireBound (p : ResolvedProperty R)
    (parse : String → (τ : ValueType) → Except FilterError τ.Carrier)
    (field : BoundField) (operator : String) : Option String → Except FilterError p.type.Carrier
  | none => .error (.missingFilterValue field operator)
  | some raw => parse raw p.type

/-- A date condition. Both ends of a range are left out. -/
def DateCondition.compile (p : ResolvedProperty R) (c : DateCondition) :
    Except FilterError (CompiledFilter R) :=
  let first := requireBound p parseTemporal .dateFrom c.op.name c.first
  match c.op with
  | .equals => return compareWith p .eq (← first)
  | .notEquals => return compareWith p .ne (← first)
  | .lessThan => return compareWith p .lt (← first)
  | .greaterThan => return compareWith p .gt (← first)
  | .inRange => do
    let low ← first
    let high ← requireBound p parseTemporal .dateTo c.op.name c.last
    return between p .gt low .lt high
  | .blank | .empty => return whenNull p
  | .notBlank => return whenPresent p

/-- A number condition. Both ends of a range belong to it. -/
def NumberCondition.compile (p : ResolvedProperty R) (c : NumberCondition) :
    Except FilterError (CompiledFilter R) :=
  let value := requireBound p parseNumber .filter c.op.name c.value
  match c.op with
  | .equals => return compareWith p .eq (← value)
  | .notEquals => return compareWith p .ne (← value)
  | .lessThan => return compareWith p .lt (← value)
  | .lessThanOrEqual => return compareWith p .le (← value)
  | .greaterThan => return compareWith p .gt (← value)
  | .greaterThanOrEqual => return compareWith p .ge (← value)
  | .inRange => do
    let low ← value
    let high ← requireBound p parseNumber .filterTo c.op.name c.valueTo
    return between p .ge low .le high
  | .blank => return whenNull p
  | .notBlank => return whenPresent p

/-! ## Texts -/

namespace TextOp

/-- Whether a text stands in the operator's relation to a needle. -/
def accepts (op : TextOp) (text needle : List Char) : Bool :=
  match op with
  | equals => text == needle
  | notEquals => text != needle
  | contains => Text.contains needle text
  | notContains => !Text.contains needle text
  | startsWith => Text.startsWith needle text
  | endsWith => Text.endsWith needle text
  | blank => text.isEmpty
  | notBlank => !text.isEmpty

/-- Whether a null stands in the operator's relation to every needle. -/
def acceptsNull : TextOp → Bool
  | notEquals | notContains | blank => true
  | _ => false

end TextOp

/-- A text in the form in which it is compared. -/
def compared (ignoreCase : Bool) (s : String) : String := if ignoreCase then Text.fold s else s

/-- The column of a property as a text. -/
def textOperand (p : ResolvedProperty R) : Sql.Operand :=
  if p.type = .text then .column p.column else .asText (.column p.column)

/-- The condition that a text operator puts on the column of a property. -/
def TextOp.clause (op : TextOp) (p : ResolvedProperty R) (needle : String) (ignoreCase : Bool) :
    Sql.Clause :=
  let operand := if ignoreCase then .upper (textOperand p) else textOperand p
  let literal := Sql.likeLiteral needle.toList
  let pattern (cs : List Char) : String := String.ofList cs
  let isNull : Sql.Clause := .test (.isNull p.column)
  let isNotNull : Sql.Clause := .test (.isNotNull p.column)
  let emptyText : Sql.Param := .text ""
  match op with
  | .equals => .test (.compare operand .eq (.text needle))
  | .notEquals => .join .any (.test (.compare operand .ne (.text needle))) isNull
  | .contains => .test (.like operand (pattern ('%' :: literal ++ ['%'])))
  | .notContains =>
    .join .any (.test (.notLike operand (pattern ('%' :: literal ++ ['%'])))) isNull
  | .startsWith => .test (.like operand (pattern (literal ++ ['%'])))
  | .endsWith => .test (.like operand (pattern ('%' :: literal)))
  | .blank =>
    if p.type = .text then
      .join .any isNull (.test (.compare (.column p.column) .eq emptyText))
    else isNull
  | .notBlank =>
    if p.type = .text then
      .join .all isNotNull (.test (.compare (.column p.column) .ne emptyText))
    else isNotNull

/-- The needle of a text condition in the form in which it is compared. -/
def TextCondition.needle (c : TextCondition) (ignoreCase : Bool) : Except FilterError String :=
  match c.op, c.value with
  | .blank, _ => .ok ""
  | .notBlank, _ => .ok ""
  | _, some value => .ok (compared ignoreCase value)
  | op, none => .error (.missingFilterValue .filter op.name)

/-- A text condition. Properties of other types are compared by their text. -/
def TextCondition.compile (p : ResolvedProperty R) (c : TextCondition) (ignoreCase : Bool) :
    Except FilterError (CompiledFilter R) := do
  let needle ← c.needle ignoreCase
  let test (row : R) : Bool :=
    match (p.get row).text? with
    | none => c.op.acceptsNull
    | some text => c.op.accepts (compared ignoreCase text).toList needle.toList
  return ⟨test, .ofClause (c.op.clause p needle ignoreCase)⟩

/-! ## Sets -/

namespace SetCondition

/-- Whether nulls belong to the set. -/
def admitsNull (c : SetCondition) : Bool := c.values.any (·.isNone)

/-- The texts of the set, each once, in ascending order. -/
def texts (c : SetCondition) : List String :=
  ((c.values.filterMap id).eraseDups).mergeSort fun s t => decide (s ≤ t)

/-- A set condition: the text of the property is in the set, or it is null and nulls are. Nothing is
in the empty set. -/
def compile (p : ResolvedProperty R) (c : SetCondition) : CompiledFilter R :=
  let texts := c.texts
  if texts.isEmpty && !c.admitsNull then ⟨.never, .ofClause (.test .never)⟩
  else
    let test (row : R) : Bool :=
      match (p.get row).text? with
      | none => c.admitsNull
      | some text => texts.contains text
    let inTexts : List Sql.Condition :=
      if texts.isEmpty then [] else [.clause (.test (.isIn (textOperand p) texts))]
    let orNull : List Sql.Condition :=
      if c.admitsNull then [.clause (.test (.isNull p.column))] else []
    ⟨test, .junction .any (inTexts ++ orNull)⟩

end SetCondition

/-- A condition of any kind. -/
def Condition.compile (p : ResolvedProperty R) (ignoreCase : Bool) :
    Condition → Except FilterError (CompiledFilter R)
  | text c => c.compile p ignoreCase
  | date c => c.compile p
  | number c => c.compile p
  | set c => .ok (c.compile p)

end RowQuery
