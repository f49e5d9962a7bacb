import RowQuery.Proofs.Filter.Agreement

/-!
# Conditions that compare

What dates and numbers are asked for, apart from the kind that asks: a comparison with one bound, a
range between two, or whether there is a value at all. All readers of bounds agree, so that a
condition with a bound that can be read compiles to the comparison in its operator's name.
-/
namespace RowQuery
open Outcome

/-! ## Bounds -/

/-- The reader for bounds of numbers reads what the one for any bound reads. -/
theorem parseNumber_eq_parseValue (raw : String) (τ : ValueType) :
    parseNumber raw τ = parseValue raw τ := by
  unfold parseNumber
  split
  · rename_i numeric
    rw [parseValue, if_pos numeric]
  · rfl

/-- The reader for bounds of dates reads what the one for any bound reads: no type is both of
numbers and of dates. -/
theorem parseTemporal_eq_parseValue (raw : String) (τ : ValueType) :
    parseTemporal raw τ = parseValue raw τ := by
  unfold parseTemporal
  split
  · rename_i temporal
    have other : ¬ τ.isNumeric = true := by
      cases τ with
      | offsetTimestamp | localTimestamp | date | time | duration => decide
      | _ => cases temporal
    rw [parseValue, if_neg other, if_pos temporal]
  · rfl

/-- What either reader reads, the one for any bound reads. -/
theorem parseValue_of_read {raw : String} {τ : ValueType} {bound : τ.Carrier}
    (read : parseNumber raw τ = .ok bound ∨ parseTemporal raw τ = .ok bound) :
    parseValue raw τ = .ok bound := by
  rwa [parseNumber_eq_parseValue, parseTemporal_eq_parseValue, or_self] at read

/-! ## Operators -/

/-- The comparison that an operator makes with its one bound. -/
def NumberOp.comparison? : NumberOp → Option Comparison
  | equals => some .eq
  | notEquals => some .ne
  | lessThan => some .lt
  | lessThanOrEqual => some .le
  | greaterThan => some .gt
  | greaterThanOrEqual => some .ge
  | inRange | blank | notBlank => none

/-- The comparison that an operator makes with its one bound. -/
def DateOp.comparison? : DateOp → Option Comparison
  | equals => some .eq
  | notEquals => some .ne
  | lessThan => some .lt
  | greaterThan => some .gt
  | inRange | blank | notBlank | empty => none

variable {R : Type} {p : ResolvedProperty R}

/-- An operator that compares builds its comparison on the one bound that it reads. -/
theorem NumberCondition.compile_comparison {c : NumberCondition} {op : Comparison}
    (asks : c.op.comparison? = some op) :
    c.compile p =
      (requireBound p parseNumber .filter c.op.name c.value >>= fun bound =>
        pure (compareWith p op bound)) := by
  obtain ⟨o, value, valueTo⟩ := c
  cases o <;> cases asks <;> rfl

theorem DateCondition.compile_comparison {c : DateCondition} {op : Comparison}
    (asks : c.op.comparison? = some op) :
    c.compile p =
      (requireBound p parseTemporal .dateFrom c.op.name c.first >>= fun bound =>
        pure (compareWith p op bound)) := by
  obtain ⟨o, first, last⟩ := c
  cases o <;> cases asks <;> rfl

namespace Condition

/-- A condition, of numbers or of dates, that compares a property with one bound. A second bound
that it may carry is not looked at. -/
inductive Compares (raw : String) (op : Comparison) : Condition → Prop
  | number {o : NumberOp} (asks : o.comparison? = some op) (unused : Option String) :
    Compares raw op (.number ⟨o, some raw, unused⟩)
  | date {o : DateOp} (asks : o.comparison? = some op) (unused : Option String) :
    Compares raw op (.date ⟨o, some raw, unused⟩)

/-- A condition that asks for what lies between two bounds, and the comparison with each: a range of
numbers holds its ends, a range of dates does not. -/
inductive Spans (low high : String) : Comparison → Comparison → Condition → Prop
  | number : Spans low high .ge .le (.number ⟨.inRange, some low, some high⟩)
  | date : Spans low high .gt .lt (.date ⟨.inRange, some low, some high⟩)

variable {condition : Condition} {ignoreCase : Bool}

theorem Compares.compile {raw : String} {op : Comparison} (compares : condition.Compares raw op)
    {bound : p.type.Carrier} (read : parseValue raw p.type = .ok bound) :
    condition.compile p ignoreCase = .ok (compareWith p op bound) := by
  cases compares with
  | number asks =>
    rw [← parseNumber_eq_parseValue] at read
    rw [Condition.compile, NumberCondition.compile_comparison asks]
    exact bind_success.2 ⟨bound, requireBound_success.2 ⟨raw, rfl, read⟩, rfl⟩
  | date asks =>
    rw [← parseTemporal_eq_parseValue] at read
    rw [Condition.compile, DateCondition.compile_comparison asks]
    exact bind_success.2 ⟨bound, requireBound_success.2 ⟨raw, rfl, read⟩, rfl⟩

theorem Spans.compile {low high : String} {lower upper : Comparison}
    (spans : condition.Spans low high lower upper) {first last : p.type.Carrier}
    (readLow : parseValue low p.type = .ok first) (readHigh : parseValue high p.type = .ok last) :
    condition.compile p ignoreCase = .ok (between p lower first upper last) := by
  cases spans with
  | number =>
    rw [← parseNumber_eq_parseValue] at readLow readHigh
    exact bind_success.2 ⟨first, requireBound_success.2 ⟨low, rfl, readLow⟩,
      bind_success.2 ⟨last, requireBound_success.2 ⟨high, rfl, readHigh⟩, rfl⟩⟩
  | date =>
    rw [← parseTemporal_eq_parseValue] at readLow readHigh
    exact bind_success.2 ⟨first, requireBound_success.2 ⟨low, rfl, readLow⟩,
      bind_success.2 ⟨last, requireBound_success.2 ⟨high, rfl, readHigh⟩, rfl⟩⟩

end Condition
end RowQuery
