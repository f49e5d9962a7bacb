import RowQuery.Filter.Condition
import RowQuery.Proofs.Outcome
import RowQuery.Proofs.Schema.Typing
import RowQuery.Proofs.Sql.Truth
import RowQuery.Proofs.Value.Written

/-!
# Agreement of the two forms of a filter

A filter's test of rows and its condition on columns are put together apart from each other. They
agree on a row when the test selects the row exactly if the condition holds for its cells. A
condition that is unknown selects nothing, so that every operator that accepts nulls has to ask for
them by name.
-/
namespace RowQuery
open Outcome
open Sql (Engine Cells Truth Clause Test Operand)

variable {R : Type} {db : Engine} {cells : Cells} {row : R} {p : ResolvedProperty R}

/-- A filter selects a row exactly when its condition holds for the row's cells: when it is neither
false nor unknown. -/
def CompiledFilter.AgreesAt (db : Engine) (cells : Cells) (row : R) (f : CompiledFilter R) : Prop :=
  f.test row = true ↔ f.condition.eval db cells = .holds

namespace CompiledFilter

theorem always_agrees : (always : CompiledFilter R).AgreesAt db cells row := by
  simp [AgreesAt, always, Predicate.always]

theorem both_agrees {f g : CompiledFilter R} (left : f.AgreesAt db cells row)
    (right : g.AgreesAt db cells row) : (f.both g).AgreesAt db cells row := by
  unfold AgreesAt at left right ⊢
  simp only [both, Predicate.both, Bool.and_eq_true, Sql.Condition.eval_pair,
    Truth.join_all_eq_holds, left, right]

theorem either_agrees {f g : CompiledFilter R} (left : f.AgreesAt db cells row)
    (right : g.AgreesAt db cells row) : (f.either g).AgreesAt db cells row := by
  unfold AgreesAt at left right ⊢
  simp only [either, Predicate.either, Bool.or_eq_true, Sql.Condition.eval_pair,
    Truth.join_any_eq_holds, left, right]

theorem join_agrees (combinator : Combinator) {f g : CompiledFilter R}
    (left : f.AgreesAt db cells row) (right : g.AgreesAt db cells row) :
    (f.join combinator g).AgreesAt db cells row := by
  cases combinator with
  | all => exact both_agrees left right
  | any => exact either_agrees left right

/-- Agreement is an invariant of joining filters one by one. -/
theorem foldl_join_agrees (combinator : Combinator) {parts : List (CompiledFilter R)}
    {start : CompiledFilter R} (first : start.AgreesAt db cells row)
    (rest : ∀ part ∈ parts, part.AgreesAt db cells row) :
    (parts.foldl (join combinator) start).AgreesAt db cells row := by
  induction parts generalizing start with
  | nil => exact first
  | cons part parts ih =>
    obtain ⟨head, tail⟩ := List.forall_mem_cons.1 rest
    exact ih (join_agrees combinator first head) tail

theorem ofClause_agrees {test : Predicate R} {clause : Clause}
    (same : test row = true ↔ clause.eval db cells = .holds) :
    AgreesAt db cells row ⟨test, .ofClause clause⟩ := by
  rw [AgreesAt, Sql.Condition.eval_ofClause]
  exact same

end CompiledFilter

/-! ## Comparisons -/

theorem ValueType.kind_eq_text {τ : ValueType} : τ.kind = .text ↔ τ = .text := by
  cases τ <;> decide

theorem ValueType.kind_eq_duration {τ : ValueType} : τ.kind = .duration ↔ τ = .duration := by
  cases τ <;> decide

/-- Binding keeps every value but a length of time, which is bound as a number of milliseconds. -/
theorem Sql.Param.toValue_ofValue {v : Value} (bindable : v.kind ≠ .duration) :
    (ofValue v).toValue = v := by
  cases v with
  | duration d => exact absurd rfl bindable
  | _ => rfl

section
variable {column : Sql.Column} {bound : Sql.Param}

/-- A null is compared with nothing, but inequality asks for it by name. -/
theorem Comparison.eval_clause_null (op : Comparison) (null : cells column = none) :
    (op.clause column bound).eval db cells = .holds ↔ op.accepts none = true := by
  cases op <;> simp [clause, Clause.eval, Test.eval, Operand.cell, Truth.ofCell, null, accepts]

theorem Comparison.eval_clause_some (op : Comparison) {v : Value} {o : Ordering}
    (read : cells column = some v)
    (verdict : ∀ op, db.verdict v op bound.toValue = .ofBool (op.accepts (some o))) :
    (op.clause column bound).eval db cells = .holds ↔ op.accepts (some o) = true := by
  cases op <;>
    simp [clause, Clause.eval, Test.eval, Operand.cell, Truth.ofCell, read, verdict, Truth.ofBool]

end

theorem compareWith_agrees (lawful : db.Lawful) (mirrored : cells p.column = p.get row)
    (timeless : p.type ≠ .duration) (number : Cell.isNaN (p.get row) = false)
    (op : Comparison) {bound : p.type.Carrier} (ordered : (Value.of p.type bound).isNaN = false) :
    (compareWith p op bound).AgreesAt db cells row := by
  apply CompiledFilter.ofClause_agrees
  rw [Comparison.holds]
  cases read : p.get row with
  | none => exact (op.eval_clause_null (mirrored.trans read)).symm
  | some v =>
    have kinds : v.kind = (Value.of p.type bound).kind := by
      rw [p.kind_of_get read, Value.kind_of]
    have bindable : (Value.of p.type bound).kind ≠ .duration := by
      rw [Value.kind_of, Ne, ValueType.kind_eq_duration]
      exact timeless
    rw [read] at number
    obtain ⟨o, compared⟩ := Value.compare?_isSome kinds number ordered
    rw [Cell.compare?, compared]
    refine (op.eval_clause_some (mirrored.trans read) fun op => ?_).symm
    rw [Sql.Param.toValue_ofValue bindable]
    exact lawful.verdict_eq v op _ o compared

theorem whenNull_agrees (mirrored : cells p.column = p.get row) :
    (whenNull p).AgreesAt db cells row := by
  apply CompiledFilter.ofClause_agrees
  simp [Clause.eval, Test.eval, mirrored]

theorem whenPresent_agrees (mirrored : cells p.column = p.get row) :
    (whenPresent p).AgreesAt db cells row := by
  apply CompiledFilter.ofClause_agrees
  simp [Clause.eval, Test.eval, mirrored]

/-! ## Dates and numbers -/

/-- What a condition with the given bounds compares in a row has an order: the property is no length
of time, which the database holds in another unit, and no side is not a number. -/
structure ResolvedProperty.Comparable (p : ResolvedProperty R) (row : R)
    (parse : String → (τ : ValueType) → Except FilterError τ.Carrier)
    (bounds : List (Option String)) :
    Prop where
  timeless : p.type ≠ .duration
  number : Cell.isNaN (p.get row) = false
  ordered : ∀ raw, some raw ∈ bounds → ∀ bound, parse raw p.type = .ok bound →
    (Value.of p.type bound).isNaN = false

theorem requireBound_success
    {parse : String → (τ : ValueType) → Except FilterError τ.Carrier} {field : BoundField}
    {operator : String} {bound : Option String} {value : p.type.Carrier} :
    requireBound p parse field operator bound = .ok value ↔
      ∃ raw, bound = some raw ∧ parse raw p.type = .ok value := by
  cases bound with
  | none => simp [requireBound]
  | some raw => simp [requireBound]

theorem ResolvedProperty.Comparable.compareWith_agrees
    {parse : String → (τ : ValueType) → Except FilterError τ.Carrier}
    {bounds : List (Option String)} (comparable : p.Comparable row parse bounds)
    (lawful : db.Lawful) (mirrored : cells p.column = p.get row) {field : BoundField}
    {operator : String} {bound : Option String} (listed : bound ∈ bounds)
    {value : p.type.Carrier} (read : requireBound p parse field operator bound = .ok value)
    (op : Comparison) : (compareWith p op value).AgreesAt db cells row := by
  obtain ⟨raw, rfl, parsed⟩ := requireBound_success.1 read
  exact RowQuery.compareWith_agrees lawful mirrored comparable.timeless comparable.number op
    (comparable.ordered raw listed value parsed)

theorem DateCondition.compile_agrees (lawful : db.Lawful) (mirrored : cells p.column = p.get row)
    {c : DateCondition}
    (comparable : p.Comparable row parseTemporal [c.first, c.last])
    {f : CompiledFilter R} (success : c.compile p = .ok f) : f.AgreesAt db cells row := by
  have first : c.first ∈ [c.first, c.last] := by simp
  have last : c.last ∈ [c.first, c.last] := by simp
  unfold compile at success
  cases op : c.op with
  | equals | notEquals | lessThan | greaterThan =>
    rw [op] at success
    obtain ⟨bound, read, built⟩ := bind_success.1 success
    cases built
    exact comparable.compareWith_agrees lawful mirrored first read _
  | inRange =>
    rw [op] at success
    obtain ⟨low, readLow, success⟩ := bind_success.1 success
    obtain ⟨high, readHigh, built⟩ := bind_success.1 success
    cases built
    exact CompiledFilter.both_agrees
      (comparable.compareWith_agrees lawful mirrored first readLow .gt)
      (comparable.compareWith_agrees lawful mirrored last readHigh .lt)
  | blank | empty =>
    rw [op] at success
    cases success
    exact whenNull_agrees mirrored
  | notBlank =>
    rw [op] at success
    cases success
    exact whenPresent_agrees mirrored

theorem NumberCondition.compile_agrees (lawful : db.Lawful) (mirrored : cells p.column = p.get row)
    {c : NumberCondition}
    (comparable : p.Comparable row parseNumber [c.value, c.valueTo])
    {f : CompiledFilter R} (success : c.compile p = .ok f) : f.AgreesAt db cells row := by
  have value : c.value ∈ [c.value, c.valueTo] := by simp
  have valueTo : c.valueTo ∈ [c.value, c.valueTo] := by simp
  unfold compile at success
  cases op : c.op with
  | equals | notEquals | lessThan | lessThanOrEqual | greaterThan | greaterThanOrEqual =>
    rw [op] at success
    obtain ⟨bound, read, built⟩ := bind_success.1 success
    cases built
    exact comparable.compareWith_agrees lawful mirrored value read _
  | inRange =>
    rw [op] at success
    obtain ⟨low, readLow, success⟩ := bind_success.1 success
    obtain ⟨high, readHigh, built⟩ := bind_success.1 success
    cases built
    exact CompiledFilter.both_agrees
      (comparable.compareWith_agrees lawful mirrored value readLow .ge)
      (comparable.compareWith_agrees lawful mirrored valueTo readHigh .le)
  | blank =>
    rw [op] at success
    cases success
    exact whenNull_agrees mirrored
  | notBlank =>
    rw [op] at success
    cases success
    exact whenPresent_agrees mirrored

/-! ## Texts -/

theorem Sql.Engine.Lawful.verdict_eq_text (lawful : db.Lawful) (s t : String) :
    db.verdict (.text s) .eq (.text t) = .ofBool (s == t) := by
  have same : Comparison.eq.accepts (some (compareOfLessAndEq s t)) = (s == t) := by
    rw [Bool.eq_iff_iff, Comparison.accepts, beq_iff_eq, beq_iff_eq]
    exact Value.compare?_text s t
  rw [lawful.verdict_eq (.text s) .eq (.text t) _ rfl, same]

theorem Sql.Engine.Lawful.verdict_ne_text (lawful : db.Lawful) (s t : String) :
    db.verdict (.text s) .ne (.text t) = .ofBool (s != t) := by
  have same : Comparison.ne.accepts (some (compareOfLessAndEq s t)) = (s != t) := by
    rw [Bool.eq_iff_iff, Comparison.accepts, bne_iff_ne, bne_iff_ne, Ne, Ne, not_congr]
    exact Value.compare?_text s t
  rw [lawful.verdict_eq (.text s) .ne (.text t) _ rfl, same]

/-- A text column holds the texts of the values, and so does the cast of any other column. -/
theorem cell_textOperand (lawful : db.Lawful) (mirrored : cells p.column = p.get row) :
    (textOperand p).cell db cells = (p.get row).text?.map .text := by
  unfold textOperand
  by_cases text : p.type = .text
  · rw [if_pos text, Operand.cell, mirrored]
    cases read : p.get row with
    | none => rfl
    | some v =>
      obtain ⟨s, rfl⟩ := Value.eq_text_of_kind ((p.kind_of_get read).trans (by rw [text]; rfl))
      simp [Cell.text?]
  · rw [if_neg text, Operand.cell, Operand.cell, mirrored]
    simp [Cell.text?, lawful.castText_eq, Function.comp_def]

/-- What a text condition looks at is the property's text in the form in which it is compared. -/
theorem cell_comparedOperand (lawful : db.Lawful) (mirrored : cells p.column = p.get row)
    (ignoreCase : Bool) :
    (if ignoreCase then Operand.upper (textOperand p) else textOperand p).cell db cells =
      (p.get row).text?.map fun text => .text (compared ignoreCase text) := by
  cases ignoreCase with
  | false => exact cell_textOperand lawful mirrored
  | true =>
    rw [if_pos rfl, Operand.cell, cell_textOperand lawful mirrored, Option.map_map]
    congr 1
    funext text
    simp [Engine.textOf, Value.text?, lawful.upper_eq, compared]

/-- Folding keeps the empty text and makes no other text empty. -/
theorem compared_isEmpty (ignoreCase : Bool) (s : String) :
    (compared ignoreCase s).toList.isEmpty = s.toList.isEmpty := by
  cases ignoreCase with
  | false => rfl
  | true => simp [compared, List.isEmpty_map]

/-- On a null every test is unknown, so that only the operators that ask for nulls hold. -/
theorem TextOp.eval_clause_null (lawful : db.Lawful) (mirrored : cells p.column = p.get row)
    (null : p.get row = none) (op : TextOp) (needle : String) (ignoreCase : Bool) :
    (op.clause p needle ignoreCase).eval db cells = .holds ↔ op.acceptsNull = true := by
  have unseen := cell_comparedOperand lawful mirrored ignoreCase
  rw [null] at mirrored
  rw [null, Cell.text?, Option.map_none, Option.map_none] at unseen
  cases op with
  | blank | notBlank =>
    by_cases text : p.type = .text <;>
      simp [clause, Clause.eval, Test.eval, Operand.cell, Truth.ofCell, mirrored, text, acceptsNull,
        Truth.ofBool]
  | _ =>
    simp [clause, Clause.eval, Test.eval, unseen, mirrored, Truth.ofCell, Truth.negate,
      Truth.ofBool, acceptsNull]

section
variable {o : Operand} {s : String} (seen : o.cell db cells = some (.text s))
include seen

theorem Sql.Test.eval_compare_text (op : Comparison) (t : String) :
    (Test.compare o op (.text t)).eval db cells = db.verdict (.text s) op (.text t) := by
  rw [eval, seen, Truth.ofCell, Sql.Param.toValue]

theorem Sql.Test.eval_like (lawful : db.Lawful) (pattern : List Char) :
    (Test.like o (String.ofList pattern)).eval db cells =
      .ofBool (Sql.likeMatches pattern s.toList) := by
  rw [eval, seen, Truth.ofCell, Engine.textOf_text, lawful.like_eq, String.toList_ofList]

theorem Sql.Test.eval_notLike (lawful : db.Lawful) (pattern : List Char) :
    (Test.notLike o (String.ofList pattern)).eval db cells =
      .ofBool !Sql.likeMatches pattern s.toList := by
  have negated : (Test.notLike o (String.ofList pattern)).eval db cells =
      ((Test.like o (String.ofList pattern)).eval db cells).negate := rfl
  rw [negated, eval_like seen lawful, Truth.negate_ofBool]

end

/-- A value that is no text is blank exactly when it is null, for its text is not empty. -/
theorem TextOp.eval_clause_some (lawful : db.Lawful) (mirrored : cells p.column = p.get row)
    {v : Value} (read : p.get row = some v) (op : TextOp) (needle : String) (ignoreCase : Bool) :
    (op.clause p needle ignoreCase).eval db cells = .holds ↔
      op.accepts (compared ignoreCase v.write).toList needle.toList = true := by
  have seen := cell_comparedOperand lawful mirrored ignoreCase
  have kind := p.kind_of_get read
  rw [read] at mirrored
  rw [read, Cell.text?, Option.map_some, Option.map_some] at seen
  have present : (Test.isNull p.column).eval db cells = .fails := by
    rw [Test.eval, mirrored]
    rfl
  have notNull : (Test.isNotNull p.column).eval db cells = .holds := by
    rw [Test.eval, mirrored]
    rfl
  cases op with
  | equals =>
    simp only [clause, Clause.eval, Test.eval_compare_text seen, lawful.verdict_eq_text]
    simp [accepts, String.toList_inj]
  | notEquals =>
    simp only [clause, Clause.eval, Test.eval_compare_text seen, lawful.verdict_ne_text, present]
    simp [accepts, String.toList_inj]
  | contains =>
    simp only [clause, Clause.eval, Test.eval_like seen lawful, Sql.likeMatches_contains]
    simp [accepts]
  | notContains =>
    simp only [clause, Clause.eval, Test.eval_notLike seen lawful, Sql.likeMatches_contains,
      present]
    simp [accepts]
  | startsWith =>
    simp only [clause, Clause.eval, Test.eval_like seen lawful, Sql.likeMatches_startsWith]
    simp [accepts]
  | endsWith =>
    simp only [clause, Clause.eval, Test.eval_like seen lawful, Sql.likeMatches_endsWith]
    simp [accepts]
  | blank | notBlank =>
    rw [accepts, compared_isEmpty]
    by_cases text : p.type = .text
    · obtain ⟨s, rfl⟩ := Value.eq_text_of_kind (kind.trans (by rw [text]; rfl))
      have raw : (Operand.column p.column).cell db cells = some (.text s) := mirrored
      simp [clause, Clause.eval, text, Test.eval_compare_text raw, lawful.verdict_eq_text,
        lawful.verdict_ne_text, present, notNull]
    · have other : v.kind ≠ .text := by rwa [kind, Ne, ValueType.kind_eq_text]
      simp [clause, Clause.eval, text, present, notNull, Value.writeChars_ne_nil other]

theorem TextCondition.compile_agrees (lawful : db.Lawful) (mirrored : cells p.column = p.get row)
    {c : TextCondition} {ignoreCase : Bool} {f : CompiledFilter R}
    (success : c.compile p ignoreCase = .ok f) : f.AgreesAt db cells row := by
  obtain ⟨needle, -, built⟩ := bind_success.1 success
  cases built
  apply CompiledFilter.ofClause_agrees
  cases read : p.get row with
  | none => exact (TextOp.eval_clause_null lawful mirrored read c.op needle ignoreCase).symm
  | some v => exact (TextOp.eval_clause_some lawful mirrored read c.op needle ignoreCase).symm

/-! ## Sets -/

theorem Sql.Test.eval_isIn (lawful : db.Lawful) {o : Operand} {cell : Option String}
    (seen : o.cell db cells = cell.map .text) (texts : List String) :
    (Test.isIn o texts).eval db cells = .holds ↔ ∃ text ∈ texts, cell = some text := by
  rw [eval, seen]
  induction texts with
  | nil => simp [Truth.unit, Truth.ofBool]
  | cons text texts ih =>
    simp only [List.foldr_cons, Truth.join_any_eq_holds, ih, List.mem_cons, exists_eq_or_imp]
    cases cell with
    | none => simp [Truth.ofCell]
    | some s => simp [Truth.ofCell, lawful.verdict_eq_text]

theorem SetCondition.compile_agrees (lawful : db.Lawful) (mirrored : cells p.column = p.get row)
    (c : SetCondition) : (c.compile p).AgreesAt db cells row := by
  by_cases nothing : (c.texts.isEmpty && !c.admitsNull) = true
  · simp only [compile, if_pos nothing]
    apply CompiledFilter.ofClause_agrees
    simp [Predicate.never, Clause.eval, Test.eval]
  · have seen := cell_textOperand lawful mirrored
    have null : (cells p.column).isNone = (p.get row).text?.isNone := by
      rw [mirrored, Cell.text?, Option.isNone_map]
    have inTexts : (∃ part ∈ if c.texts.isEmpty then ([] : List Sql.Condition) else
          [.clause (.test (.isIn (textOperand p) c.texts))], part.eval db cells = .holds) ↔
        ∃ text ∈ c.texts, (p.get row).text? = some text := by
      rw [← Test.eval_isIn lawful seen]
      split
      · rename_i empty
        simp [List.isEmpty_iff.1 empty, Test.eval, Truth.unit, Truth.ofBool]
      · simp [Sql.Condition.eval, Clause.eval]
    have orNull : (∃ part ∈ if c.admitsNull then
          [Sql.Condition.clause (.test (.isNull p.column))] else [],
          part.eval db cells = .holds) ↔
        c.admitsNull = true ∧ (p.get row).text? = none := by
      cases c.admitsNull <;> simp [Sql.Condition.eval, Clause.eval, Test.eval, null]
    simp only [compile, if_neg nothing, CompiledFilter.AgreesAt, Sql.Condition.eval,
      Sql.Condition.evalAll_any, List.mem_append, or_and_right, exists_or, inTexts, orNull]
    cases (p.get row).text? <;> simp

/-! ## Conditions of every kind -/

/-- What a condition compares in a row has an order. Text and set conditions compare texts, which
always have one. -/
def Condition.Comparable (p : ResolvedProperty R) (row : R) : Condition → Prop
  | text _ | set _ => True
  | date c => p.Comparable row parseTemporal [c.first, c.last]
  | number c => p.Comparable row parseNumber [c.value, c.valueTo]

theorem Condition.compile_agrees (lawful : db.Lawful) (mirrored : cells p.column = p.get row)
    {condition : Condition} (comparable : condition.Comparable p row) {ignoreCase : Bool}
    {f : CompiledFilter R} (success : condition.compile p ignoreCase = .ok f) :
    f.AgreesAt db cells row := by
  cases condition with
  | text c => exact TextCondition.compile_agrees lawful mirrored success
  | date c => exact DateCondition.compile_agrees lawful mirrored comparable success
  | number c => exact NumberCondition.compile_agrees lawful mirrored comparable success
  | set c =>
    cases success
    exact SetCondition.compile_agrees lawful mirrored c

end RowQuery
