import RowQuery.Filter.Compiled
import RowQuery.Proofs.Sql.Like

/-!
# Truth of conditions

What a condition says of one row of a database, in the three-valued logic of SQL: a test of a null
is neither true nor false. Values, texts and patterns are left to the database, which is a
parameter; `Engine.Lawful` is what is known of it.
-/
namespace RowQuery.Sql

inductive Truth where
  | holds | fails | unknown
  deriving DecidableEq, Repr

namespace Truth

def ofBool (b : Bool) : Truth := if b then holds else fails

def negate : Truth → Truth
  | holds => fails
  | fails => holds
  | unknown => unknown

/-- AND and OR: one side decides where it can, else the unknown side leaves the whole unknown. -/
def join : Combinator → Truth → Truth → Truth
  | .all, holds, t => t
  | .all, fails, _ => fails
  | .all, unknown, fails => fails
  | .all, unknown, _ => unknown
  | .any, fails, t => t
  | .any, holds, _ => holds
  | .any, unknown, holds => holds
  | .any, unknown, _ => unknown

/-- The empty conjunction is true, and the empty disjunction false. -/
def unit (c : Combinator) : Truth := ofBool (c == .all)

@[simp] theorem ofBool_eq_holds (b : Bool) : ofBool b = holds ↔ b = true := by
  cases b <;> decide

@[simp] theorem negate_ofBool (b : Bool) : (ofBool b).negate = ofBool !b := by
  cases b <;> rfl

@[simp] theorem join_all_eq_holds (s t : Truth) :
    join .all s t = holds ↔ s = holds ∧ t = holds := by
  cases s <;> cases t <;> decide

@[simp] theorem join_any_eq_holds (s t : Truth) :
    join .any s t = holds ↔ s = holds ∨ t = holds := by
  cases s <;> cases t <;> decide

theorem join_assoc (c : Combinator) (s t u : Truth) :
    join c (join c s t) u = join c s (join c t u) := by
  cases c <;> cases s <;> cases t <;> cases u <;> rfl

@[simp] theorem join_unit (c : Combinator) (t : Truth) : join c t (unit c) = t := by
  cases c <;> cases t <;> rfl

end Truth

/-! ## Databases -/

/-- What a database makes of the values in its columns. -/
structure Engine where
  /-- The verdict on a comparison of a column that is not null with a bound. -/
  verdict : Value → Comparison → Value → Truth
  /-- The text to which a value is cast. -/
  castText : Value → String
  upper : String → String
  /-- Whether a text matches a pattern with the escape character. -/
  like : (pattern text : String) → Bool
  /-- The order of two values of a sort key. -/
  order : Value → Value → Ordering
  /-- Whether nulls are the smallest values of a sort key, or the largest. -/
  nullsSmallest : Bool

/-- A database compares values that have an order by that order, casts them to their texts, makes
capitals character by character and matches patterns in the standard way. What it makes of values
without an order, such as what is not a number, stays open. -/
structure Engine.Lawful (db : Engine) : Prop where
  verdict_eq : ∀ v op bound o, v.compare? bound = some o →
    db.verdict v op bound = .ofBool (op.accepts (some o))
  castText_eq : ∀ v, db.castText v = v.write
  upper_eq : ∀ s, db.upper s = Text.fold s
  like_eq : ∀ pattern text, db.like pattern text = likeMatches pattern.toList text.toList

/-- The database that does this by the same functions, and leaves open what has no order. -/
def Engine.standard : Engine where
  verdict v op bound :=
    match v.compare? bound with
    | some o => .ofBool (op.accepts (some o))
    | none => .unknown
  castText := Value.write
  upper := Text.fold
  like pattern text := likeMatches pattern.toList text.toList
  order := Value.sortCompare
  nullsSmallest := true

theorem Engine.standard_lawful : standard.Lawful where
  verdict_eq v op bound o compared := by simp only [standard, compared]
  castText_eq _ := rfl
  upper_eq _ := rfl
  like_eq _ _ := rfl

/-- The text of a value where a text is asked for. -/
def Engine.textOf (db : Engine) (v : Value) : String := v.text?.getD (db.castText v)

@[simp] theorem Engine.textOf_text (db : Engine) (s : String) : db.textOf (.text s) = s := rfl

/-- What the columns of one row hold. -/
abbrev Cells := Column → Cell

/-! ## Conditions -/

variable (db : Engine) (cells : Cells)

/-- What a test looks at. Casts and capitals keep nulls. -/
def Operand.cell : Operand → Cell
  | .column c => cells c
  | .asText o => (o.cell).map fun v => .text (db.castText v)
  | .upper o => (o.cell).map fun v => .text (db.upper (db.textOf v))

/-- A test of a cell that holds a value; a null leaves it unknown. -/
def Truth.ofCell (test : Value → Truth) : Cell → Truth
  | none => .unknown
  | some v => test v

def Test.eval : Test → Truth
  | .compare o op bound => .ofCell (db.verdict · op bound.toValue) (o.cell db cells)
  | .like o pattern =>
    .ofCell (fun v => .ofBool (db.like pattern (db.textOf v))) (o.cell db cells)
  | .notLike o pattern =>
    .negate (.ofCell (fun v => .ofBool (db.like pattern (db.textOf v))) (o.cell db cells))
  | .isNull c => .ofBool (cells c).isNone
  | .isNotNull c => .ofBool (cells c).isSome
  | .isIn o texts =>
    texts.foldr (fun s t => .join .any (.ofCell (db.verdict · .eq (.text s)) (o.cell db cells)) t)
      (.unit .any)
  | .never => .fails

def Clause.eval : Clause → Truth
  | .test t => t.eval db cells
  | .truth b => .ofBool b
  | .join c left right => .join c left.eval right.eval

mutual

def Condition.eval : Condition → Truth
  | .clause c => c.eval db cells
  | .junction c parts => Condition.evalAll c parts

/-- The parts of a junction together. -/
def Condition.evalAll (c : Combinator) : List Condition → Truth
  | [] => .unit c
  | part :: parts => .join c part.eval (Condition.evalAll c parts)

end

/-! ## Junctions -/

theorem Clause.eval_foldl_join (c : Combinator) (clauses : List Clause) (start : Clause) :
    (clauses.foldl (.join c) start).eval db cells =
      .join c (start.eval db cells)
        (clauses.foldr (fun clause t => .join c (clause.eval db cells) t) (.unit c)) := by
  induction clauses generalizing start with
  | nil => simp
  | cons clause clauses ih => rw [List.foldl_cons, ih, eval, Truth.join_assoc, List.foldr_cons]

theorem Clause.eval_joinAll (c : Combinator) (clauses : List Clause) :
    (Clause.joinAll c clauses).eval db cells =
      clauses.foldr (fun clause t => .join c (clause.eval db cells) t) (.unit c) := by
  cases clauses with
  | nil => rfl
  | cons clause clauses => exact eval_foldl_join db cells c clauses clause

mutual

/-- The clause as which a condition is written out says what the condition says. -/
theorem Condition.eval_toClause (condition : Condition) :
    condition.toClause.eval db cells = condition.eval db cells := by
  cases condition with
  | clause c => rfl
  | junction c parts =>
    rw [toClause, Clause.eval_joinAll, eval, evalAll_toClauses c parts]

theorem Condition.evalAll_toClauses (c : Combinator) (parts : List Condition) :
    (Condition.toClauses parts).foldr (fun clause t => .join c (clause.eval db cells) t) (.unit c) =
      Condition.evalAll db cells c parts := by
  cases parts with
  | nil => rfl
  | cons part parts =>
    rw [toClauses, List.foldr_cons, eval_toClause part, evalAll_toClauses c parts, evalAll]

end

@[simp] theorem Condition.eval_always : Condition.always.eval db cells = .holds := rfl

theorem Condition.evalAll_any (parts : List Condition) :
    Condition.evalAll db cells .any parts = .holds ↔
      ∃ part ∈ parts, part.eval db cells = .holds := by
  induction parts with
  | nil => simp [evalAll, Truth.unit, Truth.ofBool]
  | cons part parts ih =>
    simp only [evalAll, Truth.join_any_eq_holds, ih, List.mem_cons, exists_eq_or_imp]

@[simp] theorem Condition.eval_ofClause (c : Clause) :
    (Condition.ofClause c).eval db cells = c.eval db cells := by
  simp only [ofClause, eval, evalAll, Truth.join_unit]

/-- Taking the one part of a junction for the junction does not change the truth. -/
@[simp] theorem Condition.eval_part (condition : Condition) :
    condition.part.eval db cells = condition.eval db cells := by
  unfold part
  split
  · simp only [eval, evalAll, Truth.join_unit]
  · rfl

@[simp] theorem Condition.eval_pair (c : Combinator) (left right : Condition) :
    (Condition.pair c left right).eval db cells =
      .join c (left.eval db cells) (right.eval db cells) := by
  simp only [pair, eval, evalAll, eval_part, Truth.join_unit]

end RowQuery.Sql
