import Mathlib.Data.List.Forall2
import RowQuery.Proofs.Filter.Comparing
import RowQuery.Proofs.Filter.Composite

/-!
# Negated operators

An operator and its negation part the rows between them: whatever a property holds, a value, a null
or what is not a number, exactly one of the two selects the row. The same is true of several
conditions, where the negated ones are joined by the other combinator. Nulls make this more than a
negation, both in the test of rows and in the condition on columns: a negated operator has to ask for
them by name.
-/
namespace RowQuery
open Outcome
open Sql (Engine Cells)

/-! ## Pairs of operators -/

/-- An operator and the one that it negates. -/
inductive TextOp.Negates : TextOp → TextOp → Prop
  | equals : Negates notEquals equals
  | contains : Negates notContains contains
  | blank : Negates notBlank blank

/-- An operator and the one that it negates. Dates have two names for the absence of a value. -/
inductive DateOp.Negates : DateOp → DateOp → Prop
  | equals : Negates notEquals equals
  | blank : Negates notBlank blank
  | empty : Negates notBlank empty

/-- An operator and the one that it negates. -/
inductive NumberOp.Negates : NumberOp → NumberOp → Prop
  | equals : Negates notEquals equals
  | blank : Negates notBlank blank

/-- A condition and the one that it negates: of one kind, with the same bounds. -/
inductive Condition.Negates : Condition → Condition → Prop
  | text {op op' : TextOp} (negated : op.Negates op') (value : Option String) :
    Negates (.text ⟨op, value⟩) (.text ⟨op', value⟩)
  | date {op op' : DateOp} (negated : op.Negates op') (first last : Option String) :
    Negates (.date ⟨op, first, last⟩) (.date ⟨op', first, last⟩)
  | number {op op' : NumberOp} (negated : op.Negates op') (value valueTo : Option String) :
    Negates (.number ⟨op, value, valueTo⟩) (.number ⟨op', value, valueTo⟩)

/-- A specification and the one that it negates. That all of several conditions are negated is the
negation of any of them. -/
inductive FilterSpec.Negates : FilterSpec → FilterSpec → Prop
  | plain {condition condition' : Condition} (negated : condition.Negates condition') :
    Negates (.plain condition) (.plain condition')
  | composite (kind : FilterKind) {conditions conditions' : List Condition}
    (negated : List.Forall₂ Condition.Negates conditions conditions') :
    Negates (.composite kind .all conditions) (.composite kind .any conditions')

variable {R : Type} {p : ResolvedProperty R}

/-! ## Opposite outcomes -/

/-- Two outcomes of compilation are opposite: both are errors, or both are filters, of which exactly
one selects each row. -/
structure Opposite (x y : Except FilterError (CompiledFilter R)) : Prop where
  succeeds_iff : (∃ f, x = .ok f) ↔ ∃ g, y = .ok g
  test_eq : ∀ f g, x = .ok f → y = .ok g → ∀ row, f.test row = !g.test row

/-- Filters that part the rows make opposite outcomes where they are built on the same bound. -/
theorem Opposite.of_bound {α : Type} {step step' : Except FilterError α}
    {left right : α → CompiledFilter R} (same : ∀ bound, step = .ok bound ↔ step' = .ok bound)
    (parts : ∀ bound row, (left bound).test row = !(right bound).test row) :
    Opposite (step >>= fun bound => pure (left bound))
      (step' >>= fun bound => pure (right bound)) := by
  constructor
  · simp only [bind_success, pure_success, same]
    constructor
    · rintro ⟨_, bound, read, rfl⟩
      exact ⟨right bound, bound, read, rfl⟩
    · rintro ⟨_, bound, read, rfl⟩
      exact ⟨left bound, bound, read, rfl⟩
  · intro f g compiled compiled' row
    obtain ⟨bound, read, built⟩ := bind_success.1 compiled
    obtain ⟨bound', read', built'⟩ := bind_success.1 compiled'
    rw [same bound, read'] at read
    cases read
    rw [← pure_success.1 built, ← pure_success.1 built']
    exact parts bound row

/-- Of two opposite filters the one selects a row exactly where the other does not. -/
theorem Opposite.selects_iff {x y : Except FilterError (CompiledFilter R)} (opposite : Opposite x y)
    (success : ∃ f, x = .ok f) (row : R) :
    (∃ f, x = .ok f ∧ f.test row = true) ↔ ¬ ∃ g, y = .ok g ∧ g.test row = true := by
  obtain ⟨f, compiled⟩ := success
  obtain ⟨g, compiled'⟩ := opposite.succeeds_iff.1 ⟨f, compiled⟩
  have parted := opposite.test_eq f g compiled compiled' row
  simp [compiled, compiled', parted]

theorem whenPresent_opposite :
    Opposite (.ok (whenPresent p)) (.ok (whenNull p)) where
  succeeds_iff := iff_of_true ⟨_, rfl⟩ ⟨_, rfl⟩
  test_eq f g compiled compiled' row := by
    cases compiled
    cases compiled'
    exact (Option.not_isNone (p.get row)).symm

/-- Inequality holds exactly where equality does not, also of nulls and of what is not a number. -/
theorem compareWith_ne_test (bound : p.type.Carrier) (row : R) :
    (compareWith p .ne bound).test row = !(compareWith p .eq bound).test row := rfl

/-! ## Conditions of each kind -/

namespace TextOp
variable {op op' : TextOp}

theorem Negates.accepts (negated : op.Negates op') (text needle : List Char) :
    op.accepts text needle = !op'.accepts text needle := by
  cases negated <;> rfl

/-- Of an operator and its negation exactly one accepts nulls. -/
theorem Negates.acceptsNull (negated : op.Negates op') : op.acceptsNull = !op'.acceptsNull := by
  cases negated <;> rfl

theorem Negates.needle (negated : op.Negates op') (value : Option String) (ignoreCase : Bool)
    (needle : String) :
    TextCondition.needle ⟨op, value⟩ ignoreCase = .ok needle ↔
      TextCondition.needle ⟨op', value⟩ ignoreCase = .ok needle := by
  cases negated <;> cases value <;> simp [TextCondition.needle]

theorem Negates.compile (negated : op.Negates op') (value : Option String) (ignoreCase : Bool) :
    Opposite (TextCondition.compile p ⟨op, value⟩ ignoreCase)
      (TextCondition.compile p ⟨op', value⟩ ignoreCase) := by
  apply Opposite.of_bound (negated.needle value ignoreCase)
  intro needle row
  cases read : (p.get row).text? with
  | none => simp only [read, negated.acceptsNull]
  | some text => simp only [read, negated.accepts]

end TextOp

theorem DateOp.Negates.compile {op op' : DateOp} (negated : op.Negates op')
    (first last : Option String) :
    Opposite (DateCondition.compile p ⟨op, first, last⟩)
      (DateCondition.compile p ⟨op', first, last⟩) := by
  cases negated with
  | equals =>
    rw [DateCondition.compile_comparison rfl, DateCondition.compile_comparison rfl]
    apply Opposite.of_bound _ compareWith_ne_test
    simp only [requireBound_success, implies_true]
  | blank | empty => exact whenPresent_opposite

theorem NumberOp.Negates.compile {op op' : NumberOp} (negated : op.Negates op')
    (value valueTo : Option String) :
    Opposite (NumberCondition.compile p ⟨op, value, valueTo⟩)
      (NumberCondition.compile p ⟨op', value, valueTo⟩) := by
  cases negated with
  | equals =>
    rw [NumberCondition.compile_comparison rfl, NumberCondition.compile_comparison rfl]
    apply Opposite.of_bound _ compareWith_ne_test
    simp only [requireBound_success, implies_true]
  | blank => exact whenPresent_opposite

namespace Condition
variable {condition condition' : Condition}

theorem Negates.kind_eq (negated : condition.Negates condition') :
    condition.kind = condition'.kind := by
  cases negated <;> rfl

theorem Negates.compile (negated : condition.Negates condition') (ignoreCase : Bool) :
    Opposite (condition.compile p ignoreCase) (condition'.compile p ignoreCase) := by
  cases negated with
  | text negated value => exact negated.compile value ignoreCase
  | date negated first last => exact negated.compile first last
  | number negated value valueTo => exact negated.compile value valueTo

/-- A condition compares what the one that it negates does. -/
theorem Negates.comparable_iff (negated : condition.Negates condition') (row : R) :
    condition.Comparable p row ↔ condition'.Comparable p row := by
  cases negated <;> exact Iff.rfl

end Condition

/-! ## Several conditions -/

/-- What holds in step of the elements of two lists holds of all elements of both or of neither. -/
theorem forall_mem_iff_of_forall₂ {α β : Type} {related : α → β → Prop} {xs : List α} {ys : List β}
    (pairs : List.Forall₂ related xs ys) {so : α → Prop} {so' : β → Prop}
    (same : ∀ x y, related x y → (so x ↔ so' y)) : (∀ x ∈ xs, so x) ↔ ∀ y ∈ ys, so' y := by
  induction pairs with
  | nil => simp
  | cons pair _ ih => rw [List.forall_mem_cons, List.forall_mem_cons, same _ _ pair, ih]

namespace FilterCompiler
variable {c : Catalog} [DecidableEq c.Entity] {compiler : FilterCompiler c} {e : c.Entity}
  {p : ResolvedProperty (c.Row e)} {kind : FilterKind} {conditions conditions' : List Condition}

theorem compileCondition_opposite {condition condition' : Condition}
    (negated : condition.Negates condition') :
    Opposite (compiler.compileCondition e p condition)
      (compiler.compileCondition e p condition') :=
  negated.compile _

/-- By De Morgan's law: all negated conditions select a row exactly where not any of the others
does. -/
theorem compileResolved_composite_opposite
    (negated : List.Forall₂ Condition.Negates conditions conditions') :
    Opposite (compiler.compileResolved e p (.composite kind .all conditions))
      (compiler.compileResolved e p (.composite kind .any conditions')) where
  succeeds_iff := by
    have given : conditions = [] ↔ conditions' = [] := by
      rw [← List.length_eq_zero_iff, negated.length_eq, List.length_eq_zero_iff]
    rw [compileResolved_composite_succeeds_iff, compileResolved_composite_succeeds_iff, Ne, given]
    refine and_congr_right fun _ => forall_mem_iff_of_forall₂ negated fun _ _ pair => ?_
    rw [pair.kind_eq, (compileCondition_opposite pair).succeeds_iff]
  test_eq f g compiled compiled' row := by
    obtain ⟨-, each⟩ := compileResolved_composite_succeeds_iff.1 ⟨f, compiled⟩
    have pairs := (List.forall₂_and_left _ _).2 ⟨each, negated⟩
    rw [Bool.eq_iff_iff, Bool.not_eq_true', Bool.eq_false_iff, Ne,
      compileResolved_composite_test_iff compiled, compileResolved_composite_test_iff compiled']
    simp only [Combinator.Holds, not_exists, not_and]
    apply forall_mem_iff_of_forall₂ pairs
    intro _ _ linked
    obtain ⟨⟨_, compiles⟩, pair⟩ := linked
    rw [(compileCondition_opposite pair).selects_iff compiles row]
    simp only [not_exists, not_and]

theorem compileSpec_opposite {negative positive : FilterSpec} (negated : negative.Negates positive)
    (path : String) :
    Opposite (compiler.compileSpec e path negative) (compiler.compileSpec e path positive) := by
  cases resolved : c.resolve e path compiler.access with
  | error error =>
    rw [compileSpec, compileSpec, resolved]
    exact ⟨by simp [Bind.bind, Except.bind], fun _ _ failure => by cases failure⟩
  | ok p =>
    rw [compileSpec_of_resolved resolved, compileSpec_of_resolved resolved]
    cases negated with
    | plain negated => exact compileCondition_opposite negated
    | composite kind negated => exact compileResolved_composite_opposite negated

omit [DecidableEq c.Entity] in
/-- A database that can read a row for a specification can do so for its negation. -/
theorem Legible.of_negates {negative positive : FilterSpec} {path : String} {cells : Cells}
    {row : c.Row e} (legible : compiler.Legible e cells row path positive)
    (negated : negative.Negates positive) :
    compiler.Legible e cells row path negative := by
  intro p resolved
  obtain ⟨mirrored, comparable⟩ := legible p resolved
  refine ⟨mirrored, ?_⟩
  have pairs : List.Forall₂ Condition.Negates negative.conditions positive.conditions := by
    cases negated with
    | plain negated => exact .cons negated .nil
    | composite kind negated => exact negated
  exact (forall_mem_iff_of_forall₂ pairs fun _ _ pair => pair.comparable_iff row).2 comparable

/-- Negated operators select exact complements. A condition and the one that it negates compile for
the same bounds, and of the two filters exactly one selects each row, whatever the property holds
there: so inequality and equality, a text that is not contained and one that is, presence and
absence. Several conditions, all negated, likewise select the rows that not any of the conditions
selects. The conditions on columns are true of complementary sets of rows, where a database can read
the rows. -/
theorem compileSpec_negates (compiler : FilterCompiler c) (e : c.Entity) (path : String)
    (negative positive : FilterSpec) (negated : negative.Negates positive) :
    ((∃ f, compiler.compileSpec e path negative = .ok f) ↔
      ∃ g, compiler.compileSpec e path positive = .ok g) ∧
    ∀ f g, compiler.compileSpec e path negative = .ok f →
      compiler.compileSpec e path positive = .ok g →
      (∀ row, f.test row = !g.test row) ∧
      ∀ db : Engine, db.Lawful → ∀ cells row, compiler.Legible e cells row path positive →
        (f.condition.eval db cells = .holds ↔ ¬ g.condition.eval db cells = .holds) := by
  have opposite : Opposite (compiler.compileSpec e path negative)
      (compiler.compileSpec e path positive) := compileSpec_opposite negated path
  refine ⟨opposite.succeeds_iff, fun f g compiled compiled' => ⟨?_, ?_⟩⟩
  · exact opposite.test_eq f g compiled compiled'
  · intro db lawful cells row legible
    have agrees : f.test row = true ↔ f.condition.eval db cells = .holds :=
      compiler.compileSpec_agrees lawful (legible.of_negates negated) compiled
    have agrees' : g.test row = true ↔ g.condition.eval db cells = .holds :=
      compiler.compileSpec_agrees lawful legible compiled'
    rw [← agrees, ← agrees', opposite.test_eq f g compiled compiled' row, Bool.not_eq_true',
      Bool.eq_false_iff]

end FilterCompiler

/-! ## Marks in the names of superiors -/

/-- The name of an employee's superior. -/
def superiorName : ResolvedProperty Employee where
  name := "Superior.Name"
  type := .text
  nullable := true
  read row := row.superior.bind fun superior => some superior.name
  column := ⟨some "boss", "Name"⟩

theorem resolve_superiorName : staff.resolve () "superior.name" .nullSafe = .ok superiorName := rfl

def marked : FilterSpec :=
  .composite .text .any [.text ⟨.contains, some "%"⟩, .text ⟨.contains, some "!"⟩]

def unmarked : FilterSpec :=
  .composite .text .all [.text ⟨.notContains, some "%"⟩, .text ⟨.notContains, some "!"⟩]

theorem unmarked_negates : unmarked.Negates marked :=
  .composite .text (.cons (.text .contains _) (.cons (.text .contains _) .nil))

theorem marked_legible : staffCompiler.Legible () alice.cells alice "superior.name" marked := by
  intro p resolved
  cases resolve_superiorName.symm.trans resolved
  refine ⟨rfl, fun condition member => ?_⟩
  simp only [marked, FilterSpec.conditions, List.mem_cons, List.not_mem_nil, or_false] at member
  rcases member with rfl | rfl <;> trivial

/-- An employee without a superior is among those whose superior's name holds no mark, in memory and
in the database, where each look at that name is unknown. -/
theorem unmarked_complementary :
    ∃ f g, staffCompiler.compileSpec () "superior.name" unmarked = .ok f ∧
      staffCompiler.compileSpec () "superior.name" marked = .ok g ∧
      f.test alice = true ∧ g.test alice = false ∧
      f.condition.eval .standard alice.cells = .holds ∧
      g.condition.eval .standard alice.cells = .unknown := by
  obtain ⟨compiles, parted⟩ := FilterCompiler.compileSpec_negates staffCompiler () "superior.name"
    unmarked marked unmarked_negates
  obtain ⟨g, success, passedOver, open'⟩ : ∃ g,
      staffCompiler.compileSpec () "superior.name" marked = .ok g ∧ g.test alice = false ∧
        g.condition.eval .standard alice.cells = .unknown := ⟨_, rfl, rfl, rfl⟩
  obtain ⟨f, successToo⟩ := compiles.2 ⟨g, success⟩
  obtain ⟨tests, conditions⟩ := parted f g successToo success
  have holds := conditions .standard Engine.standard_lawful alice.cells alice marked_legible
  refine ⟨f, g, successToo, success, ?_, passedOver, holds.2 ?_, open'⟩
  · rw [tests alice, passedOver]
    rfl
  · rw [open']
    decide

end RowQuery
