import RowQuery.Proofs.Filter.Comparing
import RowQuery.Proofs.Filter.Composite
import RowQuery.Proofs.Value.Order

/-!
# The order that comparisons obey

Filters by comparison see one order of the values of a property: less, equal and greater part the
values that have an order, the inclusive comparisons and the ranges are put together from them, and
a greater bound lets no fewer values through from below. A null has no place in that order, so that
nothing but inequality selects it.
-/
namespace RowQuery
open Outcome

/-- Of the three strict answers exactly one is accepted. -/
theorem Comparison.accepts_exactly_one (o : Ordering) :
    ∃ op ∈ [lt, eq, gt], ∀ other ∈ [lt, eq, gt], other.accepts (some o) = true ↔ other = op := by
  cases o with
  | lt => exact ⟨lt, by decide⟩
  | eq => exact ⟨eq, by decide⟩
  | gt => exact ⟨gt, by decide⟩

theorem Comparison.accepts_none_iff (op : Comparison) : op.accepts none = true ↔ op = ne := by
  cases op <;> decide

namespace FilterCompiler
variable {c : Catalog} [DecidableEq c.Entity]

/-- A condition on a path compiles, to a filter that selects a row. -/
def Selects (compiler : FilterCompiler c) (e : c.Entity) (path : String) (row : c.Row e)
    (condition : Condition) : Prop :=
  ∃ f, compiler.compileSpec e path (.plain condition) = .ok f ∧ f.test row = true

section
variable {compiler : FilterCompiler c} {e : c.Entity} {path : String}
  {p : ResolvedProperty (c.Row e)} {condition : Condition}

theorem compileSpec_comparison (resolved : c.resolve e path compiler.access = .ok p) {raw : String}
    {op : Comparison} (compares : condition.Compares raw op) {bound : p.type.Carrier}
    (read : parseValue raw p.type = .ok bound) :
    compiler.compileSpec e path (.plain condition) = .ok (compareWith p op bound) := by
  rw [compileSpec_of_resolved resolved]
  exact compares.compile read

theorem compileSpec_range (resolved : c.resolve e path compiler.access = .ok p) {low high : String}
    {lower upper : Comparison} (spans : condition.Spans low high lower upper)
    {first last : p.type.Carrier} (readLow : parseValue low p.type = .ok first)
    (readHigh : parseValue high p.type = .ok last) :
    compiler.compileSpec e path (.plain condition) = .ok (between p lower first upper last) := by
  rw [compileSpec_of_resolved resolved]
  exact spans.compile readLow readHigh

/-- A condition that compares selects the rows whose order to the bound it accepts. -/
theorem selects_comparison_iff (resolved : c.resolve e path compiler.access = .ok p) {raw : String}
    {op : Comparison} (compares : condition.Compares raw op) {bound : p.type.Carrier}
    (read : parseValue raw p.type = .ok bound) (row : c.Row e) :
    compiler.Selects e path row condition ↔
      op.accepts (Cell.compare? (p.get row) (some (Value.of p.type bound))) = true := by
  rw [Selects, compileSpec_comparison resolved compares read]
  simp [compareWith, Comparison.holds]

theorem selects_range_iff (resolved : c.resolve e path compiler.access = .ok p) {low high : String}
    {lower upper : Comparison} (spans : condition.Spans low high lower upper)
    {first last : p.type.Carrier} (readLow : parseValue low p.type = .ok first)
    (readHigh : parseValue high p.type = .ok last) (row : c.Row e) :
    compiler.Selects e path row condition ↔
      lower.accepts (Cell.compare? (p.get row) (some (Value.of p.type first))) = true ∧
      upper.accepts (Cell.compare? (p.get row) (some (Value.of p.type last))) = true := by
  rw [Selects, compileSpec_range resolved spans readLow readHigh]
  simp [between, CompiledFilter.test_both, compareWith, Comparison.holds]

end

/-- Comparisons obey the order of the values of a property, of whatever type. Every condition
compiles whose bounds can be read for the property. Where the property is null nothing is selected
but by inequality. Where it holds a value and no side is not a number, exactly one of less, equal and
greater selects the row. The inclusive comparisons are the strict ones or equality; a range is both
of its comparisons, which for numbers are inclusive and for dates are not. And if the first bound is
not greater than the second, what is less than the first is less than the second, and what is greater
than the second is greater than the first. -/
theorem compileSpec_order (compiler : FilterCompiler c) (e : c.Entity) (path : String)
    (p : ResolvedProperty (c.Row e)) (resolved : c.resolve e path compiler.access = .ok p)
    (a b : String) (x y : p.type.Carrier)
    (readA : parseNumber a p.type = .ok x ∨ parseTemporal a p.type = .ok x)
    (readB : parseNumber b p.type = .ok y ∨ parseTemporal b p.type = .ok y) :
    ((∀ op condition, condition.Compares a op →
        ∃ f, compiler.compileSpec e path (.plain condition) = .ok f) ∧
      ∀ lower upper range, range.Spans a b lower upper →
        ∃ f, compiler.compileSpec e path (.plain range) = .ok f) ∧
    (∀ row, p.get row = none →
      (∀ op condition, condition.Compares a op →
        (compiler.Selects e path row condition ↔ op = .ne)) ∧
      ∀ lower upper range, range.Spans a b lower upper → ¬ compiler.Selects e path row range) ∧
    (∀ row v, p.get row = some v → v.isNaN = false → (Value.of p.type x).isNaN = false →
      ∃ op ∈ [Comparison.lt, .eq, .gt], ∀ other ∈ [Comparison.lt, .eq, .gt],
        ∀ condition, condition.Compares a other →
          (compiler.Selects e path row condition ↔ other = op)) ∧
    (∀ row less equal greater, less.Compares a .lt → equal.Compares a .eq →
      greater.Compares a .gt →
      (∀ atMost, atMost.Compares a .le → (compiler.Selects e path row atMost ↔
        compiler.Selects e path row less ∨ compiler.Selects e path row equal)) ∧
      ∀ atLeast, atLeast.Compares a .ge → (compiler.Selects e path row atLeast ↔
        compiler.Selects e path row greater ∨ compiler.Selects e path row equal)) ∧
    (∀ row lower upper range, range.Spans a b lower upper →
      ∀ first last, first.Compares a lower → last.Compares b upper →
        (compiler.Selects e path row range ↔
          compiler.Selects e path row first ∧ compiler.Selects e path row last)) ∧
    ∀ o, (Value.of p.type x).compare? (Value.of p.type y) = some o → o ≠ .gt → ∀ row,
      (∀ below belowToo, below.Compares a .lt → belowToo.Compares b .lt →
        compiler.Selects e path row below → compiler.Selects e path row belowToo) ∧
      ∀ above aboveToo, above.Compares b .gt → aboveToo.Compares a .gt →
        compiler.Selects e path row above → compiler.Selects e path row aboveToo := by
  have readA := parseValue_of_read readA
  have readB := parseValue_of_read readB
  have selectsA := fun row {op} {condition : Condition} (compares : condition.Compares a op) =>
    selects_comparison_iff resolved compares readA row
  have selectsB := fun row {op} {condition : Condition} (compares : condition.Compares b op) =>
    selects_comparison_iff resolved compares readB row
  have selectsRange := fun row {lower upper} {range : Condition}
      (spans : range.Spans a b lower upper) => selects_range_iff resolved spans readA readB row
  refine ⟨⟨?_, ?_⟩, ?_, ?_, ?_, ?_, ?_⟩
  · intro op condition compares
    exact ⟨_, compileSpec_comparison resolved compares readA⟩
  · intro lower upper range spans
    exact ⟨_, compileSpec_range resolved spans readA readB⟩
  · intro row null
    constructor
    · intro op condition compares
      rw [selectsA row compares, null]
      exact op.accepts_none_iff
    · intro lower upper range spans
      rw [selectsRange row spans, null]
      cases spans <;> simp [Cell.compare?, Comparison.accepts]
  · intro row v read number ordered
    have kinds : v.kind = (Value.of p.type x).kind := by rw [p.kind_of_get read, Value.kind_of]
    obtain ⟨o, compared⟩ := Value.compare?_isSome kinds number ordered
    obtain ⟨op, strict, one⟩ := Comparison.accepts_exactly_one o
    refine ⟨op, strict, fun other member condition compares => ?_⟩
    rw [selectsA row compares, read, Cell.compare?, compared]
    exact one other member
  · intro row less equal greater isLess isEqual isGreater
    constructor
    · intro atMost isAtMost
      rw [selectsA row isAtMost, selectsA row isLess, selectsA row isEqual]
      simp [Comparison.accepts]
    · intro atLeast isAtLeast
      rw [selectsA row isAtLeast, selectsA row isGreater, selectsA row isEqual]
      simp [Comparison.accepts]
  · intro row lower upper range spans first last isFirst isLast
    rw [selectsRange row spans, selectsA row isFirst, selectsB row isLast]
  · intro o compared upTo row
    constructor
    · intro below belowToo isBelow isBelowToo
      rw [selectsA row isBelow, selectsB row isBelowToo]
      simp only [Comparison.accepts, beq_iff_eq]
      exact fun less => Cell.compare?_lt_of_not_gt less compared upTo
    · intro above aboveToo isAbove isAboveToo
      rw [selectsB row isAbove, selectsA row isAboveToo]
      simp only [Comparison.accepts, beq_iff_eq]
      exact fun greater => Cell.compare?_gt_of_not_gt greater compared upTo

end FilterCompiler

/-! ## A superior rated minus zero -/

/-- An employee whose superior is rated by the other one of both zeros. -/
def erin : Employee := ⟨"Erin", none, some ⟨"Alice", some ⟨true, 0⟩, none⟩⟩

theorem parseNumber_zero : parseNumber "0" .float32 = .ok (⟨false, 0⟩ : Binary32) := rfl

theorem parseNumber_half : parseNumber "0.5" .float32 = .ok (⟨false, 0x3f000000⟩ : Binary32) := by
  have half : (parseNumber "0.5" .float32).toOption = some (⟨false, 0x3f000000⟩ : Binary32) := by
    decide +kernel
  cases read : parseNumber "0.5" .float32 with
  | error _ =>
    rw [read] at half
    cases half
  | ok _ =>
    rw [read] at half
    cases half
    rfl

/-- A rating of minus zero is equal to zero, and so neither less than it nor greater. What is less
than zero is less than one half, whoever it is. No range selects who has no superior. -/
theorem rating_order :
    staffCompiler.Selects () "superior.rating" erin (.number ⟨.equals, some "0", none⟩) ∧
    ¬ staffCompiler.Selects () "superior.rating" erin (.number ⟨.greaterThan, some "0", none⟩) ∧
    staffCompiler.Selects () "superior.rating" erin
      (.number ⟨.greaterThanOrEqual, some "0", none⟩) ∧
    ¬ staffCompiler.Selects () "superior.rating" alice
      (.number ⟨.inRange, some "0", some "0.5"⟩) ∧
    ∀ row, staffCompiler.Selects () "superior.rating" row (.number ⟨.lessThan, some "0", none⟩) →
      staffCompiler.Selects () "superior.rating" row (.number ⟨.lessThan, some "0.5", none⟩) := by
  have resolved : staff.resolve () "superior.rating" staffCompiler.access = .ok superiorRating := rfl
  obtain ⟨-, null, strict, inclusive, -, monotone⟩ := FilterCompiler.compileSpec_order staffCompiler
    () "superior.rating" superiorRating resolved "0" "0.5" _ _ (Or.inl parseNumber_zero)
    (Or.inl parseNumber_half)
  have isEqual : Condition.Compares "0" .eq (.number ⟨.equals, some "0", none⟩) := .number rfl _
  have isLess : ∀ raw, Condition.Compares raw .lt (.number ⟨.lessThan, some raw, none⟩) :=
    fun raw => .number rfl _
  have isGreater : Condition.Compares "0" .gt (.number ⟨.greaterThan, some "0", none⟩) :=
    .number rfl _
  have equal : staffCompiler.Selects () "superior.rating" erin
      (.number ⟨.equals, some "0", none⟩) := by
    refine (FilterCompiler.selects_comparison_iff resolved isEqual
      (parseValue_of_read (Or.inl parseNumber_zero)) erin).2 ?_
    decide +kernel
  obtain ⟨op, -, one⟩ := strict erin (.float ⟨true, 0⟩) (by decide +kernel) (by decide)
    (by decide +kernel)
  have op_eq : Comparison.eq = op := (one .eq (by decide) _ isEqual).1 equal
  refine ⟨equal, fun greater => ?_, ?_, ?_, ?_⟩
  · have also : Comparison.gt = op := (one .gt (by decide) _ isGreater).1 greater
    cases op_eq.trans also.symm
  · exact ((inclusive erin _ _ _ (isLess "0") isEqual isGreater).2 _ (.number rfl none)).2
      (Or.inr equal)
  · exact (null alice rfl).2 _ _ _ .number
  · intro row
    exact (monotone .lt (by decide +kernel) (by decide) row).1 _ _ (isLess "0") (isLess "0.5")

end RowQuery
