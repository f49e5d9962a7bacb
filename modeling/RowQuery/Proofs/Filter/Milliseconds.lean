import Mathlib.Data.Int.Order.Basic
import RowQuery.Proofs.Filter.Comparing
import RowQuery.Proofs.Filter.Composite

/-!
# Lengths of time in a database

A bound for a length of time is read to the nanosecond and compared so in memory, but bound to a
statement in milliseconds, the rest being cut off toward zero. Where a column holds the property in
whole milliseconds, the condition therefore asks about the bound without its rest. This makes a
difference in one place only: at the very value to which the bound is cut.
-/
namespace RowQuery
open Outcome
open Sql (Engine Cells Truth Clause Test)

/-- The order of two integers is settled by which of them is less and whether they are equal. -/
theorem compare_int_congr {a b a' b' : Int} (less : a < b ↔ a' < b') (equal : a = b ↔ a' = b') :
    compare a b = compare a' b' := by
  change compareOfLessAndEq a b = compareOfLessAndEq a' b'
  simp only [compareOfLessAndEq, less, equal]

namespace Duration

/-- A duration without what it has beyond whole milliseconds. -/
def cut (d : Duration) : Duration where
  nanos := d.millis * 1000000
  nanos_le := by
    refine Nat.le_trans ?_ d.nanos_le
    rw [millis, Int.natAbs_mul, Int.natAbs_tdiv]
    exact Nat.div_mul_le_self _ _

theorem cut_nanos (d : Duration) : d.cut.nanos = d.millis * 1000000 := rfl

theorem ext_nanos {d d' : Duration} (same : d.nanos = d'.nanos) : d = d' := by
  cases d
  cases d'
  cases same
  rfl

theorem nanos_sub_cut_lt (d : Duration) : (d.nanos - d.cut.nanos).natAbs < 1000000 := by
  have parts : d.millis * 1000000 + d.nanos.tmod 1000000 = d.nanos := Int.tdiv_mul_add_tmod _ _
  have above := Int.tmod_lt_of_pos d.nanos (show (0 : Int) < 1000000 by decide)
  have below := Int.lt_tmod_of_pos d.nanos (show (0 : Int) < 1000000 by decide)
  rw [cut_nanos]
  omega

variable {v : Duration} (whole : v.cut = v) (d : Duration)
include whole

theorem nanos_of_whole : v.nanos = v.millis * 1000000 := by
  rw [← cut_nanos, whole]

/-- Numbers of milliseconds compare as the durations without their rest. -/
theorem compare_millis_of_whole : compare v.millis d.millis = compare v.nanos d.cut.nanos := by
  rw [nanos_of_whole whole, cut_nanos]
  apply compare_int_congr <;> omega

/-- Whole milliseconds lie on one side of a bound and of what it is cut to, unless they are the
latter. -/
theorem compare_cut_of_ne (apart : v ≠ d.cut) :
    compare v.nanos d.nanos = compare v.nanos d.cut.nanos := by
  have near := d.nanos_sub_cut_lt
  have distinct : v.nanos ≠ d.cut.nanos := fun same => apart (ext_nanos same)
  rw [nanos_of_whole whole, cut_nanos] at distinct ⊢
  rw [cut_nanos] at near
  apply compare_int_congr <;> omega

end Duration

namespace Comparison

/-- A bound is cut to the wrong side for a comparison: of the value to which it is cut, the
comparison says one thing with the bound itself and another with what is left of it. -/
def Miscut (op : Comparison) (d : Duration) : Prop :=
  match op with
  | eq | ne => d.cut.nanos ≠ d.nanos
  | lt | ge => d.cut.nanos < d.nanos
  | le | gt => d.nanos < d.cut.nanos

instance (op : Comparison) (d : Duration) : Decidable (op.Miscut d) :=
  match op with
  | eq | ne => inferInstanceAs (Decidable (d.cut.nanos ≠ d.nanos))
  | lt | ge => inferInstanceAs (Decidable (d.cut.nanos < d.nanos))
  | le | gt => inferInstanceAs (Decidable (d.nanos < d.cut.nanos))

variable {op : Comparison} {d : Duration}

theorem not_miscut_of_whole (whole : d.cut = d) : ¬ op.Miscut d := by
  cases op <;> simp only [Miscut, whole] <;> omega

theorem accepts_cut_iff :
    op.accepts (some (compare d.cut.nanos d.nanos)) = op.accepts (some .eq) ↔ ¬ op.Miscut d := by
  rcases Int.lt_trichotomy d.cut.nanos d.nanos with less | same | greater
  · rw [compare_lt_iff_lt.2 less]
    cases op <;> simp [accepts, Miscut] <;> omega
  · rw [compare_eq_iff_eq.2 same]
    cases op <;> simp [accepts, Miscut] <;> omega
  · rw [compare_gt_iff_gt.2 greater]
    cases op <;> simp [accepts, Miscut] <;> omega

/-- A comparison of whole milliseconds with a bound comes out as with what the bound is cut to,
unless they are the latter and the bound is cut to the wrong side. -/
theorem holds_cut_iff {v : Duration} (whole : v.cut = v) :
    op.holds (some (.duration v)) (.duration d) = op.holds (some (.duration v)) (.duration d.cut) ↔
      ¬ (v = d.cut ∧ op.Miscut d) := by
  simp only [holds, Cell.compare?, Value.compare?]
  by_cases reached : v = d.cut
  · rw [reached, compare_eq_iff_eq.2 rfl, accepts_cut_iff]
    simp
  · rw [Duration.compare_cut_of_ne whole d reached]
    simp [reached]

end Comparison

/-! ## Columns of milliseconds -/

/-- A row holds whole milliseconds, or null, and its column their number. -/
structure ResolvedProperty.InMillis {R : Type} (p : ResolvedProperty R) (cells : Cells) (row : R) :
    Prop where
  null : p.get row = none → cells p.column = none
  whole : ∀ v, p.get row = some (.duration v) →
    v.cut = v ∧ cells p.column = some (.int v.millis)

section
variable {R : Type} {p : ResolvedProperty R} {db : Engine} {cells : Cells} {row : R}
  {op : Comparison} {bound : p.type.Carrier} {d : Duration}

theorem parseValue_duration {τ : ValueType} (timed : τ = .duration) {raw : String}
    (read : parseTemporal raw .duration = .ok d) :
    ∃ bound : τ.Carrier, parseValue raw τ = .ok bound ∧ Value.of τ bound = .duration d := by
  subst timed
  rw [parseTemporal_eq_parseValue] at read
  exact ⟨d, read, rfl⟩

theorem ResolvedProperty.get_duration (timed : p.type = .duration) {v : Value}
    (read : p.get row = some v) : ∃ u, v = .duration u := by
  have kind : v.kind = .duration := by rw [p.kind_of_get read, timed]; rfl
  cases v with
  | duration u => exact ⟨u, rfl⟩
  | _ => cases kind

theorem compareWith_test (written : Value.of p.type bound = .duration d) :
    (compareWith p op bound).test row = op.holds (p.get row) (.duration d) := by
  rw [compareWith, written]

namespace ResolvedProperty.InMillis
variable (stored : p.InMillis cells row) (timed : p.type = .duration)
include stored timed

/-- The condition compares the property with what its bound is cut to. -/
theorem eval_compareWith (lawful : db.Lawful) (written : Value.of p.type bound = .duration d) :
    (compareWith p op bound).condition.eval db cells = .holds ↔
      op.holds (p.get row) (.duration d.cut) = true := by
  rw [compareWith, Sql.Condition.eval_ofClause, written]
  cases read : p.get row with
  | none => exact op.eval_clause_null (stored.null read)
  | some v =>
    obtain ⟨u, rfl⟩ := p.get_duration timed read
    obtain ⟨whole, held⟩ := stored.whole u read
    have compared : (Value.int u.millis).compare? (.int d.millis) =
        some (compare u.nanos d.cut.nanos) :=
      congrArg some (Duration.compare_millis_of_whole whole d)
    exact op.eval_clause_some held fun op => lawful.verdict_eq _ op _ _ compared

theorem compareWith_agrees_iff (lawful : db.Lawful)
    (written : Value.of p.type bound = .duration d) :
    (compareWith p op bound).AgreesAt db cells row ↔
      ¬ (p.get row = some (.duration d.cut) ∧ op.Miscut d) := by
  rw [CompiledFilter.AgreesAt, compareWith_test written,
    stored.eval_compareWith timed lawful written, ← Bool.eq_iff_iff]
  cases read : p.get row with
  | none => simp [Comparison.holds, Cell.compare?]
  | some v =>
    obtain ⟨u, rfl⟩ := p.get_duration timed read
    rw [Comparison.holds_cut_iff (stored.whole u read).1]
    simp

theorem isNone_eq : (cells p.column).isNone = (p.get row).isNone := by
  cases read : p.get row with
  | none => rw [stored.null read]
  | some v =>
    obtain ⟨u, rfl⟩ := p.get_duration timed read
    rw [(stored.whole u read).2]
    rfl

theorem whenNull_agrees : (whenNull p).AgreesAt db cells row := by
  apply CompiledFilter.ofClause_agrees
  simp [Clause.eval, Test.eval, stored.isNone_eq timed]

theorem whenPresent_agrees : (whenPresent p).AgreesAt db cells row := by
  apply CompiledFilter.ofClause_agrees
  have present := congrArg (!·) (stored.isNone_eq timed)
  simp only [Option.not_isNone] at present
  simp [Clause.eval, Test.eval, present]

end ResolvedProperty.InMillis
end

/-- A condition, of numbers or of dates, that asks whether there is a value at all, whatever bounds
it carries. -/
inductive Condition.AsksPresence : Condition → Prop
  | number {o : NumberOp} (asks : o = .blank ∨ o = .notBlank) (value valueTo : Option String) :
    AsksPresence (.number ⟨o, value, valueTo⟩)
  | date {o : DateOp} (asks : o = .blank ∨ o = .empty ∨ o = .notBlank) (first last : Option String) :
    AsksPresence (.date ⟨o, first, last⟩)

theorem Condition.AsksPresence.compile {R : Type} {p : ResolvedProperty R} {condition : Condition}
    (asks : condition.AsksPresence) (ignoreCase : Bool) :
    condition.compile p ignoreCase = .ok (whenNull p) ∨
      condition.compile p ignoreCase = .ok (whenPresent p) := by
  cases asks with
  | number asks =>
    rcases asks with rfl | rfl
    · exact Or.inl rfl
    · exact Or.inr rfl
  | date asks =>
    rcases asks with rfl | rfl | rfl
    · exact Or.inl rfl
    · exact Or.inl rfl
    · exact Or.inr rfl

namespace FilterCompiler
variable {c : Catalog} [DecidableEq c.Entity]

/-- What conditions on a length of time mean in a database, where a column holds it in whole
milliseconds. Each one compiles whose bounds can be read. In memory it compares with the bounds, and
in the database with what they are cut to. The two forms of a comparison agree on every row but
those that hold the very value to which the bound is cut, where this is to the wrong side; a range
agrees where both of its comparisons do, and what asks whether there is a value at all agrees
everywhere. -/
theorem compileSpec_duration (compiler : FilterCompiler c) (e : c.Entity) (path : String)
    (p : ResolvedProperty (c.Row e)) (resolved : c.resolve e path compiler.access = .ok p)
    (timed : p.type = .duration) :
    (∀ condition raw op d, Condition.Compares raw op condition →
      parseTemporal raw .duration = .ok d →
      ∃ f, compiler.compileSpec e path (.plain condition) = .ok f ∧
        (∀ row, f.test row = op.holds (p.get row) (.duration d)) ∧
        ∀ db : Engine, db.Lawful → ∀ cells row, p.InMillis cells row →
          (f.condition.eval db cells = .holds ↔
            op.holds (p.get row) (.duration d.cut) = true) ∧
          (f.AgreesAt db cells row ↔ ¬ (p.get row = some (.duration d.cut) ∧ op.Miscut d))) ∧
    (∀ range low high lower upper first last, Condition.Spans low high lower upper range →
      parseTemporal low .duration = .ok first → parseTemporal high .duration = .ok last →
      ∃ f, compiler.compileSpec e path (.plain range) = .ok f ∧
        (∀ row, f.test row =
          (lower.holds (p.get row) (.duration first) && upper.holds (p.get row) (.duration last))) ∧
        ∀ db : Engine, db.Lawful → ∀ cells row, p.InMillis cells row →
          (f.condition.eval db cells = .holds ↔
            lower.holds (p.get row) (.duration first.cut) = true ∧
              upper.holds (p.get row) (.duration last.cut) = true) ∧
          (¬ (p.get row = some (.duration first.cut) ∧ lower.Miscut first) →
            ¬ (p.get row = some (.duration last.cut) ∧ upper.Miscut last) →
            f.AgreesAt db cells row)) ∧
    ∀ condition, Condition.AsksPresence condition →
      ∃ f, compiler.compileSpec e path (.plain condition) = .ok f ∧
        ∀ db : Engine, ∀ cells row, p.InMillis cells row → f.AgreesAt db cells row := by
  simp only [compileSpec_of_resolved resolved]
  refine ⟨?_, ?_, ?_⟩
  · intro condition raw op d compares read
    obtain ⟨bound, parsed, written⟩ := parseValue_duration timed read
    refine ⟨compareWith p op bound, compares.compile parsed, ?_, ?_⟩
    · exact fun row => compareWith_test written
    · intro db lawful cells row stored
      exact ⟨stored.eval_compareWith timed lawful written,
        stored.compareWith_agrees_iff timed lawful written⟩
  · intro range low high lower upper first last spans readLow readHigh
    obtain ⟨least, parsedLow, writtenLow⟩ := parseValue_duration timed readLow
    obtain ⟨most, parsedHigh, writtenHigh⟩ := parseValue_duration timed readHigh
    refine ⟨between p lower least upper most, spans.compile parsedLow parsedHigh, ?_, ?_⟩
    · intro row
      rw [← compareWith_test writtenLow, ← compareWith_test writtenHigh]
      rfl
    · intro db lawful cells row stored
      constructor
      · rw [between, CompiledFilter.both, Sql.Condition.eval_pair, Truth.join_all_eq_holds,
          stored.eval_compareWith timed lawful writtenLow,
          stored.eval_compareWith timed lawful writtenHigh]
      · intro lowerKept upperKept
        exact CompiledFilter.both_agrees
          ((stored.compareWith_agrees_iff timed lawful writtenLow).2 lowerKept)
          ((stored.compareWith_agrees_iff timed lawful writtenHigh).2 upperKept)
  · intro condition asks
    rcases asks.compile (p := p) (compiler.settings.ignoresCaseAt e p.name) with null | present
    · exact ⟨whenNull p, null, fun db cells row stored => stored.whenNull_agrees timed⟩
    · exact ⟨whenPresent p, present, fun db cells row stored => stored.whenPresent_agrees timed⟩

end FilterCompiler

/-! ## Laps -/

/-- A lap and its length of time, if it was taken. -/
structure Lap where
  span : Option Duration

def lapBuilder : SchemaBuilder (fun _ : Unit => Lap) Lap :=
  { : SchemaBuilder (fun _ : Unit => Lap) Lap}.optional "Span" .duration Lap.span

def laps : Catalog where
  Entity := Unit
  Row _ := Lap
  name _ := "Lap"
  schema _ :=
    match lapBuilder.build "Lap" with
    | .ok schema => schema
    | .error _ => .empty

instance : DecidableEq laps.Entity := inferInstanceAs (DecidableEq Unit)

def lapSpan : ResolvedProperty Lap where
  name := "Span"
  type := .duration
  nullable := true
  read := Lap.span
  column := ⟨none, "Span"⟩

def lapCompiler : FilterCompiler laps := { settings := {} }

theorem resolve_lapSpan : laps.resolve () "span" lapCompiler.access = .ok lapSpan := rfl

/-- The cells of a lap, its length in milliseconds. -/
def Lap.cells (lap : Lap) : Cells := fun column =>
  if column = lapSpan.column then lap.span.map fun d => .int d.millis else none

/-- A lap that took no time. -/
def instantLap : Lap := ⟨some default⟩

def halfMilli : Duration := ⟨500000, by decide⟩

theorem parseTemporal_halfMilli : parseTemporal "0:00:00.0005" .duration = .ok halfMilli := rfl

theorem instantLap_inMillis : lapSpan.InMillis instantLap.cells instantLap where
  null read := by cases read
  whole v read := by
    cases read
    exact ⟨rfl, rfl⟩

/-- Half a millisecond is cut to nothing. A lap that took no time is not longer than either, but
shorter than the former only: the forms of the one condition agree, and those of the other do not.
Where the lap is compared with a whole second, they agree again. -/
theorem instantLap_order :
    ∃ longer shorter within,
      lapCompiler.compileSpec () "span"
        (.plain (.number ⟨.greaterThan, some "0:00:00.0005", none⟩)) = .ok longer ∧
      lapCompiler.compileSpec () "span"
        (.plain (.date ⟨.lessThan, some "0:00:00.0005", none⟩)) = .ok shorter ∧
      lapCompiler.compileSpec () "span" (.plain (.number ⟨.lessThan, some "0:00:01", none⟩)) =
        .ok within ∧
      longer.AgreesAt .standard instantLap.cells instantLap ∧
      ¬ shorter.AgreesAt .standard instantLap.cells instantLap ∧
      within.AgreesAt .standard instantLap.cells instantLap := by
  obtain ⟨comparisons, -, -⟩ :=
    FilterCompiler.compileSpec_duration lapCompiler () "span" lapSpan resolve_lapSpan rfl
  have second : parseTemporal "0:00:01" .duration = .ok (⟨1000000000, by decide⟩ : Duration) := rfl
  obtain ⟨longer, builtLonger, -, longer_iff⟩ := comparisons
    (.number ⟨.greaterThan, some "0:00:00.0005", none⟩) _ .gt _ (.number rfl _)
    parseTemporal_halfMilli
  obtain ⟨shorter, builtShorter, -, shorter_iff⟩ := comparisons
    (.date ⟨.lessThan, some "0:00:00.0005", none⟩) _ .lt _ (.date rfl _) parseTemporal_halfMilli
  obtain ⟨within, builtWithin, -, within_iff⟩ := comparisons
    (.number ⟨.lessThan, some "0:00:01", none⟩) _ .lt _ (.number rfl _) second
  refine ⟨longer, shorter, within, builtLonger, builtShorter, builtWithin, ?_, ?_, ?_⟩
  · apply (longer_iff _ Engine.standard_lawful _ _ instantLap_inMillis).2.2
    rintro ⟨-, below⟩
    exact absurd below (by decide)
  · intro agrees
    exact (shorter_iff _ Engine.standard_lawful _ _ instantLap_inMillis).2.1 agrees
      ⟨rfl, by decide⟩
  · apply (within_iff _ Engine.standard_lawful _ _ instantLap_inMillis).2.2
    exact fun miscut => Comparison.not_miscut_of_whole (by decide) miscut.2

/-- In the database a lap that took no time took half a millisecond, and in memory it did not. -/
theorem instantLap_disagrees :
    ∃ f, lapCompiler.compileSpec () "span"
        (.plain (.number ⟨.equals, some "0:00:00.0005", none⟩)) = .ok f ∧
      lapSpan.InMillis instantLap.cells instantLap ∧ f.test instantLap = false ∧
      f.condition.eval .standard instantLap.cells = .holds :=
  ⟨compareWith lapSpan .eq halfMilli, rfl, instantLap_inMillis, by decide +kernel,
    by decide +kernel⟩

end RowQuery
