import RowQuery.Proofs.Filter.Normalisation
import RowQuery.Proofs.Filter.Trichotomy

/-!
# Date and number filters in each other's place

What a date filter and a number filter can both be asked for, they do alike on a property of any
type, down to the error for a bound that cannot be read. That is due to the readers of bounds. Each
of the three reads the types it is made for and hands the others on; a text that is handed on
arrives after two steps at most, and wherever it is read, all three answer with what is read there.
-/
namespace RowQuery
open Outcome

/-! ## The readers of bounds -/

/-- The three readers, by the bounds that they are made for. -/
inductive BoundReader where
  | number | date | any
  deriving DecidableEq, Repr

namespace BoundReader

def parse : BoundReader → String → (τ : ValueType) → Except FilterError τ.Carrier
  | number => parseNumber
  | date => parseTemporal
  | any => parseValue

/-- The reader to which a reader hands on the bounds of a type, if it does not read them itself. -/
def next? (τ : ValueType) : BoundReader → Option BoundReader
  | number => if τ.isNumeric then none else some any
  | date => if τ.isTemporal then none else some any
  | any => if τ.isNumeric then some number else if τ.isTemporal then some date else none

/-- What a reader that hands nothing on makes of a text. -/
def read? (raw : String) (τ : ValueType) : BoundReader → Option τ.Carrier
  | number => τ.readNumber? (Text.trimChars raw.toList)
  | date => τ.readTemporal? (Text.trimChars raw.toList)
  | any => τ.readPlain? raw

/-- How many more readers a text can come to. -/
def rank (τ : ValueType) : BoundReader → Nat
  | number => if τ.isNumeric then 0 else 2
  | date => if τ.isTemporal then 0 else 2
  | any => 1

theorem rank_lt_of_next? {τ : ValueType} {reader other : BoundReader}
    (next : reader.next? τ = some other) : other.rank τ < reader.rank τ := by
  cases reader with
  | number =>
    simp only [next?] at next
    split at next
    · cases next
    · rename_i foreign
      cases next
      simp [rank, foreign]
  | date =>
    simp only [next?] at next
    split at next
    · cases next
    · rename_i foreign
      cases next
      simp [rank, foreign]
  | any =>
    simp only [next?] at next
    split at next
    · rename_i numeric
      cases next
      simp [rank, numeric]
    · split at next
      · rename_i temporal
        cases next
        simp [rank, temporal]
      · cases next

/-- No text is handed on without end. -/
theorem next?_wellFounded (τ : ValueType) :
    WellFounded fun other reader : BoundReader => reader.next? τ = some other :=
  Subrelation.wf rank_lt_of_next? (measure (rank τ)).wf

/-- A reader answers with what it reads itself, or with the answer of the reader to which it hands
the text on. -/
theorem parse_eq (reader : BoundReader) (raw : String) (τ : ValueType) :
    reader.parse raw τ =
      match reader.next? τ with
      | some other => other.parse raw τ
      | none => accept raw τ (reader.read? raw τ) := by
  cases reader with
  | number =>
    by_cases numeric : τ.isNumeric
    · simp only [parse, parseNumber, next?, if_pos numeric, read?]
    · simp only [parse, parseNumber, next?, if_neg numeric]
  | date =>
    by_cases temporal : τ.isTemporal
    · simp only [parse, parseTemporal, next?, if_pos temporal, read?]
    · simp only [parse, parseTemporal, next?, if_neg temporal]
  | any =>
    by_cases numeric : τ.isNumeric
    · simp only [parse, parseValue, parseNumber, next?, if_pos numeric]
    · by_cases temporal : τ.isTemporal
      · simp only [parse, parseValue, parseTemporal, next?, if_neg numeric, if_pos temporal]
      · simp only [parse, parseValue, next?, if_neg numeric, if_neg temporal, read?]

/-- All readers agree. -/
theorem parse_eq_parseValue (reader : BoundReader) (raw : String) (τ : ValueType) :
    reader.parse raw τ = parseValue raw τ := by
  cases reader with
  | number => exact parseNumber_eq_parseValue raw τ
  | date => exact parseTemporal_eq_parseValue raw τ
  | any => rfl

end BoundReader

/-! ## Operators -/

/-- An operator of dates and of numbers. -/
inductive SharedOp where
  | equals | notEquals | lessThan | greaterThan | blank | notBlank
  deriving DecidableEq, Repr

namespace SharedOp

def date : SharedOp → DateOp
  | equals => .equals
  | notEquals => .notEquals
  | lessThan => .lessThan
  | greaterThan => .greaterThan
  | blank => .blank
  | notBlank => .notBlank

def number : SharedOp → NumberOp
  | equals => .equals
  | notEquals => .notEquals
  | lessThan => .lessThan
  | greaterThan => .greaterThan
  | blank => .blank
  | notBlank => .notBlank

theorem spellings_eq (op : SharedOp) : op.date.spellings = op.number.spellings := by
  cases op <;> rfl

end SharedOp

/-- The operator that a text names is the one of which it is a spelling, whatever the order in which
operators are tried, if no spelling belongs to two of them. -/
theorem findNamed_eq_some_iff {α : Type} {all : List α} {names : α → List String}
    (complete : ∀ op, op ∈ all)
    (apart : ∀ op ∈ all, ∀ other ∈ all, ∀ m ∈ names op, ∀ n ∈ names other,
      Text.equalIgnoringAsciiCase m n = true → op = other) {raw : String} {op : α} :
    findNamed all names raw = some op ↔
      ∃ n ∈ names op, Text.equalIgnoringAsciiCase (Text.trim raw) n = true := by
  unfold findNamed
  constructor
  · intro found
    simpa using List.find?_some found
  · rintro ⟨n, listed, named⟩
    cases found : all.find? fun op =>
        (names op).any fun n => Text.equalIgnoringAsciiCase (Text.trim raw) n with
    | none =>
      have unnamed := List.find?_eq_none.1 found op (complete op)
      exact absurd (List.any_eq_true.2 ⟨n, listed, named⟩) unnamed
    | some other =>
      have matched := List.find?_some found
      obtain ⟨m, listedToo, namedToo⟩ := List.any_eq_true.1 matched
      have alike : Text.equalIgnoringAsciiCase n m = true := by
        unfold Text.equalIgnoringAsciiCase at named namedToo ⊢
        exact beq_iff_eq.2 ((beq_iff_eq.1 named).symm.trans (beq_iff_eq.1 namedToo))
      rw [apart op (complete op) other (complete other) n listed m listedToo alike]

theorem DateOp.parse_success {raw : String} {op : DateOp} :
    parse raw = .ok op ↔
      ∃ n ∈ op.spellings, Text.equalIgnoringAsciiCase (Text.trim raw) n = true := by
  have found : findNamed all spellings raw = some op ↔ _ :=
    findNamed_eq_some_iff (fun op => by cases op <;> decide) (by decide +kernel)
  rw [← found, parse]
  cases findNamed all spellings raw <;> simp

theorem NumberOp.parse_success {raw : String} {op : NumberOp} :
    parse raw = .ok op ↔
      ∃ n ∈ op.spellings, Text.equalIgnoringAsciiCase (Text.trim raw) n = true := by
  have found : findNamed all spellings raw = some op ↔ _ :=
    findNamed_eq_some_iff (fun op => by cases op <;> decide) (by decide +kernel)
  rw [← found, parse]
  cases findNamed all spellings raw <;> simp

/-- A text names an operator for dates exactly if it names it for numbers. -/
theorem SharedOp.parse_date_iff (op : SharedOp) (word : String) :
    DateOp.parse word = .ok op.date ↔ NumberOp.parse word = .ok op.number := by
  rw [DateOp.parse_success, NumberOp.parse_success, op.spellings_eq]

/-! ## Conditions -/

namespace SharedOp
variable {R : Type} (p : ResolvedProperty R) (op : SharedOp) (raw : String)

theorem compile_date_eq_number (last valueTo : Option String) :
    DateCondition.compile p ⟨op.date, some raw, last⟩ =
      NumberCondition.compile p ⟨op.number, some raw, valueTo⟩ := by
  have bound : parseTemporal raw p.type = parseNumber raw p.type := by
    rw [parseTemporal_eq_parseValue, parseNumber_eq_parseValue]
  cases op with
  | equals | notEquals | lessThan | greaterThan =>
    simp only [DateCondition.compile, NumberCondition.compile, date, number, requireBound, bound]
  | blank | notBlank => rfl

theorem compile_number_cases (valueTo : Option String) :
    (∃ f, NumberCondition.compile p ⟨op.number, some raw, valueTo⟩ = .ok f) ∨
      NumberCondition.compile p ⟨op.number, some raw, valueTo⟩ =
        .error (.invalidFilterValue raw p.type) := by
  have compares {condition : NumberCondition} {o : Comparison} (given : condition.value = some raw)
      (asks : condition.op.comparison? = some o) :
      (∃ f, condition.compile p = .ok f) ∨
        condition.compile p = .error (.invalidFilterValue raw p.type) := by
    rw [NumberCondition.compile_comparison asks, given, requireBound, parseNumber_eq_parseValue]
    cases read : parseValue raw p.type with
    | ok bound => exact Or.inl ⟨compareWith p o bound, rfl⟩
    | error error => exact Or.inr (congrArg _ (parseValue_failure read))
  cases op with
  | equals | notEquals | lessThan | greaterThan => exact compares rfl rfl
  | blank => exact Or.inl ⟨whenNull p, rfl⟩
  | notBlank => exact Or.inl ⟨whenPresent p, rfl⟩

end SharedOp

/-! ## Filters -/

/-- The date filter of an operator and a bound, as it arrives. -/
def dateModel (word bound : String) : FilterModel :=
  { filterType := some "date", operator := some word, dateFrom := some bound }

/-- The number filter of an operator and a bound, as it arrives. -/
def numberModel (word bound : String) : FilterModel :=
  { filterType := some "number", operator := some word, filter := some bound }

theorem nonEmpty_of_ne {bound : String} (given : bound ≠ "") :
    nonEmpty (some bound) = some bound := by
  simp [nonEmpty, given]

section
variable {op : SharedOp} {word bound : String} (given : bound ≠ "")
include given

theorem ofModel_dateModel (named : DateOp.parse word = .ok op.date) :
    FilterSpec.ofModel (dateModel word bound) =
      .ok (.plain (.date ⟨op.date, some bound, none⟩)) := by
  have tagged : FilterKind.date.NamedBy "date" := by decide
  exact FilterSpec.ofModel_success.2 <| .plain ⟨"date", rfl, tagged⟩ nofun rfl
    ⟨⟨word, rfl, named⟩, (nonEmpty_of_ne given).symm, rfl⟩

theorem ofModel_numberModel (named : NumberOp.parse word = .ok op.number) :
    FilterSpec.ofModel (numberModel word bound) =
      .ok (.plain (.number ⟨op.number, some bound, none⟩)) := by
  have tagged : FilterKind.number.NamedBy "number" := by decide
  exact FilterSpec.ofModel_success.2 <| .plain ⟨"number", rfl, tagged⟩ nofun rfl
    ⟨⟨word, rfl, named⟩, (nonEmpty_of_ne given).symm, rfl⟩

end

namespace FilterCompiler
variable {c : Catalog} [DecidableEq c.Entity]

theorem compileSpec_date_eq_number (compiler : FilterCompiler c) (e : c.Entity) (path : String)
    (op : SharedOp) (raw : String) (last valueTo : Option String) :
    compiler.compileSpec e path (.plain (.date ⟨op.date, some raw, last⟩)) =
      compiler.compileSpec e path (.plain (.number ⟨op.number, some raw, valueTo⟩)) := by
  unfold compileSpec
  refine congrArg _ (funext fun p => ?_)
  exact op.compile_date_eq_number p raw last valueTo

/-- Date and number filters are interchangeable where their operators overlap. On any path and under
any settings, a date condition and a number condition with one operator and one bound have the same
outcome: the same filter, test and condition, or the same error. If the path leads to a property,
that error is the one for a bound that the type of the property does not read. As filters arrive, a
word names the operator for dates exactly if it does for numbers, and with a bound that is not empty
their outcomes are the same again. It is so because the readers of bounds, each of which reads a
text or hands it on, hand none on without end and agree on every text and type. -/
theorem compileSpec_interchangeable (compiler : FilterCompiler c) (e : c.Entity) (path : String)
    (op : SharedOp) (raw : String) :
    (∀ last valueTo, compiler.compileSpec e path (.plain (.date ⟨op.date, some raw, last⟩)) =
      compiler.compileSpec e path (.plain (.number ⟨op.number, some raw, valueTo⟩))) ∧
    (∀ p valueTo, c.resolve e path compiler.access = .ok p →
      (∃ f, compiler.compileSpec e path (.plain (.number ⟨op.number, some raw, valueTo⟩)) =
        .ok f) ∨
      compiler.compileSpec e path (.plain (.number ⟨op.number, some raw, valueTo⟩)) =
        .error (.invalidFilterValue raw p.type)) ∧
    (∀ word, (DateOp.parse word = .ok op.date ↔ NumberOp.parse word = .ok op.number) ∧
      (DateOp.parse word = .ok op.date → raw ≠ "" →
        compiler.compileProperty e path (dateModel word raw) =
          compiler.compileProperty e path (numberModel word raw))) ∧
    ∀ τ : ValueType,
      (WellFounded fun other reader : BoundReader => reader.next? τ = some other) ∧
      ∀ reader : BoundReader,
        reader.parse raw τ = (match reader.next? τ with
          | some other => other.parse raw τ
          | none => accept raw τ (reader.read? raw τ)) ∧
        reader.parse raw τ = parseValue raw τ := by
  refine ⟨compiler.compileSpec_date_eq_number e path op raw, fun p valueTo resolved => ?_,
    fun word => ⟨op.parse_date_iff word, fun named given => ?_⟩, fun τ =>
    ⟨BoundReader.next?_wellFounded τ, fun reader =>
      ⟨reader.parse_eq raw τ, reader.parse_eq_parseValue raw τ⟩⟩⟩
  · rw [compileSpec_of_resolved resolved]
    exact op.compile_number_cases p raw valueTo
  · have namedToo := (op.parse_date_iff word).1 named
    rw [compileProperty, compileProperty, ofModel_dateModel given named,
      ofModel_numberModel given namedToo]
    exact compiler.compileSpec_date_eq_number e path op raw none none

end FilterCompiler

/-- A rating is asked for as a date: what can be read as one half is, and a day is refused as the
rating that it is not. -/
theorem ratedSince_interchangeable :
    staffCompiler.compileProperty () "superior.rating" (dateModel " GREATERTHAN " "0.5") =
      staffCompiler.compileProperty () "superior.rating" (numberModel " GREATERTHAN " "0.5") ∧
    staffCompiler.compileSpec () "superior.rating"
      (.plain (.date ⟨.lessThan, some "2024-02-29", none⟩)) =
        .error (.invalidFilterValue "2024-02-29" .float32) := by
  have resolved : staff.resolve () "superior.rating" staffCompiler.access = .ok superiorRating :=
    rfl
  have named : DateOp.parse " GREATERTHAN " = .ok SharedOp.greaterThan.date := rfl
  obtain ⟨-, -, models, -⟩ := FilterCompiler.compileSpec_interchangeable staffCompiler ()
    "superior.rating" .greaterThan "0.5"
  obtain ⟨same, outcome, -, -⟩ := FilterCompiler.compileSpec_interchangeable staffCompiler ()
    "superior.rating" .lessThan "2024-02-29"
  refine ⟨(models " GREATERTHAN ").2 named (by decide), ?_⟩
  rcases outcome superiorRating none resolved with ⟨f, compiled⟩ | refused
  · cases compiled
  · exact (same none none).trans refused

end RowQuery
