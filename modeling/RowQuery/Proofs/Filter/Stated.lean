import Mathlib.Data.List.Forall2
import RowQuery.Filter.Spec
import RowQuery.Proofs.Outcome
import RowQuery.Proofs.Text.Lowercase

/-!
# What models state

A model states a specification: its tag names a kind, and it is a plain condition of that kind or
joins conditions that all are. This is said here without regard to the order in which fields are
looked at, and a model has exactly the specification that it states.
-/
namespace RowQuery
open Outcome

/-- A run over a list maps its elements in their order. -/
theorem Outcome.mapM_success_iff_forall₂ {α β ε : Type} {f : α → Except ε β} {xs : List α}
    {ys : List β} : xs.mapM f = .ok ys ↔ List.Forall₂ (fun x y => f x = .ok y) xs ys := by
  induction xs generalizing ys with
  | nil => rw [mapM_nil_success, List.forall₂_nil_left_iff]
  | cons x xs ih =>
    simp only [mapM_cons_success, List.forall₂_cons_left_iff, ih]

/-! ## Names -/

/-- The text is the name of the kind, whatever the case and the blanks around it. -/
def FilterKind.NamedBy (kind : FilterKind) (raw : String) : Prop :=
  Text.asciiLowercase (Text.trim raw) = kind.name

/-- The text is the word of the combinator, whatever the case and the blanks around it. -/
def Combinator.NamedBy (combinator : Combinator) (raw : String) : Prop :=
  Text.asciiLowercase (Text.trim raw) = combinator.word

instance (kind : FilterKind) (raw : String) : Decidable (kind.NamedBy raw) :=
  inferInstanceAs (Decidable (_ = _))

instance (combinator : Combinator) (raw : String) : Decidable (combinator.NamedBy raw) :=
  inferInstanceAs (Decidable (_ = _))

/-- The first thing of a name is the thing of that name, if each has its own. -/
theorem find?_named {α : Type} {key : α → String} {all : List α} (complete : ∀ x, x ∈ all)
    (apart : ∀ x y, key x = key y → x = y) {name : String} {x : α} :
    (all.find? fun y => name == key y) = some x ↔ name = key x := by
  constructor
  · intro found
    have same := List.find?_some found
    exact eq_of_beq same
  · rintro rfl
    cases found : all.find? fun y => key x == key y with
    | none => exact absurd (beq_self_eq_true (key x)) (List.find?_eq_none.1 found x (complete x))
    | some y =>
      have same := List.find?_some found
      rw [apart x y (eq_of_beq same)]

theorem FilterKind.parse_success {raw : String} {kind : FilterKind} :
    FilterKind.parse raw = .ok kind ↔ kind.NamedBy raw := by
  have found : FilterKind.parse? raw = some kind ↔ kind.NamedBy raw :=
    find?_named (fun kind => by cases kind <;> decide)
      fun kind other => by cases kind <;> cases other <;> simp [FilterKind.name]
  refine Iff.trans ?_ found
  unfold FilterKind.parse
  cases FilterKind.parse? raw with
  | none => exact iff_of_false nofun nofun
  | some other => simp

theorem Combinator.parse_success {raw : String} {combinator : Combinator} :
    Combinator.parse raw = .ok combinator ↔ combinator.NamedBy raw := by
  have found : Combinator.parse? raw = some combinator ↔ combinator.NamedBy raw :=
    find?_named (fun combinator => by cases combinator <;> decide)
      fun combinator other => by cases combinator <;> cases other <;> simp [Combinator.word]
  refine Iff.trans ?_ found
  unfold Combinator.parse
  cases Combinator.parse? raw with
  | none => exact iff_of_false nofun nofun
  | some other => simp

/-- The empty text names nothing. -/
theorem FilterKind.not_namedBy_empty (kind : FilterKind) : ¬ kind.NamedBy "" := by
  cases kind <;> decide

theorem Combinator.trim_ne_empty {combinator : Combinator} {word : String}
    (named : combinator.NamedBy word) : Text.trim word ≠ "" := by
  intro blank
  rw [NamedBy, blank] at named
  cases combinator <;> exact absurd named (by decide)

theorem Text.trim_trim (s : String) : trim (trim s) = trim s := by
  rw [trim, toList_trim, (trimmed_trimChars s.toList).trimChars_eq, ← trim]

theorem Combinator.namedBy_trim {combinator : Combinator} {word : String} :
    combinator.NamedBy (Text.trim word) ↔ combinator.NamedBy word := by
  rw [NamedBy, NamedBy, Text.trim_trim]

theorem parseTag_success {tag : Option String} {kind : FilterKind} :
    parseTag tag = .ok kind ↔ ∃ name ∈ tag, kind.NamedBy name := by
  rw [parseTag, FilterKind.parse_success]
  cases tag with
  | none => simpa using kind.not_namedBy_empty
  | some name => simp

theorem checkTag_success {kind : FilterKind} {tag : Option String} :
    checkTag kind tag = .ok () ↔ ∀ name ∈ tag, kind.NamedBy name := by
  cases tag with
  | none => simp [checkTag]
  | some name =>
    rw [checkTag, bind_success]
    constructor
    · rintro ⟨own, parsed, same⟩
      split at same
      · rename_i alike
        simpa using alike ▸ FilterKind.parse_success.1 parsed
      · cases same
    · intro named
      exact ⟨kind, FilterKind.parse_success.2 (named name rfl), if_pos rfl⟩

/-- A tag of a condition is malformed exactly if it names another kind. -/
theorem checkTag_malformed {kind : FilterKind} {tag : Option String} {cause : Malformation} :
    checkTag kind tag = .error (.malformedFilter cause) ↔
      ∃ own : FilterKind, (∃ name ∈ tag, own.NamedBy name) ∧ own ≠ kind ∧
        cause = .strayCondition own kind := by
  cases tag with
  | none => simp [checkTag]
  | some name =>
    rw [checkTag, bind_failure]
    constructor
    · rintro (unknown | ⟨own, parsed, stray⟩)
      · unfold FilterKind.parse at unknown
        split at unknown <;> cases unknown
      · split at stray
        · cases stray
        · rename_i other
          cases stray
          exact ⟨own, ⟨name, rfl, FilterKind.parse_success.1 parsed⟩, other, rfl⟩
    · rintro ⟨own, ⟨_, same, named⟩, other, rfl⟩
      cases same
      exact Or.inr ⟨own, FilterKind.parse_success.2 named, if_neg other⟩

theorem parseCombinator_eq_some {word : Option String} {combinator : Combinator} :
    parseCombinator word = .ok (some combinator) ↔ ∃ w ∈ word, combinator.NamedBy w := by
  cases word with
  | none => simp [parseCombinator]
  | some w =>
    rw [parseCombinator, Option.map_some]
    dsimp only
    split
    · rename_i blank
      refine iff_of_false nofun ?_
      rintro ⟨_, same, named⟩
      cases same
      exact Combinator.trim_ne_empty named blank
    · rw [map_success]
      simp [Combinator.parse_success, Combinator.namedBy_trim]

theorem parseCombinator_eq_none {word : Option String} :
    parseCombinator word = .ok none ↔ ∀ w ∈ word, Text.trim w = "" := by
  cases word with
  | none => simp [parseCombinator]
  | some w =>
    rw [parseCombinator, Option.map_some]
    dsimp only
    split
    · rename_i blank
      simp [blank]
    · rename_i word
      rw [map_success]
      simp [word]

/-! ## Conditions -/

/-- The condition is the one that the model states: its operator, the fields that its kind has, and
no bound that is an empty text but for a text condition. -/
def ConditionModel.States (m : ConditionModel) : Condition → Prop
  | .text c => (∃ name ∈ m.operator, TextOp.parse name = .ok c.op) ∧ c.value = m.filter
  | .date c => (∃ name ∈ m.operator, DateOp.parse name = .ok c.op) ∧
      c.first = nonEmpty m.dateFrom ∧ c.last = nonEmpty m.dateTo
  | .number c => (∃ name ∈ m.operator, NumberOp.parse name = .ok c.op) ∧
      c.value = nonEmpty m.filter ∧ c.valueTo = nonEmpty m.filterTo
  | .set c => c.values = m.values.getD []

/-- No bound of a date or of a number is the empty text. -/
def Condition.NoEmptyBound : Condition → Prop
  | text _ | set _ => True
  | date c => c.first ≠ some "" ∧ c.last ≠ some ""
  | number c => c.value ≠ some "" ∧ c.valueTo ≠ some ""

theorem nonEmpty_ne_empty (bound : Option String) : nonEmpty bound ≠ some "" := by
  intro kept
  obtain ⟨-, different⟩ := Option.filter_eq_some_iff.1 kept
  exact absurd different (by decide)

theorem ConditionModel.States.noEmptyBound {m : ConditionModel} {condition : Condition}
    (states : m.States condition) : condition.NoEmptyBound := by
  cases condition with
  | text c | set c => trivial
  | date c =>
    obtain ⟨-, first, last⟩ := states
    exact ⟨first ▸ nonEmpty_ne_empty _, last ▸ nonEmpty_ne_empty _⟩
  | number c =>
    obtain ⟨-, value, valueTo⟩ := states
    exact ⟨value ▸ nonEmpty_ne_empty _, valueTo ▸ nonEmpty_ne_empty _⟩

/-- A reader of operators that refuses the empty text needs the operator to be there. -/
theorem parse_getD_success {α : Type} {parse : String → Except FilterError α} {op : α}
    (refuses : ∀ op, parse "" ≠ .ok op) {name : Option String} :
    parse (name.getD "") = .ok op ↔ ∃ given ∈ name, parse given = .ok op := by
  cases name with
  | none => simpa using refuses op
  | some given => simp

theorem TextOp.parse_empty (op : TextOp) : parse "" ≠ .ok op := nofun

theorem DateOp.parse_empty (op : DateOp) : parse "" ≠ .ok op := nofun

theorem NumberOp.parse_empty (op : NumberOp) : parse "" ≠ .ok op := nofun

/-- A model has a condition of a kind exactly if it states one. -/
theorem Condition.ofModel_success {kind : FilterKind} {m : ConditionModel} {condition : Condition} :
    ofModel kind m = .ok condition ↔ condition.kind = kind ∧ m.States condition := by
  constructor
  · intro success
    cases kind with
    | text =>
      obtain ⟨op, named, built⟩ := bind_success.1 success
      cases built
      exact ⟨rfl, (parse_getD_success TextOp.parse_empty).1 named, rfl⟩
    | date =>
      obtain ⟨op, named, built⟩ := bind_success.1 success
      cases built
      exact ⟨rfl, (parse_getD_success DateOp.parse_empty).1 named, rfl, rfl⟩
    | number =>
      obtain ⟨op, named, built⟩ := bind_success.1 success
      cases built
      exact ⟨rfl, (parse_getD_success NumberOp.parse_empty).1 named, rfl, rfl⟩
    | set =>
      cases success
      exact ⟨rfl, rfl⟩
  · rintro ⟨rfl, states⟩
    cases condition with
    | text c =>
      obtain ⟨named, value⟩ := states
      exact bind_success.2
        ⟨c.op, (parse_getD_success TextOp.parse_empty).2 named, by rw [← value]; rfl⟩
    | date c =>
      obtain ⟨named, first, last⟩ := states
      exact bind_success.2
        ⟨c.op, (parse_getD_success DateOp.parse_empty).2 named, by rw [← first, ← last]; rfl⟩
    | number c =>
      obtain ⟨named, value, valueTo⟩ := states
      exact bind_success.2
        ⟨c.op, (parse_getD_success NumberOp.parse_empty).2 named, by rw [← value, ← valueTo]; rfl⟩
    | set c =>
      rw [kind, ofModel, ← states]

/-- A condition is refused for its operator alone. -/
theorem Condition.ofModel_failure {kind : FilterKind} {m : ConditionModel} {error : FilterError}
    (failure : ofModel kind m = .error error) :
    ∃ operator, error = .unsupportedOperator kind operator := by
  cases kind with
  | text =>
    have refused := bind_pure_failure.1 failure
    unfold TextOp.parse at refused
    split at refused <;> cases refused
    exact ⟨_, rfl⟩
  | date =>
    have refused := bind_pure_failure.1 failure
    unfold DateOp.parse at refused
    split at refused <;> cases refused
    exact ⟨_, rfl⟩
  | number =>
    have refused := bind_pure_failure.1 failure
    unfold NumberOp.parse at refused
    split at refused <;> cases refused
    exact ⟨_, rfl⟩
  | set => cases failure

namespace FilterSpec

/-- The condition is what a model states within a filter of the kind: its tag, if it has one, is of
that kind as well. -/
def Joins (kind : FilterKind) (m : ConditionModel) (condition : Condition) : Prop :=
  (∀ tag ∈ m.filterType, kind.NamedBy tag) ∧ condition.kind = kind ∧ m.States condition

theorem conditionOfModel_success {kind : FilterKind} {m : ConditionModel} {condition : Condition} :
    conditionOfModel kind m = .ok condition ↔ Joins kind m condition := by
  rw [conditionOfModel, bind_success, Joins, ← checkTag_success, ← Condition.ofModel_success]
  constructor
  · rintro ⟨⟨⟩, checked, shaped⟩
    exact ⟨checked, shaped⟩
  · rintro ⟨checked, shaped⟩
    exact ⟨(), checked, shaped⟩

theorem mapM_conditionOfModel_success {kind : FilterKind} {models : List ConditionModel}
    {conditions : List Condition} :
    models.mapM (conditionOfModel kind) = .ok conditions ↔
      List.Forall₂ (Joins kind) models conditions := by
  simp only [mapM_success_iff_forall₂, conditionOfModel_success]

theorem conditionOfModel_malformed {kind : FilterKind} {m : ConditionModel} {cause : Malformation} :
    conditionOfModel kind m = .error (.malformedFilter cause) ↔
      ∃ own : FilterKind, (∃ tag ∈ m.filterType, own.NamedBy tag) ∧ own ≠ kind ∧
        cause = .strayCondition own kind := by
  rw [conditionOfModel, bind_failure, checkTag_malformed]
  refine or_iff_left ?_
  rintro ⟨_, -, failure⟩
  obtain ⟨_, named⟩ := Condition.ofModel_failure failure
  cases named

/-- What a model states: its tag names the kind, and it is a plain condition of that kind without
conditions to join, or there are conditions and a combinator that joins them. -/
inductive StatedBy (model : FilterModel) : FilterSpec → Prop where
  | plain {condition : Condition} (tagged : ∃ tag ∈ model.filterType, condition.kind.NamedBy tag)
      (single : ∀ word ∈ model.combinator, Text.trim word = "") (alone : model.conditions = [])
      (states : model.plainCondition.States condition) : StatedBy model (plain condition)
  | composite {kind : FilterKind} {combinator : Combinator} {conditions : List Condition}
      (tagged : ∃ tag ∈ model.filterType, kind.NamedBy tag)
      (joined : ∃ word ∈ model.combinator, combinator.NamedBy word)
      (listed : model.conditions ≠ [])
      (each : List.Forall₂ (Joins kind) model.conditions conditions) :
      StatedBy model (composite kind combinator conditions)

theorem ofModel_of_single {model : FilterModel} {kind : FilterKind}
    (tagged : ∃ tag ∈ model.filterType, kind.NamedBy tag)
    (single : ∀ word ∈ model.combinator, Text.trim word = "") :
    ofModel model =
      if model.conditions.isEmpty then (Condition.ofModel kind model.plainCondition).map plain
      else .error (.malformedFilter .missingCombinator) := by
  rw [ofModel, parseTag_success.2 tagged, parseCombinator_eq_none.2 single]
  change (if _ then _ else _) = _
  split <;> rfl

theorem ofModel_of_joined {model : FilterModel} {kind : FilterKind} {combinator : Combinator}
    (tagged : ∃ tag ∈ model.filterType, kind.NamedBy tag)
    (joined : ∃ word ∈ model.combinator, combinator.NamedBy word) :
    ofModel model =
      if model.conditions.isEmpty then .error (.malformedFilter .noConditions)
      else (model.conditions.mapM (conditionOfModel kind)).map (composite kind combinator) := by
  rw [ofModel, parseTag_success.2 tagged, parseCombinator_eq_some.2 joined]
  change (if _ then _ else _) = _
  split <;> rfl

/-- A model has exactly the specification that it states. -/
theorem ofModel_success {model : FilterModel} {spec : FilterSpec} :
    ofModel model = .ok spec ↔ StatedBy model spec := by
  constructor
  · intro success
    obtain ⟨kind, tag, rest⟩ := bind_success.1 success
    obtain ⟨word, combined, -⟩ := bind_success.1 rest
    have tagged := parseTag_success.1 tag
    -- The combinator alone tells the two shapes apart, whatever the other fields hold.
    cases word with
    | none =>
      have single := parseCombinator_eq_none.1 combined
      rw [ofModel_of_single tagged single] at success
      split at success
      · rename_i alone
        obtain ⟨condition, shaped, rfl⟩ := map_success.1 success
        obtain ⟨rfl, states⟩ := Condition.ofModel_success.1 shaped
        exact .plain tagged single (List.isEmpty_iff.1 alone) states
      · cases success
    | some combinator =>
      have joined := parseCombinator_eq_some.1 combined
      rw [ofModel_of_joined tagged joined] at success
      split at success
      · cases success
      · rename_i listed
        obtain ⟨conditions, each, rfl⟩ := map_success.1 success
        exact .composite tagged joined (fun none => listed (List.isEmpty_iff.2 none))
          (mapM_conditionOfModel_success.1 each)
  · intro stated
    cases stated with
    | plain tagged single alone states =>
      rw [ofModel_of_single tagged single, if_pos (List.isEmpty_iff.2 alone),
        Condition.ofModel_success.2 ⟨rfl, states⟩]
      rfl
    | composite tagged joined listed each =>
      rw [ofModel_of_joined tagged joined, if_neg (mt List.isEmpty_iff.1 listed)]
      exact map_success.2 ⟨_, mapM_conditionOfModel_success.2 each, rfl⟩

/-- Each condition that a model joins is of the kind, and none has an empty bound. -/
theorem of_mem_joined {kind : FilterKind} {models : List ConditionModel}
    {conditions : List Condition} (each : List.Forall₂ (Joins kind) models conditions) :
    ∀ condition ∈ conditions, condition.kind = kind ∧ condition.NoEmptyBound := by
  intro condition member
  obtain ⟨m, -, own⟩ := (mem_mapM_iff (mapM_conditionOfModel_success.2 each) condition).1 member
  obtain ⟨-, alike, states⟩ := conditionOfModel_success.1 own
  exact ⟨alike, states.noEmptyBound⟩

theorem joined_ne_nil {kind : FilterKind} {models : List ConditionModel}
    {conditions : List Condition} (each : List.Forall₂ (Joins kind) models conditions)
    (listed : models ≠ []) : conditions ≠ [] := by
  rintro rfl
  exact listed (List.length_eq_zero_iff.1 each.length_eq)

end FilterSpec
end RowQuery
