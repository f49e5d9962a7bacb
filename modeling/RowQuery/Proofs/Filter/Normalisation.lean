import RowQuery.Proofs.Filter.Composite
import RowQuery.Proofs.Schema.Direct

/-!
# Normalisation of models

What the compiler checks again for specifications put together by hand is settled once a model has
one, so that the specification of a model is refused for its path or for a bound. A model that
holds conditions is never taken for a plain filter, whatever else it holds of one.
-/
namespace RowQuery
open Outcome

/-! ## What normalisation settles -/

namespace FilterSpec
namespace StatedBy
variable {model : FilterModel} {spec : FilterSpec}

theorem tag_names_kind (stated : StatedBy model spec) :
    ∃ tag ∈ model.filterType, spec.kind.NamedBy tag := by
  cases stated with
  | plain tagged => exact tagged
  | composite tagged => exact tagged

/-- One condition, or as many as the model has, in their order. -/
theorem shape (stated : StatedBy model spec) :
    (∃ condition, spec = .plain condition ∧ model.plainCondition.States condition ∧
      model.conditions = []) ∨
    ∃ combinator conditions, spec = .composite spec.kind combinator conditions ∧
      conditions ≠ [] ∧ conditions.length = model.conditions.length ∧
      List.Forall₂ ConditionModel.States model.conditions conditions := by
  cases stated with
  | @plain condition tagged single alone states => exact Or.inl ⟨condition, rfl, states, alone⟩
  | @composite kind combinator conditions tagged joined listed each =>
    exact Or.inr ⟨combinator, conditions, rfl, joined_ne_nil each listed, each.length_eq.symm,
      each.imp fun _ _ own => own.2.2⟩

theorem of_mem_conditions (stated : StatedBy model spec) :
    ∀ condition ∈ spec.conditions, condition.kind = spec.kind ∧ condition.NoEmptyBound := by
  cases stated with
  | plain tagged single alone states =>
    exact List.forall_mem_singleton.2 ⟨rfl, states.noEmptyBound⟩
  | composite tagged joined listed each => exact of_mem_joined each

end StatedBy

/-- The specification of a model is refused for its path or, if that leads to a property, for a
bound. -/
theorem compileSpec_failure_of_ofModel {model : FilterModel} {spec : FilterSpec}
    (shaped : ofModel model = .ok spec) {c : Catalog} [DecidableEq c.Entity]
    {compiler : FilterCompiler c} {e : c.Entity} {path : String} {error : FilterError}
    (failure : compiler.compileSpec e path spec = .error error) :
    c.resolve e path compiler.access = .error error ∧ error.OfPath path ∨
      (∃ p, c.resolve e path compiler.access = .ok p) ∧ error.OfBound := by
  rcases bind_failure.1 failure with lost | ⟨p, resolved, refused⟩
  · exact Or.inl ⟨lost, Catalog.resolve_failure path lost⟩
  · rw [compiler.compileResolved_failure e shaped, mapM_failure] at refused
    obtain ⟨_, condition, _, -, -, failed⟩ := refused
    exact Or.inr ⟨⟨p, resolved⟩, Condition.compile_failure failed⟩

/-- Once a model has a specification, its shape is settled: the kind is the one that its tag names,
and there is one condition, or there are as many as the model has, at least one, in their order,
all of that kind and none with an empty bound. Whatever compiles it, for any entity and under any
settings, refuses it for its path or, if that leads to a property, for a bound. -/
theorem ofModel_settles {model : FilterModel} {spec : FilterSpec}
    (shaped : ofModel model = .ok spec) :
    (∃ tag ∈ model.filterType, spec.kind.NamedBy tag) ∧
    ((∃ condition, spec = plain condition ∧ model.plainCondition.States condition ∧
        model.conditions = []) ∨
      ∃ combinator conditions, spec = composite spec.kind combinator conditions ∧
        conditions ≠ [] ∧ conditions.length = model.conditions.length ∧
        List.Forall₂ ConditionModel.States model.conditions conditions) ∧
    (∀ condition ∈ spec.conditions, condition.kind = spec.kind ∧ condition.NoEmptyBound) ∧
    ∀ (c : Catalog) [DecidableEq c.Entity] (compiler : FilterCompiler c) (e : c.Entity)
        (path : String) (error : FilterError),
      compiler.compileSpec e path spec = .error error →
        c.resolve e path compiler.access = .error error ∧ error.OfPath path ∨
        (∃ p, c.resolve e path compiler.access = .ok p) ∧ error.OfBound := by
  have stated := ofModel_success.1 shaped
  refine ⟨stated.tag_names_kind, stated.shape, stated.of_mem_conditions, ?_⟩
  intro c _ compiler e path error failure
  exact compileSpec_failure_of_ofModel shaped failure

end FilterSpec

/-- A rating above one half, or the one of a bound that was left empty. -/
def halfAsked : FilterModel where
  filterType := some " Number "
  combinator := some "OR"
  conditions := [{ operator := some "greaterThan", filter := some "0.5" },
    { filterType := some "number", operator := some "EQUALS", filter := some "" }]

/-- The empty text is no bound, for which the filter is refused on a path to a rating. On a path
that leads nowhere it is refused for the path. -/
theorem halfAsked_settled :
    ∃ spec, FilterSpec.ofModel halfAsked = .ok spec ∧ spec.kind = .number ∧
      (∀ condition ∈ spec.conditions, condition.NoEmptyBound) ∧
      staffCompiler.compileSpec () "superior.rating" spec =
        .error (.missingFilterValue .filter "Equals") ∧
      ∃ error, staffCompiler.compileSpec () "superior.wage" spec = .error error ∧
        error.OfPath "superior.wage" := by
  have shaped : FilterSpec.ofModel halfAsked =
      .ok (.composite .number .any [aboveHalf, .number ⟨.equals, none, none⟩]) := rfl
  obtain ⟨-, -, settled, refuses⟩ := FilterSpec.ofModel_settles shaped
  have lost : staffCompiler.compileSpec () "superior.wage"
      (.composite .number .any [aboveHalf, .number ⟨.equals, none, none⟩]) =
        .error (.propertyNotFound "Employee" "superior.wage" "wage") := rfl
  refine ⟨_, shaped, rfl, fun condition member => (settled condition member).2, rfl, _, lost, ?_⟩
  obtain ⟨-, blamed⟩ | ⟨⟨p, resolved⟩, -⟩ := refuses staff staffCompiler () _ _ lost
  · exact blamed
  · cases resolved

/-! ## Models with conditions -/

/-- The model with the operator, the bounds and the values of a plain filter in place of its own. -/
def FilterModel.withPlain (m : FilterModel) (plain : ConditionModel) : FilterModel :=
  { m with
    operator := plain.operator, filter := plain.filter, filterTo := plain.filterTo,
    dateFrom := plain.dateFrom, dateTo := plain.dateTo, values := plain.values }

namespace FilterSpec

/-- What a plain filter holds plays no part next to conditions. -/
theorem ofModel_withPlain {model : FilterModel} (listed : model.conditions ≠ [])
    (plain : ConditionModel) : ofModel (model.withPlain plain) = ofModel model := by
  have some : model.conditions.isEmpty = false := List.isEmpty_eq_false_iff.2 listed
  simp only [ofModel, FilterModel.withPlain, some, Bool.false_eq_true, if_false]

/-- A model of a known kind that holds conditions. Whatever else it holds of a plain filter changes
nothing. If no combinator is given, the model is malformed. With a combinator it has exactly the
specifications that join what its conditions state, in their order; it is malformed exactly if the
first condition that states nothing of the kind is tagged with another one. -/
theorem ofModel_listed {model : FilterModel} {kind : FilterKind}
    (tagged : ∃ tag ∈ model.filterType, kind.NamedBy tag) (listed : model.conditions ≠ []) :
    (∀ plain : ConditionModel, ofModel (model.withPlain plain) = ofModel model) ∧
    ((∀ word ∈ model.combinator, Text.trim word = "") →
      ofModel model = .error (.malformedFilter .missingCombinator)) ∧
    ∀ combinator : Combinator, (∃ word ∈ model.combinator, combinator.NamedBy word) →
      (∀ spec, ofModel model = .ok spec ↔ ∃ conditions,
        spec = composite kind combinator conditions ∧
          List.Forall₂ (Joins kind) model.conditions conditions) ∧
      ∀ cause, ofModel model = .error (.malformedFilter cause) ↔
        ∃ before m after, model.conditions = before ++ m :: after ∧
          (∀ earlier ∈ before, ∃ condition, Joins kind earlier condition) ∧
          ∃ own : FilterKind, (∃ tag ∈ m.filterType, own.NamedBy tag) ∧ own ≠ kind ∧
            cause = .strayCondition own kind := by
  have some : ¬ model.conditions.isEmpty = true := mt List.isEmpty_iff.1 listed
  refine ⟨ofModel_withPlain listed, fun single => ?_, fun combinator joined => ⟨fun spec => ?_,
    fun cause => ?_⟩⟩
  · rw [ofModel_of_single tagged single, if_neg some]
  · rw [ofModel_of_joined tagged joined, if_neg some, map_success]
    constructor
    · rintro ⟨conditions, run, rfl⟩
      exact ⟨conditions, rfl, mapM_conditionOfModel_success.1 run⟩
    · rintro ⟨conditions, rfl, each⟩
      exact ⟨conditions, mapM_conditionOfModel_success.2 each, rfl⟩
  · rw [ofModel_of_joined tagged joined, if_neg some, map_failure, mapM_failure]
    simp only [conditionOfModel_success, conditionOfModel_malformed]

end FilterSpec

/-- Employees with "li" in their names, next to the plain filter for the name of one of them. -/
def twofold : FilterModel where
  filterType := some "text"
  operator := some "equals"
  filter := some "Bob"
  combinator := some "and"
  conditions := [{ operator := some "contains", filter := some "li" }]

theorem twofold_listed :
    FilterSpec.ofModel twofold = .ok (.composite .text .all [.text ⟨.contains, some "li"⟩]) ∧
      FilterSpec.ofModel (twofold.withPlain { operator := some "nonsense" }) =
        FilterSpec.ofModel twofold := by
  have tagged : ∃ tag ∈ twofold.filterType, FilterKind.text.NamedBy tag :=
    ⟨"text", rfl, by decide⟩
  have joined : ∃ word ∈ twofold.combinator, Combinator.all.NamedBy word := ⟨"and", rfl, by decide⟩
  obtain ⟨unchanged, -, composes⟩ := FilterSpec.ofModel_listed tagged (List.cons_ne_nil _ _)
  have own : FilterSpec.Joins .text { operator := some "contains", filter := some "li" }
      (.text ⟨.contains, some "li"⟩) := ⟨nofun, rfl, ⟨"contains", rfl, rfl⟩, rfl⟩
  exact ⟨((composes .all joined).1 _).2 ⟨_, rfl, .cons own .nil⟩, unchanged _⟩

/-- A model that is both a plain and a composite filter is not refused. It selects an employee whom
its plain half leaves out. -/
theorem twofold_accepted :
    (¬ ∀ (model : FilterModel) (kind : FilterKind) (combinator : Combinator),
      (∃ tag ∈ model.filterType, kind.NamedBy tag) → model.operator.isSome = true →
      (∃ word ∈ model.combinator, combinator.NamedBy word) → model.conditions ≠ [] →
      ∃ cause, FilterSpec.ofModel model = .error (.malformedFilter cause)) ∧
    ∃ f g, staffCompiler.compileProperty () "name" twofold = .ok f ∧
      staffCompiler.compileProperty () "name"
        { twofold with combinator := none, conditions := [] } = .ok g ∧
      f.test alice = true ∧ g.test alice = false := by
  refine ⟨fun refused => ?_, _, _, rfl, rfl, by decide, by decide⟩
  obtain ⟨cause, malformed⟩ := refused twofold .text .all ⟨"text", rfl, by decide⟩ rfl
    ⟨"and", rfl, by decide⟩ (List.cons_ne_nil _ _)
  cases malformed

end RowQuery
