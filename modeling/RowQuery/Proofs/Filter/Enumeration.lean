import RowQuery.Proofs.Filter.Expression
import RowQuery.Proofs.Filter.Stated
import RowQuery.Proofs.Text.Bytes

/-!
# Enumerations of filter maps

A map keeps its entries in no order of its own, so that the same map may be enumerated in many ways.
None of them shows in what it compiles to: the entries in ascending order of their paths are the
same list for all of them, and that list decides both the filter and, where several entries are at
fault, the error. Paths and shapes come before bounds, whatever entries they belong to.
-/
namespace RowQuery
open Outcome

section
variable {α β ε : Type}

/-- Elements with keys of their own are in strictly ascending order after they are sorted by
keys. -/
theorem ascending_mergeSort (key : α → String) {xs : List α}
    (apart : xs.Pairwise fun a b => key a ≠ key b) :
    (xs.mergeSort fun a b => decide (key a ≤ key b)).Pairwise fun a b => key a < key b := by
  have ordered : (xs.mergeSort fun a b => decide (key a ≤ key b)).Pairwise
      fun a b => decide (key a ≤ key b) = true := by
    apply List.pairwise_mergeSort
    · intro a b c first second
      exact decide_eq_true (String.le_trans (of_decide_eq_true first) (of_decide_eq_true second))
    · intro a b
      simpa using String.le_total (key a) (key b)
  have apart : (xs.mergeSort fun a b => decide (key a ≤ key b)).Pairwise
      fun a b => key a ≠ key b :=
    apart.perm (List.mergeSort_perm _ _).symm fun different => different.symm
  refine (ordered.and apart).imp fun both => ?_
  obtain ⟨placed, different⟩ := both
  rw [← String.not_le]
  exact fun reverse => different (String.le_antisymm (of_decide_eq_true placed) reverse)

/-- A list in strictly ascending order is determined by what it holds. -/
theorem eq_of_ascending_of_perm (key : α → String) {xs ys : List α}
    (left : xs.Pairwise fun a b => key a < key b) (right : ys.Pairwise fun a b => key a < key b)
    (perm : xs.Perm ys) : xs = ys := by
  apply perm.eq_of_pairwise _ left right
  intro a b _ _ less greater
  exact absurd greater (String.lt_asymm less)

/-- A run over a list in ascending order fails with the error of the smallest key at which its step
does. -/
theorem mapM_failure_of_ascending {xs : List (String × α)} {f : String × α → Except ε β}
    (ascending : xs.Pairwise fun a b => a.1 < b.1) {error : ε} :
    xs.mapM f = .error error ↔
      ∃ x ∈ xs, f x = .error error ∧ ∀ y ∈ xs, ∀ other, f y = .error other → x.1 ≤ y.1 := by
  rw [mapM_failure]
  constructor
  · rintro ⟨before, x, after, rfl, earlier, failure⟩
    refine ⟨x, by simp, failure, fun y member other failed => ?_⟩
    obtain ⟨-, ascending, -⟩ := List.pairwise_append.1 ascending
    rcases List.mem_append.1 member with member | member
    · obtain ⟨z, succeeded⟩ := earlier y member
      cases succeeded.symm.trans failed
    · rcases List.mem_cons.1 member with rfl | member
      · exact String.le_refl _
      · have less : x.1 < y.1 := List.rel_of_pairwise_cons ascending member
        exact String.not_lt.1 (String.lt_asymm less)
  · rintro ⟨x, member, failure, smallest⟩
    obtain ⟨before, after, rfl⟩ := List.append_of_mem member
    refine ⟨before, x, after, rfl, fun y earlier => ?_, failure⟩
    have less : y.1 < x.1 := (List.pairwise_append.1 ascending).2.2 y earlier x List.mem_cons_self
    cases outcome : f y with
    | ok z => exact ⟨z, rfl⟩
    | error other =>
      have belongs : y ∈ before ++ x :: after := List.mem_append_left _ earlier
      exact absurd less (String.not_lt.2 (smallest y belongs other outcome))

end

/-! ## The order of entries -/

namespace FilterCompiler

theorem sortedEntries_ascending (filters : FilterMap) :
    (sortedEntries filters).Pairwise fun a b => a.1 < b.1 := by
  apply ascending_mergeSort Prod.fst
  refine List.pairwise_filterMap.2 ((List.pairwise_map.1 filters.nodup).imp ?_)
  intro a b different a' kept b' keptToo
  obtain ⟨_, -, rfl⟩ := Option.map_eq_some_iff.1 kept
  obtain ⟨_, -, rfl⟩ := Option.map_eq_some_iff.1 keptToo
  exact different

/-- However a map is enumerated, its entries come in the same order. -/
theorem sortedEntries_of_perm {filters other : FilterMap}
    (perm : other.entries.Perm filters.entries) : sortedEntries other = sortedEntries filters := by
  apply eq_of_ascending_of_perm Prod.fst (sortedEntries_ascending other)
    (sortedEntries_ascending filters)
  exact (List.mergeSort_perm _ _).trans
    ((perm.filterMap _).trans (List.mergeSort_perm _ _).symm)

end FilterCompiler

/-! ## Which error is reported -/

/-- An entry of a map fails with an error, and none that fails has a path of smaller bytes. -/
def FilterMap.FirstFailure (filters : FilterMap)
    (fails : String → FilterModel → FilterError → Prop) (error : FilterError) : Prop :=
  ∃ path model, (path, some model) ∈ filters.entries ∧ fails path model error ∧
    ∀ path' model' error', (path', some model') ∈ filters.entries → fails path' model' error' →
      Text.bytes path ≤ Text.bytes path'

theorem FilterMap.FirstFailure.congr {filters : FilterMap}
    {fails fails' : String → FilterModel → FilterError → Prop}
    (same : ∀ path model error, (path, some model) ∈ filters.entries →
      (fails path model error ↔ fails' path model error)) {error : FilterError}
    (first : filters.FirstFailure fails error) : filters.FirstFailure fails' error := by
  obtain ⟨path, model, member, failure, smallest⟩ := first
  refine ⟨path, model, member, (same path model error member).1 failure, ?_⟩
  intro path' model' error' member' failure'
  exact smallest path' model' error' member' ((same path' model' error' member').2 failure')

/-! ## Errors in bounds -/

/-- A bound is missing, or is no value of the type of its property. -/
def FilterError.OfBound : FilterError → Prop
  | missingFilterValue _ _ | invalidFilterValue _ _ => True
  | _ => False

section
variable {R : Type} {p : ResolvedProperty R} {error : FilterError}

/-- A bound is refused with the error that names it and the type. -/
theorem accept_failure {raw : String} {τ : ValueType} {read : Option τ.Carrier}
    (failure : accept raw τ read = .error error) : error = .invalidFilterValue raw τ := by
  cases read with
  | none =>
    cases failure
    rfl
  | some value => cases failure

theorem parseValue_failure {raw : String} {τ : ValueType}
    (failure : parseValue raw τ = .error error) : error = .invalidFilterValue raw τ := by
  unfold parseValue at failure
  split at failure
  · exact accept_failure failure
  · split at failure
    · exact accept_failure failure
    · exact accept_failure failure

theorem parseNumber_failure {raw : String} {τ : ValueType}
    (failure : parseNumber raw τ = .error error) : error = .invalidFilterValue raw τ := by
  unfold parseNumber at failure
  split at failure
  · exact accept_failure failure
  · exact parseValue_failure failure

theorem parseTemporal_failure {raw : String} {τ : ValueType}
    (failure : parseTemporal raw τ = .error error) : error = .invalidFilterValue raw τ := by
  unfold parseTemporal at failure
  split at failure
  · exact accept_failure failure
  · exact parseValue_failure failure

theorem requireBound_failure {parse : String → (τ : ValueType) → Except FilterError τ.Carrier}
    (parsing : ∀ {raw : String} {τ : ValueType}, parse raw τ = .error error →
      error = .invalidFilterValue raw τ)
    {field : BoundField} {operator : String} {bound : Option String}
    (failure : requireBound p parse field operator bound = .error error) : error.OfBound := by
  cases bound with
  | none =>
    cases failure
    trivial
  | some raw =>
    rw [parsing failure]
    trivial

theorem TextCondition.compile_failure {c : TextCondition} {ignoreCase : Bool}
    (failure : c.compile p ignoreCase = .error error) : error.OfBound := by
  rcases bind_failure.1 failure with failure | ⟨needle, -, failure⟩
  · unfold needle at failure
    split at failure
    · cases failure
    · cases failure
    · cases failure
    · cases failure
      trivial
  · cases failure

theorem DateCondition.compile_failure {c : DateCondition}
    (failure : c.compile p = .error error) : error.OfBound := by
  have bound {field : BoundField} {operator : String} {bound : Option String}
      (failure : requireBound p parseTemporal field operator bound = .error error) :
      error.OfBound := requireBound_failure parseTemporal_failure failure
  unfold compile at failure
  cases op : c.op with
  | equals | notEquals | lessThan | greaterThan =>
    rw [op] at failure
    exact bound (bind_pure_failure.1 failure)
  | inRange =>
    rw [op] at failure
    rcases bind_failure.1 failure with failure | ⟨_, -, failure⟩
    · exact bound failure
    · exact bound (bind_pure_failure.1 failure)
  | blank | empty | notBlank =>
    simp only [op, pure_ne_error] at failure

theorem NumberCondition.compile_failure {c : NumberCondition}
    (failure : c.compile p = .error error) : error.OfBound := by
  have bound {field : BoundField} {operator : String} {bound : Option String}
      (failure : requireBound p parseNumber field operator bound = .error error) :
      error.OfBound := requireBound_failure parseNumber_failure failure
  unfold compile at failure
  cases op : c.op with
  | equals | notEquals | lessThan | lessThanOrEqual | greaterThan | greaterThanOrEqual =>
    rw [op] at failure
    exact bound (bind_pure_failure.1 failure)
  | inRange =>
    rw [op] at failure
    rcases bind_failure.1 failure with failure | ⟨_, -, failure⟩
    · exact bound failure
    · exact bound (bind_pure_failure.1 failure)
  | blank | notBlank =>
    simp only [op, pure_ne_error] at failure

/-- Once its shape is settled, a condition is refused for its bounds alone. -/
theorem Condition.compile_failure {condition : Condition} {ignoreCase : Bool}
    (failure : condition.compile p ignoreCase = .error error) : error.OfBound := by
  cases condition with
  | text c => exact c.compile_failure failure
  | date c => exact c.compile_failure failure
  | number c => exact c.compile_failure failure
  | set c => cases failure

end

/-! ## Specifications of models -/

/-- The specification of a model is one condition, or holds some and all of its kind. -/
theorem FilterSpec.conditions_of_ofModel {model : FilterModel} {spec : FilterSpec}
    (shaped : ofModel model = .ok spec) :
    (∃ condition, spec = plain condition) ∨
    ∃ kind combinator first rest, spec = composite kind combinator (first :: rest) ∧
      ∀ condition ∈ first :: rest, condition.kind = kind := by
  cases ofModel_success.1 shaped with
  | @plain condition tagged single alone states => exact Or.inl ⟨condition, rfl⟩
  | @composite kind combinator conditions tagged joined listed each =>
    obtain ⟨first, rest, rfl⟩ := List.exists_cons_of_ne_nil (joined_ne_nil each listed)
    exact Or.inr ⟨kind, combinator, first, rest, rfl,
      fun condition member => (of_mem_joined each condition member).1⟩

namespace FilterCompiler
variable {c : Catalog} (compiler : FilterCompiler c) (e : c.Entity)

/-- An entry fails before any bound is read: its path leads nowhere or, if it does lead to a
property, its model has no shape. -/
def Unprepared (path : String) (model : FilterModel) (error : FilterError) : Prop :=
  c.resolve e path compiler.access = .error error ∨
    (∃ p, c.resolve e path compiler.access = .ok p) ∧ FilterSpec.ofModel model = .error error

variable {compiler e} {filters : FilterMap} {error : FilterError}

theorem prepare_failure {path : String} {model : FilterModel} :
    compiler.prepare e (path, model) = .error error ↔ compiler.Unprepared e path model error := by
  simp only [prepare, Unprepared, bind_failure, pure_ne_error, and_false, exists_false, or_false,
    exists_and_right]

/-- A run over the entries in their order reports the first failure. -/
theorem mapM_sortedEntries_failure {β : Type} {f : String × FilterModel → Except FilterError β} :
    (sortedEntries filters).mapM f = .error error ↔
      filters.FirstFailure (fun path model error' => f (path, model) = .error error') error := by
  rw [mapM_failure_of_ascending (sortedEntries_ascending filters)]
  simp only [Prod.exists, Prod.forall, mem_sortedEntries, FilterMap.FirstFailure,
    Text.bytes_le_iff]
  constructor
  · rintro ⟨path, model, member, failure, smallest⟩
    exact ⟨path, model, member, failure,
      fun path' model' error' belongs => smallest path' model' belongs error'⟩
  · rintro ⟨path, model, member, failure, smallest⟩
    exact ⟨path, model, member, failure,
      fun path' model' belongs error' => smallest path' model' error' belongs⟩

/-- All entries are prepared before a bound of any is read. -/
theorem mapM_prepare_succeeds_iff :
    (∃ prepared, (sortedEntries filters).mapM (compiler.prepare e) = .ok prepared) ↔
      ∀ path model, (path, some model) ∈ filters.entries →
        ∀ error', ¬ compiler.Unprepared e path model error' := by
  simp only [mapM_succeeds_iff, Prod.forall, mem_sortedEntries, ← prepare_failure]
  refine forall_congr' fun path => forall_congr' fun model => imp_congr_right fun _ => ?_
  cases compiler.prepare e (path, model) with
  | ok prepared => simp
  | error error' => simp

variable (compiler e) [DecidableEq c.Entity]

/-- An entry fails in a bound: the first of its conditions that does not compile is refused. -/
def Refused (path : String) (model : FilterModel) (error : FilterError) : Prop :=
  ∃ p spec, c.resolve e path compiler.access = .ok p ∧ FilterSpec.ofModel model = .ok spec ∧
    ∃ before condition after, spec.conditions = before ++ condition :: after ∧
      (∀ earlier ∈ before, ∃ f, compiler.compileCondition e p earlier = .ok f) ∧
      compiler.compileCondition e p condition = .error error

theorem compileAll_failure {p : ResolvedProperty (c.Row e)} {combinator : Combinator}
    {first : Condition} {rest : List Condition} :
    compiler.compileAll e p combinator first rest = .error error ↔
      (first :: rest).mapM (compiler.compileCondition e p) = .error error := by
  simp only [compileAll, bind_failure, foldlM_failure, mapM_cons_failure, exists_and_right]

/-- The specification of a model is refused where the run over its conditions is. -/
theorem compileResolved_failure {p : ResolvedProperty (c.Row e)} {model : FilterModel}
    {spec : FilterSpec} (shaped : FilterSpec.ofModel model = .ok spec) :
    compiler.compileResolved e p spec = .error error ↔
      spec.conditions.mapM (compiler.compileCondition e p) = .error error := by
  rcases FilterSpec.conditions_of_ofModel shaped with
    ⟨condition, rfl⟩ | ⟨kind, combinator, first, rest, rfl, alike⟩
  · rw [compileResolved, FilterSpec.conditions, mapM_cons_failure]
    simp [pure_ne_error]
  · rw [compiler.compileResolved_uniform e alike, compileAll_failure, FilterSpec.conditions]

variable {compiler e}

theorem Refused.ofBound {path : String} {model : FilterModel}
    (refused : compiler.Refused e path model error) : error.OfBound := by
  obtain ⟨_, _, -, -, _, _, _, -, -, failure⟩ := refused
  exact Condition.compile_failure failure

/-- A prepared entry is refused for a bound or not at all. -/
theorem refused_iff {path : String} {model : FilterModel}
    (ready : ∀ error', ¬ compiler.Unprepared e path model error') :
    compiler.Refused e path model error ↔
      (compiler.prepare e (path, model) >>= fun prepared =>
        compiler.compileResolved e prepared.1 prepared.2) = .error error := by
  rw [bind_failure, prepare_failure, or_iff_right (ready error)]
  simp only [Prod.exists, prepare_success, Refused]
  constructor
  · rintro ⟨p, spec, resolved, shaped, refused⟩
    exact ⟨p, spec, ⟨resolved, shaped⟩,
      (compiler.compileResolved_failure e shaped).2 (mapM_failure.2 refused)⟩
  · rintro ⟨p, spec, ⟨resolved, shaped⟩, failure⟩
    exact ⟨p, spec, resolved, shaped,
      mapM_failure.1 ((compiler.compileResolved_failure e shaped).1 failure)⟩

/-! ## Compiling maps -/

/-- Where all entries are prepared, the first bound that is refused decides; where some are not, the
first of these does, whatever is wrong with the bounds of others. -/
theorem compile_failure :
    compiler.compile e filters = .error error ↔
      filters.FirstFailure (compiler.Unprepared e) error ∨
      (∀ path model, (path, some model) ∈ filters.entries →
        ∀ error', ¬ compiler.Unprepared e path model error') ∧
        filters.FirstFailure (compiler.Refused e) error := by
  rw [compile, bind_failure, mapM_sortedEntries_failure]
  simp only [prepare_failure, foldlM_failure]
  apply or_congr_right
  constructor
  · rintro ⟨prepared, ready, failure⟩
    have allReady := mapM_prepare_succeeds_iff.1 ⟨prepared, ready⟩
    rw [mapM_mapM ready, mapM_sortedEntries_failure] at failure
    refine ⟨allReady, failure.congr fun path model error' member => ?_⟩
    exact (refused_iff (allReady path model member)).symm
  · rintro ⟨allReady, failure⟩
    obtain ⟨prepared, ready⟩ := mapM_prepare_succeeds_iff.2 allReady
    refine ⟨prepared, ready, ?_⟩
    rw [mapM_mapM ready, mapM_sortedEntries_failure]
    refine failure.congr fun path model error' member => ?_
    exact refused_iff (allReady path model member)

theorem compile_of_perm {other : FilterMap} (perm : other.entries.Perm filters.entries) :
    compiler.compile e other = compiler.compile e filters := by
  rw [compile, compile, sortedEntries_of_perm perm]

variable (compiler e filters)

/-- The outcome of compilation is determined by the entries of a map, in whatever order they are
enumerated: the filter, with its test and its condition, or the error. That error is the one of the
smallest path, by its bytes, whose entry is not prepared; if all are, it is the first error in a
bound, the paths being taken in ascending order and the conditions of each in theirs. -/
theorem compile_determined :
    (∀ other : FilterMap, other.entries.Perm filters.entries →
      compiler.compile e other = compiler.compile e filters) ∧
    (∀ error, compiler.compile e filters = .error error ↔
      filters.FirstFailure (compiler.Unprepared e) error ∨
      (∀ path model, (path, some model) ∈ filters.entries →
        ∀ error', ¬ compiler.Unprepared e path model error') ∧
        filters.FirstFailure (compiler.Refused e) error) ∧
    (∀ path model error, compiler.Refused e path model error → error.OfBound) :=
  ⟨fun _ perm => compile_of_perm perm, fun _ => compile_failure, fun _ _ _ => Refused.ofBound⟩

end FilterCompiler
end RowQuery
