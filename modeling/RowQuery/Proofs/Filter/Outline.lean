import RowQuery.Proofs.Filter.Enumeration
import RowQuery.Proofs.Sql.Erasure

/-!
# Outlines of filters

What filters ask apart from the values they ask about: the kinds and operators of their conditions,
and how these are joined. Filters of one outline compile to conditions that differ in nothing but
their bounds, for every value that a filter brings with it becomes a bound.
-/
namespace RowQuery
open Outcome

/-- A condition without its values. Of a set remain the number of different texts, and whether it
holds null. -/
inductive ConditionOutline where
  | text (op : TextOp)
  | date (op : DateOp)
  | number (op : NumberOp)
  | set (texts : Nat) (null : Bool)
  deriving DecidableEq, Repr

/-- A specification without its values. -/
inductive FilterOutline where
  | plain (c : ConditionOutline)
  | composite (kind : FilterKind) (combinator : Combinator) (conditions : List ConditionOutline)
  deriving DecidableEq, Repr

def Condition.outline : Condition → ConditionOutline
  | text c => .text c.op
  | date c => .date c.op
  | number c => .number c.op
  | set c => .set (c.values.filterMap id).eraseDups.length (c.values.contains none)

def FilterSpec.outline : FilterSpec → FilterOutline
  | plain c => .plain c.outline
  | composite kind combinator conditions =>
    .composite kind combinator (conditions.map Condition.outline)

/-- The outline of a model that states a specification. -/
def FilterModel.outline? (m : FilterModel) : Option FilterOutline :=
  (FilterSpec.ofModel m).toOption.map FilterSpec.outline

/-- The paths of a map, each with the outline of its filter if it has one. -/
def FilterMap.outline (m : FilterMap) : List (String × Option (Option FilterOutline)) :=
  m.entries.map fun entry => (entry.1, entry.2.map FilterModel.outline?)

variable {R : Type}

/-- The condition of a filter with its bounds erased. -/
def CompiledFilter.erased (f : CompiledFilter R) : Sql.Condition := f.condition.erase

namespace CompiledFilter

theorem erased_ofClause (test : Predicate R) (clause : Sql.Clause) :
    erased ⟨test, .ofClause clause⟩ = .ofClause clause.erase := by
  rw [erased, Sql.Condition.erase_ofClause]

theorem erased_both (f g : CompiledFilter R) :
    (f.both g).erased = .pair .all f.erased g.erased :=
  Sql.Condition.erase_pair .all f.condition g.condition

theorem erased_join (combinator : Combinator) (f g : CompiledFilter R) :
    (f.join combinator g).erased = .pair combinator f.erased g.erased := by
  cases combinator with
  | all => exact Sql.Condition.erase_pair .all f.condition g.condition
  | any => exact Sql.Condition.erase_pair .any f.condition g.condition

theorem erased_foldl_join (combinator : Combinator) (parts : List (CompiledFilter R))
    (start : CompiledFilter R) :
    (parts.foldl (join combinator) start).erased =
      (parts.map erased).foldl (.pair combinator) start.erased := by
  induction parts generalizing start with
  | nil => rfl
  | cons part parts ih => rw [List.foldl_cons, ih, erased_join, List.map_cons, List.foldl_cons]

theorem erased_foldl_both (parts : List (CompiledFilter R)) (start : CompiledFilter R) :
    (parts.foldl both start).erased = (parts.map erased).foldl (.pair .all) start.erased :=
  erased_foldl_join .all parts start

end CompiledFilter

/-! ## Conditions -/

section
variable {p : ResolvedProperty R}

/-- Values of one type are bound with one type. -/
theorem erase_ofValue_of {τ : ValueType} (v w : τ.Carrier) :
    (Sql.Param.ofValue (.of τ v)).erase = (Sql.Param.ofValue (.of τ w)).erase := by
  cases τ <;> simp only [Value.of, Sql.Param.ofValue, Sql.Param.erase]

theorem erased_compareWith (op : Comparison) (v w : p.type.Carrier) :
    (compareWith p op v).erased = (compareWith p op w).erased := by
  have bound := erase_ofValue_of v w
  rw [compareWith, compareWith, CompiledFilter.erased_ofClause, CompiledFilter.erased_ofClause]
  cases op <;>
    simp only [Comparison.clause, Sql.Clause.erase, Sql.Test.erase, bound]

theorem erased_between (lower upper : Comparison) (v w v' w' : p.type.Carrier) :
    (between p lower v upper v').erased = (between p lower w upper w').erased := by
  rw [between, between, CompiledFilter.erased_both, CompiledFilter.erased_both,
    erased_compareWith lower v w, erased_compareWith upper v' w']

/-- What is built in one way from whatever bound was read does not tell which one that was. -/
theorem erased_of_bound {build build' : p.type.Carrier → CompiledFilter R}
    (alike : ∀ v w, (build v).erased = (build' w).erased)
    {step step' : Except FilterError p.type.Carrier} {f f' : CompiledFilter R}
    (compiled : (step >>= fun v => pure (build v)) = .ok f)
    (compiled' : (step' >>= fun w => pure (build' w)) = .ok f') : f.erased = f'.erased := by
  obtain ⟨v, -, built⟩ := bind_success.1 compiled
  obtain ⟨w, -, built'⟩ := bind_success.1 compiled'
  cases built
  cases built'
  exact alike v w

theorem TextOp.erase_clause (op : TextOp) (needle other : String) (ignoreCase : Bool) :
    (op.clause p needle ignoreCase).erase = (op.clause p other ignoreCase).erase := by
  cases op <;> simp only [clause, Sql.Clause.erase, Sql.Test.erase, Sql.Param.erase]

theorem TextCondition.erased_of_op {c c' : TextCondition} (same : c.op = c'.op)
    {ignoreCase : Bool} {f f' : CompiledFilter R} (compiled : c.compile p ignoreCase = .ok f)
    (compiled' : c'.compile p ignoreCase = .ok f') : f.erased = f'.erased := by
  obtain ⟨needle, -, built⟩ := bind_success.1 compiled
  obtain ⟨other, -, built'⟩ := bind_success.1 compiled'
  cases built
  cases built'
  rw [CompiledFilter.erased_ofClause, CompiledFilter.erased_ofClause, same,
    TextOp.erase_clause _ needle other]

theorem DateCondition.erased_of_op {c c' : DateCondition} (same : c.op = c'.op)
    {f f' : CompiledFilter R} (compiled : c.compile p = .ok f)
    (compiled' : c'.compile p = .ok f') : f.erased = f'.erased := by
  unfold compile at compiled compiled'
  rw [same] at compiled
  cases op : c'.op with
  | equals | notEquals | lessThan | greaterThan =>
    rw [op] at compiled compiled'
    exact erased_of_bound (erased_compareWith _) compiled compiled'
  | inRange =>
    rw [op] at compiled compiled'
    obtain ⟨v, -, compiled⟩ := bind_success.1 compiled
    obtain ⟨w, -, compiled'⟩ := bind_success.1 compiled'
    exact erased_of_bound (erased_between .gt .lt v w) compiled compiled'
  | blank | empty | notBlank =>
    rw [op] at compiled compiled'
    cases compiled
    cases compiled'
    rfl

theorem NumberCondition.erased_of_op {c c' : NumberCondition} (same : c.op = c'.op)
    {f f' : CompiledFilter R} (compiled : c.compile p = .ok f)
    (compiled' : c'.compile p = .ok f') : f.erased = f'.erased := by
  unfold compile at compiled compiled'
  rw [same] at compiled
  cases op : c'.op with
  | equals | notEquals | lessThan | lessThanOrEqual | greaterThan | greaterThanOrEqual =>
    rw [op] at compiled compiled'
    exact erased_of_bound (erased_compareWith _) compiled compiled'
  | inRange =>
    rw [op] at compiled compiled'
    obtain ⟨v, -, compiled⟩ := bind_success.1 compiled
    obtain ⟨w, -, compiled'⟩ := bind_success.1 compiled'
    exact erased_of_bound (erased_between .ge .le v w) compiled compiled'
  | blank | notBlank =>
    rw [op] at compiled compiled'
    cases compiled
    cases compiled'
    rfl

/-- A set's texts are bound one by one, so that of these only their number is left. -/
theorem SetCondition.erased_compile (c : SetCondition) :
    (c.compile p).erased =
      if c.texts.length = 0 ∧ c.admitsNull = false then .ofClause (.test .never)
      else .junction .any
        ((if c.texts.length = 0 then []
          else [.clause (.test (.isIn (textOperand p) (List.replicate c.texts.length "")))]) ++
        if c.admitsNull then [.clause (.test (.isNull p.column))] else []) := by
  unfold compile
  cases listed : c.texts with
  | nil =>
    cases c.admitsNull with
    | false => rfl
    | true => rfl
  | cons text texts =>
    cases c.admitsNull <;>
      simp [CompiledFilter.erased, Sql.Condition.erase, Sql.Condition.eraseAll, Sql.Clause.erase,
        Sql.Test.erase, List.map_const', List.replicate_succ]

theorem SetCondition.length_texts (c : SetCondition) :
    c.texts.length = (c.values.filterMap id).eraseDups.length :=
  List.length_mergeSort _

theorem SetCondition.admitsNull_eq (c : SetCondition) : c.admitsNull = c.values.contains none := by
  rw [admitsNull, List.contains_eq_any_beq]
  congr 1
  funext value
  cases value <;> rfl

/-- Two conditions of one outline, on one property, compile to conditions that differ only in their
bounds. -/
theorem Condition.erased_of_outline {condition condition' : Condition}
    (same : condition.outline = condition'.outline) {ignoreCase : Bool} {f f' : CompiledFilter R}
    (compiled : condition.compile p ignoreCase = .ok f)
    (compiled' : condition'.compile p ignoreCase = .ok f') : f.erased = f'.erased := by
  cases condition with
  | text c =>
    cases condition' with
    | text c' => exact c.erased_of_op (ConditionOutline.text.inj same) compiled compiled'
    | _ => cases same
  | date c =>
    cases condition' with
    | date c' => exact c.erased_of_op (ConditionOutline.date.inj same) compiled compiled'
    | _ => cases same
  | number c =>
    cases condition' with
    | number c' => exact c.erased_of_op (ConditionOutline.number.inj same) compiled compiled'
    | _ => cases same
  | set c =>
    cases condition' with
    | set c' =>
      obtain ⟨length, null⟩ := ConditionOutline.set.inj same
      rw [← c.length_texts, ← c'.length_texts] at length
      rw [← c.admitsNull_eq, ← c'.admitsNull_eq] at null
      cases compiled
      cases compiled'
      rw [c.erased_compile, c'.erased_compile, length, null]
    | _ => cases same

end

/-! ## Specifications and maps -/

namespace FilterCompiler
variable {c : Catalog} [DecidableEq c.Entity] {compiler : FilterCompiler c} {e : c.Entity}

theorem compileAll_erased {p : ResolvedProperty (c.Row e)} {combinator : Combinator}
    {first first' : Condition} {rest rest' : List Condition}
    (same : (first :: rest).map Condition.outline = (first' :: rest').map Condition.outline)
    {f f' : CompiledFilter (c.Row e)}
    (compiled : compiler.compileAll e p combinator first rest = .ok f)
    (compiled' : compiler.compileAll e p combinator first' rest' = .ok f') :
    f.erased = f'.erased := by
  obtain ⟨start, parts, begun, others, rfl⟩ := (compiler.compileAll_success e).1 compiled
  obtain ⟨start', parts', begun', others', rfl⟩ := (compiler.compileAll_success e).1 compiled'
  obtain ⟨head, tail⟩ := List.cons.inj same
  have starts : start.erased = start'.erased := Condition.erased_of_outline head begun begun'
  have each : parts.map CompiledFilter.erased = parts'.map CompiledFilter.erased :=
    mapM_map_eq (fun _ _ _ _ alike => Condition.erased_of_outline alike) tail others others'
  rw [CompiledFilter.erased_foldl_join, CompiledFilter.erased_foldl_join, starts, each]

theorem compileResolved_erased {p : ResolvedProperty (c.Row e)} {spec spec' : FilterSpec}
    (same : spec.outline = spec'.outline) {f f' : CompiledFilter (c.Row e)}
    (compiled : compiler.compileResolved e p spec = .ok f)
    (compiled' : compiler.compileResolved e p spec' = .ok f') : f.erased = f'.erased := by
  cases spec with
  | plain condition =>
    cases spec' with
    | plain condition' =>
      exact Condition.erased_of_outline (FilterOutline.plain.inj same) compiled compiled'
    | composite => cases same
  | composite kind combinator conditions =>
    cases spec' with
    | plain => cases same
    | composite kind' combinator' conditions' =>
      obtain ⟨rfl, rfl, each⟩ := FilterOutline.composite.inj same
      obtain ⟨first, rest, rfl, -, joined⟩ :=
        (compiler.compileResolved_composite_success e).1 compiled
      obtain ⟨first', rest', rfl, -, joined'⟩ :=
        (compiler.compileResolved_composite_success e).1 compiled'
      exact compileAll_erased each joined joined'

/-- An entry of a map without the values of its filter. -/
def entryOutline (entry : String × FilterModel) : String × Option FilterOutline :=
  (entry.1, entry.2.outline?)

theorem compileProperty_erased {entry entry' : String × FilterModel}
    (same : entryOutline entry = entryOutline entry') {f f' : CompiledFilter (c.Row e)}
    (compiled : compiler.compileProperty e entry.1 entry.2 = .ok f)
    (compiled' : compiler.compileProperty e entry'.1 entry'.2 = .ok f') :
    f.erased = f'.erased := by
  obtain ⟨path, outline⟩ := Prod.mk.inj same
  obtain ⟨spec, shaped, found⟩ := bind_success.1 compiled
  obtain ⟨spec', shaped', found'⟩ := bind_success.1 compiled'
  obtain ⟨p, resolved, compiled⟩ := bind_success.1 found
  obtain ⟨p', resolved', compiled'⟩ := bind_success.1 found'
  rw [path] at resolved
  cases resolved.symm.trans resolved'
  have specs : spec.outline = spec'.outline := by
    rw [FilterModel.outline?, FilterModel.outline?, shaped, shaped'] at outline
    exact Option.some.inj outline
  exact compileResolved_erased specs compiled compiled'

theorem map_entryOutline_sortedEntries {filters filters' : FilterMap}
    (same : filters.outline.Perm filters'.outline) :
    (sortedEntries filters).map entryOutline = (sortedEntries filters').map entryOutline := by
  have perm : ∀ m : FilterMap, ((sortedEntries m).map entryOutline).Perm
      (m.outline.filterMap fun (path, outline) => outline.map (path, ·)) := by
    intro m
    refine ((List.mergeSort_perm _ _).map entryOutline).trans (.of_eq ?_)
    rw [FilterMap.outline, List.map_filterMap, List.filterMap_map]
    congr 1
    funext ⟨path, model⟩
    cases model <;> rfl
  have ascending : ∀ m : FilterMap,
      ((sortedEntries m).map entryOutline).Pairwise fun a b => a.1 < b.1 := by
    intro m
    exact List.pairwise_map.2 (sortedEntries_ascending m)
  apply eq_of_ascending_of_perm Prod.fst (ascending filters) (ascending filters')
  exact (perm filters).trans ((same.filterMap _).trans (perm filters').symm)

/-- Maps of one outline compile to conditions that differ only in their bounds. -/
theorem compile_erased {filters filters' : FilterMap}
    (same : filters.outline.Perm filters'.outline) {f f' : CompiledFilter (c.Row e)}
    (compiled : compiler.compile e filters = .ok f)
    (compiled' : compiler.compile e filters' = .ok f') : f.erased = f'.erased := by
  obtain ⟨parts, each, rfl⟩ := (compiler.compile_success e).1 compiled
  obtain ⟨parts', each', rfl⟩ := (compiler.compile_success e).1 compiled'
  have alike : parts.map CompiledFilter.erased = parts'.map CompiledFilter.erased :=
    mapM_map_eq (fun _ _ _ _ same => compileProperty_erased same)
      (map_entryOutline_sortedEntries same) each each'
  rw [CompiledFilter.erased_foldl_both, CompiledFilter.erased_foldl_both, alike]

end FilterCompiler
end RowQuery
