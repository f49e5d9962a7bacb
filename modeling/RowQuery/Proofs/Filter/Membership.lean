import RowQuery.Proofs.Filter.Complement

/-!
# Members of a set

A set condition asks whether a text is one of a list. It is compiled from what the list holds, each
text once and in ascending order, so that neither the order of the list nor its repetitions leave a
trace. What it selects could be asked for text by text, by conditions of exact equality.
-/
namespace RowQuery
open Outcome

/-- Erasing repetitions leaves every element once. -/
theorem nodup_eraseDups {α : Type} [BEq α] [LawfulBEq α] : ∀ xs : List α, xs.eraseDups.Nodup
  | [] => by simp
  | x :: xs => by
    rw [List.eraseDups_cons, List.nodup_cons]
    constructor
    · intro repeated
      have kept := (List.mem_filter.1 (List.mem_eraseDups.1 repeated)).2
      simp at kept
    · exact nodup_eraseDups (xs.filter fun y => !y == x)
termination_by xs => xs.length
decreasing_by exact Nat.lt_succ_of_le (List.length_filter_le _ _)

namespace SetCondition
variable {c c' : SetCondition}

theorem mem_texts {s : String} : s ∈ c.texts ↔ some s ∈ c.values := by
  rw [texts, List.mem_mergeSort, List.mem_eraseDups]
  simp

theorem admitsNull_iff : c.admitsNull = true ↔ none ∈ c.values := by
  simp [admitsNull]

theorem texts_ascending (c : SetCondition) : c.texts.Pairwise (· < ·) :=
  ascending_mergeSort (fun s => s) (nodup_eraseDups _)

/-- A set's texts are determined by which of them the list holds. -/
theorem texts_eq_of_mem_iff (same : ∀ s, some s ∈ c.values ↔ some s ∈ c'.values) :
    c.texts = c'.texts := by
  have once : ∀ c : SetCondition, c.texts.Nodup := fun c =>
    c.texts_ascending.imp fun less => String.ne_of_lt less
  apply eq_of_ascending_of_perm (fun s => s) c.texts_ascending c'.texts_ascending
  rw [List.perm_ext_iff_of_nodup (once c) (once c')]
  simp only [mem_texts, same, implies_true]

variable {R : Type} {p : ResolvedProperty R}

/-- Lists with the same entries compile to the same filter, in both of its forms. -/
theorem compile_eq_of_mem_iff (same : ∀ value, value ∈ c.values ↔ value ∈ c'.values) :
    c.compile p = c'.compile p := by
  have null : c.admitsNull = c'.admitsNull := by
    rw [Bool.eq_iff_iff, admitsNull_iff, admitsNull_iff]
    exact same none
  have listed : c.texts = c'.texts := texts_eq_of_mem_iff fun s => same (some s)
  rw [compile, compile, null, listed]

theorem compile_test_iff (row : R) :
    (c.compile p).test row = true ↔
      (p.get row = none ∧ none ∈ c.values) ∨
        ∃ s, some s ∈ c.values ∧ (p.get row).text? = some s := by
  have null : p.get row = none ↔ (p.get row).text? = none := Option.map_eq_none_iff.symm
  by_cases nothing : (c.texts.isEmpty && !c.admitsNull) = true
  · obtain ⟨empty, strict⟩ := Bool.and_eq_true_iff.1 nothing
    have noText : ∀ s, some s ∉ c.values := fun s => by
      rw [← mem_texts, List.isEmpty_iff.1 empty]
      exact List.not_mem_nil
    have noNull : none ∉ c.values := by
      rw [← admitsNull_iff]
      simpa using strict
    simp only [compile, if_pos nothing, Predicate.never]
    simp [noText, noNull]
  · simp only [compile, if_neg nothing, null, ← admitsNull_iff, ← mem_texts]
    cases (p.get row).text? with
    | none => simp
    | some text => simp

end SetCondition

/-- Equality with regard to case selects the rows whose text is the value. -/
theorem TextCondition.compile_equals {R : Type} {p : ResolvedProperty R} (value : String) :
    ∃ g, TextCondition.compile p ⟨.equals, some value⟩ false = .ok g ∧
      ∀ row, g.test row = true ↔ (p.get row).text? = some value := by
  refine ⟨_, rfl, fun row => ?_⟩
  cases read : (p.get row).text? with
  | none => simp [read, TextOp.acceptsNull]
  | some text => simp [read, TextOp.accepts, compared, String.toList_inj]

namespace FilterCompiler
variable {c : Catalog} [DecidableEq c.Entity]

/-- A set condition is a disjunction of exact equalities of texts. On a property of whatever type it
compiles, to a filter that selects a row exactly when the property is null and the list holds null,
or when for some text of the list the row is selected by equality with it, compiled with regard to
case; the case settings of the set's own compiler make no difference. Every list with the same
entries, in whatever order and however often, compiles to that very filter, its condition on columns
included, from which the text and the parameters of a statement are written. -/
theorem compileSpec_set (compiler : FilterCompiler c) (e : c.Entity) (path : String)
    (p : ResolvedProperty (c.Row e)) (resolved : c.resolve e path compiler.access = .ok p)
    (values : List (Option String)) :
    ∃ f, compiler.compileSpec e path (.plain (.set ⟨values⟩)) = .ok f ∧
      (∀ exact : FilterCompiler c, exact.access = compiler.access →
        exact.settings.ignoresCaseAt e p.name = false → ∀ row,
        (f.test row = true ↔ (p.get row = none ∧ none ∈ values) ∨
          ∃ v, some v ∈ values ∧ ∃ g,
            exact.compileSpec e path (.plain (.text ⟨.equals, some v⟩)) = .ok g ∧
              g.test row = true)) ∧
      ∀ (other : FilterCompiler c) (others : List (Option String)),
        other.access = compiler.access → (∀ value, value ∈ others ↔ value ∈ values) →
        other.compileSpec e path (.plain (.set ⟨others⟩)) = .ok f := by
  refine ⟨SetCondition.compile p ⟨values⟩, ?_, ?_, ?_⟩
  · rw [compileSpec_of_resolved resolved]
    rfl
  · intro exact access heeds row
    have equality : ∀ v, (∃ g, exact.compileSpec e path (.plain (.text ⟨.equals, some v⟩)) = .ok g ∧
        g.test row = true) ↔ (p.get row).text? = some v := by
      intro v
      obtain ⟨g, compiled, selects⟩ := TextCondition.compile_equals (p := p) v
      have success : exact.compileSpec e path (.plain (.text ⟨.equals, some v⟩)) = .ok g := by
        rw [compileSpec_of_resolved (access ▸ resolved), ← compiled, ← heeds]
        rfl
      rw [← selects row, success]
      simp
    simp only [equality]
    exact SetCondition.compile_test_iff row
  · intro other others access same
    rw [compileSpec_of_resolved (access ▸ resolved)]
    exact congrArg Except.ok (SetCondition.compile_eq_of_mem_iff same)

end FilterCompiler

/-! ## Superiors by name -/

/-- A compiler whose text conditions on employees do not tell capital from small letters. -/
def recasingCompiler : FilterCompiler staff :=
  { settings := ({} : CaseSettings Unit).block () [.ignoreCase true] }

/-- Carla's superior is Alice, in small letters. -/
def carla : Employee := ⟨"Carla", none, some ⟨"alice", none, none⟩⟩

/-- A list of superiors' names, with a repetition and a null, compiles as the shorter list does. It
holds the null of who has no superior, and in spite of the settings not a name in other letters. -/
theorem superiorSet_members :
    ∃ f, recasingCompiler.compileSpec () "superior.name"
        (.plain (.set ⟨[some "Alice", none, some "Alice"]⟩)) = .ok f ∧
      staffCompiler.compileSpec () "superior.name" (.plain (.set ⟨[none, some "Alice"]⟩)) = .ok f ∧
      f.test alice = true ∧ f.test carla = false := by
  obtain ⟨f, compiled, selects, determined⟩ := FilterCompiler.compileSpec_set recasingCompiler ()
    "superior.name" superiorName resolve_superiorName [some "Alice", none, some "Alice"]
  have selects := selects staffCompiler rfl rfl
  refine ⟨f, compiled, determined staffCompiler _ rfl (by simp), ?_, ?_⟩
  · exact (selects alice).2 (.inl ⟨rfl, by simp⟩)
  · rw [Bool.eq_false_iff, Ne, selects carla]
    rintro (⟨null, -⟩ | ⟨v, listed, g, equal, selected⟩)
    · cases null
    · have only : v = "Alice" := by simpa using listed
      subst only
      cases equal
      cases selected

end RowQuery
