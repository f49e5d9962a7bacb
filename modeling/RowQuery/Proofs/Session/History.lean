import RowQuery.Session
import RowQuery.Proofs.Outcome

/-!
# Histories of sessions

What a session holds after a run of steps, told from the steps alone: the settings are those of the
last installation, and a compiler has the settings that were installed when it was made. A step
changes one thing at most, and a step that fails nothing.
-/
namespace RowQuery
open Outcome

/-- The settings that a run of steps has installed last. None are set before the first
installation. -/
inductive LastInstalled {Entity : Type} [DecidableEq Entity] :
    List (SessionStep Entity) → CaseSettings Entity → Prop
  | never (steps : List (SessionStep Entity)) (none : ∀ blocks, .install blocks ∉ steps) :
      LastInstalled steps {}
  | last (earlier later : List (SessionStep Entity)) (blocks : List (Entity × List CaseCall))
      (none : ∀ others, .install others ∉ later) :
      LastInstalled (earlier ++ .install blocks :: later) (.ofBlocks blocks)

/-- The compiler that a run of steps has kept last under a name. It has the settings that were
installed last before it was made. -/
inductive LastCompiler {c : Catalog} [DecidableEq c.Entity] (name : String) :
    List (SessionStep c.Entity) → FilterCompiler c → Prop
  | made (earlier later : List (SessionStep c.Entity)) (settings : CaseSettings c.Entity)
      (access : AccessMode) (installed : LastInstalled earlier settings)
      (none : ∀ other, .compiler name other ∉ later) :
      LastCompiler name (earlier ++ .compiler name access :: later) ⟨settings, access⟩

/-- The name under which a step keeps a filter. -/
def SessionStep.target? {Entity : Type} : SessionStep Entity → Option String
  | .filter name _ _ => some name
  | .join _ name _ _ => some name
  | _ => none

/-- A list has no element of a kind, or a last one. -/
theorem exists_last {α : Type} (p : α → Prop) (xs : List α) :
    (∀ x ∈ xs, ¬ p x) ∨
      ∃ earlier x later, xs = earlier ++ x :: later ∧ p x ∧ ∀ y ∈ later, ¬ p y := by
  induction xs with
  | nil => exact Or.inl (by simp)
  | cons x xs ih =>
    rcases ih with none | ⟨earlier, y, later, rfl, found, rest⟩
    · by_cases head : p x
      · exact Or.inr ⟨[], x, xs, rfl, head, none⟩
      · exact Or.inl (List.forall_mem_cons.2 ⟨head, none⟩)
    · exact Or.inr ⟨x :: earlier, y, later, rfl, found, rest⟩

theorem exists_lastInstalled {Entity : Type} [DecidableEq Entity]
    (steps : List (SessionStep Entity)) : ∃ settings, LastInstalled steps settings := by
  rcases exists_last (fun st => ∃ blocks, st = SessionStep.install blocks) steps with
    none | ⟨earlier, _, later, rfl, ⟨blocks, rfl⟩, none⟩
  · exact ⟨_, .never steps fun blocks member => none _ member ⟨blocks, rfl⟩⟩
  · exact ⟨_, .last earlier later blocks fun others member => none _ member ⟨others, rfl⟩⟩

namespace Session
variable {c : Catalog} [DecidableEq c.Entity] {e : c.Entity} {Item : Type}

/-! ## One step -/

/-- What a step that does not fail can do to a session. -/
inductive Effect (s : Session c e) : SessionStep c.Entity → Session c e → Prop
  | install (blocks : List (c.Entity × List CaseCall)) :
      Effect s (.install blocks) { s with settings := .ofBlocks blocks }
  | compiler (name : String) (access : AccessMode) :
      Effect s (.compiler name access)
        { s with compilers := s.compilers.put name (s.newCompiler access) }
  | keep (st : SessionStep c.Entity) (name : String) (f : CompiledFilter (c.Row e))
      (target : st.target? = some name) :
      Effect s st { s with filters := s.filters.put name f }
  | ask (st : SessionStep c.Entity) (installs : ∀ blocks, st ≠ .install blocks)
      (makes : ∀ name access, st ≠ .compiler name access) : Effect s st s

theorem step_effect {s s' : Session c e} {data : SessionData e Item} {st : SessionStep c.Entity}
    {answer : SessionAnswer Item} (success : s.step data st = .ok (s', answer)) :
    s.Effect st s' := by
  cases st with
  | install blocks =>
    cases success
    exact .install blocks
  | flag entity property =>
    cases success
    exact .ask _ (by simp) (by simp)
  | compiler name access =>
    cases success
    exact .compiler name access
  | filter name document compilerName =>
    obtain ⟨compiler, _, success⟩ := bind_success.1 success
    obtain ⟨f, _, success⟩ := bind_success.1 success
    cases success
    exact .keep _ name f rfl
  | rows name =>
    obtain ⟨f, _, success⟩ := bind_success.1 success
    cases success
    exact .ask _ (by simp) (by simp)
  | sql name dialect =>
    obtain ⟨f, _, success⟩ := bind_success.1 success
    cases success
    exact .ask _ (by simp) (by simp)
  | join combinator name left right =>
    obtain ⟨f, _, success⟩ := bind_success.1 success
    obtain ⟨g, _, success⟩ := bind_success.1 success
    cases success
    exact .keep _ name (f.join combinator g) rfl
  | request document =>
    obtain ⟨request, _, success⟩ := bind_success.1 success
    obtain ⟨items, _, success⟩ := bind_success.1 success
    cases success
    exact .ask _ (by simp) (by simp)
  | requestSql document dialect =>
    obtain ⟨request, _, success⟩ := bind_success.1 success
    obtain ⟨select, _, success⟩ := bind_success.1 success
    cases success
    exact .ask _ (by simp) (by simp)

/-- A step fails and leaves the session as it is, or succeeds with its effect. -/
theorem stepOrStay_cases (s : Session c e) (data : SessionData e Item) (st : SessionStep c.Entity) :
    (∃ failure, s.stepOrStay data st = (s, .error failure)) ∨
      ∃ s' answer, s.stepOrStay data st = (s', .ok answer) ∧ s.Effect st s' := by
  unfold stepOrStay
  cases stepped : s.step data st with
  | error failure => exact Or.inl ⟨failure, rfl⟩
  | ok result => exact Or.inr ⟨result.1, result.2, rfl, step_effect stepped⟩

theorem Effect.settings {s s' : Session c e} {st : SessionStep c.Entity} (effect : s.Effect st s')
    (other : ∀ blocks, st ≠ .install blocks) : s'.settings = s.settings := by
  cases effect with
  | install blocks => exact absurd rfl (other blocks)
  | _ => rfl

theorem Effect.compilers {s s' : Session c e} {st : SessionStep c.Entity} (effect : s.Effect st s')
    {name : String} (other : ∀ access, st ≠ .compiler name access) :
    s'.compilers.get? name = s.compilers.get? name := by
  cases effect with
  | compiler made access =>
    have apart : name ≠ made := by
      rintro rfl
      exact other access rfl
    rw [Assoc.get?_put, if_neg apart]
  | _ => rfl

theorem Effect.filters {s s' : Session c e} {st : SessionStep c.Entity} (effect : s.Effect st s')
    {name : String} (other : st.target? ≠ some name) :
    s'.filters.get? name = s.filters.get? name := by
  cases effect with
  | keep _ kept f target =>
    have apart : name ≠ kept := by
      rintro rfl
      exact other target
    rw [Assoc.get?_put, if_neg apart]
  | _ => rfl

theorem stepOrStay_settings (s : Session c e) (data : SessionData e Item)
    {st : SessionStep c.Entity} (other : ∀ blocks, st ≠ .install blocks) :
    (s.stepOrStay data st).1.settings = s.settings := by
  rcases s.stepOrStay_cases data st with ⟨failure, stays⟩ | ⟨s', answer, steps, effect⟩
  · rw [stays]
  · rw [steps, effect.settings other]

theorem stepOrStay_compilers (s : Session c e) (data : SessionData e Item)
    {st : SessionStep c.Entity} {name : String} (other : ∀ access, st ≠ .compiler name access) :
    (s.stepOrStay data st).1.compilers.get? name = s.compilers.get? name := by
  rcases s.stepOrStay_cases data st with ⟨failure, stays⟩ | ⟨s', answer, steps, effect⟩
  · rw [stays]
  · rw [steps, effect.compilers other]

/-- A step leaves a kept filter alone unless it succeeds in keeping one under the same name. -/
theorem stepOrStay_filters (s : Session c e) (data : SessionData e Item)
    {st : SessionStep c.Entity} {name : String}
    (other : st.target? = some name → ∃ failure, (s.stepOrStay data st).2 = .error failure) :
    (s.stepOrStay data st).1.filters.get? name = s.filters.get? name := by
  rcases s.stepOrStay_cases data st with ⟨failure, stays⟩ | ⟨s', answer, steps, effect⟩
  · rw [stays]
  · rw [steps] at other ⊢
    apply effect.filters
    intro target
    obtain ⟨failure, failed⟩ := other target
    cases failed

/-! ## Runs -/

variable (s : Session c e) (data : SessionData e Item)

/-- The session after a run of steps. -/
def after (steps : List (SessionStep c.Entity)) : Session c e :=
  steps.foldl (fun s st => (s.stepOrStay data st).1) s

@[simp] theorem after_cons (st : SessionStep c.Entity) (steps : List (SessionStep c.Entity)) :
    s.after data (st :: steps) = (s.stepOrStay data st).1.after data steps := rfl

theorem after_append (before later : List (SessionStep c.Entity)) :
    s.after data (before ++ later) = (s.after data before).after data later :=
  List.foldl_append

/-- The answers of a run are those of its first part, followed by those of the rest, which starts
from the session after the first part. -/
theorem run_append (before later : List (SessionStep c.Entity)) :
    s.run data (before ++ later) = s.run data before ++ (s.after data before).run data later := by
  induction before generalizing s with
  | nil => rfl
  | cons st before ih =>
    simp only [List.cons_append, run, ih, after_cons]

theorem after_settings {later : List (SessionStep c.Entity)}
    (none : ∀ blocks, .install blocks ∉ later) : (s.after data later).settings = s.settings := by
  induction later generalizing s with
  | nil => rfl
  | cons st later ih =>
    have rest : ∀ blocks, .install blocks ∉ later :=
      fun blocks member => none blocks (List.mem_cons_of_mem st member)
    rw [after_cons, ih _ rest]
    apply stepOrStay_settings
    rintro blocks rfl
    exact none blocks List.mem_cons_self

theorem after_compilers {name : String} {later : List (SessionStep c.Entity)}
    (none : ∀ access, .compiler name access ∉ later) :
    (s.after data later).compilers.get? name = s.compilers.get? name := by
  induction later generalizing s with
  | nil => rfl
  | cons st later ih =>
    have rest : ∀ access, .compiler name access ∉ later :=
      fun access member => none access (List.mem_cons_of_mem st member)
    rw [after_cons, ih _ rest]
    apply stepOrStay_compilers
    rintro access rfl
    exact none access List.mem_cons_self

/-- Whether the steps of a run leave the filter under a name alone: those that would keep another
one under this name all fail. -/
def LeftAlone (name : String) (later : List (SessionStep c.Entity)) : Prop :=
  ∀ st answer, (st, answer) ∈ later.zip (s.run data later) → st.target? = some name →
    ∃ failure, answer = .error failure

theorem after_filters {name : String} {later : List (SessionStep c.Entity)}
    (alone : s.LeftAlone data name later) :
    (s.after data later).filters.get? name = s.filters.get? name := by
  induction later generalizing s with
  | nil => rfl
  | cons st later ih =>
    have rest : (s.stepOrStay data st).1.LeftAlone data name later :=
      fun st' answer member => alone st' answer (List.mem_cons_of_mem _ member)
    rw [after_cons, ih _ rest]
    apply stepOrStay_filters
    exact alone st _ List.mem_cons_self

/-! ## What is held -/

theorem settings_after_iff (steps : List (SessionStep c.Entity))
    (settings : CaseSettings c.Entity) :
    (after ({} : Session c e) data steps).settings = settings ↔ LastInstalled steps settings := by
  have settled : ∀ installed, LastInstalled steps installed →
      (after ({} : Session c e) data steps).settings = installed := by
    intro installed last
    cases last with
    | never _ none => exact after_settings _ data none
    | last earlier later blocks none =>
      rw [after_append, after_cons, after_settings _ data none]
      rfl
  constructor
  · rintro rfl
    obtain ⟨installed, last⟩ := exists_lastInstalled steps
    rw [settled installed last]
    exact last
  · exact settled settings

theorem compilers_after_iff (steps : List (SessionStep c.Entity)) (name : String)
    (compiler : FilterCompiler c) :
    (after ({} : Session c e) data steps).compilers.get? name = some compiler ↔
      LastCompiler name steps compiler := by
  have kept : ∀ made, LastCompiler name steps made →
      (after ({} : Session c e) data steps).compilers.get? name = some made := by
    intro made last
    cases last with
    | made earlier later settings access installed none =>
      rw [after_append, after_cons, after_compilers _ data none]
      have held := (settings_after_iff data earlier settings).2 installed
      change (Assoc.put _ name (newCompiler _ access)).get? name = _
      rw [Assoc.get?_put, if_pos rfl, newCompiler, held]
  constructor
  · intro found
    rcases exists_last (fun st => ∃ access, st = SessionStep.compiler name access) steps with
      none | ⟨earlier, _, later, rfl, ⟨access, rfl⟩, none⟩
    · rw [after_compilers _ data fun access member => none _ member ⟨access, rfl⟩] at found
      cases found
    · obtain ⟨settings, installed⟩ := exists_lastInstalled earlier
      have last : LastCompiler name (earlier ++ .compiler name access :: later)
          ⟨settings, access⟩ :=
        .made earlier later settings access installed fun other member =>
          none _ member ⟨other, rfl⟩
      cases found.symm.trans (kept _ last)
      exact last
  · exact kept compiler

end Session
end RowQuery
