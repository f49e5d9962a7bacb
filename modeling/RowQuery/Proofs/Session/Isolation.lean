import RowQuery.Proofs.Session.History

/-!
# Isolation of settings

Installing settings never reaches back. Through a run of steps in any order, a compiler keeps the
settings that were installed when it was made and a filter stays what it was compiled to, while
documents that are read without a compiler, requests and flags follow the installation that came
last. What each step answers is so settled by the steps before it, and by few of them.
-/
namespace RowQuery
open Outcome

namespace Session
variable {c : Catalog} [DecidableEq c.Entity] {e : c.Entity} {Item : Type}
  (data : SessionData e Item)

/-- A session that starts without settings answers a step so, after the given ones. -/
def Answers (steps : List (SessionStep c.Entity)) (st : SessionStep c.Entity)
    (answer : Except SessionError (SessionAnswer Item)) : Prop :=
  run ({} : Session c e) data (steps ++ [st]) = run {} data steps ++ [answer]

/-- A filter is held under a name after the given steps. -/
def Holds (steps : List (SessionStep c.Entity)) (name : String) (f : CompiledFilter (c.Row e)) :
    Prop :=
  (after ({} : Session c e) data steps).filters.get? name = some f

/-- A step comes to a filter that is held from then on and whose rows are answered, or to an error
that is reported. -/
def Keeps (steps : List (SessionStep c.Entity)) (st : SessionStep c.Entity) (name : String) :
    Except FilterError (CompiledFilter (c.Row e)) → Prop
  | .ok f => Answers data steps st (.ok (.rows (f.select data.view data.items))) ∧
      Holds data (steps ++ [st]) name f
  | .error failure => Answers data steps st (.error (.filter failure))

/-- What a run of steps has settled for what comes after it. -/
structure Isolated (steps : List (SessionStep c.Entity)) : Prop where
  /-- The installed settings are those of the last installation and nothing else. -/
  installed : ∀ settings,
    (after ({} : Session c e) data steps).settings = settings ↔ LastInstalled steps settings
  flags : ∀ settings, LastInstalled steps settings → ∀ entity property,
    Answers data steps (.flag entity property) (.ok (.flag (settings.flag entity property)))
  /-- A compiler has the settings that were installed last before it was made. -/
  compilers : ∀ name compiler,
    (after ({} : Session c e) data steps).compilers.get? name = some compiler ↔
      LastCompiler name steps compiler
  compiled : ∀ compilerName compiler, LastCompiler compilerName steps compiler →
    ∀ name document, Keeps data steps (.filter name document (some compilerName)) name
      (compiler.readFilter e document)
  /-- Without a compiler the settings are those installed last before the step. -/
  read : ∀ settings, LastInstalled steps settings → ∀ name document,
    Keeps data steps (.filter name document none) name
      (FilterCompiler.readFilter ⟨settings, .nullSafe⟩ e document)
  applied : ∀ settings, LastInstalled steps settings → ∀ document,
    Answers data steps (.request document)
      (((GridRequest.read document >>= fun request =>
        request.apply ⟨settings, .nullSafe⟩ e data.view data.items).map .rows).mapError .filter)
  selected : ∀ settings, LastInstalled steps settings → ∀ document dialect,
    Answers data steps (.requestSql document dialect)
      (((GridRequest.read document >>= fun request =>
        request.toSelect ⟨settings, .nullSafe⟩ e data.table).map fun select =>
          .sql (select.write dialect).1 (select.write dialect).2).mapError .filter)
  joined : ∀ combinator name left right f g, Holds data steps left f → Holds data steps right g →
    Keeps data steps (.join combinator name left right) name (.ok (f.join combinator g))
  /-- A filter that is held stays the same, with its rows and its statements, until another one is
  kept under its name. -/
  lasting : ∀ name f, Holds data steps name f →
    ∀ later, (after ({} : Session c e) data steps).LeftAlone data name later →
      Holds data (steps ++ later) name f ∧
      Answers data (steps ++ later) (.rows name) (.ok (.rows (f.select data.view data.items))) ∧
      ∀ dialect, Answers data (steps ++ later) (.sql name dialect) (.ok (statement data dialect f))

variable {data} {steps : List (SessionStep c.Entity)} {st : SessionStep c.Entity}

theorem answers_of_stepOrStay {s : Session c e} {answer : Except SessionError (SessionAnswer Item)}
    (stepped : (after ({} : Session c e) data steps).stepOrStay data st = (s, answer)) :
    Answers data steps st answer := by
  rw [Answers, run_append, run, stepped]
  rfl

theorem answers_of_step {outcome : Except FilterError (SessionAnswer Item)}
    (stepped : (after ({} : Session c e) data steps).step data st =
      (outcome.mapError .filter).map fun answer =>
        (after ({} : Session c e) data steps, answer)) :
    Answers data steps st (outcome.mapError .filter) := by
  apply answers_of_stepOrStay
  rw [stepOrStay, stepped]
  cases outcome <;> rfl

theorem keeps_of_step {name : String} {outcome : Except FilterError (CompiledFilter (c.Row e))}
    (stepped : (after ({} : Session c e) data steps).step data st = (outcome.mapError .filter).map
      fun f => (after ({} : Session c e) data steps).keep data name f) :
    Keeps data steps st name outcome := by
  cases outcome with
  | error failure => exact answers_of_stepOrStay (by rw [stepOrStay, stepped]; rfl)
  | ok f =>
    refine ⟨answers_of_stepOrStay (by rw [stepOrStay, stepped]; rfl), ?_⟩
    rw [Holds, after_append, after_cons, stepOrStay, stepped]
    change (Assoc.put _ name f).get? name = some f
    rw [Assoc.get?_put, if_pos rfl]

theorem step_filter {s : Session c e} {name document : String} {compilerName : Option String}
    {compiler : FilterCompiler c} (found : s.findCompiler compilerName = .ok compiler) :
    s.step data (.filter name document compilerName) =
      ((compiler.readFilter e document).mapError .filter).map fun f => s.keep data name f := by
  rw [step, found]
  change (compiler.readFilter e document).mapError _ >>= _ = _
  cases compiler.readFilter e document <;> rfl

theorem step_request (s : Session c e) (document : String) :
    s.step data (.request document) =
      (((GridRequest.read document >>= fun request =>
        request.apply s.newCompiler e data.view data.items).map .rows).mapError .filter).map
          fun answer => (s, answer) :=
  mapError_bind_map _ _ _ _ _

theorem step_requestSql (s : Session c e) (document : String) (dialect : Sql.Dialect) :
    s.step data (.requestSql document dialect) =
      (((GridRequest.read document >>= fun request =>
        request.toSelect s.newCompiler e data.table).map fun select =>
          .sql (select.write dialect).1 (select.write dialect).2).mapError .filter).map
            fun answer => (s, answer) :=
  mapError_bind_map _ _ _ _ _

variable (data) (steps)

/-- Settings are isolated: after any run of steps, what is installed, what compilers and filters are
kept, and what the next step answers follows from the steps as `Isolated` says. -/
theorem isolated : Isolated data steps where
  installed := settings_after_iff data steps
  flags := by
    intro settings last entity property
    obtain rfl := (settings_after_iff data steps settings).2 last
    apply answers_of_stepOrStay
    cases property <;> rfl
  compilers := compilers_after_iff data steps
  compiled := by
    intro compilerName compiler last name document
    have held := (compilers_after_iff data steps compilerName compiler).2 last
    apply keeps_of_step
    apply step_filter
    rw [findCompiler, held]
  read := by
    intro settings last name document
    obtain rfl := (settings_after_iff data steps settings).2 last
    apply keeps_of_step
    apply step_filter
    rfl
  applied := by
    intro settings last document
    obtain rfl := (settings_after_iff data steps settings).2 last
    exact answers_of_step (step_request _ document)
  selected := by
    intro settings last document dialect
    obtain rfl := (settings_after_iff data steps settings).2 last
    exact answers_of_step (step_requestSql _ document dialect)
  joined := by
    intro combinator name left right f g first second
    apply keeps_of_step
    rw [step, findFilter, findFilter, first, second]
    rfl
  lasting := by
    intro name f held later alone
    have still : Holds data (steps ++ later) name f := by
      rw [Holds, after_append, after_filters _ data alone]
      exact held
    refine ⟨still, ?_, ?_⟩
    · apply answers_of_stepOrStay
      rw [stepOrStay, step, findFilter, still]
      rfl
    · intro dialect
      apply answers_of_stepOrStay
      rw [stepOrStay, step, findFilter, still]
      rfl

end Session
end RowQuery
