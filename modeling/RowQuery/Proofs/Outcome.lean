import RowQuery.Error

/-!
# Outcomes of runs

Steps that may fail, one after another. A run succeeds exactly when all its steps do, so that a
successful run can be taken apart into its steps, and it fails with the error of the first step that
does.
-/
namespace RowQuery.Outcome
variable {ε α β γ : Type}

theorem bind_success {step : Except ε α} {next : α → Except ε β} {value : β} :
    (step >>= next) = .ok value ↔ ∃ x, step = .ok x ∧ next x = .ok value := by
  cases step with
  | error e =>
    constructor
    · intro success
      cases success
    · intro steps
      obtain ⟨_, failed, _⟩ := steps
      cases failed
  | ok x =>
    constructor
    · intro success
      exact ⟨x, rfl, success⟩
    · intro steps
      obtain ⟨y, same, success⟩ := steps
      cases same
      exact success

theorem pure_success {value result : α} :
    (pure value : Except ε α) = .ok result ↔ value = result := by
  constructor
  · intro same
    cases same
    rfl
  · rintro rfl
    rfl

theorem map_success {f : α → β} {step : Except ε α} {value : β} :
    step.map f = .ok value ↔ ∃ x, step = .ok x ∧ f x = value := by
  cases step <;> simp [Except.map]

/-- Two steps whose errors are reported, and what is made of their outcome. -/
theorem mapError_bind_map {ε' δ : Type} (report : ε → ε') (first : Except ε α)
    (second : α → Except ε β) (f : β → γ) (g : γ → δ) :
    (first.mapError report >>= fun x => (second x).mapError report >>= fun y =>
      pure (g (f y))) = (((first >>= second).map f).mapError report).map g := by
  cases first with
  | error failure => rfl
  | ok x =>
    change (second x).mapError report >>= _ = (((second x).map f).mapError report).map g
    cases second x <;> rfl

theorem mapM_cons_success {f : α → Except ε β} {x : α} {xs : List α} {ys : List β} :
    (x :: xs).mapM f = .ok ys ↔
      ∃ y rest, f x = .ok y ∧ xs.mapM f = .ok rest ∧ ys = y :: rest := by
  rw [List.mapM_cons, bind_success]
  constructor
  · intro steps
    obtain ⟨y, head, success⟩ := steps
    obtain ⟨rest, tail, same⟩ := bind_success.1 success
    exact ⟨y, rest, head, tail, (pure_success.1 same).symm⟩
  · intro steps
    obtain ⟨y, rest, head, tail, rfl⟩ := steps
    exact ⟨y, head, bind_success.2 ⟨rest, tail, rfl⟩⟩

theorem mapM_nil_success {f : α → Except ε β} {ys : List β} :
    [].mapM f = .ok ys ↔ ys = [] :=
  pure_success.trans eq_comm

/-- A run over a list succeeds when its step does on every element. -/
theorem mapM_succeeds_iff {f : α → Except ε β} {xs : List α} :
    (∃ ys, xs.mapM f = .ok ys) ↔ ∀ x ∈ xs, ∃ y, f x = .ok y := by
  induction xs with
  | nil =>
    constructor
    · intro _ x member
      cases member
    · intro _
      exact ⟨[], rfl⟩
  | cons x xs ih =>
    simp only [mapM_cons_success, List.forall_mem_cons, ← ih]
    constructor
    · intro steps
      obtain ⟨_, y, rest, head, tail, rfl⟩ := steps
      exact ⟨⟨y, head⟩, rest, tail⟩
    · intro steps
      obtain ⟨⟨y, head⟩, rest, tail⟩ := steps
      exact ⟨y :: rest, y, rest, head, tail, rfl⟩

theorem mapM_of_forall {f : α → Except ε β} {g : α → β} {xs : List α}
    (all : ∀ x ∈ xs, f x = .ok (g x)) : xs.mapM f = .ok (xs.map g) := by
  induction xs with
  | nil => rfl
  | cons x xs ih =>
    obtain ⟨head, tail⟩ := List.forall_mem_cons.1 all
    exact mapM_cons_success.2 ⟨g x, xs.map g, head, ih tail, rfl⟩

/-- The results of a run are the results of its steps. -/
theorem mem_mapM_iff {f : α → Except ε β} {xs : List α} {ys : List β}
    (success : xs.mapM f = .ok ys) (y : β) : y ∈ ys ↔ ∃ x ∈ xs, f x = .ok y := by
  induction xs generalizing ys with
  | nil => simp [mapM_nil_success.1 success]
  | cons x xs ih =>
    obtain ⟨first, rest, head, tail, rfl⟩ := mapM_cons_success.1 success
    rw [List.mem_cons, ih tail]
    constructor
    · intro steps
      rcases steps with rfl | ⟨a, member, stepped⟩
      · exact ⟨x, List.mem_cons_self, head⟩
      · exact ⟨a, List.mem_cons_of_mem _ member, stepped⟩
    · intro steps
      obtain ⟨a, member, stepped⟩ := steps
      rcases List.mem_cons.1 member with rfl | member
      · rw [head] at stepped
        cases stepped
        exact Or.inl rfl
      · exact Or.inr ⟨a, member, stepped⟩

/-- A run depends only on what its steps succeed with. -/
theorem mapM_success_congr {f g : α → Except ε β} {xs : List α} {ys : List β}
    (same : ∀ x y, f x = .ok y ↔ g x = .ok y) : xs.mapM f = .ok ys ↔ xs.mapM g = .ok ys := by
  induction xs generalizing ys with
  | nil => rw [mapM_nil_success, mapM_nil_success]
  | cons x xs ih => simp only [mapM_cons_success, same, ih]

/-- Two runs whose elements look alike have results that look alike, if the step keeps it so. -/
theorem mapM_map_eq {σ τ : Type} {look : α → σ} {view : β → τ} {f : α → Except ε β}
    {xs xs' : List α} {ys ys' : List β}
    (step : ∀ x x' y y', look x = look x' → f x = .ok y → f x' = .ok y' → view y = view y')
    (alike : xs.map look = xs'.map look) (success : xs.mapM f = .ok ys)
    (success' : xs'.mapM f = .ok ys') : ys.map view = ys'.map view := by
  induction xs generalizing xs' ys ys' with
  | nil =>
    obtain rfl := List.map_eq_nil_iff.1 alike.symm
    rw [mapM_nil_success.1 success, mapM_nil_success.1 success']
  | cons x xs ih =>
    obtain ⟨x', rest', rfl, head, tail⟩ := List.map_eq_cons_iff.1 alike.symm
    obtain ⟨y, others, first, rest, rfl⟩ := mapM_cons_success.1 success
    obtain ⟨y', others', first', rest', rfl⟩ := mapM_cons_success.1 success'
    rw [List.map_cons, List.map_cons, step _ _ _ _ head.symm first first', ih tail.symm rest rest']

/-- Two runs, the second over the results of the first, are one run of double steps. -/
theorem mapM_bind_success {f : α → Except ε β} {g : β → Except ε γ} {xs : List α} {zs : List γ} :
    (∃ ys, xs.mapM f = .ok ys ∧ ys.mapM g = .ok zs) ↔ xs.mapM (fun x => f x >>= g) = .ok zs := by
  induction xs generalizing zs with
  | nil => simp only [mapM_nil_success, exists_eq_left]
  | cons x xs ih =>
    simp only [mapM_cons_success, bind_success, ← ih]
    constructor
    · intro steps
      obtain ⟨_, ⟨y, ys, first, rest, rfl⟩, second⟩ := steps
      obtain ⟨z, zs, last, others, rfl⟩ := mapM_cons_success.1 second
      exact ⟨z, zs, ⟨y, first, last⟩, ⟨ys, rest, others⟩, rfl⟩
    · intro steps
      obtain ⟨z, zs, ⟨y, first, last⟩, ⟨ys, rest, others⟩, rfl⟩ := steps
      exact ⟨y :: ys, ⟨y, ys, first, rest, rfl⟩, mapM_cons_success.2 ⟨z, zs, last, others, rfl⟩⟩

/-- A fold whose steps may fail is a run, followed by the fold of its results. -/
theorem foldlM_success {f : α → Except ε β} {join : γ → β → γ} {xs : List α} {start result : γ} :
    xs.foldlM (fun acc x => do return join acc (← f x)) start = .ok result ↔
      ∃ ys, xs.mapM f = .ok ys ∧ result = ys.foldl join start := by
  induction xs generalizing start with
  | nil =>
    simp only [List.foldlM_nil, pure_success, mapM_nil_success, exists_eq_left, List.foldl_nil]
    exact eq_comm
  | cons x xs ih =>
    simp only [List.foldlM_cons, bind_success, pure_success, mapM_cons_success, ih]
    constructor
    · intro steps
      obtain ⟨_, ⟨y, first, rfl⟩, ys, rest, rfl⟩ := steps
      exact ⟨y :: ys, ⟨y, ys, first, rest, rfl⟩, rfl⟩
    · intro steps
      obtain ⟨_, ⟨y, ys, first, rest, rfl⟩, rfl⟩ := steps
      exact ⟨join start y, ⟨y, first, rfl⟩, ys, rest, rfl⟩

/-- A fold whose steps agree on the elements of a list has one outcome. -/
theorem foldlM_congr {f g : γ → α → Except ε γ} {xs : List α}
    (same : ∀ acc, ∀ x ∈ xs, f acc x = g acc x) (start : γ) :
    xs.foldlM f start = xs.foldlM g start := by
  induction xs generalizing start with
  | nil => rfl
  | cons x xs ih =>
    have tail : ∀ acc, ∀ y ∈ xs, f acc y = g acc y := by
      intro acc y member
      exact same acc y (List.mem_cons_of_mem _ member)
    rw [List.foldlM_cons, List.foldlM_cons, same start x List.mem_cons_self, funext (ih tail)]

/-! ## Failures -/

theorem bind_failure {step : Except ε α} {next : α → Except ε β} {error : ε} :
    (step >>= next) = .error error ↔
      step = .error error ∨ ∃ x, step = .ok x ∧ next x = .error error := by
  cases step with
  | error e =>
    constructor
    · intro failure
      cases failure
      exact Or.inl rfl
    · rintro (failure | ⟨_, succeeded, _⟩)
      · cases failure
        rfl
      · cases succeeded
  | ok x =>
    constructor
    · intro failure
      exact Or.inr ⟨x, rfl, failure⟩
    · rintro (failure | ⟨y, same, failure⟩)
      · cases failure
      · cases same
        exact failure

theorem pure_ne_error {value : α} {error : ε} : (pure value : Except ε α) ≠ .error error := by
  intro failure
  cases failure

theorem map_failure {f : α → β} {step : Except ε α} {error : ε} :
    step.map f = .error error ↔ step = .error error := by
  cases step <;> simp [Except.map]

/-- A step whose result is only built upon fails where it does by itself. -/
theorem bind_pure_failure {step : Except ε α} {build : α → β} {error : ε} :
    (step >>= fun x => pure (build x)) = .error error ↔ step = .error error := by
  simp only [bind_failure, pure_ne_error, and_false, exists_false, or_false]

theorem mapM_cons_failure {f : α → Except ε β} {x : α} {xs : List α} {error : ε} :
    (x :: xs).mapM f = .error error ↔
      f x = .error error ∨ (∃ y, f x = .ok y) ∧ xs.mapM f = .error error := by
  simp only [List.mapM_cons, bind_failure, pure_ne_error, and_false, exists_false, or_false,
    exists_and_right]

/-- A run over a list fails with the error of the first element on which its step does. -/
theorem mapM_failure {f : α → Except ε β} {xs : List α} {error : ε} :
    xs.mapM f = .error error ↔ ∃ before x after, xs = before ++ x :: after ∧
      (∀ y ∈ before, ∃ z, f y = .ok z) ∧ f x = .error error := by
  induction xs with
  | nil => simp [pure_ne_error]
  | cons first rest ih =>
    rw [mapM_cons_failure, ih]
    constructor
    · rintro (failure | ⟨succeeded, before, x, after, rfl, earlier, failure⟩)
      · exact ⟨[], first, rest, rfl, by simp, failure⟩
      · exact ⟨first :: before, x, after, rfl, List.forall_mem_cons.2 ⟨succeeded, earlier⟩, failure⟩
    · rintro ⟨before, x, after, same, earlier, failure⟩
      cases before with
      | nil =>
        obtain ⟨rfl, rfl⟩ := List.cons.inj same
        exact Or.inl failure
      | cons y before =>
        obtain ⟨rfl, rfl⟩ := List.cons.inj same
        obtain ⟨succeeded, earlier⟩ := List.forall_mem_cons.1 earlier
        exact Or.inr ⟨succeeded, before, x, after, rfl, earlier, failure⟩

/-- A fold whose steps may fail does so where the run of its steps does. -/
theorem foldlM_failure {f : α → Except ε β} {join : γ → β → γ} {xs : List α} {start : γ}
    {error : ε} :
    xs.foldlM (fun acc x => do return join acc (← f x)) start = .error error ↔
      xs.mapM f = .error error := by
  induction xs generalizing start with
  | nil => simp [pure_ne_error]
  | cons x xs ih =>
    rw [mapM_cons_failure, List.foldlM_cons]
    simp only [bind_failure, bind_success, pure_success, pure_ne_error, and_false, exists_false,
      or_false, ih]
    constructor
    · rintro (failure | ⟨_, ⟨y, succeeded, _⟩, failure⟩)
      · exact Or.inl failure
      · exact Or.inr ⟨⟨y, succeeded⟩, failure⟩
    · rintro (failure | ⟨⟨y, succeeded⟩, failure⟩)
      · exact Or.inl failure
      · exact Or.inr ⟨_, ⟨y, succeeded, rfl⟩, failure⟩

/-- A second run over the results of a first one is the run of double steps. -/
theorem mapM_mapM {f : α → Except ε β} {g : β → Except ε γ} {xs : List α} {ys : List β}
    (first : xs.mapM f = .ok ys) : ys.mapM g = xs.mapM (fun x => f x >>= g) := by
  induction xs generalizing ys with
  | nil =>
    rw [mapM_nil_success.1 first]
    rfl
  | cons x xs ih =>
    obtain ⟨y, rest, head, tail, rfl⟩ := mapM_cons_success.1 first
    rw [List.mapM_cons, List.mapM_cons, head, ih tail]
    rfl

end RowQuery.Outcome
