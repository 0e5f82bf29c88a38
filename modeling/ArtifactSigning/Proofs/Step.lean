import Mathlib.Order.Defs.Unbundled

/-!
# Steps that change a state and may fail

When a composed step succeeds, its parts have succeeded one after the other; the lemmas here take
such a run apart and put it together. Where a step fails, what it has done before stays done, so
what holds however it ends is said about the state that it ends in.
-/
namespace ArtifactSigning.Step

variable {ε σ α β : Type} {c d : σ}

/-- A composed computation without a state. -/
theorem except_bind_eq_ok {step : Except ε α} {next : α → Except ε β} {b : β} :
    (step >>= next) = .ok b ↔ ∃ a, step = .ok a ∧ next a = .ok b := by
  cases step with
  | error failure => simp [bind, Except.bind]
  | ok a => simp [bind, Except.bind]

theorem except_bind_eq_error {step : Except ε α} {next : α → Except ε β} {failure : ε} :
    (step >>= next) = .error failure ↔
      step = .error failure ∨ ∃ a, step = .ok a ∧ next a = .error failure := by
  cases step with
  | error failure' => simp [bind, Except.bind]
  | ok a => simp [bind, Except.bind]

theorem bind_eq_ok {step : EStateM ε σ α} {next : α → EStateM ε σ β} {b : β} :
    (step >>= next) c = .ok b d ↔ ∃ a e, step c = .ok a e ∧ next a e = .ok b d := by
  change EStateM.bind step next c = .ok b d ↔ _
  rw [EStateM.bind]
  constructor
  · intro h
    cases hstep : step c with
    | error failure e => simp [hstep] at h
    | ok a e => exact ⟨a, e, rfl, by simpa [hstep] using h⟩
  · rintro ⟨a, e, hstep, hnext⟩
    simp only [hstep, hnext]

/-- What follows a step that succeeds. -/
theorem bind_of_ok {step : EStateM ε σ α} {a : α} (next : α → EStateM ε σ β)
    (h : step c = .ok a d) : (step >>= next) c = next a d := by
  change EStateM.bind step next c = _
  rw [EStateM.bind, h]

theorem bind_of_error {step : EStateM ε σ α} {failure : ε} (next : α → EStateM ε σ β)
    (h : step c = .error failure d) : (step >>= next) c = .error failure d := by
  change EStateM.bind step next c = _
  rw [EStateM.bind, h]

theorem pure_eq_ok {a b : α} : (pure a : EStateM ε σ α) c = .ok b d ↔ a = b ∧ c = d := by
  change EStateM.pure a c = .ok b d ↔ _
  simp [EStateM.pure]

theorem map_eq_ok {f : α → β} {step : EStateM ε σ α} {b : β} :
    (f <$> step) c = .ok b d ↔ ∃ a, step c = .ok a d ∧ f a = b := by
  change EStateM.map f step c = .ok b d ↔ _
  rw [EStateM.map]
  constructor
  · intro h
    cases hstep : step c with
    | error failure e => simp [hstep] at h
    | ok a e =>
        simp only [hstep, EStateM.Result.ok.injEq] at h
        obtain ⟨hb, rfl⟩ := h
        exact ⟨a, rfl, hb⟩
  · rintro ⟨a, hstep, rfl⟩
    simp only [hstep]

theorem bind_eq_error {step : EStateM ε σ α} {next : α → EStateM ε σ β} {failure : ε} :
    (step >>= next) c = .error failure d ↔
      step c = .error failure d ∨ ∃ a e, step c = .ok a e ∧ next a e = .error failure d := by
  change EStateM.bind step next c = .error failure d ↔ _
  rw [EStateM.bind]
  cases hstep : step c with
  | error failure' e => simp
  | ok a e =>
      constructor
      · intro h
        exact .inr ⟨a, e, rfl, h⟩
      · rintro (h | ⟨_, _, h, hnext⟩)
        · cases h
        · cases h
          exact hnext

theorem map_eq_error {f : α → β} {step : EStateM ε σ α} {failure : ε} :
    (f <$> step) c = .error failure d ↔ step c = .error failure d := by
  change EStateM.map f step c = .error failure d ↔ _
  rw [EStateM.map]
  cases hstep : step c with
  | ok a e => simp
  | error failure' e => simp

theorem get_eq_ok (c : σ) : (get : EStateM ε σ σ) c = .ok c c := rfl

@[simp] theorem throw_ne_ok {failure : ε} {a : α} :
    (throw failure : EStateM ε σ α) c ≠ .ok a d := by
  change EStateM.Result.error failure c ≠ .ok a d
  simp

section Ends

/-- The state that a step ends in, whether or not it fails. -/
def finalState (step : EStateM ε σ α) (c : σ) : σ :=
  match step c with
  | .ok _ d | .error _ d => d

variable {step : EStateM ε σ α}

theorem finalState_of_ok {a : α} (h : step c = .ok a d) : finalState step c = d := by
  rw [finalState, h]

theorem finalState_of_error {failure : ε} (h : step c = .error failure d) :
    finalState step c = d := by
  rw [finalState, h]

/-- The result of a step, or its failure. -/
def outcome (step : EStateM ε σ α) (c : σ) : Except ε α :=
  match step c with
  | .ok a _ => .ok a
  | .error failure _ => .error failure

theorem outcome_of_ok {a : α} (h : step c = .ok a d) : outcome step c = .ok a := by
  rw [outcome, h]

theorem outcome_of_error {failure : ε} (h : step c = .error failure d) :
    outcome step c = .error failure := by
  rw [outcome, h]

theorem outcome_bind_of_ok {next : α → EStateM ε σ β} {a : α} (h : step c = .ok a d) :
    outcome (step >>= next) c = outcome (next a) d := by
  rw [outcome, bind_of_ok next h]
  rfl

/-- Steps with the same outcome that end in the same state do the same. -/
theorem eq_of_outcome {other : EStateM ε σ α} (h : outcome other c = outcome step c)
    (hstate : finalState other c = finalState step c) : other c = step c := by
  rw [outcome, outcome] at h
  rw [finalState, finalState] at hstate
  cases hother : other c <;> cases hstep : step c <;> simp_all

/-- The result of a step that succeeds. -/
def result? (step : EStateM ε σ α) (c : σ) : Option α :=
  match step c with
  | .ok a _ => some a
  | .error .. => none

theorem eq_ok_of_result? {a : α} (h : result? step c = some a) :
    step c = .ok a (finalState step c) := by
  rw [result?] at h
  rw [finalState]
  cases hstep : step c with
  | ok b d =>
      rw [hstep] at h
      rw [Option.some.inj h]
  | error failure d =>
      rw [hstep] at h
      cases h

theorem finalState_bind_of_ok {next : α → EStateM ε σ β} {a : α} (h : step c = .ok a d) :
    finalState (step >>= next) c = finalState (next a) d := by
  change (match EStateM.bind step next c with | .ok _ e | .error _ e => e) = _
  rw [EStateM.bind, h]
  rfl

theorem finalState_bind_of_error {next : α → EStateM ε σ β} {failure : ε}
    (h : step c = .error failure d) : finalState (step >>= next) c = d :=
  finalState_of_error (bind_eq_error.2 (.inl h))

theorem finalState_get_bind (next : σ → EStateM ε σ α) (c : σ) :
    finalState (get >>= next) c = finalState (next c) c :=
  finalState_bind_of_ok (get_eq_ok c)

/-- The result of a step does not matter for the state that it ends in. -/
theorem finalState_bind_pure (step : EStateM ε σ α) (b : β) (c : σ) :
    finalState (step >>= fun _ => pure b) c = finalState step c := by
  cases h : step c with
  | ok a d => rw [finalState_bind_of_ok h, finalState_of_ok h]; rfl
  | error failure d => rw [finalState_bind_of_error h, finalState_of_error h]

/-- However it ends, the step leads to a state that is related to the first one. -/
def Respects (r : σ → σ → Prop) (step : EStateM ε σ α) : Prop := ∀ c, r c (finalState step c)

variable {r r' : σ → σ → Prop}

theorem Respects.of_ok {a : α} (h : Respects r step) (hstep : step c = .ok a d) : r c d := by
  rw [← finalState_of_ok hstep]
  exact h c

theorem Respects.of_error {failure : ε} (h : Respects r step)
    (hstep : step c = .error failure d) : r c d := by
  rw [← finalState_of_error hstep]
  exact h c

theorem Respects.mono (h : Respects r step) (himp : ∀ c d, r c d → r' c d) : Respects r' step :=
  fun c => himp _ _ (h c)

/-- What follows a step counts for the results that the step can have. -/
theorem Respects.bind_of_ok [IsTrans σ r] {next : α → EStateM ε σ β} (h : Respects r step)
    (h' : ∀ ⦃c a d⦄, step c = .ok a d → Respects r (next a)) : Respects r (step >>= next) := by
  intro c
  cases hstep : step c with
  | ok a d =>
      rw [finalState_bind_of_ok hstep]
      exact trans_of r (h.of_ok hstep) (h' hstep d)
  | error failure d =>
      rw [finalState_bind_of_error hstep]
      exact h.of_error hstep

theorem Respects.bind [IsTrans σ r] {next : α → EStateM ε σ β} (h : Respects r step)
    (h' : ∀ a, Respects r (next a)) : Respects r (step >>= next) :=
  h.bind_of_ok fun _ a _ _ => h' a

/-- What follows a step leads on from the state that the step ends in. -/
theorem Respects.after [Std.Refl r] {next : α → EStateM ε σ β} (h : ∀ a, Respects r (next a))
    (step : EStateM ε σ α) (c : σ) : r (finalState step c) (finalState (step >>= next) c) := by
  cases hstep : step c with
  | ok a d =>
      rw [finalState_of_ok hstep, finalState_bind_of_ok hstep]
      exact h a d
  | error failure d =>
      rw [finalState_of_error hstep, finalState_bind_of_error hstep]
      exact refl_of r d

theorem respects_pure [Std.Refl r] (a : α) : Respects r (pure a : EStateM ε σ α) :=
  fun c => refl_of r c

theorem respects_throw [Std.Refl r] (failure : ε) : Respects r (throw failure : EStateM ε σ α) :=
  fun c => refl_of r c

theorem respects_get [Std.Refl r] : Respects r (get : EStateM ε σ σ) := fun c => refl_of r c

end Ends

end ArtifactSigning.Step
