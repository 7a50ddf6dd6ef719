import SchemaDefaults.Proofs.SessionSteps

/-! # How a session lives through its calls

Whatever calls are made on a session and whatever its passes do, it goes from registering to
generating to failure and never back, and it fails when a pass fails and at no other time. The
passes are those that were registered, each under a name of its own, and a call that is
refused leaves no trace in the session.
-/

namespace SchemaDefaults

/-- What no call changes in a pass. -/
def Pass.label {σ : Type} (pass : Pass σ) : String × String :=
  (pass.name, pass.description)

namespace Session

variable {σ : Type} [PassBehaviour σ]

/-- The session did not take the call up: it was in the wrong state, or had a pass of the name. -/
def Step.Refused (step : Step σ) : Prop :=
  (∃ expected actual, step.answer = .error (.invalidState expected actual)) ∨
    ∃ name, step.answer = .error (.duplicatePass name)

/-- How a session that began with a configuration goes through some steps; `last` is the session
    after them. -/
structure Orderly (configuration : Configuration) (steps : List (Step σ)) (last : Session σ) :
    Prop where
  forward : ∀ step ∈ steps, step.after.state = step.before.state ∨
    (step.before.state, step.after.state) ∈
      [(.registered, .initialized), (.initialized, .failed), (.registered, .failed)]
  fails_iff : ∀ step ∈ steps, (step.before.state ≠ .failed ∧ step.after.state = .failed) ↔
    ∃ call ∈ step.passCalls, ∃ cause, call.result = .error cause
  /-- The passes are the ones of the calls that registered a pass, in the order of the calls. -/
  named : last.passNames = (steps.filterMap (·.registered?)).map (·.name)
  distinct : last.passNames.Nodup
  configured : last.configuration = configuration
  /-- Only the states of the passes can change once their registration is over. -/
  settled : ∀ step ∈ steps, step.before.state ≠ .registered →
    step.after.configuration = step.before.configuration ∧
      step.after.passes.map Pass.label = step.before.passes.map Pass.label
  refused : ∀ step ∈ steps, step.Refused → step.after = step.before
  closed : ∀ step ∈ steps, step.before.state = .failed →
    step.answer = .error (.invalidState step.call.needs.name "Failed")

/-! ## One move -/

theorem settle_labels {passes : List (Pass σ)} {calls : List (PassCall σ)}
    (inOrder : calls.map PassCall.pass <+: passes) :
    (PassCall.settle passes calls).map Pass.label = passes.map Pass.label := by
  -- The passes called keep their labels, and the rest is not touched.
  obtain ⟨rest, rfl⟩ := inOrder
  have same : ∀ call : PassCall σ, call.after.label = call.pass.label := fun call => by
    rw [Pass.label, call.after_label.1, call.after_label.2]
    rfl
  have uncalled : (calls.map PassCall.pass ++ rest).drop calls.length = rest := by
    simp
  rw [PassCall.settle, uncalled]
  simp [same]

namespace Move

variable {before after : Session σ} {call : Call σ} {calls : List (PassCall σ)}
  {answer : Except Failure Answer}

theorem forward (move : Move before call calls answer after) :
    after.state = before.state ∨ (before.state, after.state) ∈
      [(.registered, .initialized), (.initialized, .failed), (.registered, .failed)] := by
  cases move with
  | refused | duplicate | registered | generated => exact .inl rfl
  | initialized ready | initFailed ready | generateFailed ready => simp [ready]

theorem fails_iff (move : Move before call calls answer after) :
    (before.state ≠ .failed ∧ after.state = .failed) ↔
      ∃ call ∈ calls, ∃ cause, call.result = .error cause := by
  cases move with
  | refused => simp
  | duplicate ready | registered ready => simp [ready]
  | initialized ready _ round =>
      rw [← round.fails_iff]
      simp
  | generated ready _ round =>
      rw [← round.fails_iff]
      simp [ready]
  | initFailed ready _ round | generateFailed ready _ round =>
      rw [← round.fails_iff]
      simp [ready]

theorem configuration_eq (move : Move before call calls answer after) :
    after.configuration = before.configuration := by
  cases move <;> rfl

theorem labels (move : Move before call calls answer after) (closed : before.state ≠ .registered) :
    after.passes.map Pass.label = before.passes.map Pass.label := by
  cases move with
  | refused => rfl
  | duplicate ready | registered ready | initialized ready | initFailed ready =>
      exact absurd ready closed
  | generated _ _ round | generateFailed _ _ round => exact settle_labels round.inOrder

theorem names (move : Move before call calls answer after) :
    after.passNames = before.passNames ++ (call.registered? answer).toList.map (·.name) := by
  have kept : ∀ {calls : List (PassCall σ)}, calls.map PassCall.pass <+: before.passes →
      (PassCall.settle before.passes calls).map (·.name) = before.passNames := by
    intro calls inOrder
    have labels := congrArg (List.map Prod.fst) (settle_labels inOrder)
    rw [List.map_map, List.map_map] at labels
    exact labels
  cases move with
  | refused => cases call <;> simp [Call.registered?]
  | duplicate => simp [Call.registered?]
  | registered => simp [Call.registered?, passNames]
  | initialized _ _ round | initFailed _ _ round | generated _ _ round | generateFailed _ _ round =>
      simpa [Call.registered?, passNames] using kept round.inOrder

theorem distinct (move : Move before call calls answer after) (nodup : before.passNames.Nodup) :
    after.passNames.Nodup := by
  have names := move.names
  cases move with
  | @registered pass _ fresh =>
      rw [names, List.nodup_append]
      refine ⟨nodup, by simp [Call.registered?], ?_⟩
      intro name member other new
      obtain rfl : other = pass.name := by simpa [Call.registered?] using new
      rintro rfl
      exact fresh member
  | _ =>
      rw [names]
      simpa [Call.registered?] using nodup

theorem refused_same (move : Move before call calls answer after)
    (refused : (∃ expected actual, answer = .error (.invalidState expected actual)) ∨
      ∃ name, answer = .error (.duplicatePass name)) : after = before := by
  cases move with
  | refused | duplicate => rfl
  | registered | initialized | generated => simp at refused
  | initFailed _ _ round | generateFailed _ _ round =>
      obtain ⟨none, _⟩ | ⟨call, cause, _, _, reported⟩ := round.ended
      · cases none
      · cases call <;> simp_all [PassCall.report]

end Move

/-! ## All moves -/

theorem steps_names (session : Session σ) (calls : List (Call σ)) :
    (((session.steps calls).map Step.after).getLastD session).passNames =
      session.passNames ++ ((session.steps calls).filterMap (·.registered?)).map (·.name) := by
  induction calls generalizing session with
  | nil => simp [steps]
  | cons call rest ih =>
      have names : (session.step call).after.passNames = session.passNames ++
          (session.step call).registered?.toList.map (·.name) := (session.step_moves call).names
      simp only [steps, List.map_cons, List.getLastD_cons, ih, names, List.filterMap_cons]
      cases (session.step call).registered? <;> simp

/-- What every move keeps is kept by all calls. -/
theorem steps_keep {P : Session σ → Prop} (session : Session σ) (calls : List (Call σ))
    (keep : ∀ {before call made answer after}, Move before call made answer after →
      P before → P after) (holds : P session) :
    P (((session.steps calls).map Step.after).getLastD session) := by
  induction calls generalizing session with
  | nil => exact holds
  | cons call rest ih =>
      rw [steps, List.map_cons, List.getLastD_cons]
      exact ih _ (keep (session.step_moves call) holds)

/-- A session goes through any sequence of calls in order, and the results of the calls are the
    answers of its steps. -/
theorem calls_in_order (configuration : Configuration) (calls : List (Call σ)) :
    let steps := (start configuration).steps calls
    let performed := ((start configuration).performAll calls).value
    performed.1 = steps.map (·.answer) ∧ Orderly configuration steps performed.2 := by
  intro steps performed
  have told : performed =
      (steps.map (·.answer), (steps.map Step.after).getLastD (start configuration)) :=
    congrArg Logged.value (performAll_eq _ _)
  rw [told]
  exact ⟨rfl, {
    forward := fun step member => (moves_of_mem member).forward
    fails_iff := fun step member => (moves_of_mem member).fails_iff
    named := steps_names _ _
    distinct := steps_keep _ _ Move.distinct (by simp [start, passNames])
    configured := steps_keep (P := fun session => session.configuration = configuration) _ _
      (fun move same => move.configuration_eq.trans same) rfl
    settled := fun step member closed =>
      ⟨(moves_of_mem member).configuration_eq, (moves_of_mem member).labels closed⟩
    refused := fun step member refused => (moves_of_mem member).refused_same refused
    closed := fun step member failed => ((moves_of_mem member).refused_of_failed failed).2.2 }⟩

end Session

end SchemaDefaults
