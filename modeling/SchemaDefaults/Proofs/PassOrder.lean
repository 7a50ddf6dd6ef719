import SchemaDefaults.Proofs.LifecycleOrder

/-! # In which order passes are called

Seen over a whole sequence of calls on a session, its passes are initialized first, each at
most once and in the order of their registration; they generate only if all of them could be
initialized; and the first failure of a pass is the last thing that any pass does.
-/

namespace SchemaDefaults.Session

open Schema

variable {σ : Type} [PassBehaviour σ]

def registeredBy (steps : List (Step σ)) : List (Pass σ) :=
  steps.filterMap (·.registered?)

def madeBy (steps : List (Step σ)) : List (PassCall σ) :=
  steps.flatMap Step.passCalls

/-- How steps call passes: first the `inits`, then the `generates`. -/
structure Disciplined (configuration : Configuration) (steps : List (Step σ))
    (inits generates : List (PassCall σ)) : Prop where
  made : madeBy steps = inits ++ generates
  initsOnly : ∀ call ∈ inits, ∃ pass, call = .init configuration pass
  generatesOnly : ∀ call ∈ generates, ∃ file pass writer, call = .generate file pass writer
  once : (inits.map (·.pass.name)).Nodup
  initsInOrder : inits.map (·.pass) <+: registeredBy steps
  /-- Passes generate only if all that were registered could be initialized. -/
  ready : generates ≠ [] →
    inits.map (·.pass) = registeredBy steps ∧ ∀ call ∈ inits, call.Succeeds
  /-- After a failing call no pass is called. -/
  untilFailure : UntilFailure (inits ++ generates)
  initRound : ∀ step ∈ steps, step.call = .init → step.before.state = .registered →
    Round step.before.passes step.passCalls (failureIn step.answer)
  /-- The first pass gets a writer with nothing but the head of the file, at depth zero, and the
      text is that of the writer which the last pass left. -/
  generateRound : ∀ step ∈ steps, ∀ file, step.call = .generate file →
    step.before.state = .initialized →
      Round step.before.passes step.passCalls (failureIn step.answer) ∧
      ∃ last, Relay file ⟨headText file, 0⟩ step.passCalls last ∧
        (step.answer = .ok (.text last.text) ↔ ∀ call ∈ step.passCalls, call.Succeeds)
  roundsInOrder : ∀ step ∈ steps,
    step.passCalls.map (·.pass.name) <+: (registeredBy steps).map (·.name)
  /-- A registration calls no pass, and neither does a call that is refused. -/
  silent : ∀ step ∈ steps,
    (∃ pass, step.call = .register pass) ∨ step.before.state ≠ step.call.needs →
      step.passCalls = []
  /-- Passes are as their calls left them, and do nothing to the log but in their calls. -/
  kept : ∀ step ∈ steps, step.after.passes =
    PassCall.settle (step.before.passes ++ step.registered?.toList) step.passCalls
  logged : ∀ step ∈ steps, step.records =
    step.opening ++ step.passCalls.flatMap PassCall.records ++ step.closing

/-! ## One move -/

namespace Move

variable {before after : Session σ} {call : Call σ} {calls : List (PassCall σ)}
  {answer : Except Failure Answer}

theorem untilFailure (move : Move before call calls answer after) :
    UntilFailure calls ∧ ((∀ call ∈ calls, call.Succeeds) ∨ after.state = .failed) := by
  cases move with
  | refused | duplicate | registered => simp [UntilFailure]
  | initialized _ _ round | generated _ _ round =>
      exact ⟨round.untilFailure, .inl (round.failure_eq_none_iff.mp rfl)⟩
  | initFailed _ _ round | generateFailed _ _ round => exact ⟨round.untilFailure, .inr rfl⟩

theorem of_failed (move : Move before call calls answer after) (failed : before.state = .failed) :
    calls = [] ∧ after.state = .failed ∧ call.registered? answer = none := by
  obtain ⟨rfl, rfl, rfl⟩ := move.refused_of_failed failed
  exact ⟨rfl, failed, by cases call <;> rfl⟩

theorem of_initialized (move : Move before call calls answer after)
    (initialized : before.state = .initialized) :
    (∀ call ∈ calls, ∃ file pass writer, call = .generate file pass writer) ∧
      (after.state = .initialized ∨ after.state = .failed) ∧
      call.registered? answer = none := by
  cases move with
  | refused => exact ⟨by simp, .inl initialized, by cases call <;> rfl⟩
  | duplicate ready | registered ready | initialized ready | initFailed ready =>
      rw [initialized] at ready
      cases ready
  | @generated file _ _ _ relay =>
      exact ⟨fun call member => ⟨file, relay.generates call member⟩, .inl initialized, rfl⟩
  | @generateFailed file _ _ _ _ relay =>
      exact ⟨fun call member => ⟨file, relay.generates call member⟩, .inr rfl, rfl⟩

/-- While passes are registered a call adds at most one and calls none, or it is the one that
    initializes them. -/
theorem of_registered (move : Move before call calls answer after)
    (registered : before.state = .registered) :
    calls = [] ∧ after.state = .registered ∧
        after.passes = before.passes ++ (call.registered? answer).toList ∨
      (∀ call ∈ calls, ∃ pass, call = .init before.configuration pass) ∧
        calls.map PassCall.pass <+: before.passes ∧ call.registered? answer = none ∧
        (after.state = .failed ∨ after.state = .initialized ∧
          calls.map PassCall.pass = before.passes ∧ ∀ call ∈ calls, call.Succeeds) := by
  cases move with
  | refused => exact .inl ⟨rfl, registered, by cases call <;> simp [Call.registered?]⟩
  | duplicate | registered => exact .inl ⟨rfl, registered, by simp [Call.registered?]⟩
  | initialized _ inits round =>
      exact .inr ⟨inits, round.inOrder, rfl,
        .inr ⟨rfl, round.complete, round.failure_eq_none_iff.mp rfl⟩⟩
  | initFailed _ inits round => exact .inr ⟨inits, round.inOrder, rfl, .inl rfl⟩
  | generated ready | generateFailed ready =>
      rw [registered] at ready
      cases ready

theorem init_round (move : Move before .init calls answer after)
    (ready : before.state = .registered) : Round before.passes calls (failureIn answer) := by
  cases move with
  | refused unready => exact absurd ready unready
  | initialized _ _ round | initFailed _ _ round => exact round

theorem generate_round {file : File} (move : Move before (.generate file) calls answer after)
    (ready : before.state = .initialized) :
    Round before.passes calls (failureIn answer) ∧
      ∃ last, Relay file ⟨headText file, 0⟩ calls last ∧
        (answer = .ok (.text last.text) ↔ ∀ call ∈ calls, call.Succeeds) := by
  cases move with
  | refused unready => exact absurd ready unready
  | generated _ relay round =>
      exact ⟨round, _, relay, fun _ => round.failure_eq_none_iff.mp rfl, fun _ => rfl⟩
  | generateFailed _ relay round =>
      refine ⟨round, _, relay, by simp, fun succeed => ?_⟩
      cases round.failure_eq_none_iff.mpr succeed

theorem kept (move : Move before call calls answer after) :
    after.passes = PassCall.settle (before.passes ++ (call.registered? answer).toList) calls := by
  cases move with
  | refused => cases call <;> simp [Call.registered?, PassCall.settle]
  | duplicate | registered => simp [Call.registered?, PassCall.settle]
  | initialized | initFailed | generated | generateFailed => simp [Call.registered?]

theorem namesCalled (move : Move before call calls answer after) :
    calls.map (·.pass.name) <+: before.passNames := by
  cases move with
  | refused | duplicate | registered => exact List.nil_prefix
  | initialized _ _ round | initFailed _ _ round | generated _ _ round | generateFailed _ _ round =>
      have names := round.inOrder.map (·.name)
      rwa [List.map_map] at names

end Move

/-! ## All moves -/

theorem madeBy_steps (session : Session σ) (call : Call σ) (rest : List (Call σ)) :
    madeBy (session.steps (call :: rest)) =
      (session.step call).passCalls ++ madeBy ((session.step call).after.steps rest) := by
  rw [steps, madeBy, List.flatMap_cons]
  rfl

theorem registeredBy_steps (session : Session σ) (call : Call σ) (rest : List (Call σ)) :
    registeredBy (session.steps (call :: rest)) =
      (call.registered? (session.step call).answer).toList ++
        registeredBy ((session.step call).after.steps rest) := by
  have same : (session.step call).registered? = call.registered? (session.step call).answer := rfl
  rw [steps, registeredBy, List.filterMap_cons, same]
  cases call.registered? (session.step call).answer <;> rfl

theorem madeBy_of_failed {session : Session σ} (failed : session.state = .failed)
    (calls : List (Call σ)) :
    madeBy (session.steps calls) = [] ∧ registeredBy (session.steps calls) = [] := by
  induction calls generalizing session with
  | nil => exact ⟨rfl, rfl⟩
  | cons call rest ih =>
      obtain ⟨silent, still, none⟩ := (session.step_moves call).of_failed failed
      obtain ⟨nothing, nobody⟩ := ih still
      rw [madeBy_steps, registeredBy_steps, silent, none, nothing, nobody]
      exact ⟨rfl, rfl⟩

theorem untilFailure_madeBy (session : Session σ) (calls : List (Call σ)) :
    UntilFailure (madeBy (session.steps calls)) := by
  induction calls generalizing session with
  | nil => simp [steps, madeBy, UntilFailure]
  | cons call rest ih =>
      rw [madeBy_steps]
      obtain ⟨untilFailure, succeed | failed⟩ := (session.step_moves call).untilFailure
      · exact .append succeed (ih _)
      · rwa [(madeBy_of_failed failed rest).1, List.append_nil]

theorem madeBy_of_initialized {session : Session σ} (initialized : session.state = .initialized)
    (calls : List (Call σ)) :
    (∀ made ∈ madeBy (session.steps calls),
      ∃ file pass writer, made = .generate file pass writer) ∧
      registeredBy (session.steps calls) = [] := by
  induction calls generalizing session with
  | nil => exact ⟨by simp [steps, madeBy], rfl⟩
  | cons call rest ih =>
      obtain ⟨generates, next, none⟩ := (session.step_moves call).of_initialized initialized
      rw [madeBy_steps, registeredBy_steps, none]
      rcases next with still | failed
      · obtain ⟨later, nobody⟩ := ih still
        exact ⟨List.forall_mem_append.mpr ⟨generates, later⟩, nobody⟩
      · obtain ⟨nothing, nobody⟩ := madeBy_of_failed failed rest
        rw [nothing, List.append_nil]
        exact ⟨generates, nobody⟩

/-- Calls on passes that are initialized first and then generate. -/
structure Phases (configuration : Configuration) (passes : List (Pass σ))
    (inits generates : List (PassCall σ)) : Prop where
  initsOnly : ∀ call ∈ inits, ∃ pass, call = .init configuration pass
  generatesOnly : ∀ call ∈ generates, ∃ file pass writer, call = .generate file pass writer
  inOrder : inits.map PassCall.pass <+: passes
  ready : generates ≠ [] → inits.map PassCall.pass = passes ∧ ∀ call ∈ inits, call.Succeeds

theorem phases_of_registered {session : Session σ} (registered : session.state = .registered)
    (calls : List (Call σ)) :
    ∃ inits generates, madeBy (session.steps calls) = inits ++ generates ∧
      Phases session.configuration (session.passes ++ registeredBy (session.steps calls))
        inits generates := by
  -- Each call registers at most one pass, until one initializes them all or is the first to fail.
  induction calls generalizing session with
  | nil => exact ⟨[], [], rfl, by simp, by simp, List.nil_prefix, by simp⟩
  | cons call rest ih =>
      have move := session.step_moves call
      rw [madeBy_steps, registeredBy_steps]
      obtain ⟨silent, still, passes⟩ | ⟨inits, inOrder, none, failed | ⟨done, all, succeed⟩⟩ :=
        move.of_registered registered
      · obtain ⟨inits, generates, made, phases⟩ := ih still
        rw [passes, move.configuration_eq, List.append_assoc] at phases
        rw [silent]
        exact ⟨inits, generates, made, phases⟩
      · obtain ⟨nothing, nobody⟩ := madeBy_of_failed failed rest
        rw [none, nothing, nobody]
        exact ⟨_, [], rfl, inits, by simp, by simpa using inOrder, by simp⟩
      · obtain ⟨generates, nobody⟩ := madeBy_of_initialized done rest
        rw [none, nobody]
        refine ⟨_, _, rfl, inits, generates, by simpa using inOrder, ?_⟩
        intro _
        exact ⟨by simpa using all, succeed⟩

/-- The names of the passes at any step are the first of those that are registered in the end. -/
theorem names_before {session : Session σ} {calls : List (Call σ)} {step : Step σ}
    (member : step ∈ session.steps calls) :
    step.before.passNames <+:
      session.passNames ++ (registeredBy (session.steps calls)).map (·.name) := by
  induction calls generalizing session with
  | nil => cases member
  | cons call rest ih =>
      rcases List.mem_cons.mp member with rfl | later
      · exact List.prefix_append _ _
      · have names := (session.step_moves call).names
        have prefixed := ih later
        rwa [names, List.append_assoc, ← List.map_append, ← registeredBy_steps] at prefixed

theorem registeredBy_distinct (configuration : Configuration) (calls : List (Call σ)) :
    ((registeredBy ((start configuration).steps calls)).map (·.name)).Nodup := by
  have distinct := steps_keep (start configuration) calls Move.distinct
    (by simp [start, passNames])
  rwa [steps_names] at distinct

/-- The passes of a session are called in order: initialized once each, then given the files, and
    not called any more after one of them failed. -/
theorem passes_called_in_order (configuration : Configuration) (calls : List (Call σ)) :
    let steps := (start configuration).steps calls
    ((start configuration).performAll calls).records = steps.flatMap (·.records) ∧
      ∃ inits generates, Disciplined configuration steps inits generates := by
  intro steps
  have told := congrArg Logged.records (performAll_eq (start configuration) calls)
  have fresh : (start configuration : Session σ).state = .registered := rfl
  obtain ⟨inits, generates, made, phases⟩ := phases_of_registered fresh calls
  have registered : (start configuration).passes ++ registeredBy steps = registeredBy steps := rfl
  rw [registered] at phases
  have names : inits.map (·.pass.name) <+: (registeredBy steps).map (·.name) := by
    have inOrder := phases.inOrder.map (·.name)
    rwa [List.map_map] at inOrder
  refine ⟨told, inits, generates, ?_⟩
  exact {
    made := made
    initsOnly := phases.initsOnly
    generatesOnly := phases.generatesOnly
    once := (registeredBy_distinct configuration calls).sublist names.sublist
    initsInOrder := phases.inOrder
    ready := phases.ready
    untilFailure := by
      rw [← made]
      exact untilFailure_madeBy _ _
    initRound := by
      intro step member same ready
      have move := moves_of_mem member
      rw [same] at move
      exact move.init_round ready
    generateRound := by
      intro step member file same ready
      have move := moves_of_mem member
      rw [same] at move
      exact move.generate_round ready
    roundsInOrder := fun step member =>
      (moves_of_mem member).namesCalled.trans (names_before member)
    silent := by
      rintro step member (⟨pass, same⟩ | unready)
      · rw [Step.passCalls, same, passCalls]
        exact ite_self _
      · exact if_neg unready
    kept := fun step member => (moves_of_mem member).kept
    logged := by
      intro step member
      rw [mem_steps member]
      exact step_records _ _ }

end SchemaDefaults.Session
