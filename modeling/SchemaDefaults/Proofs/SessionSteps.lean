import SchemaDefaults.Proofs.PassCalls

/-! # What a call on a session can do

A call on a session is refused, or adds a pass, or lets the passes do their work in a round
that ends well or with a failure. A sequence of calls is a list of such steps, each from the
session that the one before left.
-/

namespace SchemaDefaults

open Schema

namespace Session

variable {σ : Type}

/-- The state that a call needs. -/
def Call.needs : Call σ → Lifecycle
  | .register _ => .registered
  | .init => .registered
  | .generate _ => .initialized

/-- The pass that a call registers, given its answer. -/
def Call.registered? : Call σ → Except Failure Answer → Option (Pass σ)
  | .register pass, .ok _ => some pass
  | _, _ => none

def failureIn : Except Failure Answer → Option Failure
  | .ok _ => none
  | .error failure => some failure

variable [PassBehaviour σ]

/-- The calls on passes that a call makes. It makes none if the session is in another state than
    the one it needs. -/
def passCalls (session : Session σ) (call : Call σ) : List (PassCall σ) :=
  if session.state = call.needs then
    match call with
    | .register _ => []
    | .init =>
        PassCall.sweep (fun pass _ => .init session.configuration pass) session.passes .empty
    | .generate file =>
        PassCall.sweep (.generate file) session.passes (header file.name file.goPackage.value)
  else []

/-- What a call can do: the calls on passes that it makes, its answer, and the session after it. -/
inductive Move (before : Session σ) :
    Call σ → List (PassCall σ) → Except Failure Answer → Session σ → Prop where
  /-- The session is not in the state that the call needs. -/
  | refused {call : Call σ} (unready : before.state ≠ call.needs) :
      Move before call [] (.error (Lifecycle.refusal call.needs before.state)) before
  | duplicate {pass : Pass σ} (ready : before.state = .registered)
      (taken : pass.name ∈ before.passNames) :
      Move before (.register pass) [] (.error (.duplicatePass pass.name)) before
  | registered {pass : Pass σ} (ready : before.state = .registered)
      (fresh : pass.name ∉ before.passNames) :
      Move before (.register pass) [] (.ok .done)
        { before with passes := before.passes ++ [pass] }
  | initialized {calls : List (PassCall σ)} (ready : before.state = .registered)
      (inits : ∀ call ∈ calls, ∃ pass, call = .init before.configuration pass)
      (round : Round before.passes calls none) :
      Move before .init calls (.ok .done)
        { before with state := .initialized, passes := PassCall.settle before.passes calls }
  | initFailed {calls : List (PassCall σ)} {failure : Failure} (ready : before.state = .registered)
      (inits : ∀ call ∈ calls, ∃ pass, call = .init before.configuration pass)
      (round : Round before.passes calls (some failure)) :
      Move before .init calls (.error failure)
        { before with state := .failed, passes := PassCall.settle before.passes calls }
  | generated {file : File} {calls : List (PassCall σ)} {last : CodeWriter}
      (ready : before.state = .initialized) (relay : Relay file ⟨headText file, 0⟩ calls last)
      (round : Round before.passes calls none) :
      Move before (.generate file) calls (.ok (.text last.text))
        { before with passes := PassCall.settle before.passes calls }
  | generateFailed {file : File} {calls : List (PassCall σ)} {last : CodeWriter} {failure : Failure}
      (ready : before.state = .initialized) (relay : Relay file ⟨headText file, 0⟩ calls last)
      (round : Round before.passes calls (some failure)) :
      Move before (.generate file) calls (.error failure)
        { before with state := .failed, passes := PassCall.settle before.passes calls }

/-- Once a session has failed, it refuses every call and stays as it is. -/
theorem Move.refused_of_failed {before after : Session σ} {call : Call σ}
    {calls : List (PassCall σ)} {answer : Except Failure Answer}
    (move : Move before call calls answer after) (failed : before.state = .failed) :
    calls = [] ∧ after = before ∧ answer = .error (.invalidState call.needs.name "Failed") := by
  cases move with
  | refused =>
      rw [failed]
      exact ⟨rfl, rfl, rfl⟩
  | duplicate ready | registered ready | initialized ready | initFailed ready | generated ready
  | generateFailed ready =>
      rw [failed] at ready
      cases ready

/-! ## Every call is a move -/

theorem canRegister_iff (state : Lifecycle) : state.canRegister = true ↔ state = .registered := by
  cases state <;> decide

theorem canBecome_initialized_iff (state : Lifecycle) :
    state.canBecome .initialized = true ↔ state = .registered := by
  cases state <;> decide

theorem canGenerate_iff (state : Lifecycle) : state.canGenerate = true ↔ state = .initialized := by
  cases state <;> decide

theorem header_eq_head (file : File) :
    header file.name file.goPackage.value = ⟨headText file, 0⟩ := by
  rw [header_eq]
  simp [CodeWriter.append, CodeWriter.empty]

theorem perform_unready {session : Session σ} {call : Call σ}
    (unready : session.state ≠ call.needs) :
    session.perform call =
      ⟨(.error (Lifecycle.refusal call.needs session.state), session), []⟩ := by
  cases call with
  | register pass =>
      have closed := mt (canRegister_iff _).mp unready
      simp only [perform, register, closed, Bool.not_false, if_true]
      rfl
  | init =>
      have closed := mt (canBecome_initialized_iff _).mp unready
      simp only [perform, init, closed, Bool.not_false, if_true]
      rfl
  | generate file =>
      have closed := mt (canGenerate_iff _).mp unready
      simp only [perform, generateFile, closed, Bool.not_false, if_true]
      rfl

theorem perform_register {session : Session σ} (ready : session.state = .registered)
    (pass : Pass σ) :
    session.perform (.register pass) =
      if pass.name ∈ session.passNames then ⟨(.error (.duplicatePass pass.name), session), []⟩
      else
        ⟨(.ok .done, { session with passes := session.passes ++ [pass] }),
          [⟨.debug, "registered pass", [("pass", .quoted pass.name)]⟩]⟩ := by
  have opened := (canRegister_iff _).mpr ready
  simp only [perform, register, opened, Bool.not_true, Bool.false_eq_true, if_false]
  split <;> rfl

theorem perform_init {session : Session σ} (ready : session.state = .registered) :
    let calls := session.passCalls .init
    session.perform .init =
      match PassCall.failure? calls with
      | none =>
          ⟨(.ok .done, { session with
              state := .initialized, passes := PassCall.settle session.passes calls }),
            calls.flatMap PassCall.records ++
              [⟨.info, "generator initialized",
                [("passes", .plain (toString session.passes.length))]⟩]⟩
      | some failure =>
          ⟨(.error failure, { session with
              state := .failed, passes := PassCall.settle session.passes calls }),
            calls.flatMap PassCall.records⟩ := by
  have opened := (canBecome_initialized_iff _).mpr ready
  have called : session.passCalls .init = PassCall.sweep
      (fun pass _ => .init session.configuration pass) session.passes .empty := if_pos ready
  simp only [perform, init, opened, Bool.not_true, Bool.false_eq_true, if_false, called,
    initPasses_eq session.configuration session.passes .empty]
  cases PassCall.failure? (PassCall.sweep (fun pass _ => .init session.configuration pass)
      session.passes .empty) with
  | none => apply Logged.ext <;> simp [Except.map]
  | some failure => apply Logged.ext <;> simp [Except.map]

theorem perform_generate {session : Session σ} (ready : session.state = .initialized)
    (file : File) :
    let calls := session.passCalls (.generate file)
    ∃ last, Relay file ⟨headText file, 0⟩ calls last ∧
      session.perform (.generate file) =
        match PassCall.failure? calls with
        | none =>
            ⟨(.ok (.text last.text), { session with
                passes := PassCall.settle session.passes calls }),
              file.goPackage.records ++ calls.flatMap PassCall.records⟩
        | some failure =>
            ⟨(.error failure, { session with
                state := .failed, passes := PassCall.settle session.passes calls }),
              file.goPackage.records ++ calls.flatMap PassCall.records⟩ := by
  have opened := (canGenerate_iff _).mpr ready
  have called : session.passCalls (.generate file) =
      PassCall.sweep (.generate file) session.passes ⟨headText file, 0⟩ := by
    rw [← header_eq_head]
    exact if_pos ready
  obtain ⟨last, relay, written⟩ := generatePasses_eq file session.passes ⟨headText file, 0⟩
  rw [← called] at relay
  refine ⟨last, relay, ?_⟩
  simp only [perform, generateFile, opened, Bool.not_true, Bool.false_eq_true, if_false, called]
  cases ended : PassCall.failure?
      (PassCall.sweep (.generate file) session.passes ⟨headText file, 0⟩) with
  | none =>
      apply Logged.ext <;> simp [Except.map, header_eq_head, written, ended]
  | some failure => apply Logged.ext <;> simp [Except.map, header_eq_head, written, ended]

theorem round_init {session : Session σ} (ready : session.state = .registered) :
    (∀ call ∈ session.passCalls .init, ∃ pass, call = .init session.configuration pass) ∧
      Round session.passes (session.passCalls .init)
        (PassCall.failure? (session.passCalls .init)) := by
  have called : session.passCalls .init = PassCall.sweep
      (fun pass _ => .init session.configuration pass) session.passes .empty := if_pos ready
  rw [called]
  constructor
  · intro call member
    obtain ⟨pass, _, made⟩ := PassCall.mem_sweep member
    exact ⟨pass, made⟩
  · exact round_sweep (fun _ _ => rfl) _ _

theorem round_generate {session : Session σ} (ready : session.state = .initialized) (file : File) :
    Round session.passes (session.passCalls (.generate file))
      (PassCall.failure? (session.passCalls (.generate file))) := by
  have called : session.passCalls (.generate file) =
      PassCall.sweep (.generate file) session.passes (header file.name file.goPackage.value) :=
    if_pos ready
  rw [called]
  exact round_sweep (fun _ _ => rfl) _ _

theorem perform_moves (session : Session σ) (call : Call σ) :
    Move session call (session.passCalls call) (session.perform call).value.1
      (session.perform call).value.2 := by
  by_cases ready : session.state = call.needs
  · cases call with
    | register pass =>
        have silent : session.passCalls (.register pass) = [] := if_pos ready
        rw [silent, perform_register ready]
        split
        · exact .duplicate ready ‹_›
        · exact .registered ready ‹_›
    | init =>
        obtain ⟨inits, round⟩ := round_init ready
        rw [perform_init ready]
        cases ended : PassCall.failure? (session.passCalls .init) with
        | none =>
            rw [ended] at round
            exact .initialized ready inits round
        | some failure =>
            rw [ended] at round
            exact .initFailed ready inits round
    | generate file =>
        have round := round_generate ready file
        obtain ⟨last, relay, performed⟩ := perform_generate ready file
        rw [performed]
        cases ended : PassCall.failure? (session.passCalls (.generate file)) with
        | none =>
            rw [ended] at round
            exact .generated ready relay round
        | some failure =>
            rw [ended] at round
            exact .generateFailed ready relay round
  · have silent : session.passCalls call = [] := if_neg ready
    rw [silent, perform_unready ready]
    exact .refused ready

/-! ## Sequences of calls -/

/-- One call of a sequence: the session before it and what came of it. -/
structure Step (σ : Type) where
  before : Session σ
  call : Call σ
  answer : Except Failure Answer
  after : Session σ
  records : List Log.Record

def step (session : Session σ) (call : Call σ) : Step σ :=
  let performed := session.perform call
  ⟨session, call, performed.value.1, performed.value.2, performed.records⟩

def steps (session : Session σ) : List (Call σ) → List (Step σ)
  | [] => []
  | call :: rest => session.step call :: steps (session.step call).after rest

namespace Step

def passCalls (step : Step σ) : List (PassCall σ) := step.before.passCalls step.call

def registered? (step : Step σ) : Option (Pass σ) :=
  step.call.registered? step.answer

/-- What a session puts into the log before it calls a pass. -/
def opening (step : Step σ) : List Log.Record :=
  match step.call, failureIn step.answer with
  | .register pass, none => [⟨.debug, "registered pass", [("pass", .quoted pass.name)]⟩]
  | .generate file, _ => if step.before.state = .initialized then file.goPackage.records else []
  | _, _ => []

/-- What a session puts into the log after it has called its passes. -/
def closing (step : Step σ) : List Log.Record :=
  match step.call, failureIn step.answer with
  | .init, none =>
      [⟨.info, "generator initialized",
        [("passes", .plain (toString step.before.passes.length))]⟩]
  | _, _ => []

end Step

theorem step_moves (session : Session σ) (call : Call σ) :
    Move session call (session.step call).passCalls (session.step call).answer
      (session.step call).after :=
  session.perform_moves call

/-- Beside a few records of the session, the log of a step is what the passes put there. -/
theorem step_records (session : Session σ) (call : Call σ) :
    (session.step call).records = (session.step call).opening ++
      (session.step call).passCalls.flatMap PassCall.records ++ (session.step call).closing := by
  by_cases ready : session.state = call.needs
  · cases call with
    | register pass =>
        have silent : session.passCalls (.register pass) = [] := if_pos ready
        simp only [step, Step.opening, Step.closing, failureIn, Step.passCalls, silent,
          perform_register ready]
        by_cases taken : pass.name ∈ session.passNames <;> simp [taken]
    | init =>
        simp only [step, Step.opening, Step.closing, failureIn, Step.passCalls,
          perform_init ready]
        cases PassCall.failure? (session.passCalls .init) <;> simp
    | generate file =>
        obtain ⟨last, _, performed⟩ := perform_generate ready file
        have opened : session.state = .initialized := ready
        simp only [step, Step.opening, Step.closing, failureIn, Step.passCalls, performed,
          opened]
        cases PassCall.failure? (session.passCalls (.generate file)) <;> simp
  · have silent : session.passCalls call = [] := if_neg ready
    simp only [step, Step.opening, Step.closing, failureIn, Step.passCalls, silent,
      perform_unready ready]
    cases call with
    | register | init => rfl
    | generate file =>
        have closed : session.state ≠ .initialized := ready
        simp [closed]

theorem mem_steps {session : Session σ} {calls : List (Call σ)} {step : Step σ}
    (member : step ∈ session.steps calls) : step = step.before.step step.call := by
  induction calls generalizing session with
  | nil => cases member
  | cons call rest ih =>
      rcases List.mem_cons.mp member with rfl | later
      · rfl
      · exact ih later

theorem moves_of_mem {session : Session σ} {calls : List (Call σ)} {step : Step σ}
    (member : step ∈ session.steps calls) :
    Move step.before step.call step.passCalls step.answer step.after := by
  have move := step.before.step_moves step.call
  rwa [← mem_steps member] at move

theorem performAll_eq (session : Session σ) (calls : List (Call σ)) :
    session.performAll calls =
      ⟨((session.steps calls).map Step.answer,
        ((session.steps calls).map Step.after).getLastD session),
        (session.steps calls).flatMap Step.records⟩ := by
  induction calls generalizing session with
  | nil => rfl
  | cons call rest ih =>
      simp only [performAll, steps, List.map_cons, List.flatMap_cons, List.getLastD_cons]
      apply Logged.ext
      · simp only [Logged.value_bind, Logged.value_pure, ih]
        rfl
      · simp only [Logged.records_bind, Logged.records_pure, ih, List.append_nil]
        rfl

end Session

end SchemaDefaults
