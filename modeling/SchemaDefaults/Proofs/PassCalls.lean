import SchemaDefaults.Proofs.Texts

/-! # The calls that a session makes on its passes

What a call on a session makes of its passes is told by the calls on single passes that it
makes on the way: their results decide its result, the passes and the writer that they leave
are the ones it leaves, and beside a few records of its own nothing is in the log but what
they put there. They go through the passes in order, up to the first that fails.
-/

namespace SchemaDefaults

open Schema

namespace Pass

variable {σ : Type} [PassBehaviour σ]

@[simp] theorem name_init (configuration : Configuration) (pass : Pass σ) :
    (pass.init configuration).value.2.name = pass.name := rfl

@[simp] theorem name_generate (file : File) (pass : Pass σ) (writer : CodeWriter) :
    (pass.generate file writer).value.2.1.name = pass.name := rfl

end Pass

/-- A call on a pass: the pass as it is then, and what it is given. -/
inductive PassCall (σ : Type) where
  | init (configuration : Configuration) (pass : Pass σ)
  | generate (file : File) (pass : Pass σ) (writer : CodeWriter)

namespace PassCall

variable {σ : Type}

def pass : PassCall σ → Pass σ
  | .init _ pass => pass
  | .generate _ pass _ => pass

/-- What a session says when the call fails: it names the pass, and the file if there is one. -/
def report (cause : Failure) : PassCall σ → Failure
  | .init _ pass => .initialization (pass.name ++ ": " ++ cause.message)
  | .generate file pass _ =>
      .generation (pass.name ++ " on " ++ file.name ++ ": " ++ cause.message)

def announcement : PassCall σ → List Log.Record
  | .init .. => []
  | .generate file pass _ =>
      [⟨.debug, "running pass", [("pass", .quoted pass.name), ("file", .plain file.name)]⟩]

variable [PassBehaviour σ]

/-- What comes of a call. An initialization has no writer and leaves an empty one. -/
def outcome : PassCall σ → Logged (Except Failure Unit × Pass σ × CodeWriter)
  | .init configuration pass => do
      let (result, pass) ← pass.init configuration
      return (result, pass, .empty)
  | .generate file pass writer => pass.generate file writer

def result (call : PassCall σ) : Except Failure Unit := call.outcome.value.1

def after (call : PassCall σ) : Pass σ := call.outcome.value.2.1

def written (call : PassCall σ) : CodeWriter := call.outcome.value.2.2

def records (call : PassCall σ) : List Log.Record := call.announcement ++ call.outcome.records

def Succeeds (call : PassCall σ) : Prop := call.result = .ok ()

theorem after_label (call : PassCall σ) :
    call.after.name = call.pass.name ∧ call.after.description = call.pass.description := by
  cases call <;> exact ⟨rfl, rfl⟩

theorem not_succeeds_iff (call : PassCall σ) :
    ¬call.Succeeds ↔ ∃ cause, call.result = .error cause := by
  unfold Succeeds
  cases call.result with
  | ok => simp
  | error cause => simp

end PassCall

variable {σ : Type} [PassBehaviour σ]

/-! ## Going through passes -/

/-- Goes through passes in their order, each call with the writer that the one before left, up to
    the first that fails. -/
def PassCall.sweep (next : Pass σ → CodeWriter → PassCall σ) :
    List (Pass σ) → CodeWriter → List (PassCall σ)
  | [], _ => []
  | pass :: rest, writer =>
      let call := next pass writer
      match call.result with
      | .ok () => call :: PassCall.sweep next rest call.written
      | .error _ => [call]

/-- The failure that is reported of some calls. -/
def PassCall.failure? : List (PassCall σ) → Option Failure
  | [] => none
  | call :: rest =>
      match call.result with
      | .ok () => PassCall.failure? rest
      | .error cause => some (call.report cause)

def UntilFailure (calls : List (PassCall σ)) : Prop :=
  ∀ call ∈ calls.dropLast, call.Succeeds

/-- Calls go through passes in order, up to the first that fails, and the failure of this one is
    the one that is reported. -/
structure Round (passes : List (Pass σ)) (calls : List (PassCall σ)) (failure : Option Failure) :
    Prop where
  inOrder : calls.map PassCall.pass <+: passes
  untilFailure : UntilFailure calls
  ended : failure = none ∧ (∀ call ∈ calls, call.Succeeds) ∧ calls.map PassCall.pass = passes ∨
    ∃ call cause, calls.getLast? = some call ∧ call.result = .error cause ∧
      failure = some (call.report cause)

/-- Each call lets a pass write its part for a file, with the writer that the call before left. -/
inductive Relay (file : File) : CodeWriter → List (PassCall σ) → CodeWriter → Prop where
  | done (writer : CodeWriter) : Relay file writer [] writer
  | handOn {writer last : CodeWriter} {calls : List (PassCall σ)} (pass : Pass σ)
      (rest : Relay file (PassCall.generate file pass writer).written calls last) :
      Relay file writer (.generate file pass writer :: calls) last

theorem Relay.generates {file : File} {writer last : CodeWriter} {calls : List (PassCall σ)}
    (relay : Relay file writer calls last) :
    ∀ call ∈ calls, ∃ pass given, call = .generate file pass given := by
  induction relay with
  | done => simp
  | handOn pass _ ih => exact List.forall_mem_cons.mpr ⟨⟨pass, _, rfl⟩, ih⟩

theorem UntilFailure.append {calls more : List (PassCall σ)}
    (succeed : ∀ call ∈ calls, call.Succeeds) (rest : UntilFailure more) :
    UntilFailure (calls ++ more) := by
  intro call member
  rw [List.dropLast_append] at member
  split at member
  · exact succeed call (List.dropLast_subset _ member)
  · rcases List.mem_append.mp member with before | later
    · exact succeed call before
    · exact rest call later

theorem Round.failure_eq_none_iff {passes : List (Pass σ)} {calls : List (PassCall σ)}
    {failure : Option Failure} (round : Round passes calls failure) :
    failure = none ↔ ∀ call ∈ calls, call.Succeeds := by
  obtain ⟨none, succeed, _⟩ | ⟨call, cause, last, failed, reported⟩ := round.ended
  · exact ⟨fun _ => succeed, fun _ => none⟩
  · constructor
    · intro none
      rw [reported] at none
      cases none
    · intro succeed
      have success := succeed call (List.mem_of_getLast? last)
      rw [PassCall.Succeeds, failed] at success
      cases success

theorem Round.fails_iff {passes : List (Pass σ)} {calls : List (PassCall σ)}
    {failure : Option Failure} (round : Round passes calls failure) :
    failure ≠ none ↔ ∃ call ∈ calls, ∃ cause, call.result = .error cause := by
  rw [Ne, round.failure_eq_none_iff]
  simp only [Classical.not_forall, PassCall.not_succeeds_iff, exists_prop]

theorem Round.complete {passes : List (Pass σ)} {calls : List (PassCall σ)}
    (round : Round passes calls none) : calls.map PassCall.pass = passes := by
  obtain ⟨_, _, all⟩ | ⟨_, _, _, _, reported⟩ := round.ended
  · exact all
  · cases reported

theorem PassCall.mem_sweep {next : Pass σ → CodeWriter → PassCall σ} {passes : List (Pass σ)}
    {writer : CodeWriter} {call : PassCall σ} (member : call ∈ PassCall.sweep next passes writer) :
    ∃ pass given, call = next pass given := by
  induction passes generalizing writer with
  | nil => cases member
  | cons pass rest ih =>
      simp only [PassCall.sweep] at member
      split at member
      · rcases List.mem_cons.mp member with rfl | later
        · exact ⟨pass, writer, rfl⟩
        · exact ih later
      · exact ⟨pass, writer, List.mem_singleton.mp member⟩

theorem round_sweep {next : Pass σ → CodeWriter → PassCall σ}
    (same : ∀ pass writer, (next pass writer).pass = pass) (passes : List (Pass σ))
    (writer : CodeWriter) :
    Round passes (PassCall.sweep next passes writer)
      (PassCall.failure? (PassCall.sweep next passes writer)) := by
  -- The writer changes from call to call, so the induction is for all of them.
  induction passes generalizing writer with
  | nil =>
      refine ⟨List.prefix_rfl, ?_, .inl ⟨rfl, ?_, rfl⟩⟩
      · simp [UntilFailure, PassCall.sweep]
      · simp [PassCall.sweep]
  | cons pass rest ih =>
      cases result : (next pass writer).result with
      | ok =>
          have round := ih (next pass writer).written
          have succeeds : ∀ call ∈ [next pass writer], call.Succeeds := by
            simpa [PassCall.Succeeds] using result
          simp only [PassCall.sweep, PassCall.failure?, result]
          refine ⟨?_, .append succeeds round.untilFailure, ?_⟩
          · simpa [same] using round.inOrder
          · obtain ⟨none, succeed, all⟩ | ⟨call, cause, last, failed, reported⟩ := round.ended
            · refine .inl ⟨none, ?_, by simp [same, all]⟩
              exact List.forall_mem_cons.mpr ⟨result, succeed⟩
            · refine .inr ⟨call, cause, ?_, failed, reported⟩
              rw [List.getLast?_cons, last]
              rfl
      | error cause =>
          simp only [PassCall.sweep, PassCall.failure?, result]
          refine ⟨?_, by simp [UntilFailure], .inr ⟨_, cause, rfl, result, rfl⟩⟩
          simp [same]

/-- The passes after some calls on the first of them. -/
def PassCall.settle (passes : List (Pass σ)) (calls : List (PassCall σ)) : List (Pass σ) :=
  calls.map PassCall.after ++ passes.drop calls.length

namespace Session

theorem initPasses_cons (configuration : Configuration) (pass : Pass σ) (rest : List (Pass σ)) :
    let call := PassCall.init configuration pass
    initPasses configuration (pass :: rest) =
      match call.result with
      | .ok () =>
          let others := initPasses configuration rest
          ⟨(others.value.1, call.after :: others.value.2), call.records ++ others.records⟩
      | .error cause => ⟨(.error (call.report cause), call.after :: rest), call.records⟩ := by
  have result : (PassCall.init configuration pass).result = (pass.init configuration).value.1 := rfl
  cases ended : (pass.init configuration).value.1 with
  | ok =>
      simp only [result, ended]
      apply Logged.ext
      · simp [initPasses, ended, PassCall.after, PassCall.outcome]
      · simp [initPasses, ended, PassCall.records, PassCall.announcement, PassCall.outcome]
  | error cause =>
      simp only [result, ended]
      apply Logged.ext
      · simp [initPasses, ended, PassCall.after, PassCall.outcome, PassCall.report]
      · simp [initPasses, ended, PassCall.records, PassCall.announcement, PassCall.outcome]

theorem generatePasses_cons (file : File) (pass : Pass σ) (rest : List (Pass σ))
    (writer : CodeWriter) :
    let call := PassCall.generate file pass writer
    generatePasses file (pass :: rest) writer =
      match call.result with
      | .ok () =>
          let others := generatePasses file rest call.written
          ⟨(others.value.1, call.after :: others.value.2.1, others.value.2.2),
            call.records ++ others.records⟩
      | .error cause =>
          ⟨(.error (call.report cause), call.after :: rest, call.written), call.records⟩ := by
  have result : (PassCall.generate file pass writer).result = (pass.generate file writer).value.1 :=
    rfl
  cases ended : (pass.generate file writer).value.1 with
  | ok =>
      simp only [result, ended]
      apply Logged.ext
      · simp [generatePasses, ended, PassCall.after, PassCall.written, PassCall.outcome]
      · simp [generatePasses, ended, PassCall.records, PassCall.announcement, PassCall.outcome,
          PassCall.written]
  | error cause =>
      simp only [result, ended]
      apply Logged.ext
      · simp [generatePasses, ended, PassCall.after, PassCall.written, PassCall.outcome,
          PassCall.report]
      · simp [generatePasses, ended, PassCall.records, PassCall.announcement, PassCall.outcome]

theorem initPasses_eq (configuration : Configuration) (passes : List (Pass σ))
    (writer : CodeWriter) :
    let calls := PassCall.sweep (fun pass _ => .init configuration pass) passes writer
    initPasses configuration passes =
      ⟨((PassCall.failure? calls).elim (.ok ()) .error, PassCall.settle passes calls),
        calls.flatMap PassCall.records⟩ := by
  -- An initialization has no use for the writer, which is there to have one kind of sweep.
  induction passes generalizing writer with
  | nil => rfl
  | cons pass rest ih =>
      rw [initPasses_cons]
      cases ended : (PassCall.init configuration pass).result with
      | ok =>
          simp only [ended, PassCall.sweep, PassCall.failure?,
            ih (PassCall.init configuration pass).written]
          rfl
      | error cause =>
          simp only [ended, PassCall.sweep, PassCall.failure?]
          simp [PassCall.settle]

theorem generatePasses_eq (file : File) (passes : List (Pass σ)) (writer : CodeWriter) :
    let calls := PassCall.sweep (.generate file) passes writer
    ∃ last, Relay file writer calls last ∧
      generatePasses file passes writer =
        ⟨((PassCall.failure? calls).elim (.ok ()) .error, PassCall.settle passes calls, last),
          calls.flatMap PassCall.records⟩ := by
  induction passes generalizing writer with
  | nil => exact ⟨writer, .done writer, rfl⟩
  | cons pass rest ih =>
      rw [generatePasses_cons]
      obtain ⟨last, relay, others⟩ := ih (PassCall.generate file pass writer).written
      cases ended : (PassCall.generate file pass writer).result with
      | ok =>
          simp only [ended, PassCall.sweep, PassCall.failure?, others]
          exact ⟨last, .handOn pass relay, rfl⟩
      | error cause =>
          simp only [ended, PassCall.sweep, PassCall.failure?]
          refine ⟨_, .handOn pass (.done _), ?_⟩
          simp [PassCall.settle]

end Session

end SchemaDefaults
