import SchemaDefaults.Proofs.CheckAgreement
import SchemaDefaults.Proofs.Runs

/-! # The settings that a pass writes with

A pass can be initialized again and again, and some of these attempts fail. Whatever is done
with it, it writes with the settings of the latest attempt that succeeded, or with those that
it was made with. As long as there are none of either it refuses to write, and a refusal
shows neither in the pass nor in the text.
-/

namespace SchemaDefaults.Defaulter

open Schema Transition

/-! ## What is done with a pass -/

inductive Use where
  | init (configuration : Configuration)
  | generate (file : File)
  | indent
  | outdent

/-- A pass and the writer that it is given. -/
structure Desk where
  pass : Pass Defaulter
  writer : CodeWriter

def Desk.perform (desk : Desk) : Use → Logged (Except Failure Unit × Desk)
  | .init configuration => do
      let (result, pass) ← desk.pass.init configuration
      return (result, { desk with pass })
  | .generate file => do
      let (result, pass, writer) ← desk.pass.generate file desk.writer
      return (result, ⟨pass, writer⟩)
  | .indent => pure (.ok (), { desk with writer := desk.writer.indent })
  | .outdent => pure (.ok (), { desk with writer := desk.writer.outdent })

/-- A use with what became of it. -/
abbrev Step := Transition Desk Use (Except Failure Unit)

/-- Uses of a pass, one after the other. -/
def Desk.steps (desk : Desk) (uses : List Use) : List Step :=
  run (fun desk use => (desk.perform use).value) desk uses

/-! ## Settings that can be used -/

/-- None of the settings is blank. -/
def Settings.Filled (settings : Settings) : Prop :=
  ∀ key, Text.isBlank (settings.get key) = false

theorem Settings.Key.mem_all (key : Settings.Key) : key ∈ Settings.Key.all := by
  cases key <;> decide

theorem Settings.validate_ok_iff (settings : Settings) :
    settings.validate = .ok () ↔ settings.Filled := by
  have filled : settings.blankKey? = none ↔ settings.Filled := by
    simp [Settings.blankKey?, Settings.Filled, Settings.Key.mem_all]
  rw [← filled, Settings.validate]
  cases settings.blankKey? <;> simp

/-- A configuration has settings for the pass, and none of them is blank. -/
def Usable (configuration : Configuration) (settings : Settings) : Prop :=
  SetBy configuration settings ∧ settings.Filled

theorem usable_iff (configuration : Configuration) (settings : Settings) :
    usableSettingsOf configuration = .ok settings ↔ Usable configuration settings := by
  rw [usableSettingsOf_ok_iff, Settings.validate_ok_iff]
  rfl

/-! ## One step -/

/-- The methods of the messages of a file, at a depth. -/
def methodsAt (settings : Settings) (file : File) (depth : Nat) : String :=
  String.join (file.placedMessages.value.map fun placed => methodText settings placed depth)

/-- What a use can do to a pass and a writer. -/
inductive Does (before : Desk) : Use → Except Failure Unit → Desk → Prop where
  | bound {configuration : Configuration} {settings : Settings}
      (usable : Usable configuration settings) :
      Does before (.init configuration) (.ok ())
        { before with pass := { before.pass with state := ⟨some settings⟩ } }
  | refused {configuration : Configuration} {failure : Failure}
      (unusable : ∀ settings, ¬Usable configuration settings) :
      Does before (.init configuration) (.error failure) before
  | wrote {file : File} {settings : Settings} (bound : before.pass.state.bound = some settings) :
      Does before (.generate file) (.ok ()) { before with
        writer := before.writer.append (methodsAt settings file before.writer.depth) }
  | unbound {file : File} {failure : Failure} (bound : before.pass.state.bound = none) :
      Does before (.generate file) (.error failure) before
  | indented : Does before .indent (.ok ()) { before with writer := before.writer.indent }
  | outdented : Does before .outdent (.ok ()) { before with writer := before.writer.outdent }

theorem Desk.perform_does (desk : Desk) (use : Use) :
    Does desk use (desk.perform use).value.1 (desk.perform use).value.2 := by
  obtain ⟨⟨name, description, state⟩, writer⟩ := desk
  cases use with
  | init configuration =>
      simp only [perform, Pass.init, PassBehaviour.init, Defaulter.init, Logged.value_bind,
        Logged.value_pure]
      cases found : usableSettingsOf configuration with
      | ok settings => exact .bound ((usable_iff _ _).mp found)
      | error failure =>
          refine .refused fun settings usable => ?_
          rw [(usable_iff _ _).mpr usable] at found
          cases found
  | generate file =>
      obtain ⟨_ | settings⟩ := state
      · exact .unbound rfl
      · simp only [perform, Pass.generate, PassBehaviour.generate, Defaulter.generate,
          Logged.value_bind, Logged.value_pure, value_emitAll]
        exact .wrote rfl
  | indent => exact .indented
  | outdent => exact .outdented

/-- The settings that a use binds if it gives the answer. -/
def Use.binds? : Use → Except Failure Unit → Option Settings
  | .init configuration, .ok _ => (settingsOf configuration).toOption
  | _, _ => none

namespace Does

variable {before after : Desk} {use : Use} {answer : Except Failure Unit}

theorem pass_after (does : Does before use answer after) :
    after.pass =
      { before.pass with state := ⟨(use.binds? answer).or before.pass.state.bound⟩ } := by
  cases does with
  | bound usable =>
      rw [Use.binds?, (settingsOf_ok_iff _ _).mpr usable.1]
      rfl
  | refused | wrote | unbound | indented | outdented => rfl

theorem binds_iff (does : Does before use answer after) :
    (use.binds? answer).isSome ↔
      (∃ configuration, use = .init configuration) ∧ answer = .ok () := by
  cases does with
  | bound usable =>
      rw [Use.binds?, (settingsOf_ok_iff _ _).mpr usable.1]
      simp [Except.toOption]
  | refused | wrote | unbound | indented | outdented => simp [Use.binds?]

theorem of_error (does : Does before use answer after) (refused : answer ≠ .ok ()) :
    after = before := by
  cases does with
  | refused | unbound => rfl
  | bound | wrote | indented | outdented => exact absurd rfl refused

theorem init_iff {configuration : Configuration}
    (does : Does before (.init configuration) answer after) :
    answer = .ok () ↔ ∃ settings, Usable configuration settings := by
  cases does with
  | bound usable => exact ⟨fun _ => ⟨_, usable⟩, fun _ => rfl⟩
  | refused unusable => simp [unusable]

theorem init_after {configuration : Configuration} {settings : Settings}
    (does : Does before (.init configuration) answer after)
    (given : Usable configuration settings) :
    after = { before with pass := { before.pass with state := ⟨some settings⟩ } } := by
  cases does with
  | bound usable =>
      have first := (usable_iff _ _).mpr usable
      rw [(usable_iff _ _).mpr given] at first
      rw [Except.ok.inj first]
  | refused unusable => exact absurd given (unusable settings)

theorem generate_iff {file : File} (does : Does before (.generate file) answer after) :
    answer = .ok () ↔ before.pass.state.bound.isSome := by
  cases does with
  | wrote bound => simp [bound]
  | unbound bound => simp [bound]

theorem generate_after {file : File} {settings : Settings}
    (does : Does before (.generate file) answer after)
    (given : before.pass.state.bound = some settings) :
    after = { before with
      writer := before.writer.append (methodsAt settings file before.writer.depth) } := by
  cases does with
  | wrote bound =>
      obtain rfl := Option.some.inj (bound.symm.trans given)
      rfl
  | unbound bound =>
      rw [given] at bound
      cases bound

theorem indent_after (does : Does before .indent answer after) :
    answer = .ok () ∧ after = { before with writer := before.writer.indent } := by
  cases does with
  | indented => exact ⟨rfl, rfl⟩

theorem outdent_after (does : Does before .outdent answer after) :
    answer = .ok () ∧ after = { before with writer := before.writer.outdent } := by
  cases does with
  | outdented => exact ⟨rfl, rfl⟩

end Does

/-! ## All steps -/

/-- The settings of the latest initialization that succeeded, or those at the beginning. -/
def Desk.boundAfter (start : Desk) (past : List Step) : Option Settings :=
  latest (fun step => step.move.binds? step.answer) start.pass.state.bound past

/-- An initialization that succeeded. -/
def Initialized (step : Step) : Prop :=
  (∃ configuration, step.move = .init configuration) ∧ step.answer = .ok ()

/-- A desk as it is left by some steps. -/
structure Desk.Left (start : Desk) (past : List Step) (desk : Desk) : Prop where
  ends : desk = endOf start past
  pass : desk.pass = { start.pass with state := ⟨start.boundAfter past⟩ }
  ready : (start.boundAfter past).isSome ↔
    start.pass.state.bound.isSome ∨ ∃ step ∈ past, Initialized step

/-- How a step follows on the steps before it. -/
structure Desk.Follows (start : Desk) (past : List Step) (step : Step) : Prop where
  begins : step.before = endOf start past
  bound : step.before.pass = { start.pass with state := ⟨start.boundAfter past⟩ }
  init_iff : ∀ configuration, step.move = .init configuration →
    (step.answer = .ok () ↔ ∃ settings, Usable configuration settings)
  init : ∀ configuration, step.move = .init configuration → ∀ settings,
    Usable configuration settings →
      step.after = { step.before with pass := { step.before.pass with state := ⟨some settings⟩ } }
  generate_iff : ∀ file, step.move = .generate file →
    (step.answer = .ok () ↔
      start.pass.state.bound.isSome ∨ ∃ earlier ∈ past, Initialized earlier)
  generate : ∀ file, step.move = .generate file → step.answer = .ok () →
    ∃ settings, start.boundAfter past = some settings ∧
      step.after.pass = step.before.pass ∧
      step.after.writer.text =
        step.before.writer.text ++ methodsAt settings file step.before.writer.depth ∧
      step.after.writer.depth = step.before.writer.depth
  indent : step.move = .indent →
    step.answer = .ok () ∧ step.after = { step.before with writer := step.before.writer.indent }
  outdent : step.move = .outdent →
    step.answer = .ok () ∧
      step.after = { step.before with writer := step.before.writer.outdent }
  failed : step.answer ≠ .ok () → step.after = step.before

variable {start : Desk} {past : List Step} {step : Step}

theorem Desk.Left.next (left : start.Left past step.before)
    (does : Does step.before step.move step.answer step.after) :
    start.Left (past ++ [step]) step.after := by
  have bound : start.boundAfter (past ++ [step]) =
      (step.move.binds? step.answer).or (start.boundAfter past) := latest_concat _ _ _ _
  refine ⟨(endOf_concat _ _ _).symm, ?_, ?_⟩
  · rw [does.pass_after, left.pass, bound]
  · rw [bound, Option.isSome_or, Bool.or_eq_true, does.binds_iff, left.ready, exists_mem_concat]
    exact or_left_comm.trans (or_congr_right or_comm)

theorem Desk.Left.follows (left : start.Left past step.before)
    (does : Does step.before step.move step.answer step.after) : start.Follows past step := by
  obtain ⟨before, use, answer, after⟩ := step
  have bound : before.pass.state.bound = start.boundAfter past := by rw [left.pass]
  refine ⟨left.ends, left.pass, ?_, ?_, ?_, ?_, ?_, ?_, does.of_error⟩
  · rintro configuration rfl
    exact does.init_iff
  · rintro configuration rfl settings usable
    exact does.init_after usable
  · rintro file rfl
    rw [does.generate_iff, ← left.ready, ← bound]
  · rintro file rfl success
    obtain ⟨settings, given⟩ := Option.isSome_iff_exists.mp (does.generate_iff.mp success)
    rw [does.generate_after given]
    exact ⟨settings, bound.symm.trans given, rfl, rfl, rfl⟩
  · rintro rfl
    exact does.indent_after
  · rintro rfl
    exact does.outdent_after

/-- Whatever is done with a pass and a writer, in any order and whether it succeeds or not, the pass
    writes with the settings bound last, as soon as there are any. -/
theorem writes_as_bound (bound : Option Settings) (writer : CodeWriter) (uses : List Use) :
    let start : Desk := ⟨pass bound, writer⟩
    (start.steps uses).map move = uses ∧ Each start.Follows (start.steps uses) := by
  intro start
  refine ⟨map_move_run _ _ _, each_run (P := fun desk past => start.Left past desk) ?_ ?_ uses⟩
  · exact ⟨rfl, rfl, by simp [Desk.boundAfter, latest]⟩
  · intro past step performed left
    have does := step.before.perform_does step.move
    rw [performed] at does
    exact ⟨left.follows does, left.next does⟩

end SchemaDefaults.Defaulter
