import Mathlib.Data.List.Forall2
import SchemaDefaults.Generation
import SchemaDefaults.Storage.Host

/-! # Which records a log shows

A program looks up options, renders methods, checks and generates, and all of this makes
records. A log shows the records that are grave enough for the level in force when they are
made. The level can be set at any time. Then other records are shown, and nothing else of
what the program does is different.
-/

namespace SchemaDefaults.Work

open Schema Log

variable {σ ω : Type}

/-! ## Work under a log -/

/-- Sessions that are under way, each at a place of its own. -/
abbrev Sessions (σ : Type) := Nat → Session σ

inductive Operation (σ ω : Type) where
  | event (level : Level) (message : String) (fields : List (String × FieldValue))
  | lookup (decode : Json → Except DecodeError ω) (options : Option Json) (key : String)
  | render (settings : Defaulter.Settings) (placed : PlacedMessage) (writer : CodeWriter)
  | validate (configuration : Configuration)
  | start (place : Nat) (configuration : Configuration)
  | call (place : Nat) (call : Session.Call σ)
  | check (schema : Schema) (configuration : Configuration)
  | generate (schema : Schema) (configuration : Configuration)

inductive Outcome (ω : Type) where
  | done
  | found (entry : Option ω)
  | rendered (writer : CodeWriter)
  | validated (result : Except Failure Unit)
  | answered (answer : Except Failure Session.Answer)
  | checked (report : Except Failure Report)
  | generated (texts : Except Failure (List (String × String)))

inductive Step (σ ω : Type) where
  | reload (level : Level)
  | perform (operation : Operation σ ω)

def operations : List (Step σ ω) → List (Operation σ ω)
  | [] => []
  | .reload _ :: rest => operations rest
  | .perform operation :: rest => operation :: operations rest

/-- The operations among steps, each with the level in force when it is performed. -/
def schedule (level : Level) : List (Step σ ω) → List (Level × Operation σ ω)
  | [] => []
  | .reload next :: rest => schedule next rest
  | .perform operation :: rest => (level, operation) :: schedule level rest

def finalLevel (level : Level) : List (Step σ ω) → Level
  | [] => level
  | .reload next :: rest => finalLevel next rest
  | .perform _ :: rest => finalLevel level rest

theorem map_schedule (level : Level) (steps : List (Step σ ω)) :
    (schedule level steps).map Prod.snd = operations steps := by
  induction steps generalizing level with
  | nil => rfl
  | cons step rest ih =>
      cases step with
      | reload next => exact ih next
      | perform operation => exact congrArg (operation :: ·) (ih level)

/-- An operation under two levels, of which the first lets no more through than the second. -/
def Stricter (strict loose : Level × Operation σ ω) : Prop :=
  loose.1.rank ≤ strict.1.rank ∧ strict.2 = loose.2

theorem schedule_stricter {low high : Level} (above : low.rank ≤ high.rank)
    (steps : List (Step σ ω)) :
    List.Forall₂ Stricter (schedule high steps) (schedule low steps) := by
  induction steps generalizing low high with
  | nil => exact .nil
  | cons step rest ih =>
      cases step with
      | reload next => exact ih (Nat.le_refl _)
      | perform operation => exact .cons ⟨above, rfl⟩ (ih above)

/-! ## Doing it -/

variable [PassBehaviour σ]

def Operation.perform (sessions : Sessions σ) :
    Operation σ ω → Logged (Outcome ω × Sessions σ)
  | .event level message fields => do
      Logged.note level message fields
      return (.done, sessions)
  | .lookup decode options key => do
      return (.found (← Options.lookup decode options key), sessions)
  | .render settings placed writer => do
      return (.rendered (← Defaulter.emit settings placed writer), sessions)
  | .validate configuration => do
      return (.validated (← configuration.validate), sessions)
  | .start place configuration =>
      return (.done, Function.update sessions place (Session.start configuration))
  | .call place made => do
      let (answer, session) ← (sessions place).perform made
      return (.answered answer, Function.update sessions place session)
  | .check schema configuration => do
      return (.checked (← checkSchema schema configuration), sessions)
  | .generate schema configuration => do
      return (.generated (← generateTexts schema configuration), sessions)

/-- The outcomes and the records of operations. No level has a part in them. -/
def performAll (sessions : Sessions σ) :
    List (Operation σ ω) → Logged (List (Outcome ω) × Sessions σ)
  | [] => pure ([], sessions)
  | operation :: rest => do
      let (outcome, sessions) ← operation.perform sessions
      let (outcomes, sessions) ← performAll sessions rest
      return (outcome :: outcomes, sessions)

def carryOut {m : Type → Type} [Monad m] [Host m] (sessions : Sessions σ) :
    List (Step σ ω) → m (List (Outcome ω) × Sessions σ)
  | [] => return ([], sessions)
  | .reload level :: rest => do
      let _ ← Host.reloadLog level
      carryOut sessions rest
  | .perform operation :: rest => do
      let (outcome, sessions) ← Host.run (operation.perform sessions)
      let (outcomes, sessions) ← carryOut sessions rest
      return (outcome :: outcomes, sessions)

/-! ## Records and levels -/

/-- A level lets a record through. None gets through `off`, which is graver than any record. -/
def Passes (level : Level) (record : Record) : Prop :=
  level.rank ≤ record.level.rank ∧ record.level ≠ .off

instance (level : Level) (record : Record) : Decidable (Passes level record) :=
  inferInstanceAs (Decidable (_ ∧ _))

theorem admits_iff (level : Level) (record : Record) :
    level.admits record.level = true ↔ Passes level record := by
  simp [Level.admits, Passes]

theorem admitted_eq (level : Level) (records : List Record) :
    admitted level records = records.filter (Passes level ·) := by
  refine List.filter_congr fun record _ => ?_
  rw [Bool.eq_iff_iff, admits_iff, decide_eq_true_iff]

theorem not_passes_off (record : Record) : ¬Passes .off record := by
  rw [← admits_iff, Level.off_admits]
  exact Bool.false_ne_true

theorem admitted_sublist {loose strict : Level} (above : loose.rank ≤ strict.rank)
    (records : List Record) : (admitted strict records).Sublist (admitted loose records) := by
  rw [admitted_eq, admitted_eq]
  apply List.monotone_filter_right
  intro record passes
  obtain ⟨grave, real⟩ := of_decide_eq_true passes
  exact decide_eq_true ⟨Nat.le_trans above grave, real⟩

/-- The records that operations make, each with the level in force then. -/
def made (sessions : Sessions σ) : List (Level × Operation σ ω) → List (Level × Record)
  | [] => []
  | (level, operation) :: rest =>
      (operation.perform sessions).records.map (level, ·) ++
        made (operation.perform sessions).value.2 rest

/-- The records among those that are let through when they are made. -/
def shown (sessions : Sessions σ) (scheduled : List (Level × Operation σ ω)) : List Record :=
  ((made sessions scheduled).filter fun (level, record) => Passes level record).map Prod.snd

theorem map_made (sessions : Sessions σ) (scheduled : List (Level × Operation σ ω)) :
    (made sessions scheduled).map Prod.snd =
      (performAll sessions (scheduled.map Prod.snd)).records := by
  induction scheduled generalizing sessions with
  | nil => rfl
  | cons first rest ih => simp [made, performAll, ih, Function.comp_def]

theorem shown_cons (sessions : Sessions σ) (level : Level) (operation : Operation σ ω)
    (rest : List (Level × Operation σ ω)) :
    shown sessions ((level, operation) :: rest) =
      admitted level (operation.perform sessions).records ++
        shown (operation.perform sessions).value.2 rest := by
  simp [shown, made, admitted_eq, List.filter_map, Function.comp_def]

theorem shown_sublist {strict loose : List (Level × Operation σ ω)}
    (stricter : List.Forall₂ Stricter strict loose) (sessions : Sessions σ) :
    (shown sessions strict).Sublist (shown sessions loose) := by
  induction stricter generalizing sessions with
  | nil => exact List.Sublist.refl _
  | @cons strict loose _ _ first _ ih =>
      obtain ⟨high, operation⟩ := strict
      obtain ⟨low, _⟩ := loose
      obtain ⟨above, rfl⟩ := first
      rw [shown_cons, shown_cons]
      exact (admitted_sublist above _).append (ih _)

/-! ## What is in the log -/

/-- A world with a subscriber of its own, at a level. -/
def logging (world : World) (level : Level) : World :=
  { world with log := world.log.attach level }

def withLines (world : World) (records : List Record) : World :=
  { world with errors := world.errors ++ String.join (records.map Record.line) }

@[simp] theorem withLines_nil (world : World) : withLines world [] = world := by
  simp [withLines]

theorem withLines_append (world : World) (first next : List Record) :
    withLines world (first ++ next) = withLines (withLines world first) next := by
  simp [withLines, String.append_assoc]

theorem run_reloadLog (world : World) (level next : Level) :
    (Host.reloadLog next : StateM World _).run (logging world level) =
      (.ok (), logging world next) := rfl

theorem run_run {α : Type} (logged : Logged α) (world : World) (level : Level) :
    (Host.run logged : StateM World α).run (logging world level) =
      (logged.value, logging (withLines world (admitted level logged.records)) level) := rfl

theorem run_next {α β : Type} {first : StateM World α} {result : α} {world middle : World}
    (ran : first.run world = (result, middle)) (next : α → StateM World β) :
    (first >>= next).run world = (next result).run middle := by
  rw [StateT.run_bind, ran]
  rfl

theorem carryOut_eq (world : World) (sessions : Sessions σ) (level : Level)
    (steps : List (Step σ ω)) :
    (carryOut (m := StateM World) sessions steps).run (logging world level) =
      ((performAll sessions (operations steps)).value,
        logging (withLines world (shown sessions (schedule level steps)))
          (finalLevel level steps)) := by
  -- What is shown on the way is part of the world in which the rest is done.
  induction steps generalizing world sessions level with
  | nil =>
      have nothing : shown sessions (schedule level ([] : List (Step σ ω))) = [] := rfl
      rw [nothing, withLines_nil]
      rfl
  | cons step rest ih =>
      cases step with
      | reload next =>
          exact (run_next (run_reloadLog world level next) _).trans (ih world sessions next)
      | perform operation =>
          have later := ih (withLines world (admitted level (operation.perform sessions).records))
            (operation.perform sessions).value.2 level
          rw [schedule, shown_cons, withLines_append]
          exact (run_next (run_run (operation.perform sessions) world level) _).trans
            (run_next later _)

/-- What becomes of steps that are taken under a log at a level. -/
structure Shows (world : World) (sessions : Sessions σ) (level : Level)
    (steps : List (Step σ ω)) : Prop where
  records : (made sessions (schedule level steps)).map Prod.snd =
    (performAll sessions (operations steps)).records
  results : ((carryOut (m := StateM World) sessions steps).run (logging world level)).1 =
    (performAll sessions (operations steps)).value
  log : ((carryOut (m := StateM World) sessions steps).run (logging world level)).2 =
    logging (withLines world (shown sessions (schedule level steps))) (finalLevel level steps)

/-- How it compares with what becomes of them, or of others, under a log at another level. -/
structure Compares (sessions : Sessions σ) (level : Level) (steps : List (Step σ ω)) : Prop where
  same : ∀ world other others, operations others = operations steps →
    ((carryOut (m := StateM World) sessions others).run (logging world other)).1 =
      (performAll sessions (operations steps)).value
  stricter : ∀ other others, List.Forall₂ Stricter (schedule other others) (schedule level steps) →
    (shown sessions (schedule other others)).Sublist (shown sessions (schedule level steps))
  higher : ∀ high, level.rank ≤ Level.rank high →
    (shown sessions (schedule high steps)).Sublist (shown sessions (schedule level steps))

/-- A log shows, in their order, the records that the level in force lets through when they are
    made, and at a higher level it shows fewer of them. No outcome depends on a level. -/
theorem records_shown_by_level (world : World) (sessions : Sessions σ) (level : Level)
    (steps : List (Step σ ω)) :
    (∀ record, ¬Passes .off record) ∧ Shows world sessions level steps ∧
      Compares sessions level steps := by
  have carriedOut := carryOut_eq world sessions level steps
  refine ⟨not_passes_off, ⟨?_, ?_, ?_⟩, ⟨?_, ?_, ?_⟩⟩
  · rw [map_made, map_schedule]
  · rw [carriedOut]
  · rw [carriedOut]
  · intro other start others same
    rw [carryOut_eq, same]
  · intro start others stricter
    exact shown_sublist stricter sessions
  · intro high above
    exact shown_sublist (schedule_stricter above steps) sessions

end SchemaDefaults.Work
