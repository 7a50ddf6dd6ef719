import SchemaDefaults.Log.Handle
import SchemaDefaults.Proofs.Runs

/-! # The level that is known and the level in force

A handle remembers the level that it set last, and the subscriber has a filter of its own.
Subscribers come and go, and a level can be asked for at a time when there is none. Through
all of this the level remembered is the one that was last set with success, and as long as
there is a subscriber it is the one in force.
-/

namespace SchemaDefaults.Log.Handle

open Transition

/-! ## Moves -/

inductive Move where
  /-- Attaches the handle to a fresh subscriber, whose predecessor thereby ends. -/
  | attach (level : Level)
  | drop
  | reload (level : Level)

def perform (handle : Handle) : Move → Except ReloadError Unit × Handle
  | .attach level => (.ok (), handle.attach level)
  | .drop => (.ok (), handle.drop)
  | .reload level => handle.reload level

abbrev Step := Transition Handle Move (Except ReloadError Unit)

def Attaches (step : Step) : Prop :=
  ∃ level, step.move = .attach level

/-- The level that a step sets, if it does so with success. -/
def sets? (step : Step) : Option Level :=
  match step.move, step.answer with
  | .attach level, _ => some level
  | .reload level, .ok _ => some level
  | _, _ => none

/-- The subscriber attached last is still there: since then levels were reloaded and nothing else
    was done. -/
def Alive (past : List Step) : Prop :=
  ∃ earlier step later, past = earlier ++ step :: later ∧ Attaches step ∧
    ∀ other ∈ later, ∃ level, other.move = .reload level

theorem not_alive_nil : ¬Alive [] := by
  rintro ⟨earlier, step, later, split, _⟩
  simp at split

theorem alive_concat {past : List Step} {step : Step} :
    Alive (past ++ [step]) ↔
      Attaches step ∨ Alive past ∧ ∃ level, step.move = .reload level := by
  constructor
  · rintro ⟨earlier, attach, later, split, attaches, reloads⟩
    rcases List.eq_nil_or_concat later with rfl | ⟨front, last, rfl⟩
    · obtain ⟨_, same⟩ := List.append_inj' split rfl
      obtain rfl := List.singleton_inj.mp same
      exact .inl attaches
    · have longer : past ++ [step] = (earlier ++ attach :: front) ++ [last] := by simpa using split
      obtain ⟨rfl, same⟩ := List.append_inj' longer rfl
      obtain rfl := List.singleton_inj.mp same
      rw [List.concat_eq_append, List.forall_mem_append] at reloads
      exact .inr ⟨⟨earlier, attach, front, rfl, attaches, reloads.1⟩, reloads.2 _ (by simp)⟩
  · rintro (attaches | ⟨⟨earlier, attach, later, rfl, attaches, reloads⟩, level, reload⟩)
    · exact ⟨past, step, [], rfl, attaches, List.forall_mem_nil _⟩
    · refine ⟨earlier, attach, later ++ [step], by simp, attaches, ?_⟩
      intro other member
      rcases List.mem_append.mp member with old | new
      · exact reloads other old
      · obtain rfl := List.mem_singleton.mp new
        exact ⟨level, reload⟩

/-! ## One step -/

/-- What a move can do to a handle. -/
inductive Does (before : Handle) : Move → Except ReloadError Unit → Handle → Prop where
  | attached {level : Level} : Does before (.attach level) (.ok ()) ⟨.live level, some level⟩
  | unused (never : before.subscriber = .never) : Does before .drop (.ok ()) before
  | dropped (attached : before.subscriber ≠ .never) :
      Does before .drop (.ok ()) { before with subscriber := .gone }
  | reloaded {filter level : Level} (live : before.subscriber = .live filter) :
      Does before (.reload level) (.ok ()) ⟨.live level, some level⟩
  | refused {level : Level} {cause : ReloadError}
      (dead : ∀ filter, before.subscriber ≠ .live filter) :
      Does before (.reload level) (.error cause) before

theorem perform_does (handle : Handle) (move : Move) :
    Does handle move (handle.perform move).1 (handle.perform move).2 := by
  obtain ⟨subscriber, level⟩ := handle
  cases move with
  | attach level => exact .attached
  | drop =>
      cases subscriber with
      | never => exact .unused rfl
      | live | gone => exact .dropped nofun
  | reload level =>
      cases subscriber with
      | never | gone => exact .refused nofun
      | live => exact .reloaded rfl

/-- How a handle and its subscriber stand after some steps. -/
structure Stands (past : List Step) (handle : Handle) : Prop where
  ends : handle = endOf detached past
  initialized : handle.subscriber ≠ .never ↔ ∃ step ∈ past, Attaches step
  alive : (∃ filter, handle.subscriber = .live filter) ↔ Alive past
  level : handle.level = latest sets? none past
  filter : ∀ filter, handle.subscriber = .live filter → handle.level = some filter

theorem stands_detached : Stands [] detached where
  ends := rfl
  initialized := by simp [detached]
  alive := by simp [detached, not_alive_nil]
  level := rfl
  filter := nofun

theorem Stands.next {past : List Step} {before after : Handle} {move : Move}
    {answer : Except ReloadError Unit} (stands : Stands past before)
    (does : Does before move answer after) :
    Stands (past ++ [⟨before, move, answer, after⟩]) after where
  ends := by rw [endOf_concat]
  initialized := by
    rw [exists_mem_concat, ← stands.initialized]
    cases does with
    | attached => simp [Attaches]
    | unused never => simp [Attaches]
    | dropped attached => simp [Attaches, attached]
    | reloaded live => simp [Attaches, live]
    | refused => simp [Attaches]
  alive := by
    rw [alive_concat, ← stands.alive]
    cases does with
    | attached => simp [Attaches]
    | unused never => simp [Attaches, never]
    | dropped => simp [Attaches]
    | reloaded live => simp [Attaches, live]
    | refused => simp [Attaches]
  level := by
    rw [latest_concat, ← stands.level]
    cases does with
    | attached | unused | dropped | reloaded | refused => rfl
  filter := by
    cases does with
    | attached | reloaded => simp
    | unused | refused => exact stands.filter
    | dropped => nofun

/-- What a step does, given the steps before it. -/
structure Follows (past : List Step) (step : Step) : Prop where
  begins : step.before = endOf detached past
  initialized : step.after.isInitialized = true ↔ ∃ other ∈ past ++ [step], Attaches other
  reload_iff : ∀ level, step.move = .reload level → (step.answer = .ok () ↔ Alive past)
  level : step.after.level = latest sets? none (past ++ [step])
  filter : Alive (past ++ [step]) → step.after.level = some step.after.filter
  failed : step.answer ≠ .ok () → step.after = step.before

theorem isInitialized_iff (handle : Handle) :
    handle.isInitialized = true ↔ handle.subscriber ≠ .never := by
  rw [isInitialized, bne_iff_ne]

theorem Stands.follows {past : List Step} {before after : Handle} {move : Move}
    {answer : Except ReloadError Unit} (stands : Stands past before)
    (does : Does before move answer after) : Follows past ⟨before, move, answer, after⟩ := by
  have next := stands.next does
  refine ⟨stands.ends, (isInitialized_iff _).trans next.initialized, ?_, next.level, ?_, ?_⟩
  · rintro level rfl
    rw [← stands.alive]
    cases does with
    | reloaded live => simp [live]
    | refused dead => simp [dead]
  · intro alive
    obtain ⟨filter, live⟩ := next.alive.mpr alive
    rw [next.filter filter live, Handle.filter, live]
  · intro refused
    cases does with
    | refused => rfl
    | attached | unused | dropped | reloaded => exact absurd rfl refused

/-! ## Installing the log of a process -/

abbrev Install := Transition Handle Level Bool

/-- How the handle of a process stands after the log was installed some times. -/
structure Installed (past : List Install) (handle : Handle) : Prop where
  ends : handle = endOf detached past
  fresh : past = [] → handle.subscriber = .never
  live : past ≠ [] → ∃ filter, handle.subscriber = .live filter

/-- What it does to install the log, given the times it was done before. -/
structure Installs (past : List Install) (step : Install) : Prop where
  begins : step.before = endOf detached past
  first : step.answer = true ↔ past = []
  level : step.after.level = some step.move
  filter : step.after.filter = step.move

theorem install_fresh {handle : Handle} (fresh : handle.subscriber = .never) (level : Level) :
    handle.install level = (true, ⟨.live level, some level⟩) := by
  rw [install, isInitialized, fresh]
  rfl

theorem install_live {handle : Handle} {filter : Level} (live : handle.subscriber = .live filter)
    (level : Level) : handle.install level = (false, ⟨.live level, some level⟩) := by
  rw [install, isInitialized, live, reload, live]
  rfl

theorem Installed.does {past : List Install} {handle : Handle} (installed : Installed past handle)
    (level : Level) : handle.install level = (past.isEmpty, ⟨.live level, some level⟩) := by
  cases past with
  | nil => exact install_fresh (installed.fresh rfl) level
  | cons =>
      obtain ⟨filter, live⟩ := installed.live nofun
      exact install_live live level

theorem Installed.next {past : List Install} {step : Install}
    (installed : Installed past step.before)
    (performed : step.before.install step.move = (step.answer, step.after)) :
    Installs past step ∧ Installed (past ++ [step]) step.after := by
  rw [installed.does, Prod.mk.injEq] at performed
  obtain ⟨answered, left⟩ := performed
  constructor
  · refine ⟨installed.ends, ?_, ?_, ?_⟩
    · rw [← answered, List.isEmpty_iff]
    · rw [← left]
    · rw [← left, Handle.filter]
  · refine ⟨by rw [endOf_concat], by simp, fun _ => ⟨step.move, ?_⟩⟩
    rw [← left]

/-- Whatever is done with a handle and its subscribers, the level that it knows is the one last set
    with success, and it is the level in force as long as the subscriber attached last is there.
    A log is installed once, and each attempt to do so sets its level. -/
theorem level_in_force (moves : List Move) (levels : List Level) :
    detached.isInitialized = false ∧ detached.level = none ∧
      (run perform detached moves).map move = moves ∧
      Each Follows (run perform detached moves) ∧
      (run install detached levels).map move = levels ∧
      Each Installs (run install detached levels) := by
  refine ⟨rfl, rfl, map_move_run _ _ _, ?_, map_move_run _ _ _, ?_⟩
  · refine each_run (P := fun handle past => Stands past handle) stands_detached ?_ moves
    intro past step performed stands
    have does := step.before.perform_does step.move
    rw [performed] at does
    exact ⟨stands.follows does, stands.next does⟩
  · have begins : Installed [] detached := ⟨rfl, fun _ => rfl, fun some => absurd rfl some⟩
    refine each_run (P := fun handle past => Installed past handle) begins ?_ levels
    intro past step performed installed
    exact installed.next performed

end SchemaDefaults.Log.Handle
