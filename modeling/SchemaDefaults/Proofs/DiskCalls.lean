import SchemaDefaults.Storage.Host

/-! # What actions do to the disk

An action changes the disk by calls and in no other way, and the world keeps the calls in
their order. So an action is described by its calls, its result and the world after it, and
what a sequence of actions does is the calls of all of them, one after the other.
-/

namespace SchemaDefaults

namespace DiskCall

/-- What became of a call. -/
def result : DiskCall → Except StorageError Unit
  | .makeDirectory _ result => result
  | .write _ _ result => result

/-- What a call makes of a disk. -/
def attempt (disk : Disk) : DiskCall → Except StorageError Disk
  | .makeDirectory path _ => disk.makeDirectory path
  | .write path text _ => disk.write path text.toUTF8

/-- The path, the text and the result of a call that writes. -/
def write? : DiskCall → Option (Path × String × Except StorageError Unit)
  | .makeDirectory _ _ => none
  | .write path text result => some (path, text, result)

/-- The writes among some calls. -/
def writes (calls : List DiskCall) : List (Path × String × Except StorageError Unit) :=
  calls.filterMap write?

theorem writes_append (calls more : List DiskCall) :
    writes (calls ++ more) = writes calls ++ writes more :=
  List.filterMap_append

/-- The last of some calls failed. -/
def EndIn (calls : List DiskCall) (cause : StorageError) : Prop :=
  ∃ call, calls.getLast? = some call ∧ call.result = .error cause

theorem EndIn.after {calls : List DiskCall} {cause : StorageError} (ended : EndIn calls cause)
    (earlier : List DiskCall) : EndIn (earlier ++ calls) cause := by
  obtain ⟨call, last, failed⟩ := ended
  exact ⟨call, by simp [List.getLast?_append, last], failed⟩

end DiskCall

/-- Calls lead from one disk to another. A call that fails leaves the disk alone. -/
inductive Disk.Performs : Disk → List DiskCall → Disk → Prop where
  | nil (disk : Disk) : Disk.Performs disk [] disk
  | done {disk next after : Disk} {call : DiskCall} {calls : List DiskCall}
      (made : call.attempt disk = .ok next) (ok : call.result = .ok ())
      (rest : Disk.Performs next calls after) : Disk.Performs disk (call :: calls) after
  | failed {disk after : Disk} {call : DiskCall} {calls : List DiskCall} {cause : StorageError}
      (refused : call.attempt disk = .error cause) (error : call.result = .error cause)
      (rest : Disk.Performs disk calls after) : Disk.Performs disk (call :: calls) after

theorem Disk.Performs.eq_of_nil {disk after : Disk} (nothing : Disk.Performs disk [] after) :
    after = disk := by
  cases nothing
  rfl

theorem Disk.Performs.append {disk middle after : Disk} {calls more : List DiskCall}
    (first : Disk.Performs disk calls middle) (second : Disk.Performs middle more after) :
    Disk.Performs disk (calls ++ more) after := by
  induction first with
  | nil => exact second
  | done made ok _ ih => exact .done made ok (ih second)
  | failed refused error _ ih => exact .failed refused error (ih second)

namespace World

/-- Run in a world, an action makes calls, gives a result, and leaves a world behind. -/
structure Does {α : Type} (action : StateM World α) (before : World) (calls : List DiskCall)
    (result : α) (after : World) : Prop where
  ran : action.run before = (result, after)
  kept : after.calls = before.calls ++ calls
  performed : before.disk.Performs calls after.disk

namespace Does

variable {α β : Type} {action : StateM World α} {before middle after : World}
  {calls more : List DiskCall} {result : α}

theorem pure (result : α) (world : World) :
    Does (Pure.pure result : StateM World α) world [] result world :=
  ⟨rfl, (List.append_nil _).symm, .nil _⟩

/-- What is done first and what is done next with its result are done one after the other. -/
theorem bind {next : α → StateM World β} {final : β}
    (first : Does action before calls result middle)
    (second : Does (next result) middle more final after) :
    Does (action >>= next) before (calls ++ more) final after where
  ran := by
    rw [StateT.run_bind, first.ran]
    exact second.ran
  kept := by rw [second.kept, first.kept, List.append_assoc]
  performed := first.performed.append second.performed

/-- An action that makes no calls can stand after another one. -/
theorem bind_last {next : α → StateM World β} {final : β}
    (first : Does action before calls result middle)
    (second : Does (next result) middle [] final after) :
    Does (action >>= next) before calls final after := by
  have done := first.bind second
  rwa [List.append_nil] at done

/-- An action that makes no calls leaves the disk and the calls made before as they are. -/
theorem untouched (quiet : Does action before [] result after) :
    after.disk = before.disk ∧ after.calls = before.calls :=
  ⟨quiet.performed.eq_of_nil, by simpa using quiet.kept⟩

end Does

/-! ## The calls of the surroundings -/

theorem does_run {α : Type} (logged : Logged α) (world : World) :
    ∃ after, Does (Host.run logged) world [] logged.value after :=
  ⟨_, rfl, (List.append_nil _).symm, .nil _⟩

theorem does_isDirectory (path : Path) (world : World) :
    Does (Host.isDirectory path) world [] (world.disk.isDirectory path) world :=
  ⟨rfl, (List.append_nil _).symm, .nil _⟩

theorem does_afterCall {action : StateM World (Except StorageError Unit)} {world : World}
    {outcome : Except StorageError Disk} {call : Except StorageError Unit → DiskCall}
    (ran : action.run world = world.afterCall outcome call)
    (answers : ∀ result, (call result).result = result)
    (attempts : ∀ result, (call result).attempt world.disk = outcome) :
    ∃ result after, Does action world [call result] result after := by
  cases outcome with
  | ok disk => exact ⟨.ok (), _, ran, rfl, .done (attempts _) (answers _) (.nil disk)⟩
  | error cause => exact ⟨.error cause, _, ran, rfl, .failed (attempts _) (answers _) (.nil _)⟩

theorem does_makeDirectory (path : Path) (world : World) :
    ∃ result after,
      Does (Host.makeDirectory path) world [.makeDirectory path result] result after :=
  does_afterCall rfl (fun _ => rfl) (fun _ => rfl)

theorem does_write (path : Path) (text : String) (world : World) :
    ∃ result after, Does (Host.write path text) world [.write path text result] result after :=
  does_afterCall rfl (fun _ => rfl) (fun _ => rfl)

/-! ## Making directories -/

/-- Only directories were made, and if something failed, the last call failed with it. -/
structure Prepares {α : Type} (calls : List DiskCall) (result : Except StorageError α) : Prop where
  silent : DiskCall.writes calls = []
  failed : ∀ cause, result = .error cause → DiskCall.EndIn calls cause

theorem Prepares.after {α : Type} {calls : List DiskCall} {result : Except StorageError α}
    (prepares : Prepares calls result) {earlier : List DiskCall}
    (silent : DiskCall.writes earlier = []) : Prepares (earlier ++ calls) result where
  silent := by rw [DiskCall.writes_append, silent, prepares.silent, List.append_nil]
  failed cause error := (prepares.failed cause error).after earlier

theorem does_ensureDirectory (path : Path) (world : World) :
    ∃ calls result after, Does (Host.ensureDirectory path) world calls result after ∧
      Prepares calls result := by
  obtain ⟨made, middle, making⟩ := does_makeDirectory path world
  unfold Host.ensureDirectory
  match made with
  | .ok () =>
      exact ⟨_, _, _, making.bind_last (.pure _ _), rfl, by simp⟩
  | .error cause =>
      have ended : DiskCall.EndIn [.makeDirectory path (.error cause)] cause := ⟨_, rfl, rfl⟩
      cases cause with
      | alreadyExists =>
          have looking := does_isDirectory path middle
          cases found : middle.disk.isDirectory path with
          | true =>
              rw [found] at looking
              exact ⟨_, _, _, making.bind_last (looking.bind_last (.pure _ _)), rfl, by simp⟩
          | false =>
              rw [found] at looking
              refine ⟨_, _, _, making.bind_last (looking.bind_last (.pure _ _)), rfl, ?_⟩
              rintro _ ⟨⟩
              exact ended
      | _ =>
          refine ⟨_, _, _, making.bind_last (.pure _ _), rfl, ?_⟩
          rintro _ ⟨⟩
          exact ended

theorem does_ensureEach (paths : List Path) (world : World) :
    ∃ calls result after, Does (Host.ensureEach paths) world calls result after ∧
      Prepares calls result := by
  induction paths generalizing world with
  | nil => exact ⟨_, _, _, .pure _ _, rfl, by simp⟩
  | cons path rest ih =>
      obtain ⟨calls, made, middle, making, prepares⟩ := does_ensureDirectory path world
      unfold Host.ensureEach
      match made with
      | .error cause =>
          exact ⟨_, _, _, making.bind_last (.pure _ _), prepares⟩
      | .ok () =>
          obtain ⟨more, result, after, going, others⟩ := ih middle
          exact ⟨_, _, _, making.bind going, others.after prepares.silent⟩

theorem does_climb (missing above : List Path) (world : World) :
    ∃ calls result after, Does (Host.climb missing above) world calls result after ∧
      Prepares calls result := by
  induction above generalizing missing world with
  | nil => exact ⟨_, _, _, .pure _ _, rfl, by simp⟩
  | cons path rest ih =>
      unfold Host.climb
      by_cases top : path.text.isEmpty ∨ path.parent?.isNone
      · rw [if_pos top]
        exact ⟨_, _, _, .pure _ _, rfl, by simp⟩
      · obtain ⟨calls, made, middle, making, prepares⟩ := does_ensureDirectory path world
        rw [if_neg top]
        match made with
        | .ok () => exact ⟨_, _, _, making.bind_last (.pure _ _), prepares.silent, by simp⟩
        | .error cause =>
            have ended := prepares.failed cause rfl
            cases cause with
            | notFound =>
                obtain ⟨more, result, after, going, others⟩ := ih (path :: missing) middle
                exact ⟨_, _, _, making.bind going, others.after prepares.silent⟩
            | _ =>
                refine ⟨_, _, _, making.bind_last (.pure _ _), prepares.silent, ?_⟩
                rintro _ ⟨⟩
                exact ended

theorem does_makeDirectories (path : Path) (world : World) :
    ∃ calls result after, Does (Host.makeDirectories path) world calls result after ∧
      Prepares calls result := by
  obtain ⟨calls, climbed, middle, climbing, prepares⟩ := does_climb [] path.ancestors world
  unfold Host.makeDirectories
  match climbed with
  | .ok missing =>
      obtain ⟨more, result, after, making, others⟩ := does_ensureEach missing middle
      exact ⟨_, _, _, climbing.bind making, others.after prepares.silent⟩
  | .error cause =>
      refine ⟨_, _, _, climbing.bind_last (.pure _ _), prepares.silent, ?_⟩
      rintro _ ⟨⟩
      exact prepares.failed cause rfl

end World

end SchemaDefaults
