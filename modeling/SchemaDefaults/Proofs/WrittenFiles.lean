import SchemaDefaults.Proofs.DiskContent
import SchemaDefaults.Proofs.OutputPaths
import SchemaDefaults.Proofs.Texts

/-! # The files that are written

All texts are generated and all paths are settled before anything happens to the disk. After
that the files are written one by one in the order of the schema files, up to the first whose
directory cannot be made or that cannot be written.
-/

namespace SchemaDefaults.Command

open World (Does)

/-! ## Steps of commands -/

section Steps

variable {α β : Type} {before middle after : World} {calls more : List DiskCall}

theorem does_effect {action : StateM World α} {result : α}
    (does : Does action before calls result after) :
    Does (effect action).run before calls (.ok result) after where
  ran := by
    show (Except.ok <$> action).run before = _
    rw [StateT.run_map, does.ran]
    rfl
  kept := does.kept
  performed := does.performed

theorem does_failDuring (task : String) (cause : CommandError) (world : World) :
    Does (failDuring task cause : ExceptT CommandError (StateM World) α).run world []
      (.error (.during task cause)) world :=
  .pure _ _

/-- A command that succeeds is followed by the next one. -/
theorem does_next {command : ExceptT CommandError (StateM World) α} {result : α}
    {next : α → ExceptT CommandError (StateM World) β} {final : Except CommandError β}
    (first : Does command.run before calls (.ok result) middle)
    (second : Does (next result).run middle more final after) :
    Does (command >>= next).run before (calls ++ more) final after := by
  rw [ExceptT.run_bind]
  exact first.bind second

theorem does_last {command : ExceptT CommandError (StateM World) α} {result : α}
    {next : α → ExceptT CommandError (StateM World) β} {final : Except CommandError β}
    (first : Does command.run before calls (.ok result) middle)
    (second : Does (next result).run middle [] final after) :
    Does (command >>= next).run before calls final after := by
  rw [ExceptT.run_bind]
  exact first.bind_last second

/-- A command that fails ends what it is part of. -/
theorem does_stop {command : ExceptT CommandError (StateM World) α} {error : CommandError}
    (next : α → ExceptT CommandError (StateM World) β)
    (first : Does command.run before calls (.error error) after) :
    Does (command >>= next).run before calls (.error error) after := by
  rw [ExceptT.run_bind]
  exact first.bind_last (.pure _ _)

end Steps

/-! ## Writing -/

/-- The write of an output, with what became of it. -/
def Output.written (output : Output) (result : Except StorageError Unit) :
    Path × String × Except StorageError Unit :=
  (output.path, output.text, result)

/-- How an output comes not to be written: the writes attempted for it and the error. -/
inductive Stopped (output : Output) :
    List (Path × String × Except StorageError Unit) → StorageError → CommandError → Prop where
  | noDirectory {parent : Path} (cause : StorageError) (above : output.path.parent? = some parent) :
      Stopped output [] cause
        (.during ("Failed to create directory: " ++ Text.quoted parent.text) (.storage cause))
  | notWritten (cause : StorageError) :
      Stopped output [output.written (.error cause)] cause
        (.during ("Failed to write: " ++ Text.quoted output.path.text) (.storage cause))

/-- What becomes of outputs: all are written in their order, or those before the first that is
    not. -/
inductive Outcome (outputs : List Output) (calls : List DiskCall) :
    Except CommandError Unit → Prop where
  | written (all : DiskCall.writes calls = outputs.map (·.written (.ok ()))) :
      Outcome outputs calls (.ok ())
  | stopped (before : List Output) (output : Output) (after : List Output)
      {attempted : List (Path × String × Except StorageError Unit)} {cause : StorageError}
      {error : CommandError} (ordered : outputs = before ++ output :: after)
      (partly : DiskCall.writes calls = before.map (·.written (.ok ())) ++ attempted)
      (stopped : Stopped output attempted cause error) (last : DiskCall.EndIn calls cause) :
      Outcome outputs calls (.error error)

namespace Outcome

variable {front rest : List Output} {calls more : List DiskCall} {error : CommandError}
  {result : Except CommandError Unit}

/-- Outputs that are written can be followed by others. -/
theorem append (first : Outcome front calls (.ok ())) (second : Outcome rest more result) :
    Outcome (front ++ rest) (calls ++ more) result := by
  obtain ⟨all⟩ := first
  cases second with
  | written others =>
      refine .written ?_
      rw [DiskCall.writes_append, all, others, List.map_append]
  | stopped before output after ordered partly stopped last =>
      refine .stopped (front ++ before) output after ?_ ?_ stopped (last.after calls)
      · rw [ordered, List.append_assoc]
      · rw [DiskCall.writes_append, all, partly, List.map_append, List.append_assoc]

/-- After an output that is not written the others are not tried. -/
theorem extend (outcome : Outcome front calls (.error error)) (rest : List Output) :
    Outcome (front ++ rest) calls (.error error) := by
  cases outcome with
  | stopped before output after ordered partly stopped last =>
      refine .stopped before output (after ++ rest) ?_ partly stopped last
      rw [ordered, List.append_assoc, List.cons_append]

end Outcome

theorem does_makeParent (output : Output) (world : World) :
    ∃ calls result after, Does (makeParent output.path).run world calls result after ∧
      DiskCall.writes calls = [] ∧ ∀ error, result = .error error →
        ∃ cause, Stopped output [] cause error ∧ DiskCall.EndIn calls cause := by
  unfold makeParent
  cases above : output.path.parent? with
  | none => exact ⟨_, _, _, .pure _ _, rfl, by rintro _ ⟨⟩⟩
  | some parent =>
      obtain ⟨calls, made, after, making, prepares⟩ := World.does_makeDirectories parent world
      match made with
      | .ok () =>
          exact ⟨_, _, _, does_last (does_effect making) (.pure _ _), prepares.silent,
            by rintro _ ⟨⟩⟩
      | .error cause =>
          refine ⟨_, _, _, does_last (does_effect making) (does_failDuring _ _ _),
            prepares.silent, ?_⟩
          rintro _ ⟨⟩
          exact ⟨cause, .noDirectory cause above, prepares.failed cause rfl⟩

theorem does_writeOutput (output : Output) (world : World) :
    ∃ calls result after, Does (writeOutput output).run world calls result after ∧
      Outcome [output] calls result := by
  obtain ⟨calls, prepared, middle, preparing, silent, failed⟩ := does_makeParent output world
  unfold writeOutput
  match prepared with
  | .error error =>
      obtain ⟨cause, stopped, last⟩ := failed error rfl
      exact ⟨_, _, _, does_stop _ preparing, .stopped [] output [] rfl silent stopped last⟩
  | .ok () =>
      obtain ⟨result, wrote, writing⟩ := World.does_write output.path output.text middle
      have attempted : DiskCall.writes (calls ++ [.write output.path output.text result]) =
          [output.written result] := by
        rw [DiskCall.writes_append, silent]
        rfl
      match result with
      | .error cause =>
          refine ⟨_, _, _, does_next preparing (does_last (does_effect writing)
            (does_stop _ (does_failDuring _ _ _))), ?_⟩
          have last : DiskCall.EndIn [.write output.path output.text (.error cause)] cause :=
            ⟨_, rfl, rfl⟩
          exact .stopped [] output [] rfl attempted (.notWritten cause)
            (last.after calls)
      | .ok () =>
          obtain ⟨after, noting⟩ := World.does_run (Logged.note .debug "wrote generated file"
            [("schema", .plain output.schemaFile), ("output", .plain output.path.text)]) wrote
          exact ⟨_, _, _, does_next preparing (does_last (does_effect writing)
            (does_effect noting)), .written attempted⟩

theorem does_writeOutputs (outputs : List Output) (world : World) :
    ∃ calls result after, Does (writeOutputs outputs).run world calls result after ∧
      Outcome outputs calls result := by
  induction outputs generalizing world with
  | nil => exact ⟨_, _, _, .pure _ _, .written rfl⟩
  | cons output rest ih =>
      obtain ⟨calls, result, middle, writing, outcome⟩ := does_writeOutput output world
      unfold writeOutputs
      match result with
      | .ok () =>
          obtain ⟨more, final, after, going, others⟩ := ih middle
          exact ⟨_, _, _, does_next writing going, outcome.append others⟩
      | .error error => exact ⟨_, _, _, does_stop _ writing, outcome.extend rest⟩

/-! ## Generating and writing -/

theorem does_textsOf (schema : Schema) (configuration : Configuration) (world : World) :
    ∃ after, Does (textsOf schema configuration).run world []
      ((generateTexts schema configuration).value.mapError .failure) after := by
  obtain ⟨after, generating⟩ := World.does_run (generateTexts schema configuration) world
  refine ⟨after, ?_⟩
  unfold textsOf
  cases generated : (generateTexts schema configuration).value with
  | error failure =>
      rw [generated] at generating
      exact does_last (does_effect generating) (.pure _ _)
  | ok texts =>
      rw [generated] at generating
      exact does_last (does_effect generating) (.pure _ _)

section Run

variable {schema : Schema} {configuration : Configuration} {texts : List (String × String)}

theorem does_generateAll_failed {failure : Failure}
    (failed : (generateTexts schema configuration).value = .error failure) (directory : Path)
    (world : World) :
    ∃ after, Does (generateAll schema configuration directory).run world []
      (.error (.failure failure)) after := by
  obtain ⟨after, reading⟩ := does_textsOf schema configuration world
  rw [failed] at reading
  exact ⟨after, does_stop _ reading⟩

theorem does_generateAll_refused
    (generated : (generateTexts schema configuration).value = .ok texts) {directory : Path}
    {error : CommandError}
    (refused : planOutputs directory configuration.outputSuffix [] texts = .error error)
    (world : World) :
    ∃ after,
      Does (generateAll schema configuration directory).run world [] (.error error) after := by
  obtain ⟨after, reading⟩ := does_textsOf schema configuration world
  rw [generated] at reading
  refine ⟨after, does_last reading ?_⟩
  rw [refused]
  exact .pure _ _

theorem does_generateAll_planned
    (generated : (generateTexts schema configuration).value = .ok texts) {directory : Path}
    {outputs : List Output}
    (plan : planOutputs directory configuration.outputSuffix [] texts = .ok outputs)
    (world : World) :
    ∃ calls ended after,
      Does (generateAll schema configuration directory).run world calls
        (ended.map fun _ => outputs.map (·.path)) after ∧
      Outcome outputs calls ended := by
  obtain ⟨middle, reading⟩ := does_textsOf schema configuration world
  obtain ⟨calls, ended, after, writing, outcome⟩ := does_writeOutputs outputs middle
  rw [generated] at reading
  refine ⟨[] ++ calls, ended, after, does_next reading ?_, outcome⟩
  rw [plan]
  match ended with
  | .ok () => exact does_last writing (.pure _ _)
  | .error error => exact does_stop _ writing

end Run

/-! ## The outputs of a schema -/

/-- The names of the schema files of a schema. -/
def schemaFiles (schema : Schema) : List String :=
  schema.files.map (·.name)

/-- Texts that are generated are those of the schema files, in their order. -/
theorem names_of_texts {schema : Schema} {configuration : Configuration}
    {texts : List (String × String)}
    (generated : (generateTexts schema configuration).value = .ok texts) :
    texts.map (·.1) = schemaFiles schema := by
  cases built : (Catalog.session configuration).value with
  | error failure => simp [generateTexts, built] at generated
  | ok session =>
      obtain ⟨bound, binds, -⟩ := (Catalog.session_ok_iff _ _).mp built
      rw [value_generateTexts binds, Except.ok.injEq] at generated
      simp [← generated, schemaFiles]

theorem suffix_of_usable {configuration : Configuration}
    (usable : configuration.validate.value = .ok ()) :
    Text.isBlank configuration.outputSuffix = false := by
  rw [← Bool.not_eq_true]
  intro blank
  simp only [Configuration.validate, Configuration.settingsBreach?, blank, if_true] at usable
  split at usable
  · cases usable
  · next none =>
      split at none
      · cases none
      · cases none

section Written

variable {suffix : String} {texts : List (String × String)}

theorem outputs_inside (acceptable : Acceptable suffix (texts.map (·.1)))
    (notBlank : Text.isBlank suffix = false) (directory : Path) :
    ∀ output ∈ texts.map (planned directory suffix), ∃ names : List String, names ≠ [] ∧
      output.path.components = directory.components ++ names.map .plain := by
  intro output member
  obtain ⟨file, given, rfl⟩ := List.mem_map.mp member
  have inside := acceptable.inside file.1 (List.mem_map_of_mem given)
  exact target_inside notBlank inside directory

/-- Where a text goes below the output directory. -/
def settled (suffix : String) (file : String × String) : Path × String :=
  (outputPath suffix file.1, file.2)

/-- Outputs that are all written can all be read back. -/
theorem outputs_kept (acceptable : Acceptable suffix (texts.map (·.1))) {directory : Path}
    {before after : Disk} {calls : List DiskCall} (performed : before.Performs calls after)
    (all : DiskCall.writes calls =
      (texts.map (planned directory suffix)).map (·.written (.ok ()))) :
    ∀ output ∈ texts.map (planned directory suffix),
      after.read output.path = .ok output.text.toUTF8 := by
  have plainText : ∀ file ∈ texts, (outputPath suffix file.1).isPlain = true :=
    fun file given => acceptable.plain (List.mem_map_of_mem given)
  have plain : ∀ file ∈ texts.map (settled suffix), file.1.isPlain = true :=
    List.forall_mem_map.mpr plainText
  have apart : (texts.map (settled suffix)).Pairwise fun one other =>
      one.1.names ≠ other.1.names := by
    refine List.pairwise_map.mpr ((List.pairwise_map.mp acceptable.different).imp_of_mem ?_)
    intro one other first second different same
    rw [Path.components_of_isPlain (plainText one first),
      Path.components_of_isPlain (plainText other second)] at different
    exact different (congrArg _ same)
  have written : DiskCall.writes calls = Disk.writesIn directory (texts.map (settled suffix)) := by
    rw [all, Disk.writesIn, List.map_map, List.map_map]
    rfl
  have read := List.forall_mem_map.mp (performed.reads written plain apart)
  exact List.forall_mem_map.mpr read

end Written

/-! ## How generation ends -/

/-- What becomes of texts whose schema files are acceptable. -/
structure Writes (directory : Path) (outputs : List Output) (before : World)
    (result : Except CommandError (List Path)) (after : World) : Prop where
  different : (outputs.map (·.path.components)).Nodup
  inside : ∀ output ∈ outputs, ∃ names : List String, names ≠ [] ∧
    output.path.components = directory.components ++ names.map .plain
  /-- The outputs are written in their order, up to the first that cannot be written. -/
  performed : ∃ calls ended, after.calls = before.calls ++ calls ∧
    before.disk.Performs calls after.disk ∧ Outcome outputs calls ended ∧
    result = ended.map fun _ => outputs.map (·.path)
  /-- In the end each output has its own text. -/
  kept : ∀ paths, result = .ok paths →
    ∀ output ∈ outputs, after.disk.read output.path = .ok output.text.toUTF8

/-- The disk is as it was, and no call was made on it. -/
def Untouched (before after : World) : Prop :=
  after.disk = before.disk ∧ after.calls = before.calls

/-- How the generation of the files of a schema ends. -/
structure Settles (schema : Schema) (configuration : Configuration) (directory : Path)
    (before : World) (result : Except CommandError (List Path)) (after : World) : Prop where
  failed : ∀ failure, (generateTexts schema configuration).value = .error failure →
    result = .error (.failure failure) ∧ Untouched before after
  refused : ∀ texts earlier schemaFile later error,
    (generateTexts schema configuration).value = .ok texts →
    schemaFiles schema = earlier ++ schemaFile :: later →
    Acceptable configuration.outputSuffix earlier →
    Refused configuration.outputSuffix earlier schemaFile error →
    result = .error error ∧ Untouched before after
  accepted : ∀ texts, (generateTexts schema configuration).value = .ok texts →
    Acceptable configuration.outputSuffix (schemaFiles schema) →
    texts.map (·.1) = schemaFiles schema ∧
    Writes directory (texts.map (planned directory configuration.outputSuffix)) before result after
  /-- There is no fourth case. -/
  decided : ¬Acceptable configuration.outputSuffix (schemaFiles schema) ↔
    ∃ earlier schemaFile later error, schemaFiles schema = earlier ++ schemaFile :: later ∧
      Acceptable configuration.outputSuffix earlier ∧
      Refused configuration.outputSuffix earlier schemaFile error

section Settled

variable {schema : Schema} {configuration : Configuration} {directory : Path}
  {before after : World} {calls : List DiskCall} {texts : List (String × String)}

theorem settles_of_failed {failure : Failure}
    (failed : (generateTexts schema configuration).value = .error failure)
    (untouched : Untouched before after) :
    Settles schema configuration directory before (.error (.failure failure)) after where
  failed other same := by
    rw [failed, Except.error.injEq] at same
    exact ⟨by rw [same], untouched⟩
  refused texts _ _ _ _ generated := by simp [failed] at generated
  accepted texts generated := by simp [failed] at generated
  decided := not_acceptable_iff _ _

theorem settles_of_refused {error : CommandError}
    (generated : (generateTexts schema configuration).value = .ok texts)
    (plan : planOutputs directory configuration.outputSuffix [] texts = .error error)
    (untouched : Untouched before after) :
    Settles schema configuration directory before (.error error) after where
  failed failure failed := by simp [generated] at failed
  refused _ earlier schemaFile later other _ split acceptable refused := by
    have named := (names_of_texts generated).trans split
    rw [planOutputs_of_refused named acceptable refused, Except.error.injEq] at plan
    exact ⟨by rw [plan], untouched⟩
  accepted _ _ acceptable := by
    rw [← names_of_texts generated] at acceptable
    rw [planOutputs_of_acceptable acceptable] at plan
    cases plan
  decided := not_acceptable_iff _ _

theorem settles_of_planned (usable : configuration.validate.value = .ok ()) {outputs : List Output}
    {ended : Except CommandError Unit}
    (generated : (generateTexts schema configuration).value = .ok texts)
    (plan : planOutputs directory configuration.outputSuffix [] texts = .ok outputs)
    (kept : after.calls = before.calls ++ calls) (performed : before.disk.Performs calls after.disk)
    (outcome : Outcome outputs calls ended) :
    Settles schema configuration directory before (ended.map fun _ => outputs.map (·.path))
      after where
  failed failure failed := by simp [generated] at failed
  refused _ earlier schemaFile later other _ split acceptable refused := by
    have named := (names_of_texts generated).trans split
    rw [planOutputs_of_refused named acceptable refused] at plan
    cases plan
  accepted given same acceptable := by
    rw [generated, Except.ok.injEq] at same
    subst same
    rw [← names_of_texts generated] at acceptable ⊢
    rw [planOutputs_of_acceptable acceptable, Except.ok.injEq] at plan
    subst plan
    refine ⟨rfl, targets_different acceptable directory,
      outputs_inside acceptable (suffix_of_usable usable) directory,
      ⟨calls, ended, kept, performed, outcome, rfl⟩, ?_⟩
    intro paths success
    cases outcome with
    | written all => exact outputs_kept acceptable performed all
    | stopped => cases success
  decided := not_acceptable_iff _ _

end Settled

/-- All texts are generated and all paths settled before the first file is written, and then the
    files are written in their order. -/
theorem generateAll_settles {configuration : Configuration}
    (usable : configuration.validate.value = .ok ()) (schema : Schema) (directory : Path)
    (world : World) :
    ∃ result after,
      (generateAll (m := StateM World) schema configuration directory).run.run world =
        (result, after) ∧
      Settles schema configuration directory world result after := by
  cases generated : (generateTexts schema configuration).value with
  | error failure =>
      obtain ⟨after, does⟩ := does_generateAll_failed generated directory world
      exact ⟨_, _, does.ran, settles_of_failed generated does.untouched⟩
  | ok texts =>
      cases plan : planOutputs directory configuration.outputSuffix [] texts with
      | error error =>
          obtain ⟨after, does⟩ := does_generateAll_refused generated plan world
          exact ⟨_, _, does.ran, settles_of_refused generated plan does.untouched⟩
      | ok outputs =>
          obtain ⟨calls, ended, after, does, outcome⟩ :=
            does_generateAll_planned generated plan world
          exact ⟨_, _, does.ran,
            settles_of_planned usable generated plan does.kept does.performed outcome⟩

theorem standard_usable : Configuration.standard.validate.value = .ok () := by
  decide +kernel

/-- Two schema files without messages. -/
def twoFiles : Schema :=
  ⟨[⟨"a", "", [], none⟩, ⟨"b", "", [], none⟩]⟩

theorem generateAll_settles_two_files :
    ∃ after,
      (generateAll (m := StateM World) twoFiles .standard ⟨"/"⟩).run.run (.fresh ⟨[], []⟩) =
        (.ok [⟨"/a.pb.defaults.go"⟩, ⟨"/b.pb.defaults.go"⟩], after) ∧
      Settles twoFiles .standard ⟨"/"⟩ (.fresh ⟨[], []⟩)
        (.ok [⟨"/a.pb.defaults.go"⟩, ⟨"/b.pb.defaults.go"⟩]) after := by
  obtain ⟨result, after, ran, settles⟩ :=
    generateAll_settles standard_usable twoFiles ⟨"/"⟩ (.fresh ⟨[], []⟩)
  have written : ((generateAll (m := StateM World) twoFiles .standard ⟨"/"⟩).run.run
      (.fresh ⟨[], []⟩)).1 = .ok [⟨"/a.pb.defaults.go"⟩, ⟨"/b.pb.defaults.go"⟩] := by
    decide +kernel
  rw [ran] at written
  obtain rfl : result = _ := written
  exact ⟨after, ran, settles⟩

/-- A disk with a directory in the place of the first output. -/
def blocked : Disk :=
  ⟨[(["a.pb.defaults.go"], .directory)], []⟩

/-- Nothing is wrong with the schema files, but the first output cannot be written, and the second
    is not tried. -/
theorem generateAll_blocked :
    twoFiles.validate = .ok () ∧ Configuration.standard.validate.value = .ok () ∧
      (∃ texts, (generateTexts twoFiles .standard).value = .ok texts) ∧
      Acceptable Configuration.standard.outputSuffix (schemaFiles twoFiles) ∧
      (DiskCall.writes ((generateAll (m := StateM World) twoFiles .standard ⟨"/"⟩).run.run
        (.fresh blocked)).2.calls).length ≠ twoFiles.files.length := by
  have plain : ∀ schemaFile ∈ schemaFiles twoFiles,
      (outputPath Configuration.standard.outputSuffix schemaFile).isPlain = true := by
    decide +kernel
  refine ⟨rfl, standard_usable, ?_, ⟨?_, by decide +kernel⟩, by decide +kernel⟩
  · have bound : Catalog.Binds .standard (some .standard) := ⟨rfl, rfl⟩
    exact ⟨_, value_generateTexts bound twoFiles⟩
  · intro schemaFile member
    exact (Path.isPlain_iff _).mp (plain schemaFile member)

end SchemaDefaults.Command
