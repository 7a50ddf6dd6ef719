import SchemaDefaults.CodeWriter.Program
import SchemaDefaults.Proofs.CheckAgreement
import SchemaDefaults.Proofs.GenerationLog

/-! # Every readable default is accounted for

A default that can be read is either assigned, in one write of the method of its message, or
ignored, with one record in the log. The summary of a check counts the two together, although it
is made without writing anything.
-/

namespace SchemaDefaults

open Schema

/-! ## Programs that write methods -/

namespace CodeWriter

variable {ε : Type}

theorem runAll_append (writer : CodeWriter) (first second : List (Op ε)) :
    (runAll writer (first ++ second)).2 = (runAll (runAll writer first).2 second).2 := by
  induction first generalizing writer with
  | nil => rfl
  | cons op rest ih => exact ih (op.run writer).after

theorem runAll_lines (writer : CodeWriter) (texts : List String) :
    (runAll writer (texts.map .line : List (Op ε))).2 = writer.lines texts := by
  induction texts generalizing writer with
  | nil => rfl
  | cons text rest ih => exact ih (writer.line text)

end CodeWriter

namespace Defaulter

open CodeWriter

/-- The assignments for a message, one for each field that has one. -/
def assigned (settings : Settings) (placed : PlacedMessage) : List String :=
  placed.message.fields.filterMap
    (assignment? (GoName.receiver (GoName.ofPath placed.path)) settings.optionKey)

/-- The operations that write the method of a message: in a block, the kind and the version and
    then each assignment as a line. -/
def methodProgram (settings : Settings) (placed : PlacedMessage) : List (Op Empty) :=
  let typeName := GoName.ofPath placed.path
  let receiver := GoName.receiver typeName
  let preamble := identity settings receiver placed.message
  [.blank,
    .block (methodHeader receiver typeName settings.methodName) "\x7d"
      (preamble.map .line ++ (assigned settings placed).map .line) none,
    .blank]

theorem runAll_methodProgram (settings : Settings) (placed : PlacedMessage)
    (writer : CodeWriter) :
    (runAll writer (methodProgram settings placed)).2 = (emit settings placed writer).value := by
  simp only [methodProgram, runAll, Op.run, Step.after, ← List.map_append, runAll_lines, block,
    emit, Logged.value_bind, Logged.value_pure, value_assignments, identityLines_eq, assigned]

theorem runAll_methodPrograms (settings : Settings) (placed : List PlacedMessage)
    (writer : CodeWriter) :
    (runAll writer (placed.flatMap (methodProgram settings))).2 =
      (emitAll settings placed writer).value := by
  induction placed generalizing writer with
  | nil => rfl
  | cons one rest ih =>
      rw [List.flatMap_cons, runAll_append, runAll_methodProgram, ih]
      rfl

/-- The operations that write the head of a file. -/
def headProgram (file : File) : List (Op Empty) :=
  [.line "// Code generated by protogen. DO NOT EDIT.",
    .line ("// source: " ++ file.name),
    .blank,
    .line ("package " ++ file.goPackage.value)]

/-- The operations that write the code of a file. -/
def fileProgram (settings : Settings) (file : File) : List (Op Empty) :=
  headProgram file ++ file.placedMessages.value.flatMap (methodProgram settings)

theorem text_fileProgram (settings : Settings) (file : File) :
    (runAll .empty (fileProgram settings file)).2.text =
      headText file ++ methodsText settings file := by
  have head : (runAll .empty (headProgram file)).2 = CodeWriter.empty.append (headText file) :=
    Session.header_eq file
  rw [fileProgram, runAll_append, head, runAll_methodPrograms, value_emitAll]
  simp [methodsText, value_render, CodeWriter.empty]

/-! ## Counting -/

def placedOf (schema : Schema) : List PlacedMessage :=
  schema.files.flatMap fun file => file.placedMessages.value

/-- Their fields of which the default is ignored. -/
def ignoredFields (key : String) (schema : Schema) : List Field :=
  ((placedOf schema).flatMap (·.message.fields)).filter fun field => Ignores key field

theorem isSome_assignment?_iff (receiver key : String) (field : Field) :
    (assignment? receiver key field).isSome ↔ Declares key field ∧ ¬Ignores key field := by
  unfold assignment? Ignores
  split
  case isTrue unsupported =>
    constructor
    · intro assigned
      cases assigned
    · rintro ⟨declares, kept⟩
      exact absurd ⟨declares, unsupported⟩ kept
  case isFalse supported =>
    rw [Option.isSome_map]
    constructor
    · intro declares
      exact ⟨declares, fun ignores => supported ignores.2⟩
    · intro both
      exact both.1

/-- Each readable default of a message is assigned or ignored. -/
theorem countP_declares (receiver key : String) (fields : List Field) :
    fields.countP (fun field => Declares key field) =
      (fields.filterMap (assignment? receiver key)).length +
        (fields.filter fun field => Ignores key field).length := by
  have kept : ∀ field, (decide (Declares key field) && !decide (Ignores key field)) =
      (assignment? receiver key field).isSome := by
    intro field
    rw [Bool.eq_iff_iff, isSome_assignment?_iff]
    simp
  have ignored : ∀ field, (decide (Declares key field) && decide (Ignores key field)) =
      decide (Ignores key field) := by
    intro field
    rw [Bool.eq_iff_iff]
    simpa using fun ignores : Ignores key field => ignores.1
  calc fields.countP (fun field => Declares key field)
      = (fields.filter fun field => Ignores key field).countP (fun field => Declares key field) +
          (fields.filter fun field => !Ignores key field).countP fun field => Declares key field :=
        List.countP_eq_countP_filter_add fields _ _
    _ = fields.countP (fun field => Ignores key field) +
          fields.countP fun field => (assignment? receiver key field).isSome := by
        rw [List.countP_filter, List.countP_filter, funext kept, funext ignored]
    _ = _ := by
        rw [List.length_filterMap_eq_countP, ← List.countP_eq_length_filter, Nat.add_comm]

theorem countP_placed (settings : Settings) (placed : List PlacedMessage) :
    (placed.flatMap (·.message.fields)).countP (fun field => Declares settings.optionKey field) =
      (placed.flatMap (assigned settings)).length +
        ((placed.flatMap (·.message.fields)).filter fun field =>
          Ignores settings.optionKey field).length := by
  induction placed with
  | nil => rfl
  | cons one rest ih =>
      have first := countP_declares (GoName.receiver (GoName.ofPath one.path)) settings.optionKey
        one.message.fields
      simp only [List.flatMap_cons, List.countP_append, List.filter_append, List.length_append, ih,
        first, assigned]
      omega

end Defaulter

theorem value_countDefaults (key : String) (fields : List Field) :
    (countDefaults key fields).value =
      fields.countP fun field => Defaulter.Declares key field := by
  induction fields with
  | nil => rfl
  | cons field rest ih =>
      have read : ((Options.text? field.options key).isSome = true) =
          (decide (Defaulter.Declares key field) = true) := (propext decide_eq_true_iff).symm
      simp only [countDefaults, Logged.value_bind, Logged.value_pure,
        Defaulter.value_declaredDefault, ih, List.countP_cons, read]
      exact Nat.add_comm _ _

theorem value_declaredDefaults (key : String) (files : List File) :
    (declaredDefaults key files).value =
      ((Defaulter.placedOf ⟨files⟩).flatMap (·.message.fields)).countP fun field =>
        Defaulter.Declares key field := by
  induction files with
  | nil => rfl
  | cons file rest ih =>
      simp only [declaredDefaults, Logged.value_bind, Logged.value_pure, value_countDefaults, ih,
        Defaulter.placedOf, List.flatMap_cons, List.flatMap_append, List.countP_append]

/-! ## Records of one kind -/

namespace Defaulter

/-- A record of an ignored default. -/
def isIgnoring (record : Log.Record) : Bool :=
  record.level = .debug ∧ record.message = "ignoring default on unsupported field"

def isEmitting (record : Log.Record) : Bool :=
  record.level = .debug ∧ "emitting defaults method".toList <+: record.message.toList

theorem isIgnoring_emittedRecord (placed : PlacedMessage) :
    isIgnoring (emittedRecord placed) = false := by
  have other : "emitting defaults method " ++ GoName.ofPath placed.path ≠
      "ignoring default on unsupported field" := fun same => by
    have := congrArg (fun text => text.toList.head?) same
    simp at this
  simp [isIgnoring, emittedRecord, other]

theorem isEmitting_emittedRecord (placed : PlacedMessage) :
    isEmitting (emittedRecord placed) = true := by
  simp [isEmitting, emittedRecord]

theorem ignoring_methodRecords (key : String) (placed : PlacedMessage) :
    (methodRecords key placed).filter isIgnoring =
      (placed.message.fields.filter fun field => Ignores key field).map ignoredRecord := by
  rw [methodRecords, List.filter_cons, isIgnoring_emittedRecord, if_neg (by simp),
    List.filter_eq_self]
  intro record member
  obtain ⟨field, _, rfl⟩ := List.mem_map.mp member
  simp [isIgnoring, ignoredRecord]

theorem emitting_methodRecords (key : String) (placed : PlacedMessage) :
    (methodRecords key placed).filter isEmitting = [emittedRecord placed] := by
  have others : ((placed.message.fields.filter fun field =>
      Ignores key field).map ignoredRecord).filter isEmitting = [] := by
    rw [List.filter_eq_nil_iff]
    intro record member
    obtain ⟨field, _, rfl⟩ := List.mem_map.mp member
    simp [isEmitting, ignoredRecord]
  rw [methodRecords, List.filter_cons, isEmitting_emittedRecord, if_pos rfl, others]

/-- Records of one kind among those of a generation are those among the records of the methods, if
    they are none of the others. -/
theorem filter_records {configuration : Configuration} {settings : Settings} {schema : Schema}
    {picks : Log.Record → Bool} (binds : Catalog.Binds configuration (some settings))
    (debug : ∀ record, picks record → record.level = .debug)
    (opening : Catalog.openingRecords.filter picks = [])
    (running : ∀ file, picks (Catalog.runRecord file) = false) :
    (generateTexts schema configuration).records.filter picks =
      (placedOf schema).flatMap fun placed =>
        (methodRecords settings.optionKey placed).filter picks := by
  rw [← Logged.filter_shown _ debug, shown_generateTexts binds, List.filter_append, opening,
    List.nil_append, List.filter_flatMap]
  simp only [Catalog.fileRecords, List.filter_cons, running, Bool.false_eq_true, if_false,
    List.filter_flatMap, placedOf, List.flatMap_assoc]

theorem ignoring_records {configuration : Configuration} {settings : Settings}
    (binds : Catalog.Binds configuration (some settings)) (schema : Schema) :
    (generateTexts schema configuration).records.filter isIgnoring =
      (ignoredFields settings.optionKey schema).map ignoredRecord := by
  rw [filter_records binds (fun record picked => (of_decide_eq_true picked).1) (by decide)
    (fun file => by simp [isIgnoring, Catalog.runRecord])]
  simp only [ignoring_methodRecords, ignoredFields, List.filter_flatMap, List.map_flatMap]

theorem emitting_records {configuration : Configuration} {settings : Settings}
    (binds : Catalog.Binds configuration (some settings)) (schema : Schema) :
    (generateTexts schema configuration).records.filter isEmitting =
      (placedOf schema).map emittedRecord := by
  rw [filter_records binds (fun record picked => (of_decide_eq_true picked).1) (by decide)
    (fun file => by simp [isEmitting, Catalog.runRecord])]
  simp only [emitting_methodRecords]
  exact List.map_eq_flatMap.symm

end Defaulter

/-! ## The account -/

/-- What becomes of the defaults of a schema when it is generated with some settings. -/
structure Accounted (schema : Schema) (configuration : Configuration)
    (settings : Defaulter.Settings) (report : Report) : Prop where
  /-- The texts are what the programs of the files write. -/
  written : (generateTexts schema configuration).value = .ok (schema.files.map fun file =>
    (file.name, (CodeWriter.runAll .empty (Defaulter.fileProgram settings file)).2.text))
  /-- The check counts each assignment and each ignored default once. -/
  counted : report.declaredDefaults =
    ((Defaulter.placedOf schema).flatMap (Defaulter.assigned settings)).length +
      (Defaulter.ignoredFields settings.optionKey schema).length
  /-- A field has an assignment if its default can be read and is not ignored. -/
  assigned_iff : ∀ receiver field,
    (Defaulter.assignment? receiver settings.optionKey field).isSome ↔
      Defaulter.Declares settings.optionKey field ∧ ¬Defaulter.Ignores settings.optionKey field
  ignoring : (generateTexts schema configuration).records.filter Defaulter.isIgnoring =
    (Defaulter.ignoredFields settings.optionKey schema).map Defaulter.ignoredRecord
  emitting : (generateTexts schema configuration).records.filter Defaulter.isEmitting =
    (Defaulter.placedOf schema).map Defaulter.emittedRecord

/-- With a configuration that a check accepts, each readable default is either assigned or recorded
    as ignored, and the check counts it once. -/
theorem accepted_accounted {schema : Schema} {configuration : Configuration} {report : Report}
    (accepted : (checkSchema schema configuration).value = .ok report) :
    ∃ settings, Defaulter.SetBy configuration settings ∧
      Accounted schema configuration settings report := by
  obtain ⟨_, settings, binds, rfl⟩ := checkSchema_ok accepted
  refine ⟨settings, ((Defaulter.usableSettingsOf_ok_iff _ _).mp binds.2).1, ?_⟩
  exact {
    written := by
      simp only [value_generateTexts binds, Catalog.writes, Defaulter.text_fileProgram]
    counted := (value_declaredDefaults _ _).trans (Defaulter.countP_placed _ _)
    assigned_iff := fun receiver field => Defaulter.isSome_assignment?_iff _ _ _
    ignoring := Defaulter.ignoring_records binds schema
    emitting := Defaulter.emitting_records binds schema }

/-- Of the four readable defaults in this schema two are assigned, one is on a repeated field and
    one on bytes; another cannot be read, and the entries of a map are not looked at. -/
def mixedSchema : Schema :=
  let given (name : String) (label : Label) (type : FieldType) (default : Json) : Field :=
    ⟨name, 1, label, type, none, some (.object [("default", default)])⟩
  let nested : Message :=
    ⟨"Inner", [given "raw" .optional .bytes (.string "AA")], [], none⟩
  let entry : Message :=
    ⟨"LabelsEntry", [given "value" .optional .string (.string "none")], [],
      some (.object [("map_entry", .bool true)])⟩
  let outer : Message :=
    ⟨"Check",
      [given "command" .required .string (.string "true"),
        given "interval" .optional .uint32 (.string "60"),
        given "handlers" .repeated .string (.string "slack"),
        given "timeout" .optional .uint32 (.bool false)],
      [nested, entry], none⟩
  ⟨[⟨"check.proto", "core.v2", [outer], none⟩]⟩

theorem accepted_accounted_mixed :
    (checkSchema mixedSchema .standard).value = .ok ⟨1, 2, 4, ["defaulter"]⟩ ∧
      ∃ settings, Defaulter.SetBy .standard settings ∧
        Accounted mixedSchema .standard settings ⟨1, 2, 4, ["defaulter"]⟩ := by
  have accepted : (checkSchema mixedSchema .standard).value = .ok ⟨1, 2, 4, ["defaulter"]⟩ := by
    decide +kernel
  exact ⟨accepted, accepted_accounted accepted⟩

end SchemaDefaults
