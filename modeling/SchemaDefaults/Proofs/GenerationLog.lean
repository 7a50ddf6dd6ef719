import SchemaDefaults.Proofs.DepthFirst
import SchemaDefaults.Proofs.Texts

/-! # What the log of a generation shows

At the level `debug` a log shows one record for each method that is written, and after it one
for each field of the message whose default is ignored. Reading options only ever leaves traces,
which are not shown at that level.
-/

namespace SchemaDefaults

open Schema

/-! ## Shown records -/

/-- The records that are shown at the level `debug`. -/
def Logged.shown {α : Type} (x : Logged α) : List Log.Record :=
  Log.admitted .debug x.records

namespace Logged

variable {α β : Type}

@[simp] theorem shown_pure (a : α) : (pure a : Logged α).shown = [] := rfl

@[simp] theorem shown_bind (x : Logged α) (f : α → Logged β) :
    (x >>= f).shown = x.shown ++ (f x.value).shown := by
  simp only [shown, records_bind, Log.admitted, List.filter_append]

@[simp] theorem shown_map (f : α → β) (x : Logged α) : (f <$> x).shown = x.shown := by
  simp only [shown, records_map]

@[simp] theorem shown_debug (message : String) (fields : List (String × Log.FieldValue)) :
    (note .debug message fields).shown = [⟨.debug, message, fields⟩] := rfl

theorem filter_shown (x : Logged α) {picks : Log.Record → Bool}
    (debug : ∀ record, picks record → record.level = .debug) :
    x.shown.filter picks = x.records.filter picks := by
  simp only [shown, Log.admitted, List.filter_filter]
  refine List.filter_congr fun record _ => ?_
  cases picked : picks record with
  | false => rfl
  | true =>
      rw [debug record picked]
      rfl

end Logged

/-! ## Reading options -/

@[simp] theorem Options.shown_lookup {α : Type} (decode : Json → Except DecodeError α)
    (options : Option Json) (key : String) : (lookup decode options key).shown = [] := by
  cases options with
  | none => rfl
  | some given =>
      cases given with
      | null | bool | number | string | array => rfl
      | object members =>
          simp only [lookup]
          split
          · rfl
          · rfl
          · split <;> rfl

namespace Schema

@[simp] theorem Message.shown_isMapEntry (message : Message) : message.isMapEntry.shown = [] := by
  simp [Message.isMapEntry]

mutual

theorem Message.shown_visit (walk : Walk) (message : Message) :
    (message.visit walk).shown = [] := by
  match message with
  | ⟨name, fields, nested, options⟩ =>
      simp only [Message.visit, Logged.shown_bind, Message.shown_isMapEntry, List.nil_append]
      split
      · rfl
      · simp [Message.shown_visitAll _ nested]

theorem Message.shown_visitAll (walk : Walk) (messages : List Message) :
    (Message.visitAll walk messages).shown = [] := by
  match messages with
  | [] => rfl
  | message :: rest =>
      simp [Message.visitAll, Message.shown_visit walk message, Message.shown_visitAll _ rest]

end

@[simp] theorem File.shown_placedMessages (file : File) : file.placedMessages.shown = [] := by
  simp [File.placedMessages, Message.shown_visitAll]

@[simp] theorem File.shown_goPackage (file : File) : file.goPackage.shown = [] := by
  simp [File.goPackage]

/-- No literal stands for a repeated field, a message, a group or bytes. -/
def Field.Unsupported (field : Field) : Prop :=
  field.label = .repeated ∨ field.type ∈ [.message, .group, .bytes]

instance (field : Field) : Decidable field.Unsupported :=
  inferInstanceAs (Decidable (_ ∨ _))

end Schema

/-! ## Writing methods -/

namespace Defaulter

/-- The default of a field can be read. -/
def Declares (key : String) (field : Field) : Prop :=
  (Options.text? field.options key).isSome

instance (key : String) (field : Field) : Decidable (Declares key field) :=
  inferInstanceAs (Decidable (_ = true))

/-- The default of a field can be read, and is ignored. -/
def Ignores (key : String) (field : Field) : Prop :=
  Declares key field ∧ field.Unsupported

instance (key : String) (field : Field) : Decidable (Ignores key field) :=
  inferInstanceAs (Decidable (_ ∧ _))

def ignoredRecord (field : Field) : Log.Record :=
  ⟨.debug, "ignoring default on unsupported field",
    [("field", .plain field.name), ("ty", .plain (typeWord field.type)),
      ("label", .plain (labelWord field.label))]⟩

def emittedRecord (placed : PlacedMessage) : Log.Record :=
  ⟨.debug, "emitting defaults method " ++ GoName.ofPath placed.path,
    [("fields", .plain (toString placed.message.fields.length))]⟩

/-- The records of a method and of the defaults ignored in it. -/
def methodRecords (key : String) (placed : PlacedMessage) : List Log.Record :=
  emittedRecord placed ::
    (placed.message.fields.filter fun field => Ignores key field).map ignoredRecord

theorem shown_assignment (receiver key : String) (field : Field) :
    (assignment receiver key field).shown =
      if Ignores key field then [ignoredRecord field] else [] := by
  simp only [assignment, declaredDefault, Logged.shown_bind, Options.shown_lookup,
    Options.value_lookup_string, List.nil_append]
  cases readable : Options.text? field.options key with
  | none => rw [if_neg (by simp [Ignores, Declares, readable]), Logged.shown_pure]
  | some value =>
      have declares : Declares key field := by simp [Declares, readable]
      obtain ⟨family, ignored⟩ | ⟨family, _, assigned⟩ | ⟨family, _, assigned⟩ :=
        family_cases field
      · rw [family, if_pos ⟨declares, ignored⟩]
        rfl
      · rw [family, if_neg fun ignores => assigned ignores.2]
        rfl
      · rw [family, if_neg fun ignores => assigned ignores.2]
        rfl

theorem shown_assignments (receiver key : String) (fields : List Field) :
    (assignments receiver key fields).shown =
      (fields.filter fun field => Ignores key field).map ignoredRecord := by
  induction fields with
  | nil => rfl
  | cons field rest ih =>
      simp only [assignments, Logged.shown_bind, Logged.shown_pure, shown_assignment, ih,
        List.append_nil, List.filter_cons, decide_eq_true_eq]
      split <;> rfl

theorem shown_emit (settings : Settings) (placed : PlacedMessage) (writer : CodeWriter) :
    (emit settings placed writer).shown = methodRecords settings.optionKey placed := by
  simp only [emit, Logged.shown_bind, Logged.shown_debug, Logged.shown_pure, shown_assignments,
    List.append_nil]
  rfl

theorem shown_emitAll (settings : Settings) (placed : List PlacedMessage) (writer : CodeWriter) :
    (emitAll settings placed writer).shown =
      placed.flatMap (methodRecords settings.optionKey) := by
  induction placed generalizing writer with
  | nil => rfl
  | cons one rest ih =>
      simp only [emitAll, Logged.shown_bind, shown_emit, ih, List.flatMap_cons]

theorem shown_generate (settings : Settings) (file : File) (writer : CodeWriter) :
    ((pass (some settings)).generate file writer).shown =
      file.placedMessages.value.flatMap (methodRecords settings.optionKey) := by
  simp [Pass.generate, PassBehaviour.generate, pass, generate, shown_emitAll]

end Defaulter

/-! ## Running the session of a configuration -/

namespace Catalog

def runRecord (file : File) : Log.Record :=
  ⟨.debug, "running pass", [("pass", .quoted Defaulter.passName), ("file", .plain file.name)]⟩

/-- The records of a session before its first file. -/
def openingRecords : List Log.Record :=
  [⟨.debug, "registered pass", [("pass", .quoted Defaulter.passName)]⟩,
    ⟨.info, "generator initialized", [("passes", .plain "1")]⟩]

def fileRecords (key : String) (file : File) : List Log.Record :=
  runRecord file :: file.placedMessages.value.flatMap (Defaulter.methodRecords key)

theorem shown_registerAll (configuration : Configuration) :
    (registerAll (.start configuration) [Defaulter.passName]).shown =
      [⟨.debug, "registered pass", [("pass", .quoted Defaulter.passName)]⟩] := by
  simp only [registerAll, pass?_eq, if_true, Logged.shown_bind]
  rfl

theorem shown_init {configuration : Configuration} {settings : Defaulter.Settings}
    (usable : Defaulter.usableSettingsOf configuration = .ok settings) :
    (Session.init ⟨configuration, .registered, [Defaulter.pass none]⟩).shown =
      [⟨.info, "generator initialized", [("passes", .plain "1")]⟩] := by
  have bound : PassBehaviour.init configuration (⟨none⟩ : Defaulter) =
      (pure (.ok (), ⟨some settings⟩) : Logged (Except Failure Unit × Defaulter)) := by
    simp only [PassBehaviour.init, Defaulter.init, usable]
  simp only [Session.init, Lifecycle.canBecome, Session.initPasses, Pass.init, Defaulter.pass,
    bound]
  rfl

theorem shown_session {configuration : Configuration} {settings : Defaulter.Settings}
    (binds : Binds configuration (some settings)) :
    (Catalog.session configuration).shown = openingRecords := by
  obtain ⟨one, usable⟩ := binds
  have registered := (registerAll_ok_iff configuration [Defaulter.passName] _).mpr
    (.inr ⟨rfl, rfl⟩)
  simp only [Catalog.session, one, Logged.shown_bind, shown_registerAll, registered,
    shown_init usable, Logged.shown_pure]
  rfl

theorem shown_generateFile (configuration : Configuration) (settings : Defaulter.Settings)
    (file : File) :
    ((ready configuration (some settings)).generateFile file).shown =
      fileRecords settings.optionKey file := by
  have top : (CodeWriter.empty.append (headText file)).depth = 0 := rfl
  have ran := value_generatePasses (some settings) file top
  simp only [Option.toList_some, List.map_cons, List.map_nil] at ran
  simp only [Session.generateFile, ready, Lifecycle.canGenerate, beq_self_eq_true, Bool.not_true,
    Bool.false_eq_true, if_false, Logged.shown_bind, File.shown_goPackage, Session.header_eq,
    Option.toList_some, List.map_cons, List.map_nil, ran, Logged.shown_pure]
  simp only [Session.generatePasses, Logged.shown_bind, Logged.shown_debug,
    Defaulter.shown_generate, Defaulter.value_generate settings file top, Logged.shown_pure,
    List.append_nil, List.nil_append]
  rfl

theorem shown_generateFiles (configuration : Configuration) (settings : Defaulter.Settings)
    (files : List File) :
    (generateFiles (ready configuration (some settings)) files).shown =
      files.flatMap (fileRecords settings.optionKey) := by
  induction files with
  | nil => rfl
  | cons file rest ih =>
      simp only [generateFiles, Logged.shown_bind, shown_generateFile, value_generateFile,
        Logged.shown_pure, ih, List.append_nil, List.flatMap_cons]

end Catalog

/-- What is shown of a generation: the session gets ready, and then file after file its pass runs
    and writes methods. -/
theorem shown_generateTexts {configuration : Configuration} {settings : Defaulter.Settings}
    (binds : Catalog.Binds configuration (some settings)) (schema : Schema) :
    (generateTexts schema configuration).shown =
      Catalog.openingRecords ++
        schema.files.flatMap (Catalog.fileRecords settings.optionKey) := by
  have built := (Catalog.session_ok_iff configuration _).mpr ⟨some settings, binds, rfl⟩
  simp only [generateTexts, Logged.shown_bind, Catalog.shown_session binds, built,
    Catalog.shown_generateFiles]

end SchemaDefaults
