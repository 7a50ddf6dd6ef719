import SchemaDefaults.Generation
import SchemaDefaults.Proofs.MethodText

/-! # The texts of a schema

The session of a configuration runs no pass or the defaulter pass, with its settings bound
once and for all. Generating a file does not change such a session, so the text of a file
depends on the file and the settings alone: not on the files before it, and not on how often
it was generated.
-/

namespace SchemaDefaults

open Schema

/-! ## What a file gets -/

/-- The lines at the top of the text of a file. -/
def headText (file : File) : String :=
  "// Code generated by protogen. DO NOT EDIT.\n" ++
    "// source: " ++ file.name ++ "\n" ++
    "\n" ++
    "package " ++ file.goPackage.value ++ "\n"

theorem Session.header_eq (file : File) :
    header file.name file.goPackage.value = CodeWriter.empty.append (headText file) := by
  have marked : "// Code generated by protogen. DO NOT EDIT." ≠ "" := by simp
  have named : "// source: " ++ file.name ≠ "" := by simp [String.append_eq_empty_iff]
  have packed : "package " ++ file.goPackage.value ≠ "" := by simp [String.append_eq_empty_iff]
  have tabs : CodeWriter.tabs CodeWriter.empty.depth = "" := by
    simp [CodeWriter.tabs, CodeWriter.empty]
  have first : "// Code generated by protogen. DO NOT EDIT.\n" =
      "// Code generated by protogen. DO NOT EDIT." ++ "\n" := by simp
  unfold header headText
  rewrite [CodeWriter.line_of_ne_empty _ marked, CodeWriter.line_of_ne_empty _ named,
    CodeWriter.line_of_ne_empty _ packed, first]
  simp only [CodeWriter.blank, CodeWriter.append_append, CodeWriter.append_depth,
    CodeWriter.lineAt, tabs, String.empty_append, String.append_assoc]

namespace Defaulter

/-- The methods of the messages of a file. -/
def methodsText (settings : Settings) (file : File) : String :=
  String.join (file.placedMessages.value.map fun placed => (render settings placed).value)

theorem value_emitAll (settings : Settings) (placed : List PlacedMessage) (writer : CodeWriter) :
    (emitAll settings placed writer).value =
      writer.append (String.join (placed.map fun one => methodText settings one writer.depth)) := by
  induction placed generalizing writer with
  | nil => simp [emitAll, CodeWriter.append]
  | cons one rest ih =>
      simp only [emitAll, Logged.value_bind, value_emit, ih, CodeWriter.append_append,
        CodeWriter.append_depth, List.map_cons, String.join_cons]

/-- A pass with bound settings writes the methods of a file and stays as it is. -/
theorem value_generate (settings : Settings) (file : File) {writer : CodeWriter}
    (top : writer.depth = 0) :
    ((pass (some settings)).generate file writer).value =
      (.ok (), pass (some settings), writer.append (methodsText settings file)) := by
  simp only [Pass.generate, PassBehaviour.generate, pass, generate, Logged.value_bind,
    Logged.value_pure, value_emitAll, methodsText, value_render, top]

end Defaulter

/-! ## Sessions that are ready -/

namespace Catalog

/-- The session that runs the defaulter pass with given settings, or no pass. -/
def ready (configuration : Configuration) (bound : Option Defaulter.Settings) : Session Defaulter :=
  ⟨configuration, .initialized, bound.toList.map fun settings => Defaulter.pass (some settings)⟩

/-- The settings with which the session of a configuration runs, if it runs a pass. -/
def Binds (configuration : Configuration) : Option Defaulter.Settings → Prop
  | none => configuration.passes = []
  | some settings => configuration.passes = [Defaulter.passName] ∧
      Defaulter.usableSettingsOf configuration = .ok settings

theorem pass?_eq (name : String) :
    pass? name = if name = Defaulter.passName then some (Defaulter.pass none) else none := by
  by_cases same : name = Defaulter.passName
  · subst same
    rfl
  · have other : (Defaulter.pass none).name ≠ name := fun eq => same eq.symm
    simp [pass?, available, same, other]

/-- No pass is on offer twice, so at most one can be registered. -/
theorem registerAll_ok_iff (configuration : Configuration) (names : List String)
    (session : Session Defaulter) :
    (registerAll (.start configuration) names).value = .ok session ↔
      names = [] ∧ session = .start configuration ∨
      names = [Defaulter.passName] ∧
        session = ⟨configuration, .registered, [Defaulter.pass none]⟩ := by
  match names with
  | [] =>
      simp only [registerAll, Logged.value_pure, Except.ok.injEq]
      simp [eq_comm]
  | [name] =>
      by_cases known : name = Defaulter.passName
      · subst known
        simp [registerAll, pass?_eq, Session.register, Session.start, Lifecycle.canRegister,
          Session.passNames, Defaulter.pass, eq_comm]
      · simp [registerAll, pass?_eq, known]
  | name :: other :: rest =>
      by_cases known : name = Defaulter.passName
      · by_cases again : other = Defaulter.passName
        · simp [registerAll, pass?_eq, known, again, Session.register, Session.start,
            Lifecycle.canRegister, Session.passNames, Defaulter.pass]
        · simp [registerAll, pass?_eq, known, again, Session.register, Session.start,
            Lifecycle.canRegister, Session.passNames, Defaulter.pass]
      · simp [registerAll, pass?_eq, known]

theorem init_defaulter (configuration : Configuration) :
    (Session.init ⟨configuration, .registered, [Defaulter.pass none]⟩).value =
      match Defaulter.usableSettingsOf configuration with
      | .ok settings => (.ok (), ready configuration (some settings))
      | .error cause =>
          (.error (.initialization ("defaulter: " ++ cause.message)),
            ⟨configuration, .failed, [Defaulter.pass none]⟩) := by
  have initialized : (Pass.init configuration (Defaulter.pass none)).value =
      match Defaulter.usableSettingsOf configuration with
      | .ok settings => (.ok (), Defaulter.pass (some settings))
      | .error cause => (.error cause, Defaulter.pass none) := by
    simp only [Pass.init, PassBehaviour.init, Defaulter.init, Defaulter.pass, Logged.value_bind,
      Logged.value_pure]
    cases Defaulter.usableSettingsOf configuration <;> rfl
  simp only [Session.init, Lifecycle.canBecome, Session.initPasses, Bool.not_true,
    Bool.false_eq_true, if_false, Logged.value_bind, initialized]
  cases Defaulter.usableSettingsOf configuration with
  | ok settings => rfl
  | error cause => rfl

/-- A configuration has a session exactly when it names no pass, or the defaulter pass alone with
    settings that can be used. -/
theorem session_ok_iff (configuration : Configuration) (session : Session Defaulter) :
    (Catalog.session configuration).value = .ok session ↔
      ∃ bound, Binds configuration bound ∧ session = ready configuration bound := by
  simp only [Catalog.session, Logged.value_bind]
  constructor
  · intro built
    cases registered : (registerAll (.start configuration) configuration.passes).value with
    | error cause =>
        rw [registered] at built
        cases built
    | ok start =>
        rw [registered] at built
        obtain ⟨nothing, rfl⟩ | ⟨one, rfl⟩ := (registerAll_ok_iff _ _ _).mp registered
        · obtain rfl := Except.ok.inj built
          exact ⟨none, nothing, rfl⟩
        · simp only [Logged.value_bind, Logged.value_pure, init_defaulter] at built
          cases usable : Defaulter.usableSettingsOf configuration with
          | error cause =>
              rw [usable] at built
              cases built
          | ok settings =>
              rw [usable] at built
              obtain rfl := Except.ok.inj built
              exact ⟨some settings, ⟨one, usable⟩, rfl⟩
  · rintro ⟨bound, binds, rfl⟩
    cases bound with
    | none =>
        rw [(registerAll_ok_iff _ _ _).mpr (.inl ⟨binds, rfl⟩)]
        rfl
    | some settings =>
        obtain ⟨one, usable⟩ := binds
        rw [(registerAll_ok_iff _ _ _).mpr (.inr ⟨one, rfl⟩)]
        simp only [Logged.value_bind, Logged.value_pure, init_defaulter, usable]
        rfl

/-! ## Running a session that is ready -/

/-- What the pass of a session that is ready writes for a file. -/
def writes (bound : Option Defaulter.Settings) (file : File) : String :=
  match bound with
  | none => ""
  | some settings => Defaulter.methodsText settings file

theorem value_generatePasses (bound : Option Defaulter.Settings) (file : File)
    {writer : CodeWriter} (top : writer.depth = 0) :
    (Session.generatePasses file
        (bound.toList.map fun settings => Defaulter.pass (some settings)) writer).value =
      (.ok (), bound.toList.map fun settings => Defaulter.pass (some settings),
        writer.append (writes bound file)) := by
  cases bound with
  | none => simp [Session.generatePasses, writes, CodeWriter.append]
  | some settings =>
      simp only [Option.toList_some, List.map_cons, List.map_nil, Session.generatePasses,
        Logged.value_bind, Defaulter.value_generate settings file top]
      rfl

theorem value_generateFile (configuration : Configuration) (bound : Option Defaulter.Settings)
    (file : File) :
    ((ready configuration bound).generateFile file).value =
      (.ok (headText file ++ writes bound file), ready configuration bound) := by
  have ran := value_generatePasses bound file
    (show (CodeWriter.empty.append (headText file)).depth = 0 from rfl)
  simp only [Session.generateFile, ready, Lifecycle.canGenerate, beq_self_eq_true, Bool.not_true,
    Bool.false_eq_true, if_false, Logged.value_bind, Session.header_eq, ran, Logged.value_pure,
    CodeWriter.append_text]
  simp [CodeWriter.empty]

theorem value_generateFiles (configuration : Configuration) (bound : Option Defaulter.Settings)
    (files : List File) :
    (generateFiles (ready configuration bound) files).value =
      .ok (files.map fun file => (file.name, headText file ++ writes bound file)) := by
  induction files with
  | nil => rfl
  | cons file rest ih =>
      simp only [generateFiles, Logged.value_bind, value_generateFile, Logged.value_pure, ih]
      rfl

/-- Calls that generate files leave the session as it is, whatever they are. -/
theorem value_performAll (configuration : Configuration) (bound : Option Defaulter.Settings)
    (files : List File) :
    ((ready configuration bound).performAll (files.map .generate)).value =
      (files.map fun file => .ok (.text (headText file ++ writes bound file)),
        ready configuration bound) := by
  induction files with
  | nil => rfl
  | cons file rest ih =>
      simp only [List.map_cons, Session.performAll, Session.perform, Logged.value_bind,
        Logged.value_pure, value_generateFile, ih]
      rfl

end Catalog

/-! ## The texts -/

/-- What a configuration and its session make of schemas, given what is written below the head of
    each file. -/
structure Generates (configuration : Configuration) (session : Session Defaulter)
    (methods : File → String) : Prop where
  /-- Without a pass nothing is written. -/
  silent : configuration.passes = [] → ∀ file, methods file = ""
  /-- Otherwise it is the methods of all messages, rendered with the settings of the section. -/
  rendered : configuration.passes ≠ [] → ∃ settings,
    Defaulter.settingsOf configuration = .ok settings ∧
    ∀ file, methods file = String.join
      (file.placedMessages.value.map fun placed => (Defaulter.render settings placed).value)
  /-- Every schema has texts, one for each of its files, in their order. -/
  texts : ∀ schema : Schema, (generateTexts schema configuration).value =
    .ok (schema.files.map fun file => (file.name, headText file ++ methods file))
  /-- The texts of two lists of files do not depend on each other. -/
  append : ∀ left right : List File, ∃ first second,
    (generateTexts ⟨left⟩ configuration).value = .ok first ∧
    (generateTexts ⟨right⟩ configuration).value = .ok second ∧
    (generateTexts ⟨left ++ right⟩ configuration).value = .ok (first ++ second)
  /-- The session gives a file the same text at every call, whatever the calls before it were,
      and is the same session afterwards. -/
  repeatable : ∀ files : List File, (session.performAll (files.map .generate)).value =
    (files.map fun file => .ok (.text (headText file ++ methods file)), session)

theorem settingsOf_of_usable {configuration : Configuration} {settings : Defaulter.Settings}
    (usable : Defaulter.usableSettingsOf configuration = .ok settings) :
    Defaulter.settingsOf configuration = .ok settings := by
  simp only [Defaulter.usableSettingsOf] at usable
  cases decoded : Defaulter.settingsOf configuration with
  | error cause =>
      rw [decoded] at usable
      cases usable
  | ok found =>
      rw [decoded] at usable
      cases valid : found.validate with
      | error cause =>
          simp only [bind, Except.bind, valid] at usable
          cases usable
      | ok =>
          simp only [bind, Except.bind, valid] at usable
          exact usable

theorem value_generateTexts {configuration : Configuration} {bound : Option Defaulter.Settings}
    (binds : Catalog.Binds configuration bound) (schema : Schema) :
    (generateTexts schema configuration).value =
      .ok (schema.files.map fun file =>
        (file.name, headText file ++ Catalog.writes bound file)) := by
  have built := (Catalog.session_ok_iff configuration _).mpr ⟨bound, binds, rfl⟩
  simp only [generateTexts, Logged.value_bind, built, Catalog.value_generateFiles]

/-- If a configuration has a session, every schema has its texts: for each file, in order, its
    head and the methods of its messages, and nothing of any other file. -/
theorem session_generates {configuration : Configuration} {session : Session Defaulter}
    (built : (Catalog.session configuration).value = .ok session) :
    ∃ methods, Generates configuration session methods := by
  obtain ⟨bound, binds, rfl⟩ := (Catalog.session_ok_iff _ _).mp built
  refine ⟨Catalog.writes bound, ?_, ?_, value_generateTexts binds, ?_,
    Catalog.value_performAll configuration bound⟩
  · intro nothing file
    cases bound with
    | none => rfl
    | some settings =>
        rw [binds.1] at nothing
        cases nothing
  · intro something
    cases bound with
    | none => exact absurd binds something
    | some settings => exact ⟨settings, settingsOf_of_usable binds.2, fun file => rfl⟩
  · intro left right
    refine ⟨_, _, value_generateTexts binds ⟨left⟩, value_generateTexts binds ⟨right⟩, ?_⟩
    rw [value_generateTexts binds, List.map_append]

/-- A section that sets a single setting binds the others as they are without a section. -/
def renamingConfiguration : Configuration :=
  Configuration.standard.setSection "defaulter" (.object [("method_name", .string "SetDefaults")])

theorem session_generates_renaming :
    (Catalog.session renamingConfiguration).value =
        .ok (Catalog.ready renamingConfiguration
          (some { Defaulter.Settings.standard with methodName := "SetDefaults" })) ∧
      ∃ methods, Generates renamingConfiguration
        (Catalog.ready renamingConfiguration
          (some { Defaulter.Settings.standard with methodName := "SetDefaults" })) methods := by
  have built : (Catalog.session renamingConfiguration).value =
      .ok (Catalog.ready renamingConfiguration
        (some { Defaulter.Settings.standard with methodName := "SetDefaults" })) :=
    (Catalog.session_ok_iff _ _).mpr ⟨some _, ⟨rfl, by rfl⟩, rfl⟩
  exact ⟨built, session_generates built⟩

end SchemaDefaults
