import SchemaDefaults.Proofs.Decoding
import SchemaDefaults.Proofs.DepthFirst
import SchemaDefaults.Proofs.Texts

/-! # What generating and checking agree on

Whether texts can be generated is up to the configuration alone: no schema makes a pass fail.
A check refuses what cannot be generated, with the same failure, and configurations that are
not valid; what it accepts it sums up as it would be generated.
-/

namespace SchemaDefaults

open Schema

namespace Defaulter

/-- The settings in the section of the pass. Without a section, or with null in its place, they
    are the standard ones. -/
def SetBy (configuration : Configuration) (settings : Settings) : Prop :=
  (configuration.section? "defaulter" = none ∨ configuration.section? "defaulter" = some .null) ∧
      settings = .standard ∨
    ∃ content, configuration.section? "defaulter" = some content ∧
      Settings.decode content = .ok settings

/-- The methods of the messages of a file, one for each. -/
def methodsOf (settings : Settings) (file : File) : List String :=
  file.placedMessages.value.map fun placed => (render settings placed).value

theorem settingsOf_ok_iff (configuration : Configuration) (settings : Settings) :
    settingsOf configuration = .ok settings ↔ SetBy configuration settings := by
  have null : Settings.decode .null ≠ .ok settings := by
    intro decoded
    cases decoded
  simp only [settingsOf, Configuration.sectionAs, SetBy, passName]
  cases configuration.section? "defaulter" with
  | none => simp [eq_comm]
  | some content =>
      cases content with
      | null => simp [null, @eq_comm _ settings]
      | bool | number | string | array | object => simp [mapError_ok_iff]

theorem usableSettingsOf_ok_iff (configuration : Configuration) (settings : Settings) :
    usableSettingsOf configuration = .ok settings ↔
      SetBy configuration settings ∧ settings.validate = .ok () := by
  simp only [usableSettingsOf, bind_ok_iff, settingsOf_ok_iff]
  constructor
  · rintro ⟨found, given, ⟨⟩, valid, same⟩
    obtain rfl := Except.ok.inj same
    exact ⟨given, valid⟩
  · rintro ⟨given, valid⟩
    exact ⟨settings, given, (), valid, rfl⟩

end Defaulter

/-- The configuration can be run: it names no pass, or the defaulter alone, with settings of which
    none is blank. -/
def Configuration.Runnable (configuration : Configuration) : Prop :=
  configuration.passes = [] ∨ configuration.passes = ["defaulter"] ∧
    ∃ settings, Defaulter.SetBy configuration settings ∧ settings.validate = .ok ()

/-- What generating and checking with a configuration have to do with each other. -/
structure Agreement (configuration : Configuration) : Prop where
  session_iff : (∃ session, (Catalog.session configuration).value = .ok session) ↔
    configuration.Runnable
  texts_iff : ∀ schema, (∃ texts, (generateTexts schema configuration).value = .ok texts) ↔
    ∃ session, (Catalog.session configuration).value = .ok session
  check_iff : ∀ schema, (∃ report, (checkSchema schema configuration).value = .ok report) ↔
    configuration.validate.value = .ok () ∧
      ∃ texts, (generateTexts schema configuration).value = .ok texts
  sameFailure : configuration.validate.value = .ok () → ∀ schema failure,
    (checkSchema schema configuration).value = .error failure ↔
      (generateTexts schema configuration).value = .error failure
  /-- The summary of a check is that of the texts. -/
  summed : ∀ schema report, (checkSchema schema configuration).value = .ok report →
    ∃ settings texts, Defaulter.SetBy configuration settings ∧
      (generateTexts schema configuration).value = .ok texts ∧
      texts = schema.files.map (fun file =>
        (file.name, headText file ++ String.join (Defaulter.methodsOf settings file))) ∧
      report.files = texts.length ∧
      report.messages =
        total (schema.files.map fun file => (Defaulter.methodsOf settings file).length) ∧
      report.passes = configuration.passes

/-! ## Sessions and texts -/

theorem exists_session_iff (configuration : Configuration) :
    (∃ session, (Catalog.session configuration).value = .ok session) ↔
      ∃ bound, Catalog.Binds configuration bound := by
  simp only [Catalog.session_ok_iff]
  exact ⟨fun ⟨_, bound, binds, _⟩ => ⟨bound, binds⟩, fun ⟨bound, binds⟩ => ⟨_, bound, binds, rfl⟩⟩

theorem exists_binds_iff (configuration : Configuration) :
    (∃ bound, Catalog.Binds configuration bound) ↔ configuration.Runnable := by
  constructor
  · rintro ⟨none | settings, binds⟩
    · exact .inl binds
    · exact .inr ⟨binds.1, settings, (Defaulter.usableSettingsOf_ok_iff _ _).mp binds.2⟩
  · rintro (nothing | ⟨one, settings, usable⟩)
    · exact ⟨none, nothing⟩
    · exact ⟨some settings, one, (Defaulter.usableSettingsOf_ok_iff _ _).mpr usable⟩

/-- With a configuration there is either a session that makes texts of every schema, or the failure
    that generating them ends with, whatever the schema. -/
theorem session_or_failure (configuration : Configuration) :
    (∃ bound, Catalog.Binds configuration bound ∧
        (Catalog.session configuration).value = .ok (Catalog.ready configuration bound)) ∨
      ∃ failure, (Catalog.session configuration).value = .error failure ∧
        ∀ schema, (generateTexts schema configuration).value = .error failure := by
  cases built : (Catalog.session configuration).value with
  | ok session =>
      obtain ⟨bound, binds, rfl⟩ := (Catalog.session_ok_iff _ _).mp built
      exact .inl ⟨bound, binds, rfl⟩
  | error failure =>
      refine .inr ⟨failure, rfl, fun schema => ?_⟩
      simp only [generateTexts, Logged.value_bind, built, Logged.value_pure]

/-! ## Checks -/

theorem passes_ne_nil_of_valid {configuration : Configuration}
    (valid : configuration.validate.value = .ok ()) : configuration.passes ≠ [] := by
  intro nothing
  have breach : configuration.settingsBreach? ≠ none := by
    rw [Configuration.settingsBreach?]
    split
    · simp
    · split <;> simp [nothing]
  rw [Configuration.validate] at valid
  split at valid
  · cases valid
  · contradiction

theorem value_messageCount (schema : Schema) :
    schema.messageCount.value =
      total (schema.files.map fun file => file.placedMessages.value.length) := by
  simp only [messageCount, Logged.value_bind, Logged.value_pure, value_placedIn, List.map_map]
  rfl

theorem value_checkSchema_of_invalid {configuration : Configuration} {failure : Failure}
    (invalid : configuration.validate.value = .error failure) (schema : Schema) :
    (checkSchema schema configuration).value = .error failure := by
  simp only [checkSchema, Logged.value_bind, invalid, Logged.value_pure]

theorem value_checkSchema {configuration : Configuration} {settings : Defaulter.Settings}
    (valid : configuration.validate.value = .ok ())
    (binds : Catalog.Binds configuration (some settings)) (schema : Schema) :
    (checkSchema schema configuration).value = .ok
      ⟨schema.files.length, schema.messageCount.value,
        (declaredDefaults settings.optionKey schema.files).value, configuration.passes⟩ := by
  have built := (Catalog.session_ok_iff configuration _).mpr ⟨some settings, binds, rfl⟩
  have names : (Catalog.ready configuration (some settings)).passNames = configuration.passes := by
    rw [binds.1]
    rfl
  simp only [checkSchema, Logged.value_bind, valid, built, settingsOf_of_usable binds.2,
    Logged.value_pure, names]

theorem value_checkSchema_of_unbuilt {configuration : Configuration} {failure : Failure}
    (valid : configuration.validate.value = .ok ())
    (unbuilt : (Catalog.session configuration).value = .error failure) (schema : Schema) :
    (checkSchema schema configuration).value = .error failure := by
  simp only [checkSchema, Logged.value_bind, valid, unbuilt, Logged.value_pure]

/-- A valid configuration names a pass, so its session has bound the settings that a check looks
    at again. -/
theorem valid_cases {configuration : Configuration}
    (valid : configuration.validate.value = .ok ()) (schema : Schema) :
    (∃ settings, Catalog.Binds configuration (some settings) ∧
        (checkSchema schema configuration).value = .ok
          ⟨schema.files.length, schema.messageCount.value,
            (declaredDefaults settings.optionKey schema.files).value, configuration.passes⟩) ∨
      ∃ failure, (checkSchema schema configuration).value = .error failure ∧
        (generateTexts schema configuration).value = .error failure := by
  obtain ⟨none | settings, binds, _⟩ | ⟨failure, unbuilt, untold⟩ :=
    session_or_failure configuration
  · exact absurd binds (passes_ne_nil_of_valid valid)
  · exact .inl ⟨settings, binds, value_checkSchema valid binds schema⟩
  · exact .inr ⟨failure, value_checkSchema_of_unbuilt valid unbuilt schema, untold schema⟩

theorem checkSchema_ok {schema : Schema} {configuration : Configuration} {report : Report}
    (accepted : (checkSchema schema configuration).value = .ok report) :
    configuration.validate.value = .ok () ∧
      ∃ settings, Catalog.Binds configuration (some settings) ∧
        report = ⟨schema.files.length, schema.messageCount.value,
          (declaredDefaults settings.optionKey schema.files).value, configuration.passes⟩ := by
  cases valid : configuration.validate.value with
  | error failure =>
      rw [value_checkSchema_of_invalid valid] at accepted
      cases accepted
  | ok =>
      obtain ⟨settings, binds, checked⟩ | ⟨failure, refused, _⟩ := valid_cases valid schema
      · rw [checked] at accepted
        exact ⟨rfl, settings, binds, (Except.ok.inj accepted).symm⟩
      · rw [refused] at accepted
        cases accepted

theorem exists_texts_iff (configuration : Configuration) (schema : Schema) :
    (∃ texts, (generateTexts schema configuration).value = .ok texts) ↔
      ∃ session, (Catalog.session configuration).value = .ok session := by
  obtain ⟨bound, binds, built⟩ | ⟨failure, unbuilt, untold⟩ := session_or_failure configuration
  · exact ⟨fun _ => ⟨_, built⟩, fun _ => ⟨_, value_generateTexts binds schema⟩⟩
  · simp [unbuilt, untold schema]

theorem exists_report_iff (configuration : Configuration) (schema : Schema) :
    (∃ report, (checkSchema schema configuration).value = .ok report) ↔
      configuration.validate.value = .ok () ∧
        ∃ texts, (generateTexts schema configuration).value = .ok texts := by
  constructor
  · rintro ⟨report, accepted⟩
    obtain ⟨valid, settings, binds, _⟩ := checkSchema_ok accepted
    exact ⟨valid, _, value_generateTexts binds schema⟩
  · rintro ⟨valid, texts, generated⟩
    obtain ⟨settings, _, checked⟩ | ⟨failure, _, untold⟩ := valid_cases valid schema
    · exact ⟨_, checked⟩
    · rw [untold] at generated
      cases generated

/-- Generating succeeds for every schema or for none, and a check succeeds exactly when the
    configuration is valid and generating succeeds. -/
theorem check_agrees (configuration : Configuration) : Agreement configuration where
  session_iff := (exists_session_iff configuration).trans (exists_binds_iff configuration)
  texts_iff := exists_texts_iff configuration
  check_iff := exists_report_iff configuration
  sameFailure := by
    intro valid schema failure
    obtain ⟨settings, binds, checked⟩ | ⟨cause, refused, untold⟩ := valid_cases valid schema
    · simp [checked, value_generateTexts binds schema]
    · simp only [refused, untold, Except.error.injEq]
  summed := by
    intro schema report accepted
    obtain ⟨_, settings, binds, rfl⟩ := checkSchema_ok accepted
    have given := ((Defaulter.usableSettingsOf_ok_iff _ _).mp binds.2).1
    refine ⟨settings, _, given, value_generateTexts binds schema, rfl, ?_, ?_, rfl⟩
    · simp
    · simp only [value_messageCount, Defaulter.methodsOf, List.length_map]

end SchemaDefaults
