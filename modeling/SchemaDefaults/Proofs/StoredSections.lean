import SchemaDefaults.Proofs.Runs
import SchemaDefaults.Proofs.SectionSettings

/-! # Sections are read as they were stored

What is stored as a section, settings of the pass or any value, is read from it again, and
neither another section nor a setting of the generator changes. Of several contents stored
under one name the last is left, and under different names the order makes no difference. Reading
leaves everything as it is, so a section reads as the latest content stored in it.
-/

namespace SchemaDefaults.Configuration

open Transition

/-! ## Reading and storing -/

theorem sectionAs_congr {α : Type} {left right : Configuration} {name : String}
    (same : left.section? name = right.section? name) (decoder : Decoder α) (fallback : α) :
    left.sectionAs decoder fallback name = right.sectionAs decoder fallback name := by
  unfold sectionAs
  rw [same]

/-- What storing a content as a section does to a configuration. -/
structure Stores (configuration : Configuration) (name : String) (content : Json) : Prop where
  readBack :
    (configuration.setSection name content).sectionAs Decode.any .null name = .ok content
  elsewhere : ∀ other, other ≠ name → ∀ {α : Type} (decoder : Decoder α) (fallback : α),
    (configuration.setSection name content).sectionAs decoder fallback other =
      configuration.sectionAs decoder fallback other
  logLevel : (configuration.setSection name content).logLevel = configuration.logLevel
  outputSuffix : (configuration.setSection name content).outputSuffix = configuration.outputSuffix
  passes : (configuration.setSection name content).passes = configuration.passes
  again : ∀ next, (configuration.setSection name content).setSection name next =
    configuration.setSection name next
  apart : ∀ other, other ≠ name → ∀ another,
    (configuration.setSection name content).setSection other another =
      (configuration.setSection other another).setSection name content

theorem sectionAs_any_setSection (configuration : Configuration) (name : String) (content : Json) :
    (configuration.setSection name content).sectionAs Decode.any .null name = .ok content := by
  unfold sectionAs
  rw [section?_setSection, if_pos rfl]
  cases content <;> rfl

theorem stores (configuration : Configuration) (name : String) (content : Json) :
    Stores configuration name content where
  readBack := sectionAs_any_setSection configuration name content
  elsewhere := by
    intro other different α decoder fallback
    apply sectionAs_congr
    rw [section?_setSection, if_neg different.symm]
  logLevel := rfl
  outputSuffix := rfl
  passes := rfl
  again := by
    intro next
    unfold setSection
    rw [Keyed.insert_insert]
  apart := by
    intro other different another
    unfold setSection
    rw [Keyed.insert_comm different.symm]

/-- Settings are read back whatever they are, since reading does not look whether they are blank. -/
theorem sectionAs_settings (configuration : Configuration) (name : String)
    (settings : Defaulter.Settings) :
    (configuration.setSection name settings.encode).sectionAs Defaulter.Settings.decode .standard
      name = .ok settings := by
  have decoded := settings.decode_encode
  unfold sectionAs
  rw [section?_setSection, if_pos rfl]
  simp only [Defaulter.Settings.encode, Json.ofMembers] at decoded ⊢
  rw [decoded]
  rfl

/-! ## Sequences of reading and storing -/

inductive Access where
  | store (name : String) (content : Json)
  | storeSettings (name : String) (settings : Defaulter.Settings)
  | read (name : String)
  | readSettings (name : String)

inductive Reply where
  | stored
  | content (found : Except Failure Json)
  | settings (found : Except Failure Defaulter.Settings)

def access (configuration : Configuration) : Access → Reply × Configuration
  | .store name content => (.stored, configuration.setSection name content)
  | .storeSettings name settings => (.stored, configuration.setSection name settings.encode)
  | .read name => (.content (configuration.sectionAs Decode.any .null name), configuration)
  | .readSettings name =>
      (.settings (configuration.sectionAs Defaulter.Settings.decode .standard name), configuration)

/-- What an access stores as the section of a name. -/
def Access.stores? (name : String) : Access → Option Json
  | .store other content => if other = name then some content else none
  | .storeSettings other settings => if other = name then some settings.encode else none
  | .read _ | .readSettings _ => none

/-- A configuration into which the latest content that was stored under a name is put, and nothing
    else of what was done. -/
def withLatest (start : Configuration) (name : String)
    (past : List (Transition Configuration Access Reply)) : Configuration :=
  match latest (fun step => step.move.stores? name) none past with
  | none => start
  | some content => start.setSection name content

/-- A configuration as it is left by some accesses. -/
structure Left (start : Configuration) (past : List (Transition Configuration Access Reply))
    (configuration : Configuration) : Prop where
  ends : configuration = endOf start past
  sections : ∀ name, configuration.section? name = (start.withLatest name past).section? name
  settings : configuration.settings = start.settings

/-- How an access follows on those before it. -/
structure Follows (start : Configuration) (past : List (Transition Configuration Access Reply))
    (step : Transition Configuration Access Reply) : Prop where
  begins : step.before = endOf start past
  read : ∀ name, step.move = .read name →
    step.answer = .content ((start.withLatest name past).sectionAs Decode.any .null name)
  readSettings : ∀ name, step.move = .readSettings name →
    step.answer = .settings
      ((start.withLatest name past).sectionAs Defaulter.Settings.decode .standard name)
  unchanged : ∀ name, step.move = .read name ∨ step.move = .readSettings name →
    step.after = step.before
  settings : step.after.settings = start.settings

theorem section?_access (configuration : Configuration) (move : Access) (name : String) :
    (configuration.access move).2.section? name =
      (move.stores? name).or (configuration.section? name) := by
  cases move with
  | read | readSettings => rfl
  | store other content | storeSettings other content =>
      simp only [access, Access.stores?, section?_setSection]
      split
      · rfl
      · rfl

theorem settings_access (configuration : Configuration) (move : Access) :
    (configuration.access move).2.settings = configuration.settings := by
  cases move <;> rfl

theorem section?_withLatest (start : Configuration) (name : String)
    (past : List (Transition Configuration Access Reply)) :
    (start.withLatest name past).section? name =
      latest (fun step => step.move.stores? name) (start.section? name) past := by
  unfold withLatest latest
  rw [Option.or_none]
  split
  case h_1 none => rw [none, Option.none_or]
  case h_2 found => rw [found, section?_setSection, if_pos rfl, Option.some_or]

variable {start : Configuration} {past : List (Transition Configuration Access Reply)}
  {step : Transition Configuration Access Reply}

theorem Left.next (left : start.Left past step.before)
    (performed : step.before.access step.move = (step.answer, step.after)) :
    start.Left (past ++ [step]) step.after where
  ends := (endOf_concat _ _ _).symm
  sections := by
    intro name
    have given := section?_access step.before step.move name
    rw [performed] at given
    rw [given, left.sections, section?_withLatest, section?_withLatest, latest_concat]
  settings := by
    have kept := settings_access step.before step.move
    rw [performed] at kept
    exact kept.trans left.settings

theorem Left.follows (left : start.Left past step.before)
    (performed : step.before.access step.move = (step.answer, step.after)) :
    start.Follows past step where
  begins := left.ends
  read := by
    intro name reads
    rw [reads] at performed
    obtain ⟨answered, _⟩ := Prod.mk.inj performed
    rw [← answered, sectionAs_congr (left.sections name)]
  readSettings := by
    intro name reads
    rw [reads] at performed
    obtain ⟨answered, _⟩ := Prod.mk.inj performed
    rw [← answered, sectionAs_congr (left.sections name)]
  unchanged := by
    intro name reads
    cases reads with
    | inl reads | inr reads =>
        rw [reads] at performed
        exact (Prod.mk.inj performed).2.symm
  settings := (left.next performed).settings

/-- Settings and values are read as they were stored, and storing changes nothing but the section
    stored. Whatever is stored and read in any order, reading changes nothing, and a section reads
    as the latest content stored in it, or as in the beginning. -/
theorem sections_read_as_stored (configuration : Configuration) :
    (∀ name content, Stores configuration name content) ∧
      (∀ name (settings : Defaulter.Settings),
        (configuration.setSection name settings.encode).sectionAs
          Defaulter.Settings.decode .standard name = .ok settings) ∧
      ∀ accesses, (run access configuration accesses).map move = accesses ∧
        Each configuration.Follows (run access configuration accesses) := by
  refine ⟨stores configuration, sectionAs_settings configuration, fun accesses => ⟨?_, ?_⟩⟩
  · exact map_move_run _ _ _
  · refine each_run (P := fun left past => configuration.Left past left) ?_ ?_ accesses
    · exact ⟨rfl, fun _ => rfl, rfl⟩
    · exact fun past step performed left => ⟨left.follows performed, left.next performed⟩

/-- A blank setting is read back, and a section that is no settings at all is refused as before. -/
theorem sections_read_as_stored_blank :
    let settings := { Defaulter.Settings.standard with methodName := " " }
    let configuration := Configuration.standard.setSection "switch" (.bool true)
    let stored := configuration.setSection "defaulter" settings.encode
    "switch" ≠ "defaulter" ∧
      stored.sectionAs Defaulter.Settings.decode .standard "defaulter" = .ok settings ∧
      stored.sectionAs Defaulter.Settings.decode .standard "switch" =
        .error (.configuration
          "[switch]: invalid type: boolean `true`, expected struct DefaulterConfig") := by
  intro settings configuration stored
  have different : "switch" ≠ "defaulter" := by decide
  obtain ⟨stores, settingsRead, _⟩ := sections_read_as_stored configuration
  have same := (stores "defaulter" settings.encode).elsewhere "switch" different
    Defaulter.Settings.decode .standard
  exact ⟨different, settingsRead "defaulter" settings, same.trans rfl⟩

end SchemaDefaults.Configuration
