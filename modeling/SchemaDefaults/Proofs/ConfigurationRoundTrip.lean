import SchemaDefaults.Configuration.Codec
import SchemaDefaults.Proofs.Decoding
import SchemaDefaults.Proofs.KeyOrder

/-! # No key of a configuration is lost

Settings and sections share the keys of one object. Taking a member into a configuration
puts it among the members that are written of the configuration, whichever side it goes to,
so what is written in the end is what was given, and the default settings where nothing was
given. A configuration is what is written of it, unless a section has the name of a setting.
-/

namespace SchemaDefaults.Configuration

open Decode

/-- The names of the settings. -/
def settingNames : List String :=
  ["log_level", "output_suffix", "passes"]

/-- The sections stand in the order of their names, and none has the name of a setting. -/
structure Separate (configuration : Configuration) : Prop where
  sorted : Keyed.Sorted configuration.sections
  unnamed : ∀ name ∈ settingNames, configuration.section? name = none

/-- The members that are written of a configuration. -/
def written (configuration : Configuration) : List (String × Json) :=
  Keyed.ofList (configuration.settings ++ configuration.sections)

/-! ## Look-ups in what is written -/

theorem find?_settings_eq_none {name : String} (other : name ∉ settingNames)
    (configuration : Configuration) : Keyed.find? name configuration.settings = none := by
  rw [Keyed.find?_eq_none_iff]
  exact other

theorem find?_settings (configuration : Configuration) (name : String) :
    Keyed.find? name configuration.settings =
      if "log_level" = name then some (.string configuration.logLevel)
      else if "output_suffix" = name then some (.string configuration.outputSuffix)
      else if "passes" = name then some (.array (configuration.passes.map .string))
      else none := rfl

theorem settings_sorted (configuration : Configuration) : Keyed.Sorted configuration.settings :=
  show settingNames.Pairwise (· < ·) by decide

theorem find?_written {configuration : Configuration} (separate : configuration.Separate)
    (name : String) :
    Keyed.find? name configuration.written =
      (configuration.section? name).or (Keyed.find? name configuration.settings) := by
  exact Keyed.find?_ofList_append configuration.settings_sorted.distinct separate.sorted.distinct _

theorem find?_written_setting {configuration : Configuration} (separate : configuration.Separate)
    {name : String} (known : name ∈ settingNames) :
    Keyed.find? name configuration.written = Keyed.find? name configuration.settings := by
  rw [find?_written separate, separate.unnamed name known, Option.none_or]

theorem find?_written_section {configuration : Configuration} (separate : configuration.Separate)
    {name : String} (other : name ∉ settingNames) :
    Keyed.find? name configuration.written = configuration.section? name := by
  rw [find?_written separate, find?_settings_eq_none other, Option.or_none]

/-- Nothing of a configuration is hidden in what is written of it. -/
theorem Separate.eq_of_written {left right : Configuration} (separateLeft : left.Separate)
    (separateRight : right.Separate) (same : left.written = right.written) : left = right := by
  have settings : left.settings = right.settings := by
    apply left.settings_sorted.ext right.settings_sorted
    intro name
    by_cases known : name ∈ settingNames
    · rw [← find?_written_setting separateLeft known, same,
        find?_written_setting separateRight known]
    · rw [find?_settings_eq_none known, find?_settings_eq_none known]
  have sections : left.sections = right.sections := by
    apply separateLeft.sorted.ext separateRight.sorted
    intro name
    by_cases known : name ∈ settingNames
    · exact (separateLeft.unnamed name known).trans (separateRight.unnamed name known).symm
    · have written := congrArg (Keyed.find? name) same
      rwa [find?_written_section separateLeft known, find?_written_section separateRight known]
        at written
  simp only [Configuration.settings, List.cons.injEq, Prod.mk.injEq, Json.string.injEq,
    Json.array.injEq, true_and, and_true] at settings
  obtain ⟨level, suffix, passes⟩ := settings
  cases left
  cases right
  obtain rfl := List.map_injective_iff.mpr (fun _ _ => Json.string.inj) passes
  cases level
  cases suffix
  cases sections
  rfl

/-! ## Taking members -/

/-- What it takes to take a member, and what becomes of it. -/
theorem withMember_ok_iff {before after : Configuration} {key : String} {value : Json} :
    withMember jsonFormat before key value = .ok after ↔
      (key = "log_level" ∧
        ∃ text, value = .string text ∧ after = { before with logLevel := text }) ∨
      (key = "output_suffix" ∧
        ∃ text, value = .string text ∧ after = { before with outputSuffix := text }) ∨
      (key = "passes" ∧
        ∃ texts, value = .array (texts.map .string) ∧ after = { before with passes := texts }) ∨
      key ∉ settingNames ∧ after = before.setSection key value := by
  unfold withMember
  split
  case h_1 | h_2 =>
    simp [jsonFormat, bind_ok_iff, string_ok_iff, settingNames, pure, Except.pure,
      @eq_comm _ after]
  case h_3 =>
    simp [jsonFormat, bind_ok_iff, texts_ok_iff, settingNames, pure, Except.pure,
      @eq_comm _ after]
  case h_4 notLevel notSuffix notPasses =>
    change key ≠ _ at notLevel notSuffix notPasses
    simp [jsonFormat, bind_ok_iff, any, settingNames, notLevel, notSuffix, notPasses, pure,
      Except.pure, @eq_comm _ after]

theorem section?_setSection (configuration : Configuration) (name other : String)
    (content : Json) :
    (configuration.setSection name content).section? other =
      if name = other then some content else configuration.section? other :=
  Keyed.find?_insert name other content configuration.sections

theorem Separate.setSection {configuration : Configuration} (separate : configuration.Separate)
    {name : String} (other : name ∉ settingNames) (content : Json) :
    (configuration.setSection name content).Separate where
  sorted := Keyed.sorted_insert name content separate.sorted
  unnamed := by
    intro setting known
    have different : name ≠ setting := fun same => other (same ▸ known)
    rw [section?_setSection, if_neg different, separate.unnamed setting known]

/-- A setting that changes is put among the members that are written. -/
theorem find?_written_of_setting {before after : Configuration} {key : String} {value : Json}
    (separate : before.Separate) (sections : after.sections = before.sections)
    (known : key ∈ settingNames)
    (changed : ∀ name, Keyed.find? name after.settings =
      if key = name then some value else Keyed.find? name before.settings) :
    after.Separate ∧ ∀ name, Keyed.find? name after.written =
      if key = name then some value else Keyed.find? name before.written := by
  have kept : after.Separate := by
    refine ⟨sections ▸ separate.sorted, fun name known => ?_⟩
    rw [section?, sections]
    exact separate.unnamed name known
  refine ⟨kept, fun name => ?_⟩
  have same : after.section? name = before.section? name := by rw [section?, section?, sections]
  rw [find?_written kept, find?_written separate, changed, same]
  split
  case isTrue eq =>
    rw [separate.unnamed name (eq ▸ known), Option.none_or]
  case isFalse => rfl

theorem find?_written_setSection {before : Configuration} {key : String}
    (separate : before.Separate) (other : key ∉ settingNames) (content : Json) (name : String) :
    Keyed.find? name (before.setSection key content).written =
      if key = name then some content else Keyed.find? name before.written := by
  rw [find?_written (separate.setSection other content), section?_setSection,
    find?_written separate]
  split
  · rfl
  · rfl

/-- A member that is taken is put among the members that are written. -/
theorem withMember_written {before after : Configuration} {key : String} {value : Json}
    (separate : before.Separate) (taken : withMember jsonFormat before key value = .ok after) :
    after.Separate ∧ after.written = Keyed.insert key value before.written := by
  have found : after.Separate ∧ ∀ name, Keyed.find? name after.written =
      if key = name then some value else Keyed.find? name before.written := by
    obtain ⟨rfl, _, rfl, rfl⟩ | ⟨rfl, _, rfl, rfl⟩ | ⟨rfl, _, rfl, rfl⟩ | ⟨other, rfl⟩ :=
      withMember_ok_iff.mp taken
    · refine find?_written_of_setting separate rfl (by decide) fun name => ?_
      simp only [find?_settings]
      grind
    · refine find?_written_of_setting separate rfl (by decide) fun name => ?_
      simp only [find?_settings]
      grind
    · refine find?_written_of_setting separate rfl (by decide) fun name => ?_
      simp only [find?_settings]
      grind
    · exact ⟨separate.setSection other value, find?_written_setSection separate other value⟩
  refine ⟨found.1, (Keyed.sorted_ofList _).ext (Keyed.sorted_insert _ _ (Keyed.sorted_ofList _)) ?_⟩
  intro name
  exact (found.2 name).trans (Keyed.find?_insert key name value before.written).symm

theorem withMembers_written {before after : Configuration} {given : List (String × Json)}
    (separate : before.Separate) (taken : withMembers jsonFormat before given = .ok after) :
    after.Separate ∧
      after.written =
        given.foldl (fun kept (key, value) => Keyed.insert key value kept) before.written := by
  induction given generalizing before with
  | nil =>
      obtain rfl := Except.ok.inj taken
      exact ⟨separate, rfl⟩
  | cons member rest ih =>
      obtain ⟨middle, first, others⟩ := bind_ok_iff.mp taken
      obtain ⟨kept, put⟩ := withMember_written separate first
      obtain ⟨keptToo, written⟩ := ih kept others
      exact ⟨keptToo, by rw [written, put, List.foldl_cons]⟩

theorem standard_separate : standard.Separate :=
  ⟨.nil, fun _ _ => rfl⟩

theorem ofMembers_written {configuration : Configuration} {given : List (String × Json)}
    (decoded : ofMembers jsonFormat given = .ok configuration) :
    configuration.Separate ∧
      configuration.written = Keyed.ofList (standard.settings ++ given) := by
  have taken := withMembers_written standard_separate decoded
  have start : standard.written = Keyed.ofList standard.settings := rfl
  rwa [start, ← Keyed.ofList_append] at taken

/-! ## Reading what was written -/

/-- A setting can be taken back as it was written of any configuration. -/
theorem withMember_of_setting {configuration : Configuration} {key : String} {value : Json}
    (setting : Keyed.find? key configuration.settings = some value) (before : Configuration) :
    ∃ after, withMember jsonFormat before key value = .ok after := by
  have known := Keyed.mem_of_find? setting
  simp only [settings, List.mem_cons, Prod.mk.injEq, List.not_mem_nil, or_false] at known
  obtain ⟨rfl, rfl⟩ | ⟨rfl, rfl⟩ | ⟨rfl, rfl⟩ := known
  · exact ⟨_, withMember_ok_iff.mpr (.inl ⟨rfl, _, rfl, rfl⟩)⟩
  · exact ⟨_, withMember_ok_iff.mpr (.inr (.inl ⟨rfl, _, rfl, rfl⟩))⟩
  · exact ⟨_, withMember_ok_iff.mpr (.inr (.inr (.inl ⟨rfl, _, rfl, rfl⟩)))⟩

theorem withMember_of_section {key : String} (other : key ∉ settingNames) (value : Json)
    (before : Configuration) : ∃ after, withMember jsonFormat before key value = .ok after :=
  ⟨_, withMember_ok_iff.mpr (.inr (.inr (.inr ⟨other, rfl⟩)))⟩

theorem exists_withMembers {given : List (String × Json)}
    (fits : ∀ key value, (key, value) ∈ given →
      ∀ before, ∃ after, withMember jsonFormat before key value = .ok after)
    (before : Configuration) : ∃ after, withMembers jsonFormat before given = .ok after := by
  induction given generalizing before with
  | nil => exact ⟨before, rfl⟩
  | cons member rest ih =>
      obtain ⟨key, value⟩ := member
      obtain ⟨middle, taken⟩ := fits key value List.mem_cons_self before
      obtain ⟨after, others⟩ :=
        ih (fun key value member => fits key value (List.mem_cons_of_mem _ member)) middle
      exact ⟨after, bind_ok_iff.mpr ⟨middle, taken, others⟩⟩

/-- All settings are written, so none of the standard ones is left. -/
theorem ofList_standard_written {configuration : Configuration}
    (separate : configuration.Separate) :
    Keyed.ofList (standard.settings ++ configuration.written) = configuration.written := by
  have sorted : Keyed.Sorted configuration.written := Keyed.sorted_ofList _
  apply (Keyed.sorted_ofList _).ext sorted
  intro name
  rw [Keyed.find?_ofList, List.reverse_append, Keyed.find?_append,
    Keyed.find?_reverse sorted.distinct]
  cases found : Keyed.find? name configuration.written with
  | some value => rfl
  | none =>
      rw [find?_written separate, Option.or_eq_none_iff, Keyed.find?_eq_none_iff] at found
      rw [Option.none_or, Keyed.find?_eq_none_iff, List.map_reverse, List.mem_reverse]
      exact found.2

theorem decode_encode {configuration : Configuration} (separate : configuration.Separate) :
    decode configuration.encode = .ok configuration := by
  have fits : ∀ key value, (key, value) ∈ configuration.written →
      ∀ before, ∃ after, withMember jsonFormat before key value = .ok after := by
    intro key value member
    by_cases known : key ∈ settingNames
    · have found := (Keyed.mem_iff_find? (Keyed.sorted_ofList _).distinct).mp member
      exact withMember_of_setting ((find?_written_setting separate known).symm.trans found)
    · exact withMember_of_section known value
  -- Some configuration is decoded, and the same is written of it as of this one.
  obtain ⟨again, decoded⟩ := exists_withMembers fits standard
  obtain ⟨separateAgain, written⟩ := ofMembers_written decoded
  rw [ofList_standard_written separate] at written
  have same : again = configuration := separateAgain.eq_of_written separate written
  exact same ▸ decoded

/-- The sections are the members that are not settings. -/
theorem mem_sections_iff {members : List (String × Json)} {configuration : Configuration}
    (distinct : (members.map Prod.fst).Nodup)
    (decoded : decode (.object members) = .ok configuration) {name : String} {content : Json} :
    (name, content) ∈ configuration.sections ↔ (name, content) ∈ members ∧ name ∉ settingNames := by
  obtain ⟨separate, written⟩ := ofMembers_written decoded
  rw [Keyed.mem_iff_find? separate.sorted.distinct, Keyed.mem_iff_find? distinct]
  by_cases known : name ∈ settingNames
  · have unnamed : Keyed.find? name configuration.sections = none := separate.unnamed name known
    simp [unnamed, known]
  · have same := find?_written_section separate known
    rw [written, Keyed.find?_ofList_append standard.settings_sorted.distinct distinct,
      find?_settings_eq_none known, Option.or_none] at same
    rw [same, section?]
    exact (and_iff_left known).symm

/-- The sections of a decoded configuration are the members that are not settings, what is
    written of it are the standard settings with all members put over them, and reading that
    gives the configuration again. Exactly the configurations whose sections are named apart
    from the settings are read as they were written, and they stay of that kind whatever is put
    into them as a section not named like a setting. -/
theorem no_key_lost :
    (∀ members configuration, (members.map Prod.fst).Nodup →
      decode (.object members) = .ok configuration →
        (∀ name content, (name, content) ∈ configuration.sections ↔
          (name, content) ∈ members ∧ name ∉ settingNames) ∧
        configuration.encode = .ofMembers (standard.settings ++ members) ∧
        decode configuration.encode = .ok configuration) ∧
      (∀ configuration : Configuration,
        decode configuration.encode = .ok configuration ↔ configuration.Separate) ∧
      ∀ (configuration : Configuration) name content, configuration.Separate →
        name ∉ settingNames → (configuration.setSection name content).Separate := by
  refine ⟨?_, ?_, ?_⟩
  · intro members configuration distinct decoded
    obtain ⟨separate, written⟩ := ofMembers_written decoded
    exact ⟨fun _ _ => mem_sections_iff distinct decoded, congrArg Json.object written,
      decode_encode separate⟩
  · intro configuration
    exact ⟨fun decoded => (ofMembers_written decoded).1, decode_encode⟩
  · intro configuration name content separate other
    exact separate.setSection other content

/-- One setting is given, and one section beside it. -/
theorem no_key_lost_one_section :
    let members := [("defaulter", Json.object []), ("passes", .array [])]
    let configuration : Configuration :=
      ⟨"info", ".pb.defaults.go", [], [("defaulter", .object [])]⟩
    decode (.object members) = .ok configuration ∧ configuration.Separate ∧
      decode configuration.encode = .ok configuration := by
  intro members configuration
  have distinct : (members.map Prod.fst).Nodup := by decide
  have decoded : decode (.object members) = .ok configuration := rfl
  have again := (no_key_lost.1 members configuration distinct decoded).2.2
  exact ⟨decoded, (no_key_lost.2.1 configuration).mp again, again⟩

end SchemaDefaults.Configuration
