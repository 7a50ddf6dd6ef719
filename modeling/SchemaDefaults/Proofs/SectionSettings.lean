import SchemaDefaults.Proofs.BoundSettings
import SchemaDefaults.Proofs.ConfigurationRoundTrip

/-! # Every entry of the section counts

The section of the pass is an object. If one of its entries has a name that is not that of a
setting, or is not a text, or is blank, then the pass cannot be initialized. If there is no such
entry, the pass is bound to the standard settings with all entries put over them, so an entry is
either refused or has its effect.
-/

namespace SchemaDefaults

namespace Defaulter

namespace Settings

/-! ## Settings by their names -/

theorem Key.name_inj {key other : Key} (same : key.name = other.name) : key = other := by
  cases key <;> cases other <;> first | rfl | exact absurd same (by decide)

theorem Key.ofName?_eq_some_iff {name : String} {key : Key} :
    Key.ofName? name = some key ↔ key.name = name := by
  constructor
  · intro found
    have named := List.find?_some found
    exact eq_of_beq named
  · intro same
    subst same
    cases key <;> decide

theorem Key.ofName?_eq_none_iff {name : String} :
    Key.ofName? name = none ↔ ∀ key : Key, key.name ≠ name := by
  simp [Key.ofName?, mem_all]

theorem ext_get {left right : Settings} (same : ∀ key, left.get key = right.get key) :
    left = right := by
  cases left
  cases right
  congr 1
  · exact same .methodName
  · exact same .optionKey
  · exact same .identityField
  · exact same .kindField
  · exact same .apiVersionField
  · exact same .apiVersionExpr

/-! ## Taking entries -/

/-- All entries have the name of a setting and are texts. -/
def Texts (entries : List (String × Json)) : Prop :=
  ∀ name content, (name, content) ∈ entries →
    (∃ key : Key, key.name = name) ∧ ∃ text, content = .string text

/-- The entries are put over settings: under each name that an entry has stands its text, and all
    other settings are kept. -/
structure Overridden (before : Settings) (entries : List (String × Json)) (after : Settings) :
    Prop where
  given : ∀ key text, (Key.name key, Json.string text) ∈ entries → after.get key = text
  kept : ∀ key, Key.name key ∉ entries.map Prod.fst → after.get key = before.get key

theorem withMembers_cons_ok_iff {before after : Settings} {name : String} {content : Json}
    {rest : List (String × Json)} :
    withMembers before ((name, content) :: rest) = .ok after ↔
      ∃ key text, Key.name key = name ∧ content = .string text ∧
        withMembers (before.set text key) rest = .ok after := by
  rw [withMembers]
  cases found : Key.ofName? name with
  | none =>
      have unknown := Key.ofName?_eq_none_iff.mp found
      simp [unknown]
  | some key =>
      have named := Key.ofName?_eq_some_iff.mp found
      simp only [bind_ok_iff, Decode.string_ok_iff]
      constructor
      · intro taken
        obtain ⟨text, isText, others⟩ := taken
        exact ⟨key, text, named, isText, others⟩
      · intro taken
        obtain ⟨other, text, same, isText, others⟩ := taken
        obtain rfl := Key.name_inj (named.trans same.symm)
        exact ⟨text, isText, others⟩

theorem overridden_cons_iff {before after : Settings} {key : Key} {text : String}
    {rest : List (String × Json)} (fresh : key.name ∉ rest.map Prod.fst) :
    Overridden before ((key.name, .string text) :: rest) after ↔
      Overridden (before.set text key) rest after := by
  constructor
  · intro overridden
    refine ⟨fun other content member => overridden.given other content (.tail _ member), ?_⟩
    intro other absent
    rw [get_set]
    split
    case isTrue same =>
      subst same
      exact overridden.given key text (.head _)
    case isFalse different =>
      apply overridden.kept
      rw [List.map_cons, List.mem_cons, not_or]
      exact ⟨fun same => different (Key.name_inj same).symm, absent⟩
  · intro overridden
    refine ⟨?_, ?_⟩
    · intro other content member
      cases List.mem_cons.mp member with
      | inl same =>
          obtain ⟨named, isText⟩ := Prod.mk.inj same
          obtain rfl := Key.name_inj named
          rw [overridden.kept other fresh, get_set, if_pos rfl, Json.string.inj isText]
      | inr later => exact overridden.given other content later
    · intro other absent
      rw [List.map_cons, List.mem_cons, not_or] at absent
      have different : key ≠ other := fun same => absent.1 (congrArg Key.name same.symm)
      rw [overridden.kept other absent.2, get_set, if_neg different]

theorem withMembers_ok_iff {before after : Settings} {entries : List (String × Json)}
    (distinct : (entries.map Prod.fst).Nodup) :
    withMembers before entries = .ok after ↔ Texts entries ∧ Overridden before entries after := by
  induction entries generalizing before with
  | nil =>
      constructor
      · intro taken
        obtain rfl := Except.ok.inj taken
        exact ⟨nofun, nofun, fun _ _ => rfl⟩
      · intro taken
        obtain ⟨_, overridden⟩ := taken
        exact congrArg Except.ok (ext_get fun key => (overridden.kept key nofun).symm)
  | cons entry rest ih =>
      obtain ⟨name, content⟩ := entry
      obtain ⟨fresh, distinct⟩ := List.nodup_cons.mp distinct
      simp only [withMembers_cons_ok_iff, ih distinct]
      constructor
      · intro taken
        obtain ⟨key, text, rfl, rfl, texts, overridden⟩ := taken
        refine ⟨?_, (overridden_cons_iff fresh).mpr overridden⟩
        intro name content member
        cases List.mem_cons.mp member with
        | inl same =>
            obtain ⟨rfl, rfl⟩ := Prod.mk.inj same
            exact ⟨⟨key, rfl⟩, text, rfl⟩
        | inr later => exact texts name content later
      · intro taken
        obtain ⟨texts, overridden⟩ := taken
        obtain ⟨⟨key, rfl⟩, text, rfl⟩ := texts _ _ (.head _)
        refine ⟨key, text, rfl, rfl, ?_, (overridden_cons_iff fresh).mp overridden⟩
        exact fun name content member => texts name content (.tail _ member)

/-! ## Texts that are not blank -/

/-- Every entry has the name of a setting and is a text that is not blank. -/
def FilledTexts (entries : List (String × Json)) : Prop :=
  ∀ name content, (name, content) ∈ entries →
    (∃ key : Key, key.name = name) ∧ ∃ text, content = .string text ∧ Text.Filled text

theorem FilledTexts.texts {entries : List (String × Json)} (filled : FilledTexts entries) :
    Texts entries := by
  intro name content member
  obtain ⟨known, text, isText, _⟩ := filled name content member
  exact ⟨known, text, isText⟩

theorem filled_standard : standard.Filled := by
  intro key
  cases key <;> decide

/-- The standard settings are not blank, so it is the entries that have to be looked at. -/
theorem Overridden.filled_iff {entries : List (String × Json)} {settings : Settings}
    (overridden : Overridden standard entries settings) (texts : Texts entries) :
    settings.Filled ↔ FilledTexts entries := by
  constructor
  · intro filled name content member
    obtain ⟨⟨key, rfl⟩, text, rfl⟩ := texts name content member
    refine ⟨⟨key, rfl⟩, text, rfl, ?_⟩
    rw [← overridden.given key text member]
    exact Text.isBlank_eq_false_iff.mp (filled key)
  · intro filled key
    by_cases present : key.name ∈ entries.map Prod.fst
    · obtain ⟨⟨_, content⟩, member, rfl⟩ := List.mem_map.mp present
      obtain ⟨_, text, rfl, isFilled⟩ := filled _ _ member
      rw [overridden.given key text member]
      exact Text.isBlank_eq_false_iff.mpr isFilled
    · rw [overridden.kept key present]
      exact filled_standard key

/-! ## Decoding a section -/

theorem decode_object_ok_iff {entries : List (String × Json)}
    (distinct : (entries.map Prod.fst).Nodup) {settings : Settings} :
    decode (.object entries) = .ok settings ↔
      Texts entries ∧ Overridden standard entries settings :=
  withMembers_ok_iff distinct

theorem exists_withMembers {entries : List (String × Json)} (texts : Texts entries)
    (before : Settings) : ∃ after, withMembers before entries = .ok after := by
  induction entries generalizing before with
  | nil => exact ⟨before, rfl⟩
  | cons entry rest ih =>
      obtain ⟨name, content⟩ := entry
      obtain ⟨⟨key, named⟩, text, isText⟩ := texts _ _ (.head _)
      have others : Texts rest := fun name content member => texts name content (.tail _ member)
      obtain ⟨after, taken⟩ := ih others (before.set text key)
      exact ⟨after, withMembers_cons_ok_iff.mpr ⟨key, text, named, isText, taken⟩⟩

/-- The settings under their names, as they are stored. -/
def entries (settings : Settings) : List (String × Json) :=
  Keyed.ofList (Key.all.map fun key => (key.name, .string (settings.get key)))

theorem mem_entries {settings : Settings} {name : String} {content : Json} :
    (name, content) ∈ settings.entries ↔
      ∃ key, Key.name key = name ∧ content = .string (settings.get key) := by
  have distinct : ((Key.all.map fun key => (key.name, Json.string (settings.get key))).map
      Prod.fst).Nodup := by
    rw [List.map_map]
    exact (by decide : (Key.all.map Key.name).Nodup)
  rw [entries, Keyed.mem_ofList distinct, List.mem_map]
  constructor
  · intro stored
    obtain ⟨key, _, same⟩ := stored
    obtain ⟨rfl, rfl⟩ := Prod.mk.inj same
    exact ⟨key, rfl, rfl⟩
  · intro stored
    obtain ⟨key, rfl, rfl⟩ := stored
    exact ⟨key, key.mem_all, rfl⟩

theorem texts_entries (settings : Settings) : Texts settings.entries := by
  intro name content member
  obtain ⟨key, rfl, rfl⟩ := mem_entries.mp member
  exact ⟨⟨key, rfl⟩, _, rfl⟩

theorem overridden_entries (before settings : Settings) :
    Overridden before settings.entries settings := by
  constructor
  · intro key text member
    obtain ⟨other, same, isText⟩ := mem_entries.mp member
    rw [← Key.name_inj same, Json.string.inj isText]
  · intro key absent
    have stored : (key.name, _) ∈ settings.entries := mem_entries.mpr ⟨key, rfl, rfl⟩
    exact absurd (List.mem_map_of_mem stored) absent

theorem decode_encode (settings : Settings) : decode settings.encode = .ok settings :=
  (decode_object_ok_iff (Keyed.sorted_ofList _).distinct).mpr
    ⟨settings.texts_entries, overridden_entries standard settings⟩

end Settings

/-! ## Initializing -/

theorem init_ok_iff {configuration : Configuration} {defaulter after : Defaulter} :
    defaulter.init configuration = (.ok (), after) ↔
      ∃ settings, after = ⟨some settings⟩ ∧ Usable configuration settings := by
  simp only [← usable_iff, init]
  cases usableSettingsOf configuration with
  | ok settings => simp [eq_comm]
  | error failure => simp

theorem setBy_object_iff {configuration : Configuration} {entries : List (String × Json)}
    (stored : configuration.section? "defaulter" = some (.object entries)) {settings : Settings} :
    SetBy configuration settings ↔ Settings.decode (.object entries) = .ok settings := by
  simp [SetBy, stored]

theorem usable_object_iff {configuration : Configuration} {entries : List (String × Json)}
    (stored : configuration.section? "defaulter" = some (.object entries))
    (distinct : (entries.map Prod.fst).Nodup) {settings : Settings} :
    Usable configuration settings ↔
      Settings.FilledTexts entries ∧ Settings.Overridden .standard entries settings := by
  rw [Usable, setBy_object_iff stored, Settings.decode_object_ok_iff distinct]
  constructor
  · intro usable
    obtain ⟨⟨texts, overridden⟩, filled⟩ := usable
    exact ⟨(overridden.filled_iff texts).mp filled, overridden⟩
  · intro usable
    obtain ⟨filled, overridden⟩ := usable
    exact ⟨⟨filled.texts, overridden⟩, (overridden.filled_iff filled.texts).mpr filled⟩

theorem init_object_iff {configuration : Configuration} {entries : List (String × Json)}
    (stored : configuration.section? "defaulter" = some (.object entries))
    (distinct : (entries.map Prod.fst).Nodup) {defaulter after : Defaulter} :
    defaulter.init configuration = (.ok (), after) ↔
      Settings.FilledTexts entries ∧
        ∃ settings, after = ⟨some settings⟩ ∧ Settings.Overridden .standard entries settings := by
  rw [init_ok_iff]
  simp only [usable_object_iff stored distinct]
  constructor
  · intro found
    obtain ⟨settings, same, filled, overridden⟩ := found
    exact ⟨filled, settings, same, overridden⟩
  · intro found
    obtain ⟨filled, settings, same, overridden⟩ := found
    exact ⟨settings, same, filled, overridden⟩

theorem init_object_succeeds_iff {configuration : Configuration} {entries : List (String × Json)}
    (stored : configuration.section? "defaulter" = some (.object entries))
    (distinct : (entries.map Prod.fst).Nodup) (defaulter : Defaulter) :
    (defaulter.init configuration).1 = .ok () ↔ Settings.FilledTexts entries := by
  constructor
  · intro success
    have whole : defaulter.init configuration = (.ok (), (defaulter.init configuration).2) :=
      Prod.ext success rfl
    exact ((init_object_iff stored distinct).mp whole).1
  · intro filled
    obtain ⟨settings, taken⟩ := Settings.exists_withMembers filled.texts .standard
    obtain ⟨_, overridden⟩ := (Settings.withMembers_ok_iff distinct).mp taken
    have bound : defaulter.init configuration = (.ok (), ⟨some settings⟩) :=
      (init_object_iff stored distinct).mpr ⟨filled, settings, rfl, overridden⟩
    rw [bound]

theorem init_stored_iff (configuration : Configuration) (defaulter : Defaulter)
    (settings : Settings) :
    defaulter.init (configuration.setSection "defaulter" settings.encode) =
      (.ok (), ⟨some settings⟩) ↔ settings.Filled := by
  have stored : (configuration.setSection "defaulter" settings.encode).section? "defaulter" =
      some (.object settings.entries) := by
    rw [Configuration.section?_setSection, if_pos rfl]
    rfl
  have given := (setBy_object_iff stored).mpr settings.decode_encode
  rw [init_ok_iff]
  constructor
  · intro bound
    obtain ⟨_, ⟨rfl⟩, usable⟩ := bound
    exact usable.2
  · intro filled
    exact ⟨settings, rfl, given, filled⟩

/-- A pass is initialized with an object exactly if every entry has the name of a setting and is a
    text that is not blank. It is then bound to the standard settings with the entries put over
    them. Settings that are stored are bound again exactly if none of them is blank. -/
theorem init_takes_every_entry (configuration : Configuration) (defaulter : Defaulter) :
    (∀ entries, (entries.map Prod.fst).Nodup →
      configuration.section? "defaulter" = some (.object entries) →
        ((defaulter.init configuration).1 = .ok () ↔ Settings.FilledTexts entries) ∧
        ∀ after, defaulter.init configuration = (.ok (), after) ↔
          Settings.FilledTexts entries ∧ ∃ settings, after = ⟨some settings⟩ ∧
            Settings.Overridden .standard entries settings) ∧
      ∀ settings : Settings,
        defaulter.init (configuration.setSection "defaulter" settings.encode) =
          (.ok (), ⟨some settings⟩) ↔ settings.Filled := by
  constructor
  · intro entries distinct stored
    exact ⟨init_object_succeeds_iff stored distinct defaulter,
      fun _ => init_object_iff stored distinct⟩
  · exact init_stored_iff configuration defaulter

/-- One setting is given, and the others are the standard ones. -/
theorem init_takes_every_entry_method_name :
    let entries := [("method_name", Json.string "SetDefaults")]
    let configuration := Configuration.standard.setSection "defaulter" (.object entries)
    (entries.map Prod.fst).Nodup ∧
      configuration.section? "defaulter" = some (.object entries) ∧
      ∀ defaulter : Defaulter, defaulter.init configuration =
        (.ok (), ⟨some { Settings.standard with methodName := "SetDefaults" }⟩) := by
  intro entries configuration
  have distinct : (entries.map Prod.fst).Nodup := by decide
  have stored : configuration.section? "defaulter" = some (.object entries) := rfl
  have filled : Settings.FilledTexts entries := by
    intro name content member
    obtain ⟨rfl, rfl⟩ := Prod.mk.inj (List.mem_singleton.mp member)
    exact ⟨⟨.methodName, rfl⟩, _, rfl, 'S', by decide, by decide⟩
  have overridden : Settings.Overridden .standard entries
      { Settings.standard with methodName := "SetDefaults" } := by
    constructor
    · intro key text member
      obtain ⟨named, isText⟩ := Prod.mk.inj (List.mem_singleton.mp member)
      have same : key.name = Settings.Key.methodName.name := named
      obtain rfl := Settings.Key.name_inj same
      exact (Json.string.inj isText).symm
    · intro key absent
      cases key with
      | methodName => exact absurd (.head _) absent
      | optionKey | identityField | kindField | apiVersionField | apiVersionExpr => rfl
  refine ⟨distinct, stored, fun defaulter => ?_⟩
  have takes := (init_takes_every_entry configuration defaulter).1 entries distinct stored
  exact (takes.2 _).mpr ⟨filled, _, rfl, overridden⟩

end Defaulter

end SchemaDefaults
