import SchemaDefaults.Configuration.Validity
import SchemaDefaults.Proofs.ByteOrder
import SchemaDefaults.Proofs.ConfigurationRoundTrip
import SchemaDefaults.Proofs.FirstComplaint

/-! # Which objects are usable configurations

An object is read as a configuration and the configuration is checked. Both succeed exactly if each
member of the object is what its name asks for, and a member whose name is not that of a setting
has to be an object itself. So a setting whose name is misspelled is refused unless it is an object.
Of several breaches the check reports the first in the order of the settings, then of the bytes of
the names.
-/

namespace SchemaDefaults.Configuration

/-! ## Values that settings can have -/

/-- The names of the log levels in lower case. -/
def levelNames : List String :=
  ["trace", "debug", "info", "warn", "warning", "error", "off"]

theorem ofName?_isSome_iff {text : String} :
    (Log.Level.ofName? text).isSome ↔ (Text.trim text).toLower ∈ levelNames := by
  rw [Log.Level.ofName?]
  split <;> simp_all [levelNames]

theorem ofName?_isNone_iff {text : String} :
    (Log.Level.ofName? text).isNone ↔ (Text.trim text).toLower ∉ levelNames := by
  rw [← ofName?_isSome_iff, Option.not_isSome_iff_eq_none, Option.isNone_iff_eq_none]

theorem exists_level_iff (configuration : Configuration) :
    (∃ level, configuration.level = .ok level) ↔
      (Text.trim configuration.logLevel).toLower ∈ levelNames := by
  rw [← ofName?_isSome_iff, level]
  cases Log.Level.ofName? configuration.logLevel with
  | none => simp
  | some level => simp

/-- A text that is the name of a level, in letters of any case and with white space around it. -/
def IsLevel (value : Json) : Prop :=
  ∃ text, value = .string text ∧ (Text.trim text).toLower ∈ levelNames

def IsSuffix (value : Json) : Prop :=
  ∃ text, value = .string text ∧ Text.Filled text

/-- A list of names, of which there is at least one and none is blank. -/
def ArePasses (value : Json) : Prop :=
  ∃ names, value = .array (names.map .string) ∧ names ≠ [] ∧ ∀ name ∈ names, Text.Filled name

def IsSection (value : Json) : Prop :=
  ∃ entries, value = .object entries

/-- Each member is what its name asks for. -/
structure Acceptable (members : List (String × Json)) : Prop where
  level : ∀ value, ("log_level", value) ∈ members → IsLevel value
  suffix : ∀ value, ("output_suffix", value) ∈ members → IsSuffix value
  passes : ∀ value, ("passes", value) ∈ members → ArePasses value
  others : ∀ name value, (name, value) ∈ members → name ∉ settingNames → IsSection value

/-! ## Breaches and their places -/

/-- Where a configuration can be wrong. -/
inductive Place where
  | level
  | suffix
  | passes
  | pass (index : Nat)
  | other (name : String)

def Place.rank : Place → Nat
  | .level => 0
  | .suffix => 1
  | .passes => 2
  | .pass _ => 3
  | .other _ => 4

/-- The order of the settings, then of the passes, then of the bytes of the other names. -/
inductive Place.Before : Place → Place → Prop where
  | rank {left right : Place} : left.rank < right.rank → Before left right
  | pass {i j : Nat} : i < j → Before (.pass i) (.pass j)
  | other {m n : String} : Text.bytes m < Text.bytes n → Before (.other m) (.other n)

theorem Place.Before.asymm {left right : Place} (earlier : left.Before right) :
    ¬right.Before left := by
  intro later
  cases earlier with
  | rank less =>
      cases later with
      | rank more => omega
      | pass | other => exact Nat.lt_irrefl _ less
  | pass less =>
      cases later with
      | rank more => exact Nat.lt_irrefl _ more
      | pass more => omega
  | other less =>
      cases later with
      | rank more => exact Nat.lt_irrefl _ more
      | other more => exact List.lt_asymm less more

/-- What is wrong with a configuration, and where. -/
inductive Breaks (configuration : Configuration) : Place → Breach → Prop where
  | level : (Text.trim configuration.logLevel).toLower ∉ levelNames →
      Breaks configuration .level (.unknownLevel configuration.logLevel)
  | suffix : ¬Text.Filled configuration.outputSuffix →
      Breaks configuration .suffix .emptySuffix
  | passes : configuration.passes = [] → Breaks configuration .passes .noPasses
  | pass {index : Nat} {name : String} :
      configuration.passes[index]? = some name → ¬Text.Filled name →
      Breaks configuration (.pass index) (.emptyPassName name)
  | other {name : String} {content : Json} :
      (name, content) ∈ configuration.sections → ¬IsSection content →
      Breaks configuration (.other name) (.unknownSetting name)

/-! ## All breaches in their order -/

def passBreaches (passes : List (String × Nat)) : List (Place × Breach) :=
  passes.flatMap fun indexed =>
    complainIf (Text.isBlank indexed.1) (.pass indexed.2) (.emptyPassName indexed.1)

def sectionBreaches (sections : List (String × Json)) : List (Place × Breach) :=
  sections.flatMap fun entry =>
    complainIf (!entry.2.isObject) (.other entry.1) (.unknownSetting entry.1)

def settingBreaches (configuration : Configuration) : List (Place × Breach) :=
  complainIf (Log.Level.ofName? configuration.logLevel).isNone .level
      (.unknownLevel configuration.logLevel) ++
    (complainIf (Text.isBlank configuration.outputSuffix) .suffix .emptySuffix ++
      (complainIf configuration.passes.isEmpty .passes .noPasses ++
        passBreaches configuration.passes.zipIdx))

def breaches (configuration : Configuration) : List (Place × Breach) :=
  configuration.settingBreaches ++ sectionBreaches configuration.sections

/-! ### The check reports the first of them -/

theorem reportFirst_passBreaches (passes : List String) (first : Nat) :
    reportFirst (passBreaches (passes.zipIdx first)) =
      match (passes.find? Text.isBlank).map Breach.emptyPassName with
      | none => .ok ()
      | some breach => .error breach := by
  induction passes generalizing first with
  | nil => rfl
  | cons name rest ih =>
      have others := ih (first + 1)
      unfold passBreaches at others ⊢
      rw [List.zipIdx_cons, List.flatMap_cons, reportFirst_append, reportFirst_complainIf, others]
      cases blank : Text.isBlank name with
      | true => simp [List.find?, blank, bind, Except.bind]
      | false => simp [List.find?, blank, bind, Except.bind]

theorem reportFirst_settingBreaches (configuration : Configuration) :
    reportFirst configuration.settingBreaches =
      match configuration.settingsBreach? with
      | none => .ok ()
      | some breach => .error breach := by
  simp only [settingBreaches, reportFirst_append, reportFirst_complainIf,
    reportFirst_passBreaches, settingsBreach?]
  cases (Log.Level.ofName? configuration.logLevel).isNone with
  | true => rfl
  | false =>
      cases Text.isBlank configuration.outputSuffix with
      | true => rfl
      | false =>
          cases configuration.passes.isEmpty with
          | true => rfl
          | false => rfl

theorem value_checkSections (passes : List String) (sections : List (String × Json)) :
    (checkSections passes sections).value =
      (reportFirst (sectionBreaches sections)).mapError Breach.failure := by
  induction sections with
  | nil => rfl
  | cons entry rest ih =>
      obtain ⟨name, content⟩ := entry
      unfold sectionBreaches at ih ⊢
      rw [List.flatMap_cons, reportFirst_append, reportFirst_complainIf, checkSections]
      cases content.isObject with
      | false => rfl
      | true =>
          by_cases enabled : name ∈ passes
          · simp [enabled, ih, bind, Except.bind]
          · simp [enabled, ih, bind, Except.bind]

theorem value_validate (configuration : Configuration) :
    configuration.validate.value =
      (reportFirst configuration.breaches).mapError Breach.failure := by
  rw [breaches, reportFirst_append, reportFirst_settingBreaches, validate]
  cases configuration.settingsBreach? with
  | none => exact value_checkSections _ _
  | some breach => rfl

/-! ### They are all breaches, in the order of their places -/

theorem isObject_eq_true_iff {value : Json} : value.isObject = true ↔ IsSection value := by
  cases value <;> simp [Json.isObject, IsSection]

theorem mem_passBreaches {passes : List String} {place : Place} {breach : Breach} :
    (place, breach) ∈ passBreaches passes.zipIdx ↔
      ∃ index name, passes[index]? = some name ∧ ¬Text.Filled name ∧
        place = .pass index ∧ breach = .emptyPassName name := by
  simp only [passBreaches, List.mem_flatMap, mem_complainIf, Text.isBlank_eq_true_iff,
    Prod.exists, List.mk_mem_zipIdx_iff_getElem?]
  exact exists_comm

theorem mem_sectionBreaches {sections : List (String × Json)} {place : Place} {breach : Breach} :
    (place, breach) ∈ sectionBreaches sections ↔
      ∃ name content, (name, content) ∈ sections ∧ ¬IsSection content ∧
        place = .other name ∧ breach = .unknownSetting name := by
  simp only [sectionBreaches, List.mem_flatMap, mem_complainIf, Bool.not_eq_true',
    ← isObject_eq_true_iff, Bool.not_eq_true, Prod.exists]

theorem mem_breaches_iff {configuration : Configuration} {place : Place} {breach : Breach} :
    (place, breach) ∈ configuration.breaches ↔ configuration.Breaks place breach := by
  simp only [breaches, settingBreaches, List.mem_append, mem_complainIf, mem_passBreaches,
    mem_sectionBreaches]
  constructor
  · intro listed
    rcases listed with (⟨wrong, rfl, rfl⟩ | ⟨wrong, rfl, rfl⟩ | ⟨wrong, rfl, rfl⟩ |
      ⟨index, name, found, blank, rfl, rfl⟩) | ⟨name, content, member, other, rfl, rfl⟩
    · exact .level (ofName?_isNone_iff.mp wrong)
    · exact .suffix (Text.isBlank_eq_true_iff.mp wrong)
    · exact .passes (List.isEmpty_iff.mp wrong)
    · exact .pass found blank
    · exact .other member other
  · intro breaks
    cases breaks with
    | level unknown => exact .inl (.inl ⟨ofName?_isNone_iff.mpr unknown, rfl, rfl⟩)
    | suffix blank =>
        exact .inl (.inr (.inl ⟨Text.isBlank_eq_true_iff.mpr blank, rfl, rfl⟩))
    | passes nothing =>
        exact .inl (.inr (.inr (.inl ⟨List.isEmpty_iff.mpr nothing, rfl, rfl⟩)))
    | pass found blank =>
        exact .inl (.inr (.inr (.inr ⟨_, _, found, blank, rfl, rfl⟩)))
    | other member other => exact .inr ⟨_, _, member, other, rfl, rfl⟩

/-- Entries are in the order of their places, none of which has a smaller rank than a given one. -/
structure Ranked (rank : Nat) (entries : List (Place × Breach)) : Prop where
  ordered : entries.Pairwise fun earlier later => earlier.1.Before later.1
  low : ∀ entry ∈ entries, rank ≤ entry.1.rank

theorem Ranked.append {rank : Nat} {left right : List (Place × Breach)}
    (own : ∀ entry ∈ left, entry.1.rank = rank)
    (ordered : left.Pairwise fun earlier later => earlier.1.Before later.1)
    (rest : Ranked (rank + 1) right) : Ranked rank (left ++ right) := by
  constructor
  · refine List.pairwise_append.mpr ⟨ordered, rest.ordered, ?_⟩
    intro earlier inLeft later inRight
    have less := rest.low later inRight
    rw [← own earlier inLeft] at less
    exact .rank less
  · intro entry member
    cases List.mem_append.mp member with
    | inl inLeft => exact (own entry inLeft).ge
    | inr inRight => exact Nat.le_of_succ_le (rest.low entry inRight)

theorem Ranked.complainIf (wrong : Bool) (place : Place) (breach : Breach)
    {right : List (Place × Breach)} (rest : Ranked (place.rank + 1) right) :
    Ranked place.rank (complainIf wrong place breach ++ right) := by
  refine .append ?_ (pairwise_complainIf _ _ _ _) rest
  intro entry member
  obtain ⟨_, same, _⟩ := mem_complainIf.mp member
  rw [same]

theorem ordered_passBreaches (passes : List String) :
    (passBreaches passes.zipIdx).Pairwise fun earlier later => earlier.1.Before later.1 := by
  apply pairwise_complaints
  exact (pairwise_zipIdx passes).imp .pass

theorem ordered_sectionBreaches {sections : List (String × Json)}
    (sorted : Keyed.Sorted sections) :
    (sectionBreaches sections).Pairwise fun earlier later => earlier.1.Before later.1 := by
  apply pairwise_complaints
  refine (List.pairwise_map.mp sorted).imp ?_
  intro earlier later less
  exact .other ((Text.lt_iff_bytes_lt _ _).mp less)

theorem lists_breaches {configuration : Configuration}
    (sorted : Keyed.Sorted configuration.sections) :
    Lists Place.Before configuration.Breaks configuration.breaches where
  ordered := by
    have sections : Ranked 4 (sectionBreaches configuration.sections) := by
      refine ⟨ordered_sectionBreaches sorted, ?_⟩
      intro entry member
      obtain ⟨_, _, _, _, same, _⟩ := mem_sectionBreaches.mp member
      rw [same]
      exact Nat.le_refl _
    have passes : Ranked 3 (passBreaches configuration.passes.zipIdx ++
        sectionBreaches configuration.sections) := by
      refine .append ?_ (ordered_passBreaches _) sections
      intro entry member
      obtain ⟨_, _, _, _, same, _⟩ := mem_passBreaches.mp member
      rw [same]
      rfl
    simp only [breaches, settingBreaches, List.append_assoc]
    exact (Ranked.complainIf _ .level _ (.complainIf _ .suffix _
      (.complainIf _ .passes _ passes))).ordered
  mem_iff := fun _ _ => mem_breaches_iff

/-! ## Valid configurations -/

/-- The settings are what members can set them to, and beside them there are only sections. -/
structure Valid (configuration : Configuration) : Prop where
  level : IsLevel (.string configuration.logLevel)
  suffix : IsSuffix (.string configuration.outputSuffix)
  passes : ArePasses (.array (configuration.passes.map .string))
  others : ∀ name content, (name, content) ∈ configuration.sections → IsSection content

theorem isLevel_string_iff {text : String} :
    IsLevel (.string text) ↔ (Text.trim text).toLower ∈ levelNames := by
  simp [IsLevel]

theorem isSuffix_string_iff {text : String} : IsSuffix (.string text) ↔ Text.Filled text := by
  simp [IsSuffix]

theorem arePasses_texts_iff {names : List String} :
    ArePasses (.array (names.map .string)) ↔
      names ≠ [] ∧ ∀ name ∈ names, Text.Filled name := by
  have same : ∀ others, names.map Json.string = others.map .string ↔ others = names := by
    intro others
    rw [(List.map_injective_iff.mpr fun _ _ => Json.string.inj).eq_iff, eq_comm]
  simp only [ArePasses, Json.array.injEq, same, exists_eq_left]

theorem valid_iff (configuration : Configuration) :
    configuration.Valid ↔ ∀ place breach, ¬configuration.Breaks place breach := by
  constructor
  · intro valid place breach breaks
    obtain ⟨some, filled⟩ := arePasses_texts_iff.mp valid.passes
    cases breaks with
    | level unknown => exact unknown (isLevel_string_iff.mp valid.level)
    | suffix blank => exact blank (isSuffix_string_iff.mp valid.suffix)
    | passes nothing => exact some nothing
    | pass found blank => exact blank (filled _ (List.mem_of_getElem? found))
    | other member other => exact other (valid.others _ _ member)
  · intro unbroken
    refine ⟨isLevel_string_iff.mpr ?_, isSuffix_string_iff.mpr ?_, arePasses_texts_iff.mpr ⟨?_, ?_⟩,
      ?_⟩
    · by_contra unknown
      exact unbroken _ _ (.level unknown)
    · by_contra blank
      exact unbroken _ _ (.suffix blank)
    · intro nothing
      exact unbroken _ _ (.passes nothing)
    · intro name member
      obtain ⟨index, found⟩ := List.mem_iff_getElem?.mp member
      by_contra blank
      exact unbroken _ _ (.pass found blank)
    · intro name content member
      by_contra other
      exact unbroken _ _ (.other member other)

theorem validate_ok_iff {configuration : Configuration} :
    configuration.validate.value = .ok () ↔ configuration.Valid := by
  rw [value_validate, mapError_ok_iff, reportFirst_ok_iff, valid_iff]
  simp only [mem_breaches_iff]

theorem validate_error_iff {configuration : Configuration}
    (sorted : Keyed.Sorted configuration.sections) {failure : Failure} :
    configuration.validate.value = .error failure ↔
      ∃ place breach, First Place.Before configuration.Breaks place breach ∧
        failure = breach.failure := by
  rw [value_validate]
  exact (lists_breaches sorted).mapError_reportFirst_iff Place.Before.asymm

/-! ## From objects to configurations -/

theorem find?_settings_of_decoded {members : List (String × Json)} {configuration : Configuration}
    (distinct : (members.map Prod.fst).Nodup)
    (decoded : decode (.object members) = .ok configuration) {name : String}
    (known : name ∈ settingNames) :
    Keyed.find? name configuration.settings =
      (Keyed.find? name members).or (Keyed.find? name standard.settings) := by
  obtain ⟨separate, written⟩ := ofMembers_written decoded
  rw [← find?_written_setting separate known, written,
    Keyed.find?_ofList_append standard.settings_sorted.distinct distinct]

/-- A setting is as it should be if the member is that sets it, or if it is not set. -/
theorem setting_iff {members : List (String × Json)} {configuration : Configuration}
    (distinct : (members.map Prod.fst).Nodup)
    (decoded : decode (.object members) = .ok configuration) (name : String)
    (known : name ∈ settingNames) {value usual : Json}
    (set : Keyed.find? name configuration.settings = some value)
    (unset : Keyed.find? name standard.settings = some usual) {good : Json → Prop}
    (fine : good usual) : good value ↔ ∀ given, (name, given) ∈ members → good given := by
  have found := find?_settings_of_decoded distinct decoded known
  rw [set, unset] at found
  simp only [Keyed.mem_iff_find? distinct]
  cases given : Keyed.find? name members with
  | none =>
      rw [given, Option.none_or] at found
      rw [Option.some.inj found]
      simp [fine]
  | some content =>
      rw [given, Option.some_or] at found
      rw [Option.some.inj found]
      simp

theorem valid_standard : standard.Valid where
  level := isLevel_string_iff.mpr (by decide +kernel)
  suffix := isSuffix_string_iff.mpr ⟨'.', by decide, by decide⟩
  passes := by
    refine arePasses_texts_iff.mpr ⟨nofun, ?_⟩
    intro name member
    rw [List.mem_singleton.mp member]
    exact ⟨'d', by decide, by decide⟩
  others := nofun

theorem valid_iff_acceptable {members : List (String × Json)} {configuration : Configuration}
    (distinct : (members.map Prod.fst).Nodup)
    (decoded : decode (.object members) = .ok configuration) :
    configuration.Valid ↔ Acceptable members := by
  have level := setting_iff distinct decoded "log_level" (by decide) rfl rfl valid_standard.level
  have suffix :=
    setting_iff distinct decoded "output_suffix" (by decide) rfl rfl valid_standard.suffix
  have passes := setting_iff distinct decoded "passes" (by decide) rfl rfl valid_standard.passes
  have others : (∀ name content, (name, content) ∈ configuration.sections → IsSection content) ↔
      ∀ name content, (name, content) ∈ members → name ∉ settingNames → IsSection content := by
    simp only [mem_sections_iff distinct decoded, and_imp]
  constructor
  · intro valid
    exact ⟨level.mp valid.level, suffix.mp valid.suffix, passes.mp valid.passes,
      others.mp valid.others⟩
  · intro acceptable
    exact ⟨level.mpr acceptable.level, suffix.mpr acceptable.suffix,
      passes.mpr acceptable.passes, others.mpr acceptable.others⟩

theorem exists_decode {members : List (String × Json)} (acceptable : Acceptable members) :
    ∃ configuration, decode (.object members) = .ok configuration := by
  refine exists_withMembers ?_ standard
  intro name value member before
  by_cases known : name ∈ settingNames
  · simp only [settingNames, List.mem_cons, List.not_mem_nil, or_false] at known
    rcases known with rfl | rfl | rfl
    · obtain ⟨text, rfl, _⟩ := acceptable.level value member
      exact ⟨_, withMember_ok_iff.mpr (.inl ⟨rfl, text, rfl, rfl⟩)⟩
    · obtain ⟨text, rfl, _⟩ := acceptable.suffix value member
      exact ⟨_, withMember_ok_iff.mpr (.inr (.inl ⟨rfl, text, rfl, rfl⟩))⟩
    · obtain ⟨names, rfl, _⟩ := acceptable.passes value member
      exact ⟨_, withMember_ok_iff.mpr (.inr (.inr (.inl ⟨rfl, names, rfl, rfl⟩)))⟩
  · exact withMember_of_section known value before

theorem exists_valid_iff {members : List (String × Json)}
    (distinct : (members.map Prod.fst).Nodup) :
    (∃ configuration, decode (.object members) = .ok configuration ∧
      configuration.validate.value = .ok ()) ↔ Acceptable members := by
  constructor
  · intro accepted
    obtain ⟨configuration, decoded, valid⟩ := accepted
    exact (valid_iff_acceptable distinct decoded).mp (validate_ok_iff.mp valid)
  · intro acceptable
    obtain ⟨configuration, decoded⟩ := exists_decode acceptable
    have valid := (valid_iff_acceptable distinct decoded).mpr acceptable
    exact ⟨configuration, decoded, validate_ok_iff.mpr valid⟩

/-- An object is decoded to a valid configuration exactly if each member is what its name asks for.
    A valid configuration has a level, and one that is not valid is refused for the breach that
    stands before all others. -/
theorem accepts_exactly :
    (∀ members, (members.map Prod.fst).Nodup →
      ((∃ configuration, decode (.object members) = .ok configuration ∧
        configuration.validate.value = .ok ()) ↔ Acceptable members)) ∧
    (∀ members configuration, decode (.object members) = .ok configuration →
      Keyed.Sorted configuration.sections) ∧
    ∀ configuration : Configuration,
      (configuration.validate.value = .ok () → ∃ level, configuration.level = .ok level) ∧
      (Keyed.Sorted configuration.sections →
        ∀ failure, configuration.validate.value = .error failure ↔
          ∃ place breach, First Place.Before configuration.Breaks place breach ∧
            failure = breach.failure) := by
  refine ⟨?_, ?_, ?_⟩
  · intro members distinct
    exact exists_valid_iff distinct
  · intro members configuration decoded
    exact (ofMembers_written decoded).1.sorted
  · intro configuration
    constructor
    · intro accepted
      have valid := validate_ok_iff.mp accepted
      exact (exists_level_iff configuration).mpr (isLevel_string_iff.mp valid.level)
    · intro sorted failure
      exact validate_error_iff sorted

/-- An object with one setting is accepted. A configuration in which the suffix, a pass and a
    section are wrong is refused for the suffix. -/
theorem accepts_exactly_warning :
    let members := [("log_level", Json.string " Warning\n")]
    let broken : Configuration := ⟨"info", " ", ["defaulter", ""], [("output_sufix", .null)]⟩
    (members.map Prod.fst).Nodup ∧ Acceptable members ∧
      (∃ configuration, decode (.object members) = .ok configuration ∧
        configuration.validate.value = .ok ()) ∧
      Keyed.Sorted broken.sections ∧
      broken.validate.value = .error (.configuration "output_suffix cannot be empty") := by
  intro members broken
  have distinct : (members.map Prod.fst).Nodup := by decide
  have acceptable : Acceptable members := by
    constructor
    · intro value member
      obtain ⟨_, rfl⟩ := Prod.mk.inj (List.mem_singleton.mp member)
      exact isLevel_string_iff.mpr (by decide +kernel)
    · intro value member
      exact absurd (Prod.mk.inj (List.mem_singleton.mp member)).1 (by decide)
    · intro value member
      exact absurd (Prod.mk.inj (List.mem_singleton.mp member)).1 (by decide)
    · intro name value member other
      obtain ⟨rfl, _⟩ := Prod.mk.inj (List.mem_singleton.mp member)
      exact absurd (by decide) other
  have sorted : Keyed.Sorted broken.sections := List.pairwise_singleton _ _
  have first : First Place.Before broken.Breaks .suffix .emptySuffix := by
    constructor
    · apply Breaks.suffix
      rw [← Text.isBlank_eq_true_iff]
      decide
    · intro place breach breaks
      cases breaks with
      | level unknown => exact absurd (by decide +kernel) unknown
      | suffix => exact .inl rfl
      | passes | pass | other => exact .inr (.rank (by simp [Place.rank]))
  refine ⟨distinct, acceptable, (accepts_exactly.1 members distinct).mpr acceptable, sorted, ?_⟩
  exact ((accepts_exactly.2.2 broken).2 sorted _).mpr ⟨_, _, first, rfl⟩

end SchemaDefaults.Configuration
