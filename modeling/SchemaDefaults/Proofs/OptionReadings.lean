import SchemaDefaults.Proofs.DefaultAccounting
import SchemaDefaults.Proofs.Reannotation

/-! # Only what can be read of options matters

A configuration makes three look-ups happen: for the package of a file, for the mark of a map
entry, and for the default of a field. With everything else dropped from its options a schema
has the same texts and the same report. So two values that differ only in options, and in none
of these three readings, are loaded as schemas between which generating and checking make no
difference.
-/

namespace SchemaDefaults

open Schema

/-- The keys under which options are looked up with a configuration. If its section for the pass
    cannot be decoded, no defaults are. -/
def OptionKeys.readBy (configuration : Configuration) : OptionKeys :=
  ⟨some "go_package", some "map_entry",
    (Defaulter.settingsOf configuration).toOption.map (·.optionKey)⟩

theorem OptionKeys.field_readBy {configuration : Configuration} {settings : Defaulter.Settings}
    (set : Defaulter.settingsOf configuration = .ok settings) :
    (OptionKeys.readBy configuration).field = some settings.optionKey := by
  rw [readBy, set]
  rfl

namespace Schema

variable {keys : OptionKeys}

/-! ## Files and messages with reduced options -/

theorem File.value_goPackage_reduce (read : keys.file = some "go_package") (file : File) :
    (file.reduce keys).goPackage.value = file.goPackage.value := by
  simp only [File.goPackage, File.reduce, Logged.value_bind, Logged.value_pure,
    Options.value_lookup_string, read, Options.text?_onlyText]

theorem File.headText_reduce (read : keys.file = some "go_package") (file : File) :
    headText (file.reduce keys) = headText file := by
  unfold headText
  rewrite [File.value_goPackage_reduce read]
  rfl

theorem Message.marked_reduce (read : keys.message = some "map_entry") (message : Message) :
    (message.reduce keys).MarkedMapEntry ↔ message.MarkedMapEntry := by
  cases message with
  | mk name fields nested options =>
      simp only [Message.MarkedMapEntry, Message.reduce, read, Options.truth?_onlyTruth]

theorem Message.fields_reduce (keys : OptionKeys) (message : Message) :
    (message.reduce keys).fields = message.fields.map (Field.reduce keys) := by
  cases message
  rfl

theorem Message.name_reduce (keys : OptionKeys) (message : Message) :
    (message.reduce keys).name = message.name := by
  cases message
  rfl

def PlacedMessage.reduce (keys : OptionKeys) (placed : PlacedMessage) : PlacedMessage :=
  ⟨placed.path, placed.message.reduce keys⟩

mutual

theorem Message.located_reduce (read : keys.message = some "map_entry") (outer : List String)
    (message : Message) :
    (message.reduce keys).located MarkedMapEntry outer =
      (message.located MarkedMapEntry outer).map
        fun (position, placed) => (position, placed.reduce keys) := by
  match message with
  | ⟨name, fields, nested, options⟩ =>
      have marked := Message.marked_reduce read ⟨name, fields, nested, options⟩
      simp only [Message.reduce] at marked
      simp only [Message.reduce, Message.located, marked]
      split
      · rfl
      · rw [Message.locatedAll_reduceAll read _ 0 nested]
        rfl

theorem Message.locatedAll_reduceAll (read : keys.message = some "map_entry")
    (outer : List String) (first : Nat) (messages : List Message) :
    Message.locatedAll MarkedMapEntry outer first (Message.reduceAll keys messages) =
      (Message.locatedAll MarkedMapEntry outer first messages).map
        fun (position, placed) => (position, placed.reduce keys) := by
  match messages with
  | [] => rfl
  | message :: rest =>
      simp only [Message.reduceAll, Message.locatedAll, List.map_append, List.map_map]
      rw [Message.located_reduce read outer message,
        Message.locatedAll_reduceAll read outer (first + 1) rest, List.map_map]
      rfl

end

/-- With the mark of map entries kept, the same messages are found. -/
theorem File.value_placedMessages_reduce (read : keys.message = some "map_entry") (file : File) :
    (file.reduce keys).placedMessages.value =
      file.placedMessages.value.map (PlacedMessage.reduce keys) := by
  rw [File.value_placedMessages, File.value_placedMessages, File.reduce,
    Message.locatedAll_reduceAll read, List.map_map, List.map_map]
  rfl

end Schema

/-! ## Texts and reports with reduced options -/

namespace Defaulter

variable {keys : OptionKeys}

theorem text?_reduce {key : String} (read : keys.field = some key) (field : Field) :
    Options.text? (field.reduce keys).options key = Options.text? field.options key := by
  rw [Field.reduce, read, Options.text?_onlyText]

theorem assignment?_reduce {key : String} (read : keys.field = some key) (receiver : String)
    (field : Field) :
    assignment? receiver key (field.reduce keys) = assignment? receiver key field := by
  rw [assignment?, text?_reduce read]
  rfl

theorem identity_reduce (settings : Settings) (receiver : String) (message : Message) :
    identity settings receiver (message.reduce keys) = identity settings receiver message := by
  have carries : (∃ field ∈ (message.reduce keys).fields, field.name = settings.identityField) ↔
      ∃ field ∈ message.fields, field.name = settings.identityField := by
    simp [Message.fields_reduce, Field.reduce]
  simp only [identity, carries, Message.name_reduce]

theorem methodText_reduce {settings : Settings} (read : keys.field = some settings.optionKey)
    (placed : PlacedMessage) (depth : Nat) :
    methodText settings (placed.reduce keys) depth = methodText settings placed depth := by
  have lines : ∀ receiver, ((placed.reduce keys).message.fields.filterMap
      (assignment? receiver settings.optionKey)) =
        placed.message.fields.filterMap (assignment? receiver settings.optionKey) := by
    intro receiver
    rw [PlacedMessage.reduce, Message.fields_reduce, List.filterMap_map]
    exact congrArg₂ _ (funext (assignment?_reduce read receiver)) rfl
  simp only [methodText, lines]
  simp only [PlacedMessage.reduce, identity_reduce]

theorem methodsText_reduce {settings : Settings} (readMark : keys.message = some "map_entry")
    (read : keys.field = some settings.optionKey) (file : File) :
    methodsText settings (file.reduce keys) = methodsText settings file := by
  simp only [methodsText, File.value_placedMessages_reduce readMark, List.map_map, value_render,
    Function.comp_def, methodText_reduce read]

theorem countP_declares_reduce {key : String} (read : keys.field = some key)
    (fields : List Field) :
    (fields.map (Field.reduce keys)).countP (fun field => Declares key field) =
      fields.countP fun field => Declares key field := by
  rw [List.countP_map]
  apply List.countP_congr
  intro field _
  have readable : Declares key (field.reduce keys) ↔ Declares key field := by
    rw [Declares, text?_reduce read, Declares]
  simp only [Function.comp_apply, decide_eq_true_eq, readable]

end Defaulter

theorem Schema.value_messageCount_reduce {keys : OptionKeys}
    (read : keys.message = some "map_entry") (schema : Schema) :
    (schema.reduce keys).messageCount.value = schema.messageCount.value := by
  simp only [value_messageCount, reduce, List.map_map, Function.comp_def,
    File.value_placedMessages_reduce read, List.length_map]

theorem value_declaredDefaults_reduce {keys : OptionKeys} {key : String}
    (readMark : keys.message = some "map_entry") (read : keys.field = some key)
    (files : List File) :
    (declaredDefaults key (files.map (File.reduce keys))).value =
      (declaredDefaults key files).value := by
  have fields : ((Defaulter.placedOf ⟨files.map (File.reduce keys)⟩).flatMap (·.message.fields)) =
      ((Defaulter.placedOf ⟨files⟩).flatMap (·.message.fields)).map (Field.reduce keys) := by
    simp only [Defaulter.placedOf, List.flatMap_map, List.map_flatMap, List.flatMap_assoc,
      File.value_placedMessages_reduce readMark, PlacedMessage.reduce, Message.fields_reduce]
  rw [value_declaredDefaults, value_declaredDefaults, fields,
    Defaulter.countP_declares_reduce read]

theorem writes_reduce {configuration : Configuration} {bound : Option Defaulter.Settings}
    (binds : Catalog.Binds configuration bound) (file : File) :
    Catalog.writes bound (file.reduce (.readBy configuration)) = Catalog.writes bound file := by
  cases bound with
  | none => rfl
  | some settings =>
      have read := OptionKeys.field_readBy (settingsOf_of_usable binds.2)
      exact Defaulter.methodsText_reduce rfl read file

theorem generateTexts_reduce (configuration : Configuration) (schema : Schema) :
    (generateTexts (schema.reduce (.readBy configuration)) configuration).value =
      (generateTexts schema configuration).value := by
  obtain ⟨bound, binds, _⟩ | ⟨failure, _, untold⟩ := session_or_failure configuration
  · rw [value_generateTexts binds, value_generateTexts binds, Schema.reduce, List.map_map]
    refine congrArg Except.ok (List.map_congr_left fun file _ => ?_)
    have package : (OptionKeys.readBy configuration).file = some "go_package" := rfl
    have name : (file.reduce (.readBy configuration)).name = file.name := rfl
    simp only [Function.comp_apply, File.headText_reduce package, writes_reduce binds, name]
  · rw [untold, untold]

theorem checkSchema_reduce (configuration : Configuration) (schema : Schema) :
    (checkSchema (schema.reduce (.readBy configuration)) configuration).value =
      (checkSchema schema configuration).value := by
  cases valid : configuration.validate.value with
  | error failure =>
      rw [value_checkSchema_of_invalid valid, value_checkSchema_of_invalid valid]
  | ok =>
      obtain ⟨none | settings, binds, _⟩ | ⟨failure, unbuilt, _⟩ :=
        session_or_failure configuration
      · exact absurd binds (passes_ne_nil_of_valid valid)
      · have read := OptionKeys.field_readBy (settingsOf_of_usable binds.2)
        rw [value_checkSchema valid binds, value_checkSchema valid binds,
          Schema.value_messageCount_reduce rfl, Schema.reduce, List.length_map,
          value_declaredDefaults_reduce rfl read]
      · rw [value_checkSchema_of_unbuilt valid unbuilt, value_checkSchema_of_unbuilt valid unbuilt]

/-! ## Two sets of options -/

/-- What differs from a schema in options only is loaded like it, as a schema that differs in
    options only. Under a configuration that reads the same of both, both have the same texts
    and the same report. -/
theorem only_readable_options_matter {left right : Json} {schema : Schema}
    (loaded : ofJson left = .ok schema) (changed : Reannotated .unread left right) :
    ∃ other, ofJson right = .ok other ∧ schema.reduce .unread = other.reduce .unread ∧
      ∀ configuration, Reannotated (.readBy configuration) left right →
        (generateTexts schema configuration).value = (generateTexts other configuration).value ∧
        (checkSchema schema configuration).value = (checkSchema other configuration).value := by
  obtain ⟨other, otherLoaded, bare⟩ := changed.loaded loaded
  refine ⟨other, otherLoaded, bare, fun configuration readAlike => ?_⟩
  obtain ⟨again, againLoaded, same⟩ := readAlike.loaded loaded
  obtain rfl : other = again := Except.ok.inj (otherLoaded.symm.trans againLoaded)
  constructor
  · rw [← generateTexts_reduce, same, generateTexts_reduce]
  · rw [← checkSchema_reduce, same, checkSchema_reduce]

/-- A file with one message and one field, and with options for each of them. -/
def annotatedValue (ofFile ofMessage ofField : Json) : Json :=
  let field : Json :=
    .object [("name", .string "ttl"), ("options", ofField), ("type", .string "sint64")]
  let message : Json :=
    .object [("fields", .array [field]), ("name", .string "Check"), ("options", ofMessage)]
  .object [("messages", .array [message]), ("name", .string "check.proto"), ("options", ofFile)]

theorem reannotated_annotatedValue {keys : OptionKeys}
    {file message field otherFile otherMessage otherField : Json}
    (sameFile : Options.textUnder keys.file (some file) =
      Options.textUnder keys.file (some otherFile))
    (sameMessage : Options.truthUnder keys.message (some message) =
      Options.truthUnder keys.message (some otherMessage))
    (sameField : Options.textUnder keys.field (some field) =
      Options.textUnder keys.field (some otherField)) :
    Reannotated keys (annotatedValue file message field)
      (annotatedValue otherFile otherMessage otherField) := by
  refine .single rfl (.object ?_ sameFile (.items (.cons (.object ?_ sameMessage ?_ ?_) .nil)))
  · exact .cons (.inl (by decide)) (.cons (.inr rfl) (.cons (.inl (by decide)) (.refl _ _)))
  · exact .cons (.inl (by decide)) (.cons (.inr rfl) (.cons (.inl (by decide)) (.refl _ _)))
  · refine .items (.cons (.object ?_ sameField) .nil)
    exact .cons (.inr rfl) (.cons (.inl (by decide)) (.refl _ _))
  · exact .same none

/-- Beside the default of the field there is a remark in the second value, and other options of it
    are of the wrong kind. -/
theorem only_readable_options_matter_remark :
    let default : String × Json := ("default", .string "60")
    let left := annotatedValue .null (.object []) (.object [default])
    let right := annotatedValue (.array []) (.object [("map_entry", .string "yes")])
      (.object [default, ("remark", .bool true)])
    let schema : Schema :=
      ⟨[⟨"check.proto", "", [⟨"Check",
        [⟨"ttl", 0, .optional, .sint64, none, some (.object [default])⟩], [],
        some (.object [])⟩], none⟩]⟩
    ofJson left = .ok schema ∧ Reannotated .unread left right ∧
      Reannotated (.readBy .standard) left right ∧
      ∃ other, ofJson right = .ok other ∧ schema.reduce .unread = other.reduce .unread ∧
        (generateTexts schema .standard).value = (generateTexts other .standard).value ∧
        (checkSchema schema .standard).value = (checkSchema other .standard).value := by
  intro default left right schema
  have decoded : decode left = .ok schema := by
    refine decode_ok_iff.mpr (.inr ⟨rfl, _, File.ofMembers_ok_iff.mpr ?_, rfl⟩)
    refine ⟨⟨_, rfl, rfl⟩, rfl, Decode.part_list_ok_iff.mpr ⟨_, rfl, .cons ?_ .nil⟩, rfl⟩
    exact Message.decode_object_ok_iff.mpr ⟨⟨_, rfl, rfl⟩, rfl, rfl, rfl⟩
  have valid : schema.validate = .ok () := by decide +kernel
  have loaded := ofJson_ok_iff.mpr ⟨decoded, valid⟩
  have changed : Reannotated .unread left right := reannotated_annotatedValue rfl rfl rfl
  have readAlike : Reannotated (.readBy .standard) left right :=
    reannotated_annotatedValue rfl rfl rfl
  obtain ⟨other, otherLoaded, bare, same⟩ := only_readable_options_matter loaded changed
  exact ⟨loaded, changed, readAlike, other, otherLoaded, bare, same .standard readAlike⟩

end SchemaDefaults
