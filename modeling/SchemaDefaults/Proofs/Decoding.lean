import Mathlib.Data.List.Forall2
import SchemaDefaults.Schema.Load

/-! # What decoders accept

A record is accepted exactly when each of its parts is, wherever the parts stand: under the
keys of an object or at the places of an array. For each descriptor one statement says what
its parts have to be; the order in which they are decoded only settles which mistake is
reported.
-/

namespace SchemaDefaults

variable {ε ε' α β : Type}

theorem bind_ok_iff {x : Except ε α} {f : α → Except ε β} {b : β} :
    (x >>= f) = .ok b ↔ ∃ a, x = .ok a ∧ f a = .ok b := by
  cases x <;> simp [bind, Except.bind]

theorem mapError_ok_iff {x : Except ε α} {f : ε → ε'} {a : α} :
    x.mapError f = .ok a ↔ x = .ok a := by
  cases x <;> simp [Except.mapError]

theorem mapError_error_iff {x : Except ε α} {f : ε → ε'} {cause : ε'} :
    x.mapError f = .error cause ↔ ∃ inner, x = .error inner ∧ f inner = cause := by
  cases x <;> simp [Except.mapError]

theorem map_ok_iff {x : Except ε α} {f : α → β} {b : β} :
    x.map f = .ok b ↔ ∃ a, x = .ok a ∧ f a = b := by
  cases x <;> simp [Except.map]

namespace Decode

/-! ## Parts -/

/-- What a part of a record gives that need not be there. -/
def part (decoder : Decoder α) (fallback : α) : Option Json → Except DecodeError α
  | none => .ok fallback
  | some value => decoder value

/-- A part that has to be there gives a value. -/
def Gives (decoder : Decoder α) (found : Option Json) (result : α) : Prop :=
  ∃ value, found = some value ∧ decoder value = .ok result

theorem string_ok_iff {value : Json} {text : String} :
    string value = .ok text ↔ value = .string text := by
  cases value <;> simp [string, refuse]

theorem memberOr_eq (decoder : Decoder α) (fallback : α) (key : String)
    (members : List (String × Json)) :
    memberOr decoder fallback key members = part decoder fallback (Keyed.find? key members) := by
  rw [memberOr, member?]
  cases Keyed.find? key members with
  | none => rfl
  | some value =>
      simp only [part]
      cases decoder value <;> rfl

theorem itemOr_eq (decoder : Decoder α) (fallback : α) (place : Nat) (items : List Json) :
    itemOr decoder fallback place items = part decoder fallback items[place]? := by
  rw [itemOr]
  cases items[place]? <;> rfl

theorem requiredItem_ok_iff {decoder : Decoder α} {record : String} {place : Nat}
    {items : List Json} {result : α} :
    requiredItem decoder record place items = .ok result ↔
      Gives decoder items[place]? result := by
  rw [requiredItem]
  cases items[place]? <;> simp [Gives]

theorem member?_ok_iff {decoder : Decoder α} {key : String} {members : List (String × Json)}
    {result : α} :
    member? decoder key members = .ok (some result) ↔
      Gives decoder (Keyed.find? key members) result := by
  rw [member?]
  cases Keyed.find? key members <;> simp [Gives, map_ok_iff]

theorem required_ok_iff {key : String} {found : Option α} {result : α} :
    required key found = .ok result ↔ found = some result := by
  cases found <;> simp [required]

/-! ## Any value, or none -/

/-- A part that is null counts as one that is not there. -/
def given : Option Json → Option Json
  | some .null => none
  | found => found

theorem part_any (found : Option Json) : part (optional any) none found = .ok (given found) := by
  cases found with
  | none => rfl
  | some value => cases value <;> rfl

theorem given_ne_null (found : Option Json) : given found ≠ some .null := by
  unfold given
  split
  · nofun
  · assumption

theorem given_of_ne_null {found : Option Json} (other : found ≠ some .null) :
    given found = found := by
  unfold given
  split
  · contradiction
  · rfl

/-! ## Lists -/

/-- The items of a part that is a list; without the part there are none. -/
def itemsOf : Option Json → Option (List Json)
  | none => some []
  | some (.array items) => some items
  | some _ => none

theorem all_ok_iff {item : Decoder α} {values : List Json} {results : List α} :
    all item values = .ok results ↔
      List.Forall₂ (fun value result => item value = .ok result) values results := by
  induction values generalizing results with
  | nil =>
      rw [List.forall₂_nil_left_iff, all]
      exact ⟨fun same => (Except.ok.inj same).symm, congrArg Except.ok ∘ Eq.symm⟩
  | cons value rest ih =>
      simp only [all, bind_ok_iff, ih, List.forall₂_cons_left_iff]
      constructor
      · rintro ⟨first, accepted, others, following, same⟩
        exact ⟨first, others, accepted, following, (Except.ok.inj same).symm⟩
      · rintro ⟨first, others, accepted, following, rfl⟩
        exact ⟨first, accepted, others, following, rfl⟩

theorem texts_ok_iff {value : Json} {texts : List String} :
    list string value = .ok texts ↔ value = .array (texts.map .string) := by
  have each : ∀ items, List.Forall₂ (fun value text => string value = .ok text) items texts ↔
      items = texts.map .string := by
    intro items
    simp only [string_ok_iff]
    rw [← List.forall₂_eq_eq_eq, List.forall₂_map_right_iff]
  cases value with
  | array items => simp only [list, all_ok_iff, each, Json.array.injEq]
  | null | bool | number | string | object => simp [list, refuse]

theorem part_list_ok_iff {item : Decoder α} {found : Option Json} {results : List α} :
    part (list item) [] found = .ok results ↔ ∃ items, itemsOf found = some items ∧
      List.Forall₂ (fun value result => item value = .ok result) items results := by
  cases found with
  | none => simp [part, itemsOf, eq_comm]
  | some value =>
      cases value with
      | array items => simp only [part, list, all_ok_iff, itemsOf, Option.some.injEq, exists_eq_left']
      | null | bool | number | string | object => simp [part, list, refuse, itemsOf]

/-- Each of the results comes from one of the items. -/
theorem mem_part_list {item : Decoder α} {found : Option Json} {results : List α}
    (decoded : part (list item) [] found = .ok results) {result : α} (member : result ∈ results) :
    ∃ items, found = some (.array items) ∧ ∃ value ∈ items, item value = .ok result := by
  obtain ⟨items, isItems, each⟩ := part_list_ok_iff.mp decoded
  have origin : ∃ value ∈ items, item value = .ok result := by
    clear isItems decoded
    induction each with
    | nil => cases member
    | cons first _ ih =>
        rcases List.mem_cons.mp member with rfl | later
        · exact ⟨_, List.mem_cons_self, first⟩
        · obtain ⟨value, within, accepted⟩ := ih later
          exact ⟨value, List.mem_cons_of_mem _ within, accepted⟩
  refine ⟨items, ?_, origin⟩
  obtain ⟨value, within, _⟩ := origin
  cases found with
  | none =>
      cases isItems
      cases within
  | some whole =>
      cases whole with
      | array => rw [Option.some.inj isItems]
      | null | bool | number | string | object => cases isItems

end Decode

/-! ## Descriptors -/

namespace Schema

open Decode

/-- The parts of which a field is made. -/
structure Field.MadeOf (field : Field) (name number label type typeName options : Option Json) :
    Prop where
  name : Gives string name field.name
  number : part int32 0 number = .ok field.number
  label : part (variant Label.named) .optional label = .ok field.label
  type : Gives (variant FieldType.named) type field.type
  typeName : part (optional string) none typeName = .ok field.typeName
  options : field.options = given options

theorem Field.ofMembers_ok_iff {members : List (String × Json)} {field : Field} :
    Field.ofMembers members = .ok field ↔
      field.MadeOf (Keyed.find? "name" members) (Keyed.find? "number" members)
        (Keyed.find? "label" members) (Keyed.find? "type" members)
        (Keyed.find? "type_name" members) (Keyed.find? "options" members) := by
  simp only [Field.ofMembers, memberOr_eq, part_any, bind_ok_iff, required_ok_iff]
  constructor
  · rintro ⟨label, isLabel, _, isName, number, isNumber, options, isOptions, _, isType, typeName,
      isTypeName, name, rfl, type, rfl, same⟩
    obtain rfl := Except.ok.inj same
    obtain rfl := Except.ok.inj isOptions
    exact ⟨member?_ok_iff.mp isName, isNumber, isLabel, member?_ok_iff.mp isType, isTypeName, rfl⟩
  · obtain ⟨name, number, label, type, typeName, options⟩ := field
    rintro ⟨isName, isNumber, isLabel, isType, isTypeName, rfl⟩
    exact ⟨_, isLabel, _, member?_ok_iff.mpr isName, _, isNumber, _, rfl, _,
      member?_ok_iff.mpr isType, _, isTypeName, _, rfl, _, rfl, rfl⟩

theorem Field.madeOf_ofItems {items : List Json} {field : Field}
    (decoded : Field.ofItems items = .ok field) :
    field.MadeOf items[0]? items[1]? items[2]? items[3]? items[4]? items[5]? := by
  simp only [Field.ofItems, itemOr_eq, part_any, bind_ok_iff, requiredItem_ok_iff] at decoded
  obtain ⟨name, isName, number, isNumber, label, isLabel, type, isType, typeName, isTypeName,
    options, isOptions, _, _, same⟩ := decoded
  obtain rfl := Except.ok.inj same
  obtain rfl := Except.ok.inj isOptions
  exact ⟨isName, isNumber, isLabel, isType, isTypeName, rfl⟩

theorem Message.decodeAll_eq (values : List Json) :
    Message.decodeAll values = all Message.decode values := by
  induction values with
  | nil => rw [Message.decodeAll, all]
  | cons value rest ih => rw [Message.decodeAll, all, ih]

theorem Message.decodeNested_eq : Message.decodeNested = list Message.decode := by
  funext value
  cases value with
  | array items => rw [Message.decodeNested, Message.decodeAll_eq, list]
  | null | bool | number | string | object => simp [Message.decodeNested, list]

/-- The parts of which a message is made. -/
structure Message.MadeOf (message : Message) (name fields nested options : Option Json) :
    Prop where
  name : Gives string name message.name
  fields : part (list Field.decode) [] fields = .ok message.fields
  nested : part (list Message.decode) [] nested = .ok message.nested
  options : message.options = given options

theorem Message.decode_object (members : List (String × Json)) :
    Message.decode (.object members) = do
      let fields ← part (list Field.decode) [] (Keyed.find? "fields" members)
      let name ← member? string "name" members
      let nested ← part (list Message.decode) [] (Keyed.find? "nested_types" members)
      let name ← required "name" name
      return ⟨name, fields, nested, given (Keyed.find? "options" members)⟩ := by
  simp only [Message.decode, memberOr_eq, part_any, Message.decodeNested_eq]
  split
  case h_1 missing =>
    rw [missing]
    rfl
  case h_2 inner found =>
    rw [found]
    rfl

theorem Message.decode_object_ok_iff {members : List (String × Json)} {message : Message} :
    Message.decode (.object members) = .ok message ↔
      message.MadeOf (Keyed.find? "name" members) (Keyed.find? "fields" members)
        (Keyed.find? "nested_types" members) (Keyed.find? "options" members) := by
  simp only [Message.decode_object, bind_ok_iff, required_ok_iff]
  constructor
  · rintro ⟨fields, isFields, _, isName, nested, isNested, name, rfl, same⟩
    obtain rfl := Except.ok.inj same
    exact ⟨member?_ok_iff.mp isName, isFields, isNested, rfl⟩
  · obtain ⟨name, fields, nested, options⟩ := message
    rintro ⟨isName, isFields, isNested, rfl⟩
    exact ⟨_, isFields, _, member?_ok_iff.mpr isName, _, isNested, _, rfl, rfl⟩

theorem Message.decode_array (items : List Json) :
    Message.decode (.array items) = do
      let record := "struct MessageDescriptor with 4 elements"
      let name ← requiredItem string record 0 items
      let fields ← part (list Field.decode) [] items[1]?
      let nested ← part (list Message.decode) [] items[2]?
      noMoreThan 4 items
      return ⟨name, fields, nested, given items[3]?⟩ := by
  simp only [Message.decode, itemOr_eq, part_any, Message.decodeNested_eq]
  split
  case h_1 missing =>
    rw [missing]
    rfl
  case h_2 inner found =>
    rw [found]
    rfl

theorem Message.madeOf_decode_array {items : List Json} {message : Message}
    (decoded : Message.decode (.array items) = .ok message) :
    message.MadeOf items[0]? items[1]? items[2]? items[3]? := by
  simp only [Message.decode_array, bind_ok_iff, requiredItem_ok_iff] at decoded
  obtain ⟨name, isName, fields, isFields, nested, isNested, _, _, same⟩ := decoded
  obtain rfl := Except.ok.inj same
  exact ⟨isName, isFields, isNested, rfl⟩

/-- The parts of which a file is made. -/
structure File.MadeOf (file : File) (name package messages options : Option Json) : Prop where
  name : Gives string name file.name
  package : part string "" package = .ok file.package
  messages : part (list Message.decode) [] messages = .ok file.messages
  options : file.options = given options

theorem File.ofMembers_ok_iff {members : List (String × Json)} {file : File} :
    File.ofMembers members = .ok file ↔
      file.MadeOf (Keyed.find? "name" members) (Keyed.find? "package" members)
        (Keyed.find? "messages" members) (Keyed.find? "options" members) := by
  simp only [File.ofMembers, memberOr_eq, part_any, Message.decodeNested_eq, bind_ok_iff,
    required_ok_iff]
  constructor
  · rintro ⟨messages, isMessages, _, isName, options, isOptions, package, isPackage, name, rfl,
      same⟩
    obtain rfl := Except.ok.inj same
    obtain rfl := Except.ok.inj isOptions
    exact ⟨member?_ok_iff.mp isName, isPackage, isMessages, rfl⟩
  · obtain ⟨name, package, messages, options⟩ := file
    rintro ⟨isName, isPackage, isMessages, rfl⟩
    exact ⟨_, isMessages, _, member?_ok_iff.mpr isName, _, rfl, _, isPackage, _, rfl, rfl⟩

theorem File.madeOf_ofItems {items : List Json} {file : File}
    (decoded : File.ofItems items = .ok file) :
    file.MadeOf items[0]? items[1]? items[2]? items[3]? := by
  simp only [File.ofItems, itemOr_eq, part_any, Message.decodeNested_eq, bind_ok_iff,
    requiredItem_ok_iff] at decoded
  obtain ⟨name, isName, package, isPackage, messages, isMessages, options, isOptions, _, _, same⟩ :=
    decoded
  obtain rfl := Except.ok.inj same
  obtain rfl := Except.ok.inj isOptions
  exact ⟨isName, isPackage, isMessages, rfl⟩

theorem ofMembers_ok_iff {members : List (String × Json)} {schema : Schema} :
    ofMembers members = .ok schema ↔
      part (list File.decode) [] (Keyed.find? "files" members) = .ok schema.files := by
  simp only [ofMembers, memberOr_eq, bind_ok_iff]
  constructor
  · rintro ⟨files, isFiles, same⟩
    obtain rfl := Except.ok.inj same
    exact isFiles
  · exact fun isFiles => ⟨_, isFiles, rfl⟩

/-- An object that has files is a set of them, everything else a single file. -/
theorem decode_ok_iff {value : Json} {schema : Schema} :
    decode value = .ok schema ↔
      (∃ members, value = .object members ∧ Keyed.find? "files" members ≠ none ∧
        ofMembers members = .ok schema) ∨
      value.member? "files" = none ∧ ∃ file, File.decode value = .ok file ∧ schema = ⟨[file]⟩ := by
  have single : ∀ file : Except DecodeError File,
      ((fun only => (⟨[only]⟩ : Schema)) <$> file) = .ok schema ↔
        ∃ only, file = .ok only ∧ schema = ⟨[only]⟩ := by
    intro file
    cases file <;> simp [Functor.map, Except.map, eq_comm]
  cases value with
  | object members =>
      cases found : Keyed.find? "files" members with
      | none => simp [decode, single, Json.member?, found, File.decode]
      | some files => simp [decode, Json.member?, found]
  | null | bool | number | string | array => simp [decode, single, Json.member?]

theorem ofJson_ok_iff {value : Json} {schema : Schema} :
    ofJson value = .ok schema ↔ decode value = .ok schema ∧ schema.validate = .ok () := by
  simp only [ofJson, bind_ok_iff, mapError_ok_iff]
  constructor
  · rintro ⟨found, decoded, ⟨⟩, valid, same⟩
    obtain rfl := Except.ok.inj same
    exact ⟨decoded, valid⟩
  · rintro ⟨decoded, valid⟩
    exact ⟨schema, decoded, (), valid, rfl⟩

end Schema

end SchemaDefaults
