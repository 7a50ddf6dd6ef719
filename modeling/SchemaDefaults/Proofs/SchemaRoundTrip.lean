import SchemaDefaults.Proofs.Decoding
import SchemaDefaults.Proofs.KeyOrder
import SchemaDefaults.Schema.Encode
import SchemaDefaults.Schema.Load

/-! # Schemas survive being written and read again

A part of a descriptor that is null is read like one that is not there, and options that are
not there are not written. So a schema with null for options anywhere would come back without
them; every other schema comes back as it was, at every depth, and no decoder ever makes the
former kind.
-/

namespace SchemaDefaults.Schema

open Decode

/-! ## Schemas without null for options -/

/-- No options of a message, of its fields and of the messages inside it are null. -/
inductive Message.NullFree : Message → Prop where
  | intro {name : String} {fields : List Field} {nested : List Message} {options : Option Json} :
      options ≠ some .null → (∀ field ∈ fields, field.options ≠ some .null) →
      (∀ inner ∈ nested, inner.NullFree) → Message.NullFree ⟨name, fields, nested, options⟩

def File.NullFree (file : File) : Prop :=
  file.options ≠ some .null ∧ ∀ message ∈ file.messages, message.NullFree

def NullFree (schema : Schema) : Prop :=
  ∀ file ∈ schema.files, file.NullFree

/-! ## Written values -/

theorem find?_optionalMember (key other : String) (value : Option Json) :
    Keyed.find? other (optionalMember key value) = if key = other then value else none := by
  cases value with
  | none => simp [optionalMember]
  | some value => simp [optionalMember]

theorem reverse_optionalMember (key : String) (value : Option Json) :
    (optionalMember key value).reverse = optionalMember key value := by
  cases value <;> rfl

theorem int32_ofInt (n : Int32) : int32 (.ofInt n.toInt) = .ok n := by
  have low : -twoTo 31 ≤ n.toInt := n.le_toInt
  have high : n.toInt ≤ twoTo 31 - 1 := Int.le_sub_one_of_lt n.toInt_lt
  rw [int32, Json.ofInt, integer, if_pos ⟨low, high⟩, Except.map, Int32.ofInt_toInt]

theorem variant_name {α : Type} {known : List (String × α)} {name : String} {value : α}
    (found : known.lookup name = some value) : variant known (.string name) = .ok value := by
  rw [variant, ofName, found]

theorem part_texts (text : Option String) :
    part (optional string) none (text.map .string) = .ok text := by
  cases text <;> rfl

/-! ## Reading what was written -/

theorem Field.decode_encode {field : Field} (present : field.options ≠ some .null) :
    Field.decode field.encode = .ok field := by
  have made : field.MadeOf (some (.string field.name)) (some (.ofInt field.number.toInt))
      (some (.string field.label.name)) (some (.string field.type.name))
      (field.typeName.map .string) field.options := {
    name := ⟨_, rfl, rfl⟩
    number := int32_ofInt field.number
    label := variant_name field.label.lookup_name
    type := ⟨_, rfl, variant_name field.type.lookup_name⟩
    typeName := part_texts field.typeName
    options := (given_of_ne_null present).symm }
  refine Field.ofMembers_ok_iff.mpr ?_
  simpa [Keyed.find?_ofList, Keyed.find?_append, reverse_optionalMember, find?_optionalMember]
    using made

theorem Field.decode_encodes {fields : List Field}
    (present : ∀ field ∈ fields, field.options ≠ some .null) :
    part (list Field.decode) [] (some (.array (fields.map Field.encode))) = .ok fields := by
  refine part_list_ok_iff.mpr ⟨_, rfl, ?_⟩
  rw [List.forall₂_map_left_iff, List.forall₂_same]
  exact fun field member => Field.decode_encode (present field member)

mutual

theorem Message.decode_encode {message : Message} (free : message.NullFree) :
    Message.decode message.encode = .ok message := by
  match message, free with
  | ⟨name, fields, nested, options⟩, .intro present fieldsPresent inner =>
      have made : Message.MadeOf ⟨name, fields, nested, options⟩ (some (.string name))
          (some (.array (fields.map Field.encode))) (some (.array (Message.encodeAll nested)))
          options := {
        name := ⟨_, rfl, rfl⟩
        fields := Field.decode_encodes fieldsPresent
        nested := part_list_ok_iff.mpr ⟨_, rfl, Message.decode_encodeAll inner⟩
        options := (given_of_ne_null present).symm }
      refine Message.decode_object_ok_iff.mpr ?_
      simpa [Keyed.find?_ofList, Keyed.find?_append, reverse_optionalMember,
        find?_optionalMember] using made

theorem Message.decode_encodeAll {messages : List Message}
    (free : ∀ message ∈ messages, message.NullFree) :
    List.Forall₂ (fun value message => Message.decode value = .ok message)
      (Message.encodeAll messages) messages := by
  match messages with
  | [] => exact .nil
  | message :: rest =>
      rw [Message.encodeAll]
      obtain ⟨first, others⟩ := List.forall_mem_cons.mp free
      exact .cons (Message.decode_encode first) (Message.decode_encodeAll others)

end

theorem File.decode_encode {file : File} (free : file.NullFree) :
    File.decode file.encode = .ok file := by
  have made : file.MadeOf (some (.string file.name)) (some (.string file.package))
      (some (.array (Message.encodeAll file.messages))) file.options := {
    name := ⟨_, rfl, rfl⟩
    package := rfl
    messages := part_list_ok_iff.mpr ⟨_, rfl, Message.decode_encodeAll free.2⟩
    options := (given_of_ne_null free.1).symm }
  refine File.ofMembers_ok_iff.mpr ?_
  simpa [Keyed.find?_ofList, Keyed.find?_append, reverse_optionalMember, find?_optionalMember]
    using made

theorem decodeRecord_encode {schema : Schema} (free : schema.NullFree) :
    decodeRecord schema.encode = .ok schema := by
  refine ofMembers_ok_iff.mpr (part_list_ok_iff.mpr ⟨schema.files.map File.encode, ?_, ?_⟩)
  · simp [Keyed.find?_ofList, itemsOf]
  · rw [List.forall₂_map_left_iff, List.forall₂_same]
    exact fun file member => File.decode_encode (free file member)

/-- A written set is an object with the key `files`, so it is not taken for a single file. -/
theorem decode_encode (schema : Schema) : decode schema.encode = decodeRecord schema.encode := by
  have written : Keyed.find? "files" (Keyed.ofList
      [("files", Json.array (schema.files.map File.encode))]) =
        some (.array (schema.files.map File.encode)) := by
    simp [Keyed.find?_ofList]
  rw [encode, Json.ofMembers, decode, written, Option.isSome_some, if_pos rfl, decodeRecord]

/-! ## What decoders make -/

theorem Field.present_of_decode {value : Json} {field : Field}
    (decoded : Field.decode value = .ok field) : field.options ≠ some .null := by
  cases value with
  | object members =>
      rw [(Field.ofMembers_ok_iff.mp decoded).options]
      exact given_ne_null _
  | array items =>
      rw [(Field.madeOf_ofItems decoded).options]
      exact given_ne_null _
  | null | bool | number | string => cases decoded

theorem Message.nullFree_of_madeOf {message : Message} {name fields nested options : Option Json}
    (made : message.MadeOf name fields nested options)
    (inside : ∀ items, nested = some (.array items) → ∀ value ∈ items, ∀ inner,
      Message.decode value = .ok inner → inner.NullFree) : message.NullFree := by
  cases message with
  | mk ownName ownFields ownNested ownOptions =>
      refine .intro ?_ ?_ ?_
      · have same : ownOptions = given options := made.options
        rw [same]
        exact given_ne_null _
      · intro field member
        obtain ⟨_, _, value, _, decoded⟩ := mem_part_list made.fields member
        exact Field.present_of_decode decoded
      · intro inner member
        obtain ⟨items, found, value, within, decoded⟩ := mem_part_list made.nested member
        exact inside items found value within inner decoded

theorem Message.nullFree_of_decode (value : Json) {message : Message}
    (decoded : Message.decode value = .ok message) : message.NullFree := by
  match value with
  | .object members =>
      refine Message.nullFree_of_madeOf (Message.decode_object_ok_iff.mp decoded) ?_
      intro items found item within inner itemDecoded
      exact Message.nullFree_of_decode item itemDecoded
  | .array parts =>
      refine Message.nullFree_of_madeOf (Message.madeOf_decode_array decoded) ?_
      intro items found item within inner itemDecoded
      exact Message.nullFree_of_decode item itemDecoded
  | .null | .bool _ | .number _ | .string _ => simp [Message.decode, refuse] at decoded
termination_by sizeOf value
decreasing_by
  · exact (Json.sizeOf_lt_of_mem within).trans (Json.sizeOf_lt_of_find? found)
  · exact (Json.sizeOf_lt_of_mem within).trans
      (Json.sizeOf_lt_of_mem (List.mem_of_getElem? found))

theorem File.nullFree_of_madeOf {file : File} {name package messages options : Option Json}
    (made : file.MadeOf name package messages options) : file.NullFree := by
  constructor
  · rw [made.options]
    exact given_ne_null _
  · intro message member
    obtain ⟨_, _, value, _, decoded⟩ := mem_part_list made.messages member
    exact Message.nullFree_of_decode value decoded

theorem File.nullFree_of_decode {value : Json} {file : File}
    (decoded : File.decode value = .ok file) : file.NullFree := by
  cases value with
  | object members => exact File.nullFree_of_madeOf (File.ofMembers_ok_iff.mp decoded)
  | array items => exact File.nullFree_of_madeOf (File.madeOf_ofItems decoded)
  | null | bool | number | string => cases decoded

theorem nullFree_of_files {schema : Schema} {found : Option Json}
    (decoded : part (list File.decode) [] found = .ok schema.files) : schema.NullFree := by
  intro file member
  obtain ⟨_, _, value, _, accepted⟩ := mem_part_list decoded member
  exact File.nullFree_of_decode accepted

theorem nullFree_of_decodeRecord {value : Json} {schema : Schema}
    (decoded : decodeRecord value = .ok schema) : schema.NullFree := by
  cases value with
  | object members => exact nullFree_of_files (ofMembers_ok_iff.mp decoded)
  | array items =>
      simp only [decodeRecord, ofItems, itemOr_eq, bind_ok_iff] at decoded
      obtain ⟨files, isFiles, _, _, same⟩ := decoded
      obtain rfl := Except.ok.inj same
      exact nullFree_of_files isFiles
  | null | bool | number | string => cases decoded

theorem nullFree_of_decode {value : Json} {schema : Schema}
    (decoded : decode value = .ok schema) : schema.NullFree := by
  obtain ⟨members, _, _, several⟩ | ⟨_, file, single, rfl⟩ := decode_ok_iff.mp decoded
  · exact nullFree_of_files (ofMembers_ok_iff.mp several)
  · exact List.forall_mem_singleton.mpr (File.nullFree_of_decode single)

/-- A schema is read from what is written of it exactly if it has no null for options anywhere,
    and every schema that is read is of that kind. So whatever is loaded can be written and
    loaded again, and is the same schema then. -/
theorem survives_writing :
    (∀ schema : Schema, decodeRecord schema.encode = .ok schema ↔ schema.NullFree) ∧
      (∀ value schema, decodeRecord value = .ok schema ∨ decode value = .ok schema →
        schema.NullFree) ∧
      ∀ value schema, ofJson value = .ok schema → ofJson schema.encode = .ok schema := by
  refine ⟨fun schema => ⟨nullFree_of_decodeRecord, decodeRecord_encode⟩, ?_, ?_⟩
  · rintro value schema (decoded | decoded)
    · exact nullFree_of_decodeRecord decoded
    · exact nullFree_of_decode decoded
  · intro value schema loaded
    obtain ⟨decoded, valid⟩ := ofJson_ok_iff.mp loaded
    refine ofJson_ok_iff.mpr ⟨?_, valid⟩
    rw [decode_encode]
    exact decodeRecord_encode (nullFree_of_decode decoded)

/-- Most parts are left out in this value, and one that stands for options is null. -/
def sparseValue : Json :=
  let field : Json :=
    .object [("name", .string "ttl"), ("options", .null), ("type", .string "sint64")]
  let nested : Json := .object [("fields", .array [field]), ("name", .string "Entry")]
  let message : Json :=
    .object [("name", .string "Check"), ("nested_types", .array [nested]),
      ("options", .object [("map_entry", .bool true)])]
  .object [("messages", .array [message]), ("name", .string "check.proto")]

def sparseSchema : Schema :=
  let field : Field := ⟨"ttl", 0, .optional, .sint64, none, none⟩
  let nested : Message := ⟨"Entry", [field], [], none⟩
  let message : Message := ⟨"Check", [], [nested], some (.object [("map_entry", .bool true)])⟩
  ⟨[⟨"check.proto", "", [message], none⟩]⟩

theorem decode_sparseValue : decode sparseValue = .ok sparseSchema := by
  refine decode_ok_iff.mpr (.inr ⟨rfl, _, File.ofMembers_ok_iff.mpr ?_, rfl⟩)
  refine ⟨⟨_, rfl, rfl⟩, rfl, part_list_ok_iff.mpr ⟨_, rfl, .cons ?_ .nil⟩, rfl⟩
  refine Message.decode_object_ok_iff.mpr ⟨⟨_, rfl, rfl⟩, rfl, ?_, rfl⟩
  refine part_list_ok_iff.mpr ⟨_, rfl, .cons ?_ .nil⟩
  refine Message.decode_object_ok_iff.mpr ⟨⟨_, rfl, rfl⟩, rfl, rfl, rfl⟩

theorem survives_writing_sparse :
    ofJson sparseValue = .ok sparseSchema ∧ sparseSchema.NullFree ∧
      ofJson sparseSchema.encode = .ok sparseSchema := by
  have valid : sparseSchema.validate = .ok () := by decide +kernel
  have loaded := ofJson_ok_iff.mpr ⟨decode_sparseValue, valid⟩
  exact ⟨loaded, survives_writing.2.1 _ _ (.inr decode_sparseValue),
    survives_writing.2.2 _ _ loaded⟩

end SchemaDefaults.Schema
