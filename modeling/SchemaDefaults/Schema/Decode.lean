import SchemaDefaults.Decode.Basic
import SchemaDefaults.Schema.Basic

/-! # Decoding schema descriptors

Each descriptor is an object or the array of its fields. In an object the members are
decoded in the order of their keys, in an array in the order of declaration, so the order
of the steps below settles which mistake is reported.
-/

namespace SchemaDefaults.Schema

open Decode

/-! ## Fields -/

/-- A field from its members. -/
def Field.ofMembers (members : List (String × Json)) : Except DecodeError Field := do
  let label ← memberOr (variant Label.named) .optional "label" members
  let name ← member? string "name" members
  let number ← memberOr int32 0 "number" members
  let options ← memberOr (optional any) none "options" members
  let type ← member? (variant FieldType.named) "type" members
  let typeName ← memberOr (optional string) none "type_name" members
  let name ← required "name" name
  let type ← required "type" type
  return ⟨name, number, label, type, typeName, options⟩

/-- A field from the array of its parts. -/
def Field.ofItems (items : List Json) : Except DecodeError Field := do
  let record := "struct FieldDescriptor with 6 elements"
  let name ← requiredItem string record 0 items
  let number ← itemOr int32 0 1 items
  let label ← itemOr (variant Label.named) .optional 2 items
  let type ← requiredItem (variant FieldType.named) record 3 items
  let typeName ← itemOr (optional string) none 4 items
  let options ← itemOr (optional any) none 5 items
  noMoreThan 6 items
  return ⟨name, number, label, type, typeName, options⟩

def Field.decode : Decoder Field
  | .object members => Field.ofMembers members
  | .array items => Field.ofItems items
  | value => refuse "struct FieldDescriptor" value

/-! ## Messages -/

mutual

def Message.decode (value : Json) : Except DecodeError Message :=
  match value with
  | .object members => do
      let fields ← memberOr (list Field.decode) [] "fields" members
      let name ← member? string "name" members
      let nested ← match _found : Keyed.find? "nested_types" members with
        | none => .ok []
        | some inner => Message.decodeNested inner
      let options ← memberOr (optional any) none "options" members
      let name ← required "name" name
      return ⟨name, fields, nested, options⟩
  | .array items => do
      let name ← requiredItem string "struct MessageDescriptor with 4 elements" 0 items
      let fields ← itemOr (list Field.decode) [] 1 items
      let nested ← match _found : items[2]? with
        | none => .ok []
        | some inner => Message.decodeNested inner
      let options ← itemOr (optional any) none 3 items
      noMoreThan 4 items
      return ⟨name, fields, nested, options⟩
  | other => refuse "struct MessageDescriptor" other
termination_by sizeOf value
decreasing_by
  · exact Json.sizeOf_lt_of_find? _found
  · exact Json.sizeOf_lt_of_mem (List.mem_of_getElem? _found)

def Message.decodeNested (value : Json) : Except DecodeError (List Message) :=
  match value with
  | .array items => Message.decodeAll items
  | other => refuse "a sequence" other
termination_by sizeOf value

def Message.decodeAll (values : List Json) : Except DecodeError (List Message) :=
  match values with
  | [] => .ok []
  | value :: rest => do
      let first ← Message.decode value
      let others ← Message.decodeAll rest
      return first :: others
termination_by sizeOf values

end

/-! ## Files and sets of files -/

/-- A file from its members. -/
def File.ofMembers (members : List (String × Json)) : Except DecodeError File := do
  let messages ← memberOr Message.decodeNested [] "messages" members
  let name ← member? string "name" members
  let options ← memberOr (optional any) none "options" members
  let package ← memberOr string "" "package" members
  let name ← required "name" name
  return ⟨name, package, messages, options⟩

/-- A file from the array of its parts. -/
def File.ofItems (items : List Json) : Except DecodeError File := do
  let name ← requiredItem string "struct FileDescriptor with 4 elements" 0 items
  let package ← itemOr string "" 1 items
  let messages ← itemOr Message.decodeNested [] 2 items
  let options ← itemOr (optional any) none 3 items
  noMoreThan 4 items
  return ⟨name, package, messages, options⟩

def File.decode : Decoder File
  | .object members => File.ofMembers members
  | .array items => File.ofItems items
  | value => refuse "struct FileDescriptor" value

/-- A set of files from the object that lists them. -/
def ofMembers (members : List (String × Json)) : Except DecodeError Schema := do
  let files ← memberOr (list File.decode) [] "files" members
  return ⟨files⟩

/-- A set of files from the array of its parts. -/
def ofItems (items : List Json) : Except DecodeError Schema := do
  let files ← itemOr (list File.decode) [] 0 items
  noMoreThan 1 items
  return ⟨files⟩

/-- A set of files, given as a record like all descriptors. -/
def decodeRecord : Decoder Schema
  | .object members => ofMembers members
  | .array items => ofItems items
  | value => refuse "struct DescriptorSet" value

/-- A set of files: an object with the key `files`, or anything that describes a single
    file. -/
def decode : Decoder Schema
  | .object members =>
      if (Keyed.find? "files" members).isSome then ofMembers members
      else do return ⟨[← File.ofMembers members]⟩
  | value => do return ⟨[← File.decode value]⟩

end SchemaDefaults.Schema
