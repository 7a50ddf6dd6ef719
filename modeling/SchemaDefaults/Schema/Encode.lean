import SchemaDefaults.Schema.Basic

/-! # Encoding schema descriptors

The objects in which descriptors are kept. Every member is written, except options and
the name of a referenced type when there are none.
-/

namespace SchemaDefaults.Schema

/-- A member that is written only if there is something to write. -/
def optionalMember (key : String) : Option Json → List (String × Json)
  | none => []
  | some value => [(key, value)]

def Field.encode (field : Field) : Json :=
  .ofMembers <|
    [("name", .string field.name), ("number", .ofInt field.number.toInt),
      ("label", .string field.label.name), ("type", .string field.type.name)] ++
    optionalMember "type_name" (field.typeName.map .string) ++
    optionalMember "options" field.options

mutual

def Message.encode : Message → Json
  | ⟨name, fields, nested, options⟩ =>
      .ofMembers <|
        [("name", .string name), ("fields", .array (fields.map Field.encode)),
          ("nested_types", .array (Message.encodeAll nested))] ++
        optionalMember "options" options

def Message.encodeAll : List Message → List Json
  | [] => []
  | message :: rest => message.encode :: Message.encodeAll rest

end

def File.encode (file : File) : Json :=
  .ofMembers <|
    [("name", .string file.name), ("package", .string file.package),
      ("messages", .array (Message.encodeAll file.messages))] ++
    optionalMember "options" file.options

def encode (schema : Schema) : Json :=
  .ofMembers [("files", .array (schema.files.map File.encode))]

end SchemaDefaults.Schema
