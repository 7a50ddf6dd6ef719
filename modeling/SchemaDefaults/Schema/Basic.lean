import SchemaDefaults.Json.Value

/-! # Schema descriptors

What a schema says: files with messages, messages with fields and with messages nested in
them. Options are kept as they were given; what a reader does not understand in them
never makes a schema unusable.
-/

namespace SchemaDefaults

namespace Schema

/-- How often a field may occur. -/
inductive Label where
  | optional
  | required
  | repeated
  deriving Repr, DecidableEq

/-- The names of the labels, in the order of their declaration. -/
def Label.named : List (String × Label) :=
  [("optional", .optional), ("required", .required), ("repeated", .repeated)]

inductive FieldType where
  | double
  | float
  | int64
  | uint64
  | int32
  | fixed64
  | fixed32
  | bool
  | string
  | group
  | message
  | bytes
  | uint32
  | enum
  | sfixed32
  | sfixed64
  | sint32
  | sint64
  deriving Repr, DecidableEq

/-- The names of the types, in the order of their declaration. -/
def FieldType.named : List (String × FieldType) :=
  [("double", .double), ("float", .float), ("int64", .int64), ("uint64", .uint64),
    ("int32", .int32), ("fixed64", .fixed64), ("fixed32", .fixed32), ("bool", .bool),
    ("string", .string), ("group", .group), ("message", .message), ("bytes", .bytes),
    ("uint32", .uint32), ("enum", .enum), ("sfixed32", .sfixed32), ("sfixed64", .sfixed64),
    ("sint32", .sint32), ("sint64", .sint64)]

def Label.name : Label → String
  | .optional => "optional"
  | .required => "required"
  | .repeated => "repeated"

def FieldType.name : FieldType → String
  | .double => "double"
  | .float => "float"
  | .int64 => "int64"
  | .uint64 => "uint64"
  | .int32 => "int32"
  | .fixed64 => "fixed64"
  | .fixed32 => "fixed32"
  | .bool => "bool"
  | .string => "string"
  | .group => "group"
  | .message => "message"
  | .bytes => "bytes"
  | .uint32 => "uint32"
  | .enum => "enum"
  | .sfixed32 => "sfixed32"
  | .sfixed64 => "sfixed64"
  | .sint32 => "sint32"
  | .sint64 => "sint64"

theorem Label.lookup_name (label : Label) : Label.named.lookup label.name = some label := by
  cases label <;> rfl

theorem FieldType.lookup_name (type : FieldType) :
    FieldType.named.lookup type.name = some type := by
  cases type <;> rfl

structure Field where
  name : String
  number : Int32
  label : Label
  type : FieldType
  /-- The type referred to, for enumerations, messages and groups. -/
  typeName : Option String
  options : Option Json

/-- A message: its fields and the messages declared inside it, in declaration order. -/
structure Message where
  name : String
  fields : List Field
  nested : List Message
  options : Option Json

structure File where
  /-- The path under which the schema compiler knows the file. -/
  name : String
  /-- The dotted schema package. -/
  package : String
  messages : List Message
  options : Option Json

/-- How the default of a field is written as a literal. -/
inductive Family where
  /-- In quotes. -/
  | string
  /-- As it is. -/
  | scalar
  /-- Not at all. -/
  | unsupported
  deriving Repr, DecidableEq

def Family.name : Family → String
  | .string => "string"
  | .scalar => "scalar"
  | .unsupported => "unsupported"

/-- The family of the singular fields of a type. -/
def FieldType.family : FieldType → Family
  | .string => .string
  | .group | .message | .bytes => .unsupported
  | _ => .scalar

namespace Field

/-- A singular field without options. -/
def simple (name : String) (number : Int32) (type : FieldType) : Field :=
  ⟨name, number, .optional, type, none, none⟩

def isRepeated (field : Field) : Bool :=
  field.label == .repeated

/-- The family of a field. No literal stands for a repeated field. -/
def family (field : Field) : Family :=
  if field.isRepeated then .unsupported else field.type.family

end Field

/-- The field of a given name, the first if there are several. -/
def Message.field? (message : Message) (name : String) : Option Field :=
  message.fields.find? (·.name == name)

end Schema

/-- A set of schema files, in input order. -/
structure Schema where
  files : List Schema.File

end SchemaDefaults
