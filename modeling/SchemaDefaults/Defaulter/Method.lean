import SchemaDefaults.CodeWriter.Basic
import SchemaDefaults.Defaulter.Settings
import SchemaDefaults.GoName
import SchemaDefaults.Options
import SchemaDefaults.Schema.Placement

/-! # Methods that assign defaults

For a message the pass writes one method. It assigns to each field the default that the
schema declares for it, as a quoted literal for a text and as it is for a number, a truth
value or an enumeration. A default on any other field is ignored, and so is one that is
not a text. A message that carries an identity first gets its kind and its version.
-/

namespace SchemaDefaults.Defaulter

open Schema

/-- The default that a schema declares for a field, as it is written there. -/
def declaredDefault (key : String) (field : Field) : Logged (Option String) :=
  Options.lookup Decode.string field.options key

/-- The name of a label in the log. -/
def labelWord : Label → String
  | .optional => "Optional"
  | .required => "Required"
  | .repeated => "Repeated"

/-- The name of a type in the log: the same word with a capital. -/
def typeWord (type : FieldType) : String :=
  type.name.capitalize

/-- The line that assigns its default to a field. -/
def assignment (receiver key : String) (field : Field) : Logged (Option String) := do
  match ← declaredDefault key field with
  | none => return none
  | some value =>
      let target := receiver ++ "." ++ GoName.ofField field.name
      match field.family with
      | .string => return some (target ++ " = \"" ++ value ++ "\"")
      | .scalar => return some (target ++ " = " ++ value)
      | .unsupported =>
          Logged.note .debug "ignoring default on unsupported field"
            [("field", .plain field.name), ("ty", .plain (typeWord field.type)),
              ("label", .plain (labelWord field.label))]
          return none

/-- The assignments for the fields of a message, in their order. -/
def assignments (receiver key : String) : List Field → Logged (List String)
  | [] => pure []
  | field :: rest => do
      let first ← assignment receiver key field
      let others ← assignments receiver key rest
      return first.toList ++ others

/-- The lines that give a message its kind and its version, if it carries an identity. -/
def identityLines (settings : Settings) (receiver : String) (message : Message) : List String :=
  if (message.field? settings.identityField).isSome then
    [receiver ++ "." ++ settings.kindField ++ " = \"" ++ message.name ++ "\"",
      receiver ++ "." ++ settings.apiVersionField ++ " = " ++ settings.apiVersionExpr]
  else []

/-- The line that opens the method of a type. -/
def methodHeader (receiver typeName methodName : String) : String :=
  "func (" ++ receiver ++ " *" ++ typeName ++ ") " ++ methodName ++ "() \x7b"

/-- Writes the method of a message, with an empty line before and after it. -/
def emit (settings : Settings) (placed : PlacedMessage) (writer : CodeWriter) :
    Logged CodeWriter := do
  let typeName := GoName.ofPath placed.path
  let receiver := GoName.receiver typeName
  Logged.note .debug ("emitting defaults method " ++ typeName)
    [("fields", .plain (toString placed.message.fields.length))]
  let assigned ← assignments receiver settings.optionKey placed.message.fields
  let body := identityLines settings receiver placed.message ++ assigned
  let header := methodHeader receiver typeName settings.methodName
  let ((), written) := writer.blank.block header "\x7d" fun inner => ((), inner.lines body)
  return written.blank

/-- Writes the methods of messages, one after the other. -/
def emitAll (settings : Settings) : List PlacedMessage → CodeWriter → Logged CodeWriter
  | [], writer => pure writer
  | placed :: rest, writer => do emitAll settings rest (← emit settings placed writer)

/-- The method of a message as a text. -/
def render (settings : Settings) (placed : PlacedMessage) : Logged String := do
  return (← emit settings placed .empty).text

end SchemaDefaults.Defaulter
