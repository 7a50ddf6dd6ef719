import SchemaDefaults.Failure
import SchemaDefaults.Schema.Basic
import SchemaDefaults.Text.Blank

/-! # Usable schemas

Files, messages and fields need names that are not blank. The first blank name is
reported: files in their order, a file's own name first, then its messages, each with its
own name first, then its fields, then the messages nested in it. Names below a map entry
count like all others.
-/

namespace SchemaDefaults.Schema

/-- A name that is missing. -/
inductive BlankName where
  | ofFile
  | ofMessage (file : String)
  | ofField (file message : String) (number : Int32)
  deriving Repr, DecidableEq

def BlankName.message : BlankName → String
  | .ofFile => "file name cannot be empty"
  | .ofMessage file => file ++ ": message name cannot be empty"
  | .ofField file message number =>
      file ++ ": field #" ++ toString number.toInt ++ " of " ++ message ++ " has no name"

/-- Fails with a complaint if a name is blank. -/
def nameGiven (name : String) (blank : BlankName) : Except BlankName Unit :=
  if Text.isBlank name then .error blank else .ok ()

/-- All fields of a message have names. -/
def fieldsNamed (file message : String) : List Field → Except BlankName Unit
  | [] => .ok ()
  | field :: rest => do
      nameGiven field.name (.ofField file message field.number)
      fieldsNamed file message rest

mutual

/-- A message, its fields and all messages inside it have names. -/
def Message.named (file : String) : Message → Except BlankName Unit
  | ⟨name, fields, nested, _⟩ => do
      nameGiven name (.ofMessage file)
      fieldsNamed file name fields
      Message.allNamed file nested

/-- Messages and all that is inside them have names. -/
def Message.allNamed (file : String) : List Message → Except BlankName Unit
  | [] => .ok ()
  | message :: rest => do
      message.named file
      Message.allNamed file rest

end

/-- A file and all that is inside it have names. -/
def File.named (file : File) : Except BlankName Unit := do
  nameGiven file.name .ofFile
  Message.allNamed file.name file.messages

/-- Files and all that is inside them have names. -/
def filesNamed : List File → Except BlankName Unit
  | [] => .ok ()
  | file :: rest => do
      file.named
      filesNamed rest

/-- Refuses a schema in which a name is blank. -/
def validate (schema : Schema) : Except Failure Unit :=
  (filesNamed schema.files).mapError fun blank => .descriptor blank.message

end SchemaDefaults.Schema
