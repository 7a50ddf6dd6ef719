import SchemaDefaults.Catalog
import SchemaDefaults.Configuration.Validity

/-! # Generating and checking a schema

The texts generated for the files of a schema, and the summary of a schema that is only
checked. Both run the passes of the configuration; checking refuses unusable
configurations besides.
-/

namespace SchemaDefaults

open Schema

/-- The texts of files, in their order, up to the first that fails. -/
def generateFiles (session : Session Defaulter) :
    List File → Logged (Except Failure (List (String × String)))
  | [] => pure (.ok [])
  | file :: rest => do
      let (result, session) ← session.generateFile file
      match result with
      | .error failure => return .error failure
      | .ok text =>
          let others ← generateFiles session rest
          return others.map ((file.name, text) :: ·)

/-- The texts generated for a schema, each with the name of its schema file. -/
def generateTexts (schema : Schema) (configuration : Configuration) :
    Logged (Except Failure (List (String × String))) := do
  match ← Catalog.session configuration with
  | .error failure => return .error failure
  | .ok session => generateFiles session schema.files

structure Report where
  files : Nat
  messages : Nat
  /-- The fields that have a default which can be read. -/
  declaredDefaults : Nat
  passes : List String
  deriving Repr, DecidableEq

/-- How many of some fields have a default that can be read. -/
def countDefaults (key : String) : List Field → Logged Nat
  | [] => pure 0
  | field :: rest => do
      let found ← Defaulter.declaredDefault key field
      let others ← countDefaults key rest
      return (if found.isSome then 1 else 0) + others

/-- How many fields of the messages of some files have a default that can be read. -/
def declaredDefaults (key : String) : List File → Logged Nat
  | [] => pure 0
  | file :: rest => do
      let placed ← file.placedMessages
      let found ← countDefaults key (placed.flatMap fun placed => placed.message.fields)
      let others ← declaredDefaults key rest
      return found + others

/-- Checks a configuration and sums up a schema. -/
def checkSchema (schema : Schema) (configuration : Configuration) :
    Logged (Except Failure Report) := do
  match ← configuration.validate with
  | .error failure => return .error failure
  | .ok () =>
      match ← Catalog.session configuration with
      | .error failure => return .error failure
      | .ok session =>
          match Defaulter.settingsOf configuration with
          | .error failure => return .error failure
          | .ok settings =>
              let declared ← declaredDefaults settings.optionKey schema.files
              let messages ← schema.messageCount
              return .ok ⟨schema.files.length, messages, declared, session.passNames⟩

end SchemaDefaults
