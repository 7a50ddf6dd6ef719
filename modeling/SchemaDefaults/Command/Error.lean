import SchemaDefaults.Configuration.Toml
import SchemaDefaults.Failure
import SchemaDefaults.Storage.Disk

/-! # Errors of commands

An error has a cause and says, from the inside out, what was being done when it arose.
-/

namespace SchemaDefaults

inductive CommandError where
  | failure (cause : Failure)
  | toml (cause : Toml.Error)
  | storage (cause : StorageError)
  /-- A generated file would lie outside the output directory. -/
  | outside (name : String)
  /-- Two generated files would lie under one path. -/
  | taken (schemaFile name : String)
  /-- Something went wrong while something was being done. -/
  | during (task : String) (cause : CommandError)
  deriving Repr, DecidableEq

namespace CommandError

/-- The failure of the generator at the bottom of an error. -/
def failure? : CommandError → Option Failure
  | .failure cause => some cause
  | .during _ cause => cause.failure?
  | _ => none

/-- Whether a TOML document is at the bottom of an error. -/
def isToml : CommandError → Bool
  | .toml _ => true
  | .during _ cause => cause.isToml
  | _ => false

/-- The texts of an error from the outside in; `ofToml` words the complaints about TOML. -/
def chain (ofToml : Toml.Error → String) : CommandError → List String
  | .failure cause => [cause.message]
  | .toml cause => [ofToml cause]
  | .storage cause => [cause.message]
  | .outside name => ["Refusing to write outside the output directory: " ++ name]
  | .taken schemaFile name =>
      ["Schema file " ++ schemaFile ++ " maps to an output path already in use: " ++ name]
  | .during task cause => task :: cause.chain ofToml

/-- An error on one line. -/
def message (error : CommandError) : String :=
  String.intercalate ": " (error.chain Toml.Error.message)

/-- A text with every line after the first moved in. -/
def indented (margin : String) (text : String) : String :=
  String.intercalate ("\n" ++ margin) ((Text.split '\n' text.toList).map String.ofList)

/-- The lines for the causes of an error, numbered from a given number on. -/
def numbered : Nat → List String → List String
  | _, [] => []
  | n, text :: rest =>
      let number := toString n
      let padding := String.ofList (List.replicate (5 - number.length) ' ')
      ("\n" ++ padding ++ number ++ ": " ++ indented "       " text) :: numbered (n + 1) rest

/-- An error with its causes below it. What is wrong with a TOML document is not spelled out. -/
def report (error : CommandError) : String :=
  match error.chain fun _ => "<TOML error>" with
  | [] => ""
  | [outer] => "Error: " ++ outer ++ "\n"
  | [outer, cause] => "Error: " ++ outer ++ "\n\nCaused by:\n    " ++ indented "    " cause ++ "\n"
  | outer :: causes =>
      "Error: " ++ outer ++ "\n\nCaused by:" ++ String.join (numbered 0 causes) ++ "\n"

end CommandError

end SchemaDefaults
