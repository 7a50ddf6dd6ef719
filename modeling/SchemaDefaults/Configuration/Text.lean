import SchemaDefaults.Configuration.Basic
import SchemaDefaults.Json.Reader

/-! # Reading a configuration from JSON text

The text is taken into the configuration as it is read. So a setting of the wrong kind, or
one given twice, is reported before anything that stands after it, be it well formed or
not; of a section given twice the later counts.
-/

namespace SchemaDefaults.Configuration

open Json

/-- What is known of a configuration in the middle of its text. -/
structure Draft where
  configuration : Configuration
  /-- The settings that were met. -/
  met : List String

/-- Takes a setting, unless it was met before. -/
def Draft.setting {α : Type} (draft : Draft) (key : String) (value : Read α)
    (store : α → Configuration) : Read Draft := do
  if key ∈ draft.met then Scan.fail (.mistyped (.duplicateField key))
  Read.colon
  return ⟨store (← value), key :: draft.met⟩

def readTexts : Read (List String) := do
  if ← Scan.accept [Read.byte '['] then
    let texts ← Read.items (fun texts => do return (← Read.string) :: texts) []
    return texts.reverse
  else Read.refuse "a sequence"

def Draft.member (draft : Draft) (key : String) : Read Draft := do
  let configuration := draft.configuration
  match key with
  | "log_level" =>
      draft.setting key Read.string fun text => { configuration with logLevel := text }
  | "output_suffix" =>
      draft.setting key Read.string fun text => { configuration with outputSuffix := text }
  | "passes" =>
      draft.setting key readTexts fun texts => { configuration with passes := texts }
  | _ =>
      Read.colon
      -- The object around the section is one level already.
      let content ← Read.value (maxDepth - 1)
      return { draft with configuration := configuration.setSection key content }

def readConfiguration : Read Configuration := do
  if ← Scan.accept [Read.byte '\x7b'] then
    return (← Read.members Draft.member ⟨standard, []⟩).configuration
  else Read.refuse "struct GeneratorConfig"

/-- The configuration of a JSON text. Without a single byte it is the standard one. -/
def ofBytes (bytes : ByteArray) : Except ReadError Configuration :=
  if bytes.isEmpty then .ok standard else (Read.whole readConfiguration).run bytes.toList

/-- The text of the complaint about a JSON text. -/
def readErrorMessage : ReadError → String
  | .malformed => "<invalid JSON>"
  | .mistyped cause => cause.message

end SchemaDefaults.Configuration
