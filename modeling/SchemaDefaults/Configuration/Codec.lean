import SchemaDefaults.Configuration.Basic
import SchemaDefaults.Decode.Basic
import SchemaDefaults.Failure

/-! # Decoding and encoding a configuration

The settings and the sections share one object. Each key that is not a setting is a
section, so no key is lost, and an encoded configuration has all three settings with the
sections beside them.

The members of a configuration can come from more than one format. How a text, a list of
texts and a section are made of a member is therefore a parameter of the decoder.
-/

namespace SchemaDefaults

namespace Configuration

/-- How the members of a configuration are decoded in a format with values `υ` and errors
    `ε`. -/
structure Format (υ ε : Type) where
  text : υ → Except ε String
  texts : υ → Except ε (List String)
  content : υ → Except ε Json

/-- The decoders for members that are JSON values. -/
def jsonFormat : Format Json DecodeError :=
  ⟨Decode.string, Decode.list Decode.string, Decode.any⟩

variable {υ ε : Type}

/-- Takes one member into a configuration. -/
def withMember (format : Format υ ε) (configuration : Configuration) (key : String)
    (value : υ) : Except ε Configuration := do
  match key with
  | "log_level" => return { configuration with logLevel := ← format.text value }
  | "output_suffix" => return { configuration with outputSuffix := ← format.text value }
  | "passes" => return { configuration with passes := ← format.texts value }
  | _ => return configuration.setSection key (← format.content value)

def withMembers (format : Format υ ε) (configuration : Configuration) :
    List (String × υ) → Except ε Configuration
  | [] => .ok configuration
  | (key, value) :: rest => do
      withMembers format (← withMember format configuration key value) rest

/-- A configuration from the members of an object, in their order. -/
def ofMembers (format : Format υ ε) (members : List (String × υ)) :
    Except ε Configuration :=
  withMembers format standard members

def decode : Decoder Configuration
  | .object members => ofMembers jsonFormat members
  | value => Decode.refuse "struct GeneratorConfig" value

/-- The settings of the generator as members. -/
def settings (configuration : Configuration) : List (String × Json) :=
  [("log_level", .string configuration.logLevel),
    ("output_suffix", .string configuration.outputSuffix),
    ("passes", .array (configuration.passes.map .string))]

/-- A configuration as an object, the sections beside the settings. A section that has the name
    of a setting hides it. -/
def encode (configuration : Configuration) : Json :=
  .ofMembers (configuration.settings ++ configuration.sections)

/-- A section as a pass wants to have it; without the section, or when it is null, the pass's
    defaults. -/
def sectionAs {α : Type} (decoder : Decoder α) (fallback : α) (configuration : Configuration)
    (name : String) : Except Failure α :=
  match configuration.section? name with
  | none | some .null => .ok fallback
  | some content =>
      (decoder content).mapError fun cause =>
        .configuration ("[" ++ name ++ "]: " ++ cause.message)

end Configuration

end SchemaDefaults
