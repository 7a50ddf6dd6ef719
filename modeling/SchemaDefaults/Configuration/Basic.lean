import SchemaDefaults.Json.Value

/-! # Configuration

The settings of the generator itself, and the sections that passes read for themselves.
Every top-level key that is not a setting of the generator is a section.
-/

namespace SchemaDefaults

/-- What a generator and its passes are told. -/
structure Configuration where
  logLevel : String
  /-- What replaces the ending `.proto` in the names of generated files. -/
  outputSuffix : String
  /-- The passes to run, in order. -/
  passes : List String
  /-- The sections, in the order of their names. -/
  sections : List (String × Json)

namespace Configuration

/-- The configuration in which nothing is set. -/
def standard : Configuration :=
  ⟨"info", ".pb.defaults.go", ["defaulter"], []⟩

def section? (configuration : Configuration) (name : String) : Option Json :=
  Keyed.find? name configuration.sections

/-- Stores a section in place of the one of the same name. -/
def setSection (configuration : Configuration) (name : String) (content : Json) :
    Configuration :=
  { configuration with sections := Keyed.insert name content configuration.sections }

end Configuration

end SchemaDefaults
