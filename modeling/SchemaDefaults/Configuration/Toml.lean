import SchemaDefaults.Configuration.Codec
import SchemaDefaults.Toml.Reader

/-! # Reading a configuration from TOML

The entries of a document are taken into the configuration in the order of their keys, so
of two settings of the wrong kind the one with the smaller key is reported.
-/

namespace SchemaDefaults.Configuration

/-- The decoders for members that are TOML values. -/
def tomlFormat : Format Toml.Value Toml.Error :=
  ⟨Toml.Value.asString, Toml.Value.asStrings, Toml.Value.toJson⟩

def ofToml (text : String) : Except Toml.Error Configuration :=
  match Toml.ofText? text with
  | none => .error .malformed
  | some entries => ofMembers tomlFormat entries

end SchemaDefaults.Configuration
