import SchemaDefaults.Decode.Basic
import SchemaDefaults.Failure
import SchemaDefaults.Text.Blank

/-! # Settings of the defaulter pass

The six settings that end up in emitted code. All of them have defaults; none may be
blank, and there are no others.
-/

namespace SchemaDefaults.Defaulter

/-- What the defaulter pass is told. -/
structure Settings where
  /-- The name of the emitted method. -/
  methodName : String
  /-- The option that holds the default of a field. -/
  optionKey : String
  /-- A message with a field of this name carries an identity. -/
  identityField : String
  /-- The struct field that gets the name of the message. -/
  kindField : String
  /-- The struct field that gets the version. -/
  apiVersionField : String
  /-- The Go expression for the version, emitted as it is. -/
  apiVersionExpr : String
  deriving Repr, DecidableEq

namespace Settings

def standard : Settings :=
  ⟨"Default", "default", "metadata", "Kind", "ApiVersion",
    "SchemeGroupVersion.GroupVersionString()"⟩

inductive Key where
  | methodName
  | optionKey
  | identityField
  | kindField
  | apiVersionField
  | apiVersionExpr
  deriving Repr, DecidableEq

/-- The settings in the order of their declaration. -/
def Key.all : List Key :=
  [.methodName, .optionKey, .identityField, .kindField, .apiVersionField, .apiVersionExpr]

def Key.name : Key → String
  | .methodName => "method_name"
  | .optionKey => "option_key"
  | .identityField => "identity_field"
  | .kindField => "kind_field"
  | .apiVersionField => "api_version_field"
  | .apiVersionExpr => "api_version_expr"

def Key.ofName? (name : String) : Option Key :=
  Key.all.find? (·.name == name)

def get (settings : Settings) : Key → String
  | .methodName => settings.methodName
  | .optionKey => settings.optionKey
  | .identityField => settings.identityField
  | .kindField => settings.kindField
  | .apiVersionField => settings.apiVersionField
  | .apiVersionExpr => settings.apiVersionExpr

/-- Puts a text in place of the one of a setting. -/
def set (settings : Settings) (text : String) : Key → Settings
  | .methodName => { settings with methodName := text }
  | .optionKey => { settings with optionKey := text }
  | .identityField => { settings with identityField := text }
  | .kindField => { settings with kindField := text }
  | .apiVersionField => { settings with apiVersionField := text }
  | .apiVersionExpr => { settings with apiVersionExpr := text }

/-- After a setting is put, it has the new text and the others keep theirs. -/
theorem get_set (settings : Settings) (text : String) (key other : Key) :
    (settings.set text key).get other = if key = other then text else settings.get other := by
  cases key <;> cases other <;> rfl

/-- Takes the members of an object into the settings, in their order. -/
def withMembers (settings : Settings) : List (String × Json) → Except DecodeError Settings
  | [] => .ok settings
  | (name, value) :: rest =>
      match Key.ofName? name with
      | none => .error (.unknownField name (Key.all.map Key.name))
      | some key => do withMembers (settings.set (← Decode.string value) key) rest

/-- Takes the items of an array into the settings, in the order of declaration. -/
def withItems (settings : Settings) : List Key → List Json → Except DecodeError Settings
  | key :: keys, value :: rest => do
      withItems (settings.set (← Decode.string value) key) keys rest
  | _, _ => .ok settings

def decode : Decoder Settings
  | .object members => withMembers standard members
  | .array items => do
      let settings ← withItems standard Key.all items
      Decode.noMoreThan 6 items
      return settings
  | value => Decode.refuse "struct DefaulterConfig" value

/-- The settings as an object. -/
def encode (settings : Settings) : Json :=
  .ofMembers (Key.all.map fun key => (key.name, .string (settings.get key)))

/-- The first setting that is blank. -/
def blankKey? (settings : Settings) : Option Key :=
  Key.all.find? fun key => Text.isBlank (settings.get key)

def validate (settings : Settings) : Except Failure Unit :=
  match settings.blankKey? with
  | none => .ok ()
  | some key => .error (.configuration ("[defaulter] " ++ key.name ++ " cannot be empty"))

end Settings

end SchemaDefaults.Defaulter
