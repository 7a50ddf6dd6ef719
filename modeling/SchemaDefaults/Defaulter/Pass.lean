import SchemaDefaults.Configuration.Codec
import SchemaDefaults.Defaulter.Method
import SchemaDefaults.Pass

/-! # The defaulter pass

Writes the methods of all messages of a file. The settings come from the section of the
pass and are bound when it is initialized; a pass can also be made with settings bound
already. A failing initialization leaves the settings as they were.
-/

namespace SchemaDefaults

/-- The state of a defaulter pass: the settings bound to it, if there are any. -/
structure Defaulter where
  bound : Option Defaulter.Settings
  deriving Repr, DecidableEq

namespace Defaulter

/-- The name of the pass, which is also that of its section. -/
def passName : String := "defaulter"

/-- A pass to which the given settings are bound. -/
def pass (bound : Option Settings) : Pass Defaulter :=
  ⟨passName, "Default() methods assigning schema-declared field defaults", ⟨bound⟩⟩

/-- The settings that a configuration has for the pass. -/
def settingsOf (configuration : Configuration) : Except Failure Settings :=
  configuration.sectionAs Settings.decode .standard passName

/-- The settings that a configuration has for the pass, unless one of them is blank. -/
def usableSettingsOf (configuration : Configuration) : Except Failure Settings := do
  let settings ← settingsOf configuration
  settings.validate
  return settings

/-- Binds the settings of a configuration. -/
def init (configuration : Configuration) (defaulter : Defaulter) :
    Except Failure Unit × Defaulter :=
  match usableSettingsOf configuration with
  | .ok settings => (.ok (), ⟨some settings⟩)
  | .error failure => (.error failure, defaulter)

/-- Writes the methods of the messages of a file. -/
def generate (file : Schema.File) (defaulter : Defaulter) (writer : CodeWriter) :
    Logged (Except Failure Unit × CodeWriter) :=
  match defaulter.bound with
  | none =>
      pure (.error (.invalidState "initialized defaulter" "uninitialized defaulter"), writer)
  | some settings => do
      return (.ok (), ← emitAll settings (← file.placedMessages) writer)

instance : PassBehaviour Defaulter where
  init configuration defaulter := pure (defaulter.init configuration)
  generate file defaulter writer := do
    let (result, written) ← defaulter.generate file writer
    return (result, defaulter, written)

end Defaulter

end SchemaDefaults
