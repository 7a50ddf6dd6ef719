import SchemaDefaults.Configuration.Basic
import SchemaDefaults.Failure
import SchemaDefaults.Log.Record

/-! # Usable configurations

The level must have a known name, the suffix and the names of the passes must not be
blank, there must be a pass, and what stands beside the settings must be a section. The
first breach is reported, in this order and for sections in the order of their names. A
section for a pass that does not run is no mistake, but the log warns of it.
-/

namespace SchemaDefaults.Configuration

/-- What makes a configuration unusable. -/
inductive Breach where
  | unknownLevel (name : String)
  | emptySuffix
  | noPasses
  | emptyPassName (name : String)
  | unknownSetting (name : String)
  deriving Repr, DecidableEq

def Breach.message : Breach → String
  | .unknownLevel name => "unknown log level: " ++ name
  | .emptySuffix => "output_suffix cannot be empty"
  | .noPasses => "at least one pass must be configured"
  | .emptyPassName name => "pass name cannot be empty: " ++ Text.quoted name
  | .unknownSetting name => "unknown setting: " ++ name

def Breach.failure (breach : Breach) : Failure := .configuration breach.message

def level (configuration : Configuration) : Except Failure Log.Level :=
  match Log.Level.ofName? configuration.logLevel with
  | some level => .ok level
  | none => .error (Breach.unknownLevel configuration.logLevel).failure

/-- The first breach among the settings of the generator. -/
def settingsBreach? (configuration : Configuration) : Option Breach :=
  if (Log.Level.ofName? configuration.logLevel).isNone then
    some (.unknownLevel configuration.logLevel)
  else if Text.isBlank configuration.outputSuffix then some .emptySuffix
  else if configuration.passes.isEmpty then some .noPasses
  else (configuration.passes.find? Text.isBlank).map .emptyPassName

/-- Goes through the sections up to the first that is none. -/
def checkSections (passes : List String) : List (String × Json) → Logged (Except Failure Unit)
  | [] => pure (.ok ())
  | (name, content) :: rest => do
      if !content.isObject then return .error (Breach.unknownSetting name).failure
      if name ∉ passes then
        Logged.note .warn "configuration section for a pass that is not enabled"
          [("section", .plain name)]
      checkSections passes rest

/-- Refuses an unusable configuration. -/
def validate (configuration : Configuration) : Logged (Except Failure Unit) :=
  match configuration.settingsBreach? with
  | some breach => pure (.error breach.failure)
  | none => checkSections configuration.passes configuration.sections

end SchemaDefaults.Configuration
