import SchemaDefaults.Command.Error
import SchemaDefaults.Configuration.Validity
import SchemaDefaults.Storage.Host

/-! # Finding and applying the configuration

A configuration file that is named has to be there. Without a name the file
`protogen.toml` in the current directory is read if there is one, and otherwise nothing is
set.
-/

namespace SchemaDefaults.Command

/-- The configuration of a TOML document, if it can be used. -/
def parseConfiguration (text : String) : Logged (Except CommandError Configuration) :=
  match Configuration.ofToml text with
  | .error cause =>
      pure (.error (.during "Failed to parse configuration" (.toml cause)))
  | .ok configuration => do
      match ← configuration.validate with
      | .error failure => return .error (.failure failure)
      | .ok () => return .ok configuration

variable {m : Type → Type} [Monad m] [Host m]

/-- An effect of the surroundings as a step of a command. -/
def effect {α : Type} (action : m α) : ExceptT CommandError m α := ExceptT.lift action

/-- Gives up because something went wrong while something was being done. -/
def failDuring {α : Type} (task : String) (cause : CommandError) : ExceptT CommandError m α :=
  throw (.during task cause)

/-- The configuration of a file. -/
def readConfiguration (path : Path) : ExceptT CommandError m Configuration := do
  let reading := "Failed to read configuration: " ++ Text.quoted path.text
  match ← effect (Host.read path) with
  | .error cause => failDuring reading (.storage cause)
  | .ok bytes =>
      match String.fromUTF8? bytes with
      | none => failDuring reading (.storage .notUtf8)
      | some text =>
          match ← effect (Host.run (parseConfiguration text)) with
          | .error cause =>
              failDuring ("Invalid configuration: " ++ Text.quoted path.text) cause
          | .ok configuration => return configuration

/-- The configuration file that is read when none is named. -/
def standardFile : Path := ⟨"protogen.toml"⟩

def loadConfiguration : Option Path → ExceptT CommandError m Configuration
  | some path => readConfiguration path
  | none => do
      if ← effect (Host.isFile standardFile) then readConfiguration standardFile
      else
        effect (Host.run (Logged.note .debug "no protogen.toml, using defaults" []))
        return .standard

/-- Sets the level of the log to that of a configuration, or to `debug` if the log is to be
    verbose. -/
def applyLevel (configuration : Configuration) (verbose : Bool) :
    ExceptT CommandError m Log.Level := do
  let level ← if verbose then pure .debug else
    match configuration.level with
    | .ok level => pure level
    | .error failure => throw (.failure failure)
  match ← effect (Host.reloadLog level) with
  | .ok () => pure ()
  | .error cause =>
      effect (Host.run
        (Logged.note .debug "log level not applied" [("err", .plain cause.message)]))
  return level

end SchemaDefaults.Command
