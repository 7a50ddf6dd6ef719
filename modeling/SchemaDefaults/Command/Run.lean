import SchemaDefaults.Command.Generate
import SchemaDefaults.Command.Line

/-! # Running the program

A run installs the log, carries out its task, and ends with a status: zero when all went
well, one after an error, two when the command line makes no sense.
-/

namespace SchemaDefaults.Command

def versionLine : String := "protogen 0.3.0\n"

variable {m : Type → Type} [Monad m] [Host m]

/-- The configuration for a run, after its level has been applied to the log. -/
def prepare (file : Option Path) (verbose : Bool) : ExceptT CommandError m Configuration := do
  let configuration ← loadConfiguration file
  let _ ← applyLevel configuration verbose
  return configuration

def perform (invocation : CommandLine.Invocation) : ExceptT CommandError m Unit := do
  match invocation.task with
  | .generate input output file =>
      generate input output (← prepare file invocation.verbose)
  | .check input file => check input (← prepare file invocation.verbose)
  | .passes => passes

/-- Runs the program on a command line and gives its status. -/
def run (words : List String) : m UInt32 := do
  match CommandLine.parse words with
  | .error .help =>
      Host.print CommandLine.usage
      return 0
  | .error .version =>
      Host.print versionLine
      return 0
  | .error .misuse =>
      Host.complain CommandLine.usage
      return 2
  | .ok invocation =>
      let _ ← Host.installLog (if invocation.verbose then .debug else .info)
      match ← (perform invocation).run with
      | .ok () => return 0
      | .error error =>
          Host.complain error.report
          return 1

end SchemaDefaults.Command
