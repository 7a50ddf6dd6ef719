import SchemaDefaults.Command.Configure
import SchemaDefaults.Generation
import SchemaDefaults.Schema.Load

/-! # Generating files

The code generated for a schema goes to files below an output directory, under the paths
of the schema files. All paths are settled before the first file is written: none may
leave the directory, and no two may be the same.
-/

namespace SchemaDefaults.Command

structure Output where
  schemaFile : String
  path : Path
  text : String
  deriving Repr, DecidableEq

/-- Where the code generated for schema files goes, given the paths that are taken. -/
def planOutputs (directory : Path) (suffix : String) (taken : List (List Component)) :
    List (String × String) → Except CommandError (List Output)
  | [] => .ok []
  | (schemaFile, text) :: rest =>
      let relative : Path := ⟨outputFileName schemaFile suffix⟩
      let path := directory.join relative
      if !relative.isPlain then .error (.outside relative.text)
      else if path.components ∈ taken then .error (.taken schemaFile relative.text)
      else do
        let others ← planOutputs directory suffix (path.components :: taken) rest
        return ⟨schemaFile, path, text⟩ :: others

variable {m : Type → Type} [Monad m] [Host m]

def loadSchema (path : Path) : ExceptT CommandError m Schema := do
  match ← effect (Host.read path) with
  | .error cause =>
      failDuring ("Failed to read descriptors: " ++ Text.quoted path.text) (.storage cause)
  | .ok bytes =>
      match Schema.ofBytes bytes with
      | .error failure =>
          failDuring ("Invalid descriptor set: " ++ Text.quoted path.text) (.failure failure)
      | .ok schema => return schema

/-- Makes the directory above a path, with all that are missing above it. -/
def makeParent (path : Path) : ExceptT CommandError m Unit := do
  if let some parent := path.parent? then
    match ← effect (Host.makeDirectories parent) with
    | .ok () => pure ()
    | .error cause =>
        failDuring ("Failed to create directory: " ++ Text.quoted parent.text) (.storage cause)

/-- Writes one file, with the directories above it. -/
def writeOutput (output : Output) : ExceptT CommandError m Unit := do
  makeParent output.path
  match ← effect (Host.write output.path output.text) with
  | .ok () => pure ()
  | .error cause =>
      failDuring ("Failed to write: " ++ Text.quoted output.path.text) (.storage cause)
  effect (Host.run (Logged.note .debug "wrote generated file"
    [("schema", .plain output.schemaFile), ("output", .plain output.path.text)]))

/-- Writes files one after the other, up to the first that cannot be written. -/
def writeOutputs : List Output → ExceptT CommandError m Unit
  | [] => pure ()
  | output :: rest => do
      writeOutput output
      writeOutputs rest

def textsOf (schema : Schema) (configuration : Configuration) :
    ExceptT CommandError m (List (String × String)) := do
  match ← effect (Host.run (generateTexts schema configuration)) with
  | .error failure => throw (.failure failure)
  | .ok texts => return texts

/-- Writes the code generated for a schema below a directory, and gives the paths of the
    files. -/
def generateAll (schema : Schema) (configuration : Configuration) (directory : Path) :
    ExceptT CommandError m (List Path) := do
  let texts ← textsOf schema configuration
  match planOutputs directory configuration.outputSuffix [] texts with
  | .error cause => throw cause
  | .ok outputs =>
      writeOutputs outputs
      return outputs.map (·.path)

/-- The output directory that stands for the standard output. -/
def standardOutput : Path := ⟨"-"⟩

/-- Generates code from a schema file into a directory, or to the standard output. -/
def generate (input output : Path) (configuration : Configuration) :
    ExceptT CommandError m Unit := do
  let schema ← loadSchema input
  -- A slash behind the hyphen changes nothing, but a dot in front of it names a directory.
  if output.components = standardOutput.components then
    for (_, text) in ← textsOf schema configuration do
      effect (Host.print text)
  else
    let written ← generateAll schema configuration output
    for path in written do
      effect (Host.print ("Wrote " ++ path.text ++ "\n"))
    effect (Host.run (Logged.note .info "generation complete"
      [("files", .plain (toString written.length))]))

/-- Checks a schema file and a configuration, and prints a summary. -/
def check (input : Path) (configuration : Configuration) : ExceptT CommandError m Unit := do
  effect (Host.print ("Checking descriptors: " ++ input.text ++ "\n"))
  let schema ← loadSchema input
  match ← effect (Host.run (checkSchema schema configuration)) with
  | .error failure => throw (.failure failure)
  | .ok report =>
      effect (Host.print (
        "✓ Files: " ++ toString report.files ++ "\n" ++
        "✓ Messages: " ++ toString report.messages ++ "\n" ++
        "✓ Declared defaults: " ++ toString report.declaredDefaults ++ "\n" ++
        "✓ Passes: " ++ String.intercalate ", " report.passes ++ "\n" ++
        "\nDescriptors are valid!\n"))

/-- Lists the passes on offer, their names in a column of twelve. -/
def passes : ExceptT CommandError m Unit := do
  for pass in Catalog.available do
    let padding := String.ofList (List.replicate (12 - pass.name.length) ' ')
    effect (Host.print (pass.name ++ padding ++ " " ++ pass.description ++ "\n"))

end SchemaDefaults.Command
