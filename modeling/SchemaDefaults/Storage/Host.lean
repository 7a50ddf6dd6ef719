import SchemaDefaults.Log.Handle
import SchemaDefaults.Log.Record
import SchemaDefaults.Storage.Disk

/-! # What a program needs from its surroundings

Commands are written against `Host`: files, the standard output, the error output and a
log with a level. A `World` is such a surrounding as a value, in which every effect of a
command can be looked at afterwards.
-/

namespace SchemaDefaults

/-- Surroundings in which commands run. -/
class Host (m : Type → Type) where
  /-- The content of a file. -/
  read : Path → m (Except StorageError ByteArray)
  isFile : Path → m Bool
  isDirectory : Path → m Bool
  makeDirectory : Path → m (Except StorageError Unit)
  write : Path → String → m (Except StorageError Unit)
  /-- Writes to the standard output. -/
  print : String → m Unit
  /-- Writes to the error output. -/
  complain : String → m Unit
  /-- Passes records to the log. -/
  log : List Log.Record → m Unit
  /-- Installs the log at a level, or sets the level of the one installed. Says whether it was
      installed. -/
  installLog : Log.Level → m Bool
  /-- Sets the level of the log. -/
  reloadLog : Log.Level → m (Except Log.ReloadError Unit)

namespace Host

variable {m : Type → Type} [Monad m] [Host m]

/-- Passes the records of a result to the log. -/
def run {α : Type} (logged : Logged α) : m α := do
  Host.log logged.records
  return logged.value

/-- Makes a directory, or leaves alone the one that is there. -/
def ensureDirectory (path : Path) : m (Except StorageError Unit) := do
  match ← Host.makeDirectory path with
  | .error .alreadyExists =>
      if ← Host.isDirectory path then return .ok () else return .error .alreadyExists
  | result => return result

/-- Makes directories one after the other, up to the first that cannot be made. -/
def ensureEach : List Path → m (Except StorageError Unit)
  | [] => return .ok ()
  | path :: rest => do
      match ← ensureDirectory path with
      | .ok () => ensureEach rest
      | .error cause => return .error cause

/-- Goes up from a directory to the first above it that is there or can be made, and makes that
    one. Gives the directories below it that are missing, the uppermost first. -/
def climb (missing : List Path) : List Path → m (Except StorageError (List Path))
  | [] => return .ok missing
  | path :: above => do
      if path.text.isEmpty ∨ path.parent?.isNone then return .ok missing
      match ← ensureDirectory path with
      | .ok () => return .ok missing
      | .error .notFound => climb (path :: missing) above
      | .error cause => return .error cause

/-- Makes a directory and all that are missing above it. What was made before an error stays. -/
def makeDirectories (path : Path) : m (Except StorageError Unit) := do
  match ← climb [] path.ancestors with
  | .ok missing => ensureEach missing
  | .error cause => return .error cause

end Host

/-- A call that is meant to change the disk, and what became of it. -/
inductive DiskCall where
  | makeDirectory (path : Path) (result : Except StorageError Unit)
  | write (path : Path) (text : String) (result : Except StorageError Unit)

/-- Surroundings as a value. The log goes to the error output. -/
structure World where
  disk : Disk
  /-- The calls made on the disk so far, in order. -/
  calls : List DiskCall
  output : String
  errors : String
  log : Log.Handle

namespace World

/-- A world with a given disk in which nothing has happened yet. -/
def fresh (disk : Disk) : World := ⟨disk, [], "", "", .detached⟩

/-- The world after a call: the disk is what the call made of it, or stays as it was. -/
def afterCall (world : World) (outcome : Except StorageError Disk)
    (call : Except StorageError Unit → DiskCall) : Except StorageError Unit × World :=
  match outcome with
  | .ok disk => (.ok (), { world with disk, calls := world.calls ++ [call (.ok ())] })
  | .error cause => (.error cause, { world with calls := world.calls ++ [call (.error cause)] })

instance : Host (StateM World) where
  read path := do return (← get).disk.read path
  isFile path := do return (← get).disk.isFile path
  isDirectory path := do return (← get).disk.isDirectory path
  makeDirectory path := modifyGet fun world =>
    world.afterCall (world.disk.makeDirectory path) (.makeDirectory path)
  write path text := modifyGet fun world =>
    world.afterCall (world.disk.write path text.toUTF8) (.write path text)
  print text := modify fun world => { world with output := world.output ++ text }
  complain text := modify fun world => { world with errors := world.errors ++ text }
  log records := modify fun world =>
    { world with errors := world.errors ++ Log.text world.log.filter records }
  installLog level := modifyGet fun world =>
    let (installed, log) := world.log.install level
    (installed, { world with log })
  reloadLog level := modifyGet fun world =>
    let (result, log) := world.log.reload level
    (result, { world with log })

end World

end SchemaDefaults
