import SchemaDefaults.Command.Run

/-! # The program

Runs a command line against the files and streams of the machine.
-/

namespace SchemaDefaults

/-- The machine that the program runs on, with the state of its log. -/
abbrev Machine := StateT Log.Handle IO

namespace Machine

/-- Whether a number is a given code of the operating system, which some operations negate. -/
def isCode (code number : UInt32) : Bool := number == code || number == 0 - code

/-- The error of an operation on files. -/
def storageError (error : IO.Error) : StorageError :=
  match error with
  | .noFileOrDirectory .. => .notFound
  | .alreadyExists .. => .alreadyExists
  | .inappropriateType _ number _ =>
      if isCode 20 number then .notADirectory
      else if isCode 21 number then .isADirectory
      else .other (toString error)
  | .invalidArgument _ number _ =>
      if isCode 36 number then .nameTooLong else .other (toString error)
  | _ => .other (toString error)

/-- Attempts an operation on a path that a file can have. -/
def attempt {α : Type} (path : Path) (operation : IO α) : Machine (Except StorageError α) := do
  match Disk.admissible path with
  | .error cause => return .error cause
  | .ok () =>
      try return .ok (← operation)
      catch error => return .error (storageError error)

instance : Host Machine where
  read path := attempt path (IO.FS.readBinFile path.text)
  isFile path := do return (← attempt path (IO.FS.readBinFile path.text)).toBool
  isDirectory path := do
    return (← attempt path do (← IO.FS.realPath path.text).isDir) matches .ok true
  makeDirectory path := attempt path (IO.FS.createDir path.text)
  write path text := attempt path (IO.FS.writeFile path.text text)
  print text := do
    let output ← IO.getStdout
    output.putStr text
    output.flush
  complain text := do (← IO.getStderr).putStr text
  log records := do (← IO.getStderr).putStr (Log.text (← get).filter records)
  installLog level := modifyGet (·.install level)
  reloadLog level := modifyGet (·.reload level)

end Machine

end SchemaDefaults

def main (words : List String) : IO UInt32 := do
  let (status, _) ← (SchemaDefaults.Command.run words : SchemaDefaults.Machine UInt32).run .detached
  return status
