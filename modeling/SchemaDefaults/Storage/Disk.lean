import SchemaDefaults.Storage.Path

/-! # A disk

Directories and files under absolute paths, without links. The operations fail in the ways
in which those of an operating system fail: a path is followed from its first component to
its last, and the first obstacle is reported.
-/

namespace SchemaDefaults

/-- Why an operation on files fails. -/
inductive StorageError where
  | notFound
  | alreadyExists
  | notADirectory
  | isADirectory
  | nameTooLong
  | nulByte
  | notUtf8
  | other (text : String)
  deriving Repr, DecidableEq

def StorageError.message : StorageError → String
  | .notFound => "No such file or directory (os error 2)"
  | .alreadyExists => "File exists (os error 17)"
  | .notADirectory => "Not a directory (os error 20)"
  | .isADirectory => "Is a directory (os error 21)"
  | .nameTooLong => "File name too long (os error 36)"
  | .nulByte => "file name contained an unexpected NUL byte"
  | .notUtf8 => "stream did not contain valid UTF-8"
  | .other text => text

/-- What there is under a path. -/
inductive DiskEntry where
  | file (content : ByteArray)
  | directory

/-- A disk: its entries under their names from the root on, and the current directory. The root
    itself is always there. -/
structure Disk where
  entries : List (List String × DiskEntry)
  current : List String

namespace Disk

/-- What there is at a place. -/
def at? (disk : Disk) (place : List String) : Option DiskEntry :=
  if place = [] then some .directory else disk.entries.lookup place

/-- Puts an entry at a place, in place of the one that was there. -/
def put (disk : Disk) (place : List String) (entry : DiskEntry) : Disk :=
  { disk with entries := (place, entry) :: disk.entries.filter (·.1 ≠ place) }

/-- The longest name of an entry, in bytes. -/
def maxName : Nat := 255

/-- The longest path, in bytes. -/
def maxPath : Nat := 4095

/-- Refuses paths that no file can have. -/
def admissible (path : Path) : Except StorageError Unit :=
  if path.text.toList.contains '\x00' then .error .nulByte
  else if path.text.isEmpty then .error .notFound
  else if maxPath < path.text.utf8ByteSize then .error .nameTooLong
  else .ok ()

/-- The entry of a directory under a name. -/
def child? (disk : Disk) (directory : List String) (name : String) :
    Except StorageError (Option DiskEntry) :=
  if maxName < name.utf8ByteSize then .error .nameTooLong
  else .ok (disk.at? (directory ++ [name]))

/-- Follows segments down from a directory to an entry. Only the last may be a file. -/
def follow (disk : Disk) (directory : List String) :
    List String → Except StorageError (List String × DiskEntry)
  | [] => .ok (directory, .directory)
  | segment :: rest =>
      if segment = "" ∨ segment = "." then follow disk directory rest
      else if segment = ".." then follow disk directory.dropLast rest
      else do
        match ← disk.child? directory segment with
        | none => .error .notFound
        | some .directory => follow disk (directory ++ [segment]) rest
        | some (.file content) =>
            if rest.isEmpty then .ok (directory ++ [segment], .file content)
            else .error .notADirectory

/-- Where a path begins. -/
def origin (disk : Disk) (path : Path) : List String :=
  if path.isAbsolute then [] else disk.current

/-- The entry that a path leads to. -/
def find (disk : Disk) (path : Path) : Except StorageError (List String × DiskEntry) := do
  admissible path
  disk.follow (disk.origin path) path.segments

def isFile (disk : Disk) (path : Path) : Bool :=
  match disk.find path with
  | .ok (_, .file _) => true
  | _ => false

def isDirectory (disk : Disk) (path : Path) : Bool :=
  match disk.find path with
  | .ok (_, .directory) => true
  | _ => false

def read (disk : Disk) (path : Path) : Except StorageError ByteArray := do
  match ← disk.find path with
  | (_, .file content) => .ok content
  | (_, .directory) => .error .isADirectory

/-- Segments without the empty ones at the end, and whether there were any. -/
def dropSlashes (segments : List String) : List String × Bool :=
  let kept := (segments.reverse.dropWhile (· == "")).reverse
  (kept, kept.length != segments.length)

/-- The directory that holds what a path leads to, with the last segment of the path and whether
    slashes follow it. -/
def holder (disk : Disk) (path : Path) :
    Except StorageError (List String × Option String × Bool) := do
  admissible path
  let (segments, slashes) := dropSlashes path.segments
  match ← disk.follow (disk.origin path) segments.dropLast with
  | (directory, .directory) => .ok (directory, segments.getLast?, slashes)
  | (_, .file _) => .error .notADirectory

def makeDirectory (disk : Disk) (path : Path) : Except StorageError Disk := do
  match ← disk.holder path with
  | (_, none, _) | (_, some ".", _) | (_, some "..", _) => .error .alreadyExists
  | (directory, some name, _) =>
      match ← disk.child? directory name with
      | some _ => .error .alreadyExists
      | none => .ok (disk.put (directory ++ [name]) .directory)

/-- Writes a file, in place of the one that was there. -/
def write (disk : Disk) (path : Path) (content : ByteArray) : Except StorageError Disk := do
  match ← disk.holder path with
  -- What a slash follows is meant as a directory, be it there or not.
  | (_, none, _) | (_, some ".", _) | (_, some "..", _) | (_, some _, true) =>
      .error .isADirectory
  | (directory, some name, false) =>
      match ← disk.child? directory name with
      | some .directory => .error .isADirectory
      | _ => .ok (disk.put (directory ++ [name]) (.file content))

end Disk

end SchemaDefaults
