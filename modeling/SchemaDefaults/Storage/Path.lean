import SchemaDefaults.Text.Cut

/-! # Paths

A path is kept as it is written. What it means is its list of components: a slash at the
beginning is the root, and empty segments and dots vanish, a dot at the very beginning
excepted. Paths with the same components are the same path, however they are written.
-/

namespace SchemaDefaults

/-- A path, as it is written. -/
structure Path where
  text : String
  deriving Repr, DecidableEq

/-- One component of a path. -/
inductive Component where
  | root
  /-- A dot at the beginning. -/
  | here
  /-- Two dots. -/
  | up
  | plain (name : String)
  deriving Repr, DecidableEq

namespace Path

/-- The segments between slashes. -/
def segments (path : Path) : List String :=
  (Text.split '/' path.text.toList).map String.ofList

/-- The components that segments after the first stand for. -/
def innerComponents (segments : List String) : List Component :=
  segments.filterMap fun segment =>
    if segment = "" ∨ segment = "." then none
    else if segment = ".." then some .up
    else some (.plain segment)

def components (path : Path) : List Component :=
  match path.segments with
  | [] => []
  | [""] => []
  | "" :: rest => .root :: innerComponents rest
  | "." :: rest => .here :: innerComponents rest
  | segments => innerComponents segments

/-- Whether a path begins at the root. -/
def isAbsolute (path : Path) : Bool :=
  path.text.toList.head? == some '/'

/-- Whether a path only goes down, by plain names. -/
def isPlain (path : Path) : Bool :=
  path.components.all fun
    | .plain _ => true
    | _ => false

/-- The path of something inside a directory. An absolute path stays as it is. -/
def join (directory inner : Path) : Path :=
  if inner.isAbsolute then inner
  else if directory.text.isEmpty ∨ directory.text.toList.getLast? = some '/' then
    ⟨directory.text ++ inner.text⟩
  else ⟨directory.text ++ "/" ++ inner.text⟩

/-- Segments from the last to the first, without those at the end that are no components. -/
def stripEnd : List String → List String
  | [] => []
  | segment :: rest =>
      if (segment = "" ∨ segment = ".") ∧ ¬rest.isEmpty then stripEnd rest else segment :: rest

/-- The path without its last component, unless that is the root or there is none. -/
def parent? (path : Path) : Option Path :=
  match stripEnd path.segments.reverse with
  | [] | [""] => none
  | [_] => some ⟨""⟩
  | _ :: rest =>
      match stripEnd rest with
      | [""] => some ⟨"/"⟩
      | rest => some ⟨String.intercalate "/" rest.reverse⟩

/-- A path and the paths above it, at most so many. -/
def ancestorsWithin : Nat → Path → List Path
  | 0, _ => []
  | count + 1, path =>
      match path.parent? with
      | none => [path]
      | some parent => path :: ancestorsWithin count parent

/-- A path and all paths above it. -/
def ancestors (path : Path) : List Path :=
  -- There are not more paths above it than it has characters.
  ancestorsWithin (path.text.length + 1) path

end Path

end SchemaDefaults
