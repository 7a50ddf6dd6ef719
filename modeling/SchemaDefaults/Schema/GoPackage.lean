import SchemaDefaults.Decode.Basic
import SchemaDefaults.Options
import SchemaDefaults.Schema.Basic
import SchemaDefaults.Text.Cut

/-! # The Go package of a file

The option `go_package` names the package, after its first semicolon or, without one, by
the last segment of its import path; dots and dashes, which Go does not allow there,
become underscores. A file whose option gives no name takes the last segment of its
schema package, and `main` if that is empty too.
-/

namespace SchemaDefaults.Schema

/-- The part of an import path that names the package. -/
def packagePart (importPath : String) : List Char :=
  match Text.afterFirst? ';' importPath.toList with
  | some name => name
  | none => Text.afterLast '/' importPath.toList

/-- What becomes of a character of a package name. -/
def packageChar (c : Char) : Char :=
  if c = '.' ∨ c = '-' then '_' else c

/-- The package name that a schema package stands for. -/
def packageOfSchema (package : String) : String :=
  match Text.afterLast '.' package.toList with
  | [] => "main"
  | segment => String.ofList segment

/-- The package of the code generated for a file. -/
def File.goPackage (file : File) : Logged String := do
  let importPath ← Options.lookup Decode.string file.options "go_package"
  return match importPath.map packagePart with
    | none | some [] => packageOfSchema file.package
    | some name => String.ofList (name.map packageChar)

end SchemaDefaults.Schema
