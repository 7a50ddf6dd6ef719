import SchemaDefaults.Defaulter.Pass
import SchemaDefaults.Session

/-! # The passes on offer

The passes that a configuration can name, and the session that runs the passes of a
configuration.
-/

namespace SchemaDefaults.Catalog

/-- A fresh pass for each kind on offer. -/
def available : List (Pass Defaulter) := [Defaulter.pass none]

/-- A fresh pass of a given name. -/
def pass? (name : String) : Option (Pass Defaulter) :=
  available.find? (·.name == name)

/-- Registers the passes of given names, in their order. -/
def registerAll (session : Session Defaulter) :
    List String → Logged (Except Failure (Session Defaulter))
  | [] => pure (.ok session)
  | name :: rest =>
      match pass? name with
      | none => pure (.error (.unknownPass name))
      | some pass => do
          let (result, session) ← session.register pass
          match result with
          | .error failure => return .error failure
          | .ok () => registerAll session rest

/-- The initialized session that runs the passes of a configuration. -/
def session (configuration : Configuration) : Logged (Except Failure (Session Defaulter)) := do
  match ← registerAll (.start configuration) configuration.passes with
  | .error failure => return .error failure
  | .ok session =>
      let (result, session) ← session.init
      return result.map fun _ => session

end SchemaDefaults.Catalog
