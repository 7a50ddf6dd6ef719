/-! # Failures of generation

What can go wrong when a generator is driven, with the wording and the stable number of
each kind. Odd schema input is not among it: a pass leaves out what it does not
understand.
-/

namespace SchemaDefaults

/-- Why an operation of the generator fails. -/
inductive Failure where
  /-- The generator is not in the state that the operation needs. -/
  | invalidState (expected actual : String)
  /-- A pass could not be initialized. -/
  | initialization (cause : String)
  /-- The configuration cannot be used. -/
  | configuration (cause : String)
  /-- The descriptors cannot be read or used. -/
  | descriptor (cause : String)
  /-- There is no pass of this name. -/
  | unknownPass (name : String)
  /-- There is a pass of this name already. -/
  | duplicatePass (name : String)
  /-- A pass failed on a file. -/
  | generation (cause : String)
  /-- A pass broke down. -/
  | internal (cause : String)
  deriving Repr, DecidableEq

namespace Failure

def message : Failure → String
  | .invalidState expected actual =>
      "invalid lifecycle state: expected " ++ expected ++ ", got " ++ actual
  | .initialization cause => "initialization failed: " ++ cause
  | .configuration cause => "configuration error: " ++ cause
  | .descriptor cause => "descriptor error: " ++ cause
  | .unknownPass name => "unknown pass: " ++ name
  | .duplicatePass name => "duplicate pass: " ++ name
  | .generation cause => "generation failed: " ++ cause
  | .internal cause => "internal error: " ++ cause

/-- The number of a kind of failure. -/
def code : Failure → Nat
  | .invalidState .. => 1
  | .initialization _ => 2
  | .configuration _ => 3
  | .descriptor _ => 4
  | .unknownPass _ => 5
  | .duplicatePass _ => 6
  | .generation _ => 7
  | .internal _ => 8

end Failure

end SchemaDefaults
