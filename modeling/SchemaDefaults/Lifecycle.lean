import SchemaDefaults.Failure

/-! # Lifecycle of a generator

Passes are registered first, then initialized, and only then files can be generated. An
error at any point is final.
-/

namespace SchemaDefaults

/-- The state of a generator. -/
inductive Lifecycle where
  /-- Passes can be registered. -/
  | registered
  /-- All passes are initialized and files can be generated. -/
  | initialized
  /-- A pass failed. -/
  | failed
  deriving Repr, DecidableEq

namespace Lifecycle

def name : Lifecycle → String
  | .registered => "Registered"
  | .initialized => "Initialized"
  | .failed => "Failed"

/-- The steps from one state to another. -/
def canBecome : Lifecycle → Lifecycle → Bool
  | .registered, .initialized => true
  | .registered, .failed => true
  | .initialized, .failed => true
  | _, _ => false

def canGenerate (state : Lifecycle) : Bool := state == .initialized

def canRegister (state : Lifecycle) : Bool := state == .registered

/-- Refuses an operation because it needs another state. -/
def refusal (expected actual : Lifecycle) : Failure :=
  .invalidState expected.name actual.name

/-- The state after a step, if there is such a step. -/
def become (state target : Lifecycle) : Except Failure Lifecycle :=
  if state.canBecome target then .ok target
  else .error (.invalidState ("state that can transition to " ++ target.name) state.name)

end Lifecycle

end SchemaDefaults
