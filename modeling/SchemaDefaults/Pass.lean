import SchemaDefaults.CodeWriter.Basic
import SchemaDefaults.Configuration.Basic
import SchemaDefaults.Failure
import SchemaDefaults.Log.Record
import SchemaDefaults.Schema.Basic

/-! # Passes

A pass writes its part of the code generated for a file. Passes of one kind share the type
of their state; `PassBehaviour` says what a pass of that kind does when it is initialized
and when it is given a file. The name of a pass never changes.
-/

namespace SchemaDefaults

structure Pass (σ : Type) where
  name : String
  /-- One line about the pass, for listings. -/
  description : String
  state : σ

/-- What passes with states `σ` do. They may change their state, and the text, also when they
    fail. -/
class PassBehaviour (σ : Type) where
  init : Configuration → σ → Logged (Except Failure Unit × σ)
  generate : Schema.File → σ → CodeWriter → Logged (Except Failure Unit × σ × CodeWriter)

namespace Pass

variable {σ : Type} [PassBehaviour σ]

def init (configuration : Configuration) (pass : Pass σ) :
    Logged (Except Failure Unit × Pass σ) := do
  let (result, state) ← PassBehaviour.init configuration pass.state
  return (result, { pass with state })

def generate (file : Schema.File) (pass : Pass σ) (writer : CodeWriter) :
    Logged (Except Failure Unit × Pass σ × CodeWriter) := do
  let (result, state, written) ← PassBehaviour.generate file pass.state writer
  return (result, { pass with state }, written)

end Pass

end SchemaDefaults
