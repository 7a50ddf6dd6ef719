import SchemaDefaults.Lifecycle
import SchemaDefaults.Pass
import SchemaDefaults.Schema.GoPackage
import SchemaDefaults.Text.Cut

/-! # Generation sessions

A session runs passes over schema files, in the order in which they were registered. It
refuses calls that its state does not allow, and after a pass has failed it refuses
everything.
-/

namespace SchemaDefaults

/-- A session: a configuration, a state, and the registered passes in order. -/
structure Session (σ : Type) where
  configuration : Configuration
  state : Lifecycle
  passes : List (Pass σ)

/-- The name of the file generated for a schema file. -/
def outputFileName (schemaFile suffix : String) : String :=
  Text.withoutEnding ".proto" schemaFile ++ suffix

namespace Session

variable {σ : Type}

def start (configuration : Configuration) : Session σ :=
  ⟨configuration, .registered, []⟩

def passNames (session : Session σ) : List String :=
  session.passes.map (·.name)

/-- Adds a pass after those already there. -/
def register (session : Session σ) (pass : Pass σ) : Logged (Except Failure Unit × Session σ) :=
  if !session.state.canRegister then
    pure (.error (Lifecycle.refusal .registered session.state), session)
  else if pass.name ∈ session.passNames then
    pure (.error (.duplicatePass pass.name), session)
  else do
    Logged.note .debug "registered pass" [("pass", .quoted pass.name)]
    return (.ok (), { session with passes := session.passes ++ [pass] })

variable [PassBehaviour σ]

/-- Initializes passes one after the other, up to the first that fails. -/
def initPasses (configuration : Configuration) :
    List (Pass σ) → Logged (Except Failure Unit × List (Pass σ))
  | [] => pure (.ok (), [])
  | pass :: rest => do
      let (result, pass) ← pass.init configuration
      match result with
      | .error cause =>
          return (.error (.initialization (pass.name ++ ": " ++ cause.message)), pass :: rest)
      | .ok () =>
          let (result, rest) ← initPasses configuration rest
          return (result, pass :: rest)

def init (session : Session σ) : Logged (Except Failure Unit × Session σ) :=
  if !session.state.canBecome .initialized then
    pure (.error (Lifecycle.refusal .registered session.state), session)
  else do
    let (result, passes) ← initPasses session.configuration session.passes
    match result with
    | .error failure => return (.error failure, { session with state := .failed, passes })
    | .ok () =>
        Logged.note .info "generator initialized"
          [("passes", .plain (toString session.passes.length))]
        return (.ok (), { session with state := .initialized, passes })

/-- Lets passes write one after the other, up to the first that fails. -/
def generatePasses (file : Schema.File) : List (Pass σ) → CodeWriter →
    Logged (Except Failure Unit × List (Pass σ) × CodeWriter)
  | [], writer => pure (.ok (), [], writer)
  | pass :: rest, writer => do
      Logged.note .debug "running pass" [("pass", .quoted pass.name), ("file", .plain file.name)]
      let (result, pass, writer) ← pass.generate file writer
      match result with
      | .error cause =>
          let place := pass.name ++ " on " ++ file.name
          return (.error (.generation (place ++ ": " ++ cause.message)), pass :: rest, writer)
      | .ok () =>
          let (result, rest, writer) ← generatePasses file rest writer
          return (result, pass :: rest, writer)

/-- The lines at the top of the code generated for a file. -/
def header (fileName goPackage : String) : CodeWriter :=
  CodeWriter.empty
    |>.line "// Code generated by protogen. DO NOT EDIT."
    |>.line ("// source: " ++ fileName)
    |>.blank
    |>.line ("package " ++ goPackage)

/-- The code generated for a file. -/
def generateFile (session : Session σ) (file : Schema.File) :
    Logged (Except Failure String × Session σ) :=
  if !session.state.canGenerate then
    pure (.error (Lifecycle.refusal .initialized session.state), session)
  else do
    let writer := header file.name (← file.goPackage)
    let (result, passes, writer) ← generatePasses file session.passes writer
    match result with
    | .error failure => return (.error failure, { session with state := .failed, passes })
    | .ok () => return (.ok writer.text, { session with passes })

/-! ## Sequences of calls -/

/-- A call on a session. -/
inductive Call (σ : Type) where
  | register (pass : Pass σ)
  | init
  | generate (file : Schema.File)

/-- What a call gives: nothing but its success, or a text. -/
inductive Answer where
  | done
  | text (text : String)
  deriving Repr, DecidableEq

def perform (session : Session σ) : Call σ → Logged (Except Failure Answer × Session σ)
  | .register pass => do
      let (result, session) ← session.register pass
      return (result.map fun _ => .done, session)
  | .init => do
      let (result, session) ← session.init
      return (result.map fun _ => .done, session)
  | .generate file => do
      let (result, session) ← session.generateFile file
      return (result.map .text, session)

/-- Makes calls one after the other, whatever their results. -/
def performAll (session : Session σ) : List (Call σ) →
    Logged (List (Except Failure Answer) × Session σ)
  | [] => pure ([], session)
  | call :: rest => do
      let (result, session) ← session.perform call
      let (results, session) ← performAll session rest
      return (result :: results, session)

end Session

end SchemaDefaults
