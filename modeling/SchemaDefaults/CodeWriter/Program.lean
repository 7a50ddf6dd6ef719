import SchemaDefaults.CodeWriter.Basic

/-! # Programs for a writer

The operations of a writer as data, so that a sequence of them can be run, looked at
step by step and reasoned about. A block carries its body and the error with which the
body ends, if it does.
-/

namespace SchemaDefaults.CodeWriter

/-- One operation of a writer; the body of a block may end with an `ε`. -/
inductive Op (ε : Type) where
  | line (text : String)
  | blank
  | indent
  | outdent
  | block (opening closing : String) (body : List (Op ε)) (failure : Option ε)
  deriving Inhabited

/-- What became of an operation: the writer before and after it, and for a block the steps of
    its body with the body's result. -/
inductive Step (ε : Type) where
  | plain (before after : CodeWriter)
  | block (before after : CodeWriter) (steps : List (Step ε)) (result : Except ε Unit)

namespace Step

variable {ε : Type}

def before : Step ε → CodeWriter
  | .plain writer _ => writer
  | .block writer _ _ _ => writer

def after : Step ε → CodeWriter
  | .plain _ writer => writer
  | .block _ writer _ _ => writer

def added (step : Step ε) : String :=
  String.ofList (step.after.text.toList.drop step.before.text.toList.length)

end Step

variable {ε : Type}

/-- The result of a body that ends with an error or without one. -/
def bodyResult : Option ε → Except ε Unit
  | none => .ok ()
  | some failure => .error failure

mutual

def Op.run (writer : CodeWriter) : Op ε → Step ε
  | .line text => .plain writer (writer.line text)
  | .blank => .plain writer writer.blank
  | .indent => .plain writer writer.indent
  | .outdent => .plain writer writer.outdent
  | .block opening closing body failure =>
      let ((steps, result), after) := writer.block opening closing fun inner =>
        let (steps, written) := runAll inner body
        ((steps, bodyResult failure), written)
      .block writer after steps result

/-- Runs operations one after the other, and gives their steps and the writer after them. -/
def runAll (writer : CodeWriter) : List (Op ε) → List (Step ε) × CodeWriter
  | [] => ([], writer)
  | op :: rest =>
      let step := op.run writer
      let (steps, last) := runAll step.after rest
      (step :: steps, last)

end

end SchemaDefaults.CodeWriter
