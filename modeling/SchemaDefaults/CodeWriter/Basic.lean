/-! # Writing source text

A writer of lines, each indented by as many tabs as the writer is deep. Text is only
ever added at the end.
-/

namespace SchemaDefaults

/-- The text written so far, and the depth at which the next line is written. -/
structure CodeWriter where
  text : String
  depth : Nat
  deriving Repr, DecidableEq

namespace CodeWriter

/-- A writer without text, at depth zero. -/
def empty : CodeWriter := ⟨"", 0⟩

def append (writer : CodeWriter) (text : String) : CodeWriter :=
  { writer with text := writer.text ++ text }

/-- The tabs in front of a line at a given depth. -/
def tabs (depth : Nat) : String :=
  String.ofList (List.replicate depth '\t')

/-- A line at a given depth. An empty line is not indented. -/
def lineText (depth : Nat) (text : String) : String :=
  (if text.isEmpty then "" else tabs depth ++ text) ++ "\n"

def line (writer : CodeWriter) (text : String) : CodeWriter :=
  writer.append (lineText writer.depth text)

def blank (writer : CodeWriter) : CodeWriter :=
  writer.append "\n"

def indent (writer : CodeWriter) : CodeWriter :=
  { writer with depth := writer.depth + 1 }

/-- Goes one level up, not beyond zero. -/
def outdent (writer : CodeWriter) : CodeWriter :=
  { writer with depth := writer.depth - 1 }

/-- Writes an opening line, a body one level deeper, and a closing line at the depth of the
    opening one. The result of the body is passed on. -/
def block {β : Type} (writer : CodeWriter) (opening closing : String)
    (body : CodeWriter → β × CodeWriter) : β × CodeWriter :=
  let opened := writer.line opening
  let (result, written) := body { opened with depth := writer.depth + 1 }
  -- The body may have left any depth behind, or failed.
  (result, { written with depth := writer.depth }.line closing)

def lines (writer : CodeWriter) (texts : List String) : CodeWriter :=
  texts.foldl line writer

end CodeWriter

end SchemaDefaults
