import SchemaDefaults.CodeWriter.Program
import SchemaDefaults.Proofs.MethodText

/-! # What a program writes

A program is run on a writer that holds any text, at any depth. It writes lines, each of them
with its end, and which lines these are depends on the depth alone. A block stands between two
lines at the depth at which it was entered, and it is left at this depth, however its body
indents and outdents and whether the body fails or not.
-/

namespace SchemaDefaults.CodeWriter

variable {ε : Type}

/-- What is written next stands at the beginning of a line. -/
def AtLineStart (text : String) : Prop :=
  text = "" ∨ ∃ before, text = before ++ "\n"

/-- A text is added at the end of a writer, and does not break off within a line. -/
structure Appends (before after : CodeWriter) (added : String) : Prop where
  text : after.text = before.text ++ added
  lineStart : AtLineStart before.text → AtLineStart after.text

/-- The text that operations add, one after the other. -/
def addedBy (writer : CodeWriter) (program : List (Op ε)) : String :=
  String.join ((runAll writer program).1.map Step.added)

/-- The writer that the body of a block is run on. -/
def inside (writer : CodeWriter) (opening : String) : CodeWriter :=
  { writer.line opening with depth := writer.depth + 1 }

def Step.inner : Step ε → List (Step ε)
  | .plain .. => []
  | .block _ _ steps _ => steps

def Step.result? : Step ε → Option (Except ε Unit)
  | .plain .. => none
  | .block _ _ _ result => some result

/-! ## The lines of a program -/

structure Line where
  depth : Nat
  text : String

def Line.written (line : Line) : String :=
  lineText line.depth line.text

def writtenLines (lines : List Line) : String :=
  String.join (lines.map Line.written)

/-- The depth that an operation leaves. -/
def Op.depthFrom (depth : Nat) : Op ε → Nat
  | .line _ | .blank | .block .. => depth
  | .indent => depth + 1
  | .outdent => depth - 1

def depthAfter (depth : Nat) (program : List (Op ε)) : Nat :=
  program.foldl Op.depthFrom depth

mutual

/-- The lines that an operation writes at a depth. -/
def Op.lines (depth : Nat) : Op ε → List Line
  | .line text => [⟨depth, text⟩]
  | .blank => [⟨depth, ""⟩]
  | .indent | .outdent => []
  | .block opening closing body _ =>
      ⟨depth, opening⟩ :: programLines (depth + 1) body ++ [⟨depth, closing⟩]

/-- The lines that operations write from a depth on. -/
def programLines (depth : Nat) : List (Op ε) → List Line
  | [] => []
  | op :: rest => op.lines depth ++ programLines (op.depthFrom depth) rest

end

@[simp] theorem writtenLines_nil : writtenLines [] = "" := rfl

@[simp] theorem writtenLines_cons (line : Line) (rest : List Line) :
    writtenLines (line :: rest) = line.written ++ writtenLines rest := by
  simp [writtenLines]

@[simp] theorem writtenLines_append (first second : List Line) :
    writtenLines (first ++ second) = writtenLines first ++ writtenLines second := by
  simp [writtenLines]

theorem AtLineStart.append_lines {text : String} (start : AtLineStart text) (lines : List Line) :
    AtLineStart (text ++ writtenLines lines) := by
  induction lines generalizing text with
  | nil => simpa using start
  | cons line rest ih =>
      have ended : AtLineStart (text ++ line.written) := by
        unfold Line.written lineText
        rw [← String.append_assoc]
        exact .inr ⟨_, rfl⟩
      rw [writtenLines_cons, ← String.append_assoc]
      exact ih ended

/-! ## They are what is written -/

theorem line_eq (writer : CodeWriter) (text : String) :
    writer.line text = ⟨writer.text ++ (Line.mk writer.depth text).written, writer.depth⟩ := rfl

theorem Op.after_block (writer : CodeWriter) (opening closing : String) (body : List (Op ε))
    (failure : Option ε) :
    ((Op.block opening closing body failure).run writer).after =
      (CodeWriter.mk (runAll (writer.inside opening) body).2.text writer.depth).line closing := rfl

mutual

theorem Op.after_run (op : Op ε) (writer : CodeWriter) :
    (op.run writer).after =
      ⟨writer.text ++ writtenLines (op.lines writer.depth), op.depthFrom writer.depth⟩ := by
  match op with
  | .line text =>
      rw [Op.lines, writtenLines_cons, writtenLines_nil, String.append_empty]
      rfl
  | .blank =>
      rw [Op.lines, writtenLines_cons, writtenLines_nil, String.append_empty]
      rfl
  | .indent | .outdent =>
      rw [Op.lines, writtenLines_nil, String.append_empty]
      rfl
  | .block opening closing body failure =>
      have inner := runAll_after body (writer.inside opening)
      rw [Op.after_block, inner, line_eq, Op.lines]
      simp only [inside, line_eq, writtenLines_append, writtenLines_cons, writtenLines_nil,
        String.append_empty, String.append_assoc, Op.depthFrom]

theorem runAll_after (program : List (Op ε)) (writer : CodeWriter) :
    (runAll writer program).2 =
      ⟨writer.text ++ writtenLines (programLines writer.depth program),
        depthAfter writer.depth program⟩ := by
  match program with
  | [] =>
      rw [programLines, writtenLines_nil, String.append_empty]
      rfl
  | op :: rest =>
      have first := op.after_run writer
      have others := runAll_after rest (op.run writer).after
      rw [runAll, others, first, programLines, writtenLines_append, String.append_assoc]
      rfl

end

theorem Op.before_run (op : Op ε) (writer : CodeWriter) : (op.run writer).before = writer := by
  cases op <;> rfl

theorem Op.added_run (op : Op ε) (writer : CodeWriter) :
    (op.run writer).added = writtenLines (op.lines writer.depth) := by
  unfold Step.added
  rw [op.before_run, op.after_run]
  simp

theorem addedBy_eq (writer : CodeWriter) (program : List (Op ε)) :
    addedBy writer program = writtenLines (programLines writer.depth program) := by
  induction program generalizing writer with
  | nil => rfl
  | cons op rest ih =>
      have others := ih (op.run writer).after
      unfold addedBy at others ⊢
      rw [runAll, List.map_cons, String.join_cons, others, op.added_run, op.after_run, programLines,
        writtenLines_append]

/-! ## Operations and blocks -/

theorem appends_lines {before after : CodeWriter} {lines : List Line}
    (text : after.text = before.text ++ writtenLines lines) :
    Appends before after (writtenLines lines) where
  text := text
  lineStart := by
    intro start
    rw [text]
    exact start.append_lines lines

theorem appends_run (writer : CodeWriter) (op : Op ε) :
    Appends writer (op.run writer).after (op.run writer).added := by
  rw [op.added_run]
  apply appends_lines
  rw [op.after_run]

theorem appends_runAll (writer : CodeWriter) (program : List (Op ε)) :
    Appends writer (runAll writer program).2 (addedBy writer program) := by
  rw [addedBy_eq]
  apply appends_lines
  rw [runAll_after]

/-- An operation on a writer. Depths are compared as integers, so that it shows where they stop. -/
structure Op.Lawful (writer : CodeWriter) (op : Op ε) : Prop where
  appends : Appends writer (op.run writer).after (op.run writer).added
  depth : ((op.run writer).after.depth : Int) =
    match op with
    | .indent => writer.depth + 1
    | .outdent => max 0 ((writer.depth : Int) - 1)
    | _ => writer.depth

theorem Op.lawful (writer : CodeWriter) (op : Op ε) : Op.Lawful writer op where
  appends := appends_run writer op
  depth := by
    rw [op.after_run]
    cases op with
    | line | blank | indent | block => rfl
    | outdent =>
        simp only [Op.depthFrom]
        omega

/-- A step is a block around a body. Its text does not depend on what was written before, nor on
    how the body ends, and the result of the body is passed on whatever it is. -/
structure Encloses (writer : CodeWriter) (opening closing : String) (body : List (Op ε))
    (failure : Option ε) (step : Step ε) : Prop where
  depth : step.after.depth = writer.depth
  added : ∀ inner : CodeWriter, inner.depth = writer.depth + 1 →
    step.added =
      lineText writer.depth opening ++ addedBy inner body ++ lineText writer.depth closing
  steps : step.inner = (runAll (writer.inside opening) body).1
  result : step.result? = some (bodyResult failure)
  passedOn : ∀ {β : Type} (result : CodeWriter → β),
    writer.block opening closing (fun inner => (result inner, (runAll inner body).2)) =
      (result (writer.inside opening), step.after)

theorem encloses_block (writer : CodeWriter) (opening closing : String) (body : List (Op ε))
    (failure : Option ε) :
    Encloses writer opening closing body failure
      ((Op.block opening closing body failure).run writer) where
  depth := rfl
  added := by
    intro inner deeper
    rw [Op.added_run, addedBy_eq, deeper, Op.lines]
    simp [Line.written, String.append_assoc]
  steps := rfl
  result := rfl
  passedOn := fun _ => rfl

/-- Operations only add text, in whole lines, and a block adds its lines with those of its body
    between them and gives the depth back. The writer is any, so this goes for every operation
    in the midst of a program as well. -/
theorem written_in_whole_lines (writer : CodeWriter) :
    (∀ program : List (Op ε), Appends writer (runAll writer program).2 (addedBy writer program)) ∧
      (∀ op : Op ε, Op.Lawful writer op) ∧
      ∀ opening closing (body : List (Op ε)) failure,
        Encloses writer opening closing body failure
          ((Op.block opening closing body failure).run writer) :=
  ⟨appends_runAll writer, Op.lawful writer, encloses_block writer⟩

end SchemaDefaults.CodeWriter
