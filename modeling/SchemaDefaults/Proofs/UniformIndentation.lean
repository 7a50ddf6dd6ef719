import SchemaDefaults.Proofs.OneLine
import SchemaDefaults.Proofs.WrittenLines

/-! # Indentation is uniform

A program that never goes up from depth zero writes at any other depth what it writes at depth
zero, with the tabs of that depth in front of every line that is not empty.
-/

namespace SchemaDefaults.CodeWriter

variable {ε : Type}

/-- Puts tabs in front of every line of a text that is not empty. -/
def indented (depth : Nat) (text : String) : String :=
  String.intercalate "\n"
    ((Text.linesOf text).map fun line => if line.isEmpty then line else tabs depth ++ line)

/-- In a run of operations, at any depth of nesting, an operation is performed on a writer. -/
inductive Executes : CodeWriter → List (Op ε) → CodeWriter → Op ε → Prop where
  | here {writer : CodeWriter} {op : Op ε} {rest : List (Op ε)} :
      Executes writer (op :: rest) writer op
  | later {writer found : CodeWriter} {op other : Op ε} {rest : List (Op ε)} :
      Executes (op.run writer).after rest found other → Executes writer (op :: rest) found other
  | within {writer found : CodeWriter} {opening closing : String} {body rest : List (Op ε)}
      {failure : Option ε} {other : Op ε} :
      Executes (writer.inside opening) body found other →
      Executes writer (.block opening closing body failure :: rest) found other

theorem not_executes_nil {writer found : CodeWriter} {other : Op ε} :
    ¬Executes writer [] found other := nofun

theorem executes_cons_iff {writer found : CodeWriter} {op other : Op ε} {rest : List (Op ε)} :
    Executes writer (op :: rest) found other ↔
      found = writer ∧ other = op ∨ Executes (op.run writer).after rest found other ∨
        ∃ opening closing body failure, op = .block opening closing body failure ∧
          Executes (writer.inside opening) body found other := by
  constructor
  · intro executed
    cases executed with
    | here => exact .inl ⟨rfl, rfl⟩
    | later executed => exact .inr (.inl executed)
    | within executed => exact .inr (.inr ⟨_, _, _, _, rfl, executed⟩)
  · rintro (⟨rfl, rfl⟩ | executed | ⟨_, _, _, _, rfl, executed⟩)
    · exact .here
    · exact .later executed
    · exact .within executed

/-- The texts that an operation is given are on one line each. Those in the body of a block belong
    to the operations of the body. -/
def Op.OneLine : Op ε → Prop
  | .line text => Text.OneLine text
  | .blank | .indent | .outdent => True
  | .block opening closing _ _ => Text.OneLine opening ∧ Text.OneLine closing

/-- What has to hold of a program that is moved to another depth: when it is run on a writer, no
    text has a line end, and there is always a level to go up. -/
structure Movable (writer : CodeWriter) (program : List (Op ε)) : Prop where
  oneLine : ∀ found op, Executes writer program found op → op.OneLine
  covered : ∀ found, Executes writer program found .outdent → 0 < found.depth

namespace Movable

variable {writer : CodeWriter} {op : Op ε} {rest : List (Op ε)}

theorem tail (movable : Movable writer (op :: rest)) : Movable (op.run writer).after rest where
  oneLine := fun found op executed => movable.oneLine found op (.later executed)
  covered := fun found executed => movable.covered found (.later executed)

theorem body {opening closing : String} {body : List (Op ε)} {failure : Option ε}
    (movable : Movable writer (.block opening closing body failure :: rest)) :
    Movable (writer.inside opening) body where
  oneLine := fun found op executed => movable.oneLine found op (.within executed)
  covered := fun found executed => movable.covered found (.within executed)

theorem head (movable : Movable writer (op :: rest)) : op.OneLine :=
  movable.oneLine writer op .here

end Movable

/-! ## Lines at another depth -/

def Line.deeper (depth : Nat) (line : Line) : Line :=
  ⟨line.depth + depth, line.text⟩

theorem Op.depthFrom_deeper {writer : CodeWriter} {op : Op ε} {rest : List (Op ε)}
    (movable : Movable writer (op :: rest)) (depth : Nat) :
    op.depthFrom (writer.depth + depth) = op.depthFrom writer.depth + depth := by
  cases op with
  | line | blank | block => rfl
  | indent =>
      simp only [Op.depthFrom]
      omega
  | outdent =>
      have above := movable.covered writer .here
      simp only [Op.depthFrom]
      omega

theorem depthAfter_deeper {writer : CodeWriter} {program : List (Op ε)}
    (movable : Movable writer program) (depth : Nat) :
    depthAfter (writer.depth + depth) program = depthAfter writer.depth program + depth := by
  induction program generalizing writer with
  | nil => rfl
  | cons op rest ih =>
      have others := ih movable.tail
      rw [Op.after_run] at others
      unfold depthAfter at others ⊢
      rw [List.foldl_cons, List.foldl_cons, Op.depthFrom_deeper movable, others]

mutual

theorem Op.lines_deeper (op : Op ε) {writer : CodeWriter} {rest : List (Op ε)}
    (movable : Movable writer (op :: rest)) (depth : Nat) :
    op.lines (writer.depth + depth) = (op.lines writer.depth).map (Line.deeper depth) := by
  match op with
  | .line _ | .blank | .indent | .outdent => rfl
  | .block opening closing body failure =>
      have inner : programLines (writer.depth + 1 + depth) body =
          (programLines (writer.depth + 1) body).map (Line.deeper depth) :=
        programLines_deeper body movable.body depth
      rw [Nat.add_right_comm] at inner
      simp only [Op.lines, inner, List.map_cons, List.map_append, List.cons_append, List.map_nil,
        Line.deeper]

theorem programLines_deeper (program : List (Op ε)) {writer : CodeWriter}
    (movable : Movable writer program) (depth : Nat) :
    programLines (writer.depth + depth) program =
      (programLines writer.depth program).map (Line.deeper depth) := by
  match program with
  | [] => rfl
  | op :: rest =>
      have first := op.lines_deeper movable depth
      have others := programLines_deeper rest movable.tail depth
      rw [op.after_run] at others
      rw [programLines, programLines, first, Op.depthFrom_deeper movable, others, List.map_append]

end

/-! ## Lines of one line each -/

mutual

theorem Op.oneLine_lines (op : Op ε) {writer : CodeWriter} {rest : List (Op ε)}
    (movable : Movable writer (op :: rest)) :
    ∀ line ∈ op.lines writer.depth, Text.OneLine line.text := by
  have given := movable.head
  match op with
  | .line text => simpa [Op.lines, Op.OneLine] using given
  | .blank => simp [Op.lines, Text.OneLine]
  | .indent | .outdent => exact nofun
  | .block opening closing body failure =>
      have inner : ∀ line ∈ programLines (writer.depth + 1) body, Text.OneLine line.text :=
        oneLine_programLines body movable.body
      obtain ⟨first, last⟩ := given
      intro line member
      simp only [Op.lines, List.mem_cons, List.mem_append, List.cons_append] at member
      rcases member with rfl | member | rfl | none
      · exact first
      · exact inner line member
      · exact last
      · cases none

theorem oneLine_programLines (program : List (Op ε)) {writer : CodeWriter}
    (movable : Movable writer program) :
    ∀ line ∈ programLines writer.depth program, Text.OneLine line.text := by
  match program with
  | [] => exact nofun
  | op :: rest =>
      have first := op.oneLine_lines movable
      have others := oneLine_programLines rest movable.tail
      rw [op.after_run] at others
      intro line member
      rw [programLines, List.mem_append] at member
      cases member with
      | inl own => exact first line own
      | inr later => exact others line later

end

/-! ## Tabs in front of lines -/

/-- A line without its end. -/
def Line.content (line : Line) : String :=
  if line.text.isEmpty then "" else tabs line.depth ++ line.text

theorem Line.oneLine_content {line : Line} (clean : Text.OneLine line.text) :
    Text.OneLine line.content := by
  have ofTabs : Text.OneLine (tabs line.depth) := by
    simp [Text.OneLine, tabs]
  unfold content
  split
  · exact nofun
  · exact Text.oneLine_append.mpr ⟨ofTabs, clean⟩

theorem tabs_add (first second : Nat) : tabs (first + second) = tabs second ++ tabs first := by
  unfold tabs
  rw [← String.ofList_append, List.replicate_append_replicate, Nat.add_comm]

theorem Line.content_deeper (line : Line) (depth : Nat) :
    (line.deeper depth).content =
      if line.content.isEmpty then line.content else tabs depth ++ line.content := by
  by_cases empty : line.text = ""
  · simp [content, deeper, empty]
  · have filled : line.text.isEmpty = false := by simpa using empty
    simp [content, deeper, filled, tabs_add, String.append_assoc, String.append_eq_empty_iff, empty]

theorem intercalate_ended (texts : List String) :
    String.intercalate "\n" (texts ++ [""]) = String.join (texts.map (· ++ "\n")) := by
  induction texts with
  | nil => rfl
  | cons text rest ih =>
      rw [List.cons_append, String.intercalate_cons_of_ne_nil (by simp), ih, List.map_cons,
        String.join_cons]

theorem writtenLines_eq (lines : List Line) :
    writtenLines lines = String.join ((lines.map Line.content).map (· ++ "\n")) := by
  rw [writtenLines, List.map_map]
  rfl

theorem indented_writtenLines {lines : List Line} (clean : ∀ line ∈ lines, Text.OneLine line.text)
    (depth : Nat) :
    indented depth (writtenLines lines) = writtenLines (lines.map (Line.deeper depth)) := by
  have contents : ∀ text ∈ lines.map Line.content, Text.OneLine text := by
    intro text member
    obtain ⟨line, present, rfl⟩ := List.mem_map.mp member
    exact Line.oneLine_content (clean line present)
  have moved : ∀ line : Line, (if line.content.isEmpty then line.content
      else tabs depth ++ line.content) = (line.deeper depth).content :=
    fun line => (line.content_deeper depth).symm
  rw [indented, writtenLines_eq, Text.linesOf_join contents, List.map_append, List.map_map]
  simp only [Function.comp_def, moved]
  rw [List.map_singleton, if_pos (by decide), intercalate_ended, writtenLines_eq]
  simp only [List.map_map, Function.comp_def]

/-! ## Programs at another depth -/

/-- A program that finds a level to go up whenever it does so from depth zero, and whose texts are
    on one line each, adds at any depth what it adds at depth zero with that many tabs in front
    of every line that is not empty, and it ends as much deeper as it began. -/
theorem moves_with_depth {program : List (Op ε)} {base : String}
    (movable : Movable ⟨base, 0⟩ program) (text : String) (depth : Nat) :
    ∃ added, (runAll ⟨base, 0⟩ program).2.text = base ++ added ∧
      (runAll ⟨text, depth⟩ program).2.text = text ++ indented depth added ∧
      (runAll ⟨text, depth⟩ program).2.depth = (runAll ⟨base, 0⟩ program).2.depth + depth := by
  have lines := programLines_deeper program movable depth
  have ends := depthAfter_deeper movable depth
  have clean := oneLine_programLines program movable
  rw [Nat.zero_add] at lines ends
  refine ⟨writtenLines (programLines 0 program), ?_, ?_, ?_⟩
  · rw [runAll_after]
  · rw [runAll_after, indented_writtenLines clean, lines]
  · rw [runAll_after, runAll_after, ends]

/-- The body goes up to the depth of the block, then deeper than where it began, and fails. -/
def unevenProgram : List (Op Unit) :=
  [.block "begin" "end" [.outdent, .line "b", .blank, .indent, .indent] (some ()), .line "c"]

theorem moves_with_depth_uneven :
    Movable ⟨"a\n", 0⟩ unevenProgram ∧
      (∃ added, (runAll ⟨"a\n", 0⟩ unevenProgram).2.text = "a\n" ++ added ∧
        (runAll ⟨"", 2⟩ unevenProgram).2.text = "" ++ indented 2 added ∧
        (runAll ⟨"", 2⟩ unevenProgram).2.depth = (runAll ⟨"a\n", 0⟩ unevenProgram).2.depth + 2) ∧
      (runAll ⟨"", 2⟩ unevenProgram).2.text =
        "\t\tbegin\n\t\tb\n\n\t\tend\n\t\tc\n" := by
  have movable : Movable ⟨"a\n", 0⟩ unevenProgram := by
    constructor
    · intro found op executed
      simp [unevenProgram, executes_cons_iff, not_executes_nil] at executed
      obtain ⟨_, rfl⟩ | ⟨_, rfl⟩ | ⟨_, rfl⟩ | ⟨_, rfl⟩ | ⟨_, rfl⟩ | ⟨_, rfl⟩ | ⟨_, rfl⟩ := executed
      all_goals simp [Op.OneLine, Text.OneLine]
    · intro found executed
      simp [unevenProgram, executes_cons_iff, not_executes_nil] at executed
      rw [executed]
      decide
  exact ⟨movable, moves_with_depth movable "" 2, by decide +kernel⟩

end SchemaDefaults.CodeWriter
