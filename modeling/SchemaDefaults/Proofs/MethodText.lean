import SchemaDefaults.Defaulter.Method
import SchemaDefaults.Proofs.Readable

/-! # The text of a method

What the pass writes for one message, line by line: which of the fields get an assignment,
in which order, and at which depth every line stands. Writing it adds this text to what is
there already, and leaves the writer as deep as it was.
-/

namespace SchemaDefaults

namespace CodeWriter

/-- A line with its tabs and its end. -/
def lineAt (depth : Nat) (text : String) : String :=
  tabs depth ++ text ++ "\n"

/-- Lines with their tabs and their ends. -/
def linesAt (depth : Nat) (texts : List String) : String :=
  String.join (texts.map (lineAt depth))

@[simp] theorem append_text (writer : CodeWriter) (text : String) :
    (writer.append text).text = writer.text ++ text := rfl

@[simp] theorem append_depth (writer : CodeWriter) (text : String) :
    (writer.append text).depth = writer.depth := rfl

theorem append_append (writer : CodeWriter) (first second : String) :
    (writer.append first).append second = writer.append (first ++ second) := by
  simp only [append, String.append_assoc]

theorem lineText_of_ne_empty (depth : Nat) {text : String} (nonempty : text ≠ "") :
    lineText depth text = lineAt depth text := by
  rw [lineText, String.isEmpty_eq_false_iff.mpr nonempty]
  rfl

theorem line_of_ne_empty (writer : CodeWriter) {text : String} (nonempty : text ≠ "") :
    writer.line text = writer.append (lineAt writer.depth text) := by
  rw [line, lineText_of_ne_empty _ nonempty]

theorem lines_of_ne_empty (writer : CodeWriter) {texts : List String}
    (nonempty : ∀ text ∈ texts, text ≠ "") :
    writer.lines texts = writer.append (linesAt writer.depth texts) := by
  induction texts generalizing writer with
  | nil => simp [lines, linesAt, append]
  | cons text rest ih =>
      have step : writer.lines (text :: rest) = (writer.line text).lines rest := rfl
      rw [step, line_of_ne_empty _ (nonempty text (by simp)),
        ih _ (fun other member => nonempty other (by simp [member])), append_append]
      simp [linesAt]

/-- A block whose lines are all there is its opening line, its lines one tab further in, and its
    closing line. -/
theorem block_lines (writer : CodeWriter) {opening closing : String} {texts : List String}
    (opens : opening ≠ "") (closes : closing ≠ "") (nonempty : ∀ text ∈ texts, text ≠ "") :
    (writer.block opening closing fun inner => ((), inner.lines texts)).2 =
      writer.append (lineAt writer.depth opening ++ linesAt (writer.depth + 1) texts ++
        lineAt writer.depth closing) := by
  simp only [block, line_of_ne_empty _ opens, line_of_ne_empty _ closes,
    lines_of_ne_empty _ nonempty]
  simp only [append, String.append_assoc]

end CodeWriter

namespace Defaulter

open Schema CodeWriter

/-- The assignment of its default to a field: in quotes for a text, as it is for a number, a truth
    value or an enumeration. Repeated fields, messages, groups and bytes have none, and neither
    has a field whose default cannot be read. -/
def assignment? (receiver key : String) (field : Field) : Option String :=
  if field.label = .repeated ∨ field.type ∈ [.message, .group, .bytes] then none
  else (Options.text? field.options key).map fun value =>
    receiver ++ "." ++ GoName.ofField field.name ++ " = " ++
      if field.type = .string then "\"" ++ value ++ "\"" else value

/-- The kind and the version of a message, if one of its fields has the name for that. -/
def identity (settings : Settings) (receiver : String) (message : Message) : List String :=
  if ∃ field ∈ message.fields, field.name = settings.identityField then
    [receiver ++ "." ++ settings.kindField ++ " = \"" ++ message.name ++ "\"",
      receiver ++ "." ++ settings.apiVersionField ++ " = " ++ settings.apiVersionExpr]
  else []

/-- The method of a message at a depth, with the empty lines around it. -/
def methodText (settings : Settings) (placed : PlacedMessage) (depth : Nat) : String :=
  let typeName := GoName.ofPath placed.path
  let receiver := GoName.receiver typeName
  let fields := placed.message.fields
  "\n" ++
    lineAt depth
      ("func (" ++ receiver ++ " *" ++ typeName ++ ") " ++ settings.methodName ++ "() \x7b") ++
    linesAt (depth + 1) (identity settings receiver placed.message) ++
    linesAt (depth + 1) (fields.filterMap (assignment? receiver settings.optionKey)) ++
    lineAt depth "\x7d" ++
    "\n"

/-! ## The lines of a body -/

theorem value_declaredDefault (key : String) (field : Field) :
    (declaredDefault key field).value = Options.text? field.options key :=
  Options.value_lookup_string field.options key

theorem type_unsupported_iff (type : FieldType) :
    type.family = .unsupported ↔ type ∈ [.message, .group, .bytes] := by
  cases type <;> decide

theorem type_string_iff (type : FieldType) : type.family = .string ↔ type = .string := by
  cases type <;> decide

/-- Which family a field has, by its label and its type. -/
theorem family_cases (field : Field) :
    field.family = .unsupported ∧
      (field.label = .repeated ∨ field.type ∈ [.message, .group, .bytes]) ∨
    field.family = .string ∧ field.type = .string ∧
      ¬(field.label = .repeated ∨ field.type ∈ [.message, .group, .bytes]) ∨
    field.family = .scalar ∧ field.type ≠ .string ∧
      ¬(field.label = .repeated ∨ field.type ∈ [.message, .group, .bytes]) := by
  by_cases repeats : field.label = .repeated
  · exact .inl ⟨by simp [Field.family, Field.isRepeated, repeats], .inl repeats⟩
  · have singular : field.family = field.type.family := by
      simp [Field.family, Field.isRepeated, repeats]
    cases family : field.type.family with
    | unsupported =>
        have ignored := (type_unsupported_iff _).mp family
        exact .inl ⟨by rw [singular, family], .inr ignored⟩
    | string =>
        have text := (type_string_iff _).mp family
        exact .inr (.inl ⟨by rw [singular, family], text, by simp [repeats, text]⟩)
    | scalar =>
        have other : field.type ≠ .string := fun text => by
          rw [(type_string_iff _).mpr text] at family
          cases family
        have assigned : field.type ∉ [.message, .group, .bytes] := fun ignored => by
          rw [(type_unsupported_iff _).mpr ignored] at family
          cases family
        exact .inr (.inr ⟨by rw [singular, family], other, not_or.mpr ⟨repeats, assigned⟩⟩)

theorem value_assignment (receiver key : String) (field : Field) :
    (assignment receiver key field).value = assignment? receiver key field := by
  simp only [assignment, Logged.value_bind, value_declaredDefault, assignment?]
  cases Options.text? field.options key with
  | none => simp
  | some value =>
      obtain ⟨family, ignored⟩ | ⟨family, text, assigned⟩ | ⟨family, other, assigned⟩ :=
        family_cases field
      · rw [family, if_pos ignored]
        rfl
      · rw [family, if_neg assigned]
        have opening : " = \"" = " = " ++ "\"" := by decide
        simp only [text, opening, if_true, Option.map_some, Logged.value_pure, String.append_assoc]
      · rw [family, if_neg assigned]
        simp [other]

theorem value_assignments (receiver key : String) (fields : List Field) :
    (assignments receiver key fields).value = fields.filterMap (assignment? receiver key) := by
  induction fields with
  | nil => rfl
  | cons field rest ih =>
      simp only [assignments, Logged.value_bind, Logged.value_pure, value_assignment, ih,
        List.filterMap_cons]
      cases assignment? receiver key field <;> rfl

theorem identityLines_eq (settings : Settings) (receiver : String) (message : Message) :
    identityLines settings receiver message = identity settings receiver message := by
  have carries : (message.field? settings.identityField).isSome = true ↔
      ∃ field ∈ message.fields, field.name = settings.identityField := by
    simp [Message.field?, List.find?_isSome]
  simp only [identityLines, identity, carries]

theorem assignment_ne_empty {receiver key : String} {fields : List Field} {line : String}
    (member : line ∈ fields.filterMap (assignment? receiver key)) : line ≠ "" := by
  obtain ⟨field, _, given⟩ := List.mem_filterMap.mp member
  simp only [assignment?] at given
  split at given
  · cases given
  · obtain ⟨value, _, rfl⟩ := Option.map_eq_some_iff.mp given
    simp [String.append_eq_empty_iff]

theorem identity_ne_empty {settings : Settings} {receiver : String} {message : Message}
    {line : String} (member : line ∈ identity settings receiver message) : line ≠ "" := by
  simp only [identity] at member
  split at member
  · simp only [List.mem_cons, List.not_mem_nil, or_false] at member
    obtain rfl | rfl := member <;> simp [String.append_eq_empty_iff]
  · cases member

/-! ## The method -/

theorem value_emit (settings : Settings) (placed : PlacedMessage) (writer : CodeWriter) :
    (emit settings placed writer).value =
      writer.append (methodText settings placed writer.depth) := by
  have opens : methodHeader (GoName.receiver (GoName.ofPath placed.path))
      (GoName.ofPath placed.path) settings.methodName ≠ "" := by
    simp [methodHeader, String.append_eq_empty_iff]
  simp only [emit, Logged.value_bind, Logged.value_pure, value_assignments, identityLines_eq]
  rw [block_lines _ opens (by decide) ?_]
  · simp only [blank, append_append, append_depth, methodText, methodHeader, linesAt,
      List.map_append, String.join_append, String.append_assoc]
  · intro line member
    rcases List.mem_append.mp member with preamble | assigned
    · exact identity_ne_empty preamble
    · exact assignment_ne_empty assigned

theorem value_render (settings : Settings) (placed : PlacedMessage) :
    (render settings placed).value = methodText settings placed 0 := by
  simp only [render, Logged.value_bind, Logged.value_pure, value_emit, append_text]
  exact String.empty_append

/-- Writing the method of a message keeps the depth and the text written before, and adds the text
    of the method at that depth. Rendering gives the text of the method at depth zero. -/
theorem emit_adds_method (settings : Settings) (placed : PlacedMessage) (writer : CodeWriter) :
    (emit settings placed writer).value.depth = writer.depth ∧
      (emit settings placed writer).value.text =
        writer.text ++ methodText settings placed writer.depth ∧
      (render settings placed).value = methodText settings placed 0 := by
  rw [value_emit]
  exact ⟨rfl, rfl, value_render settings placed⟩

end Defaulter

end SchemaDefaults
