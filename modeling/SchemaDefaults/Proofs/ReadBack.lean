import SchemaDefaults.Proofs.DefaultAccounting
import SchemaDefaults.Proofs.LifecycleOrder
import SchemaDefaults.Proofs.OneLine

/-! # Reading the structure of a schema back

As long as nothing that reaches the text has a line end in it, a reader of the generated code who
looks at its lines alone finds the methods again, in their order and each with its own lines:
what begins like a function is the header of a method, and the next brace that stands alone
closes it. Names and defaults cannot pretend to be either, as every line they are written on
begins with something else.
-/

namespace SchemaDefaults

open Schema Text

/-! ## A reader -/

def opensMethod (line : String) : Bool :=
  "func ".toList.isPrefixOf line.toList

/-- The lines before the first closing brace, if there is one. -/
def untilBrace : List String → Option (List String)
  | [] => none
  | line :: rest => if line = "\x7d" then some [] else (untilBrace rest).map (line :: ·)

/-- The methods among some lines: a header, and what stands between it and the next closing
    brace. -/
def methodsIn : List String → List (String × Option (List String))
  | [] => []
  | line :: rest =>
      if opensMethod line then (line, untilBrace rest) :: methodsIn rest else methodsIn rest

theorem untilBrace_append {lines : List String} (inside : "\x7d" ∉ lines) (rest : List String) :
    untilBrace (lines ++ "\x7d" :: rest) = some lines := by
  induction lines with
  | nil => rfl
  | cons line more ih =>
      obtain ⟨other, others⟩ := not_or.mp (mt List.mem_cons.mpr inside)
      rw [List.cons_append, untilBrace, if_neg (Ne.symm other), ih others]
      rfl

theorem methodsIn_append {lines : List String} (plain : ∀ line ∈ lines, opensMethod line = false)
    (rest : List String) : methodsIn (lines ++ rest) = methodsIn rest := by
  induction lines with
  | nil => rfl
  | cons line more ih =>
      obtain ⟨first, others⟩ := List.forall_mem_cons.mp plain
      rw [List.cons_append, methodsIn, if_neg (by simp [first]), ih others]

/-! ## The lines of a file -/

namespace Defaulter

def headLines (file : File) : List String :=
  ["// Code generated by protogen. DO NOT EDIT.", "// source: " ++ file.name, "",
    "package " ++ file.goPackage.value]

def headerOf (settings : Settings) (placed : PlacedMessage) : String :=
  let typeName := GoName.ofPath placed.path
  methodHeader (GoName.receiver typeName) typeName settings.methodName

/-- The lines between the header of a method and its closing brace. -/
def bodyOf (settings : Settings) (placed : PlacedMessage) : List String :=
  let receiver := GoName.receiver (GoName.ofPath placed.path)
  (identity settings receiver placed.message ++ assigned settings placed).map ("\t" ++ ·)

def methodLines (settings : Settings) (placed : PlacedMessage) : List String :=
  "" :: headerOf settings placed :: (bodyOf settings placed ++ ["\x7d", ""])

def fileLines (settings : Settings) (file : File) : List String :=
  headLines file ++ file.placedMessages.value.flatMap (methodLines settings)

theorem headText_eq (file : File) :
    headText file = String.join ((headLines file).map (· ++ "\n")) := by
  have first : "// Code generated by protogen. DO NOT EDIT.\n" =
      "// Code generated by protogen. DO NOT EDIT." ++ "\n" := by simp
  unfold headText headLines
  rw [first]
  simp only [List.map_cons, List.map_nil, String.join_cons, String.join_nil, String.append_assoc,
    String.empty_append, String.append_empty]

theorem linesAt_one (lines : List String) :
    CodeWriter.linesAt 1 lines = String.join ((lines.map ("\t" ++ ·)).map (· ++ "\n")) := by
  rw [CodeWriter.linesAt, List.map_map]
  rfl

theorem methodText_eq (settings : Settings) (placed : PlacedMessage) :
    methodText settings placed 0 =
      String.join ((methodLines settings placed).map (· ++ "\n")) := by
  have left : ∀ line, CodeWriter.lineAt 0 line = line ++ "\n" := fun line => by
    simp [CodeWriter.lineAt, CodeWriter.tabs]
  simp only [methodText, methodLines, headerOf, methodHeader, bodyOf, assigned, left, linesAt_one,
    Nat.zero_add, List.map_cons, List.map_append, String.join_cons, String.join_append,
    List.map_nil, String.join_nil, String.append_assoc, String.empty_append, String.append_empty]

theorem fileText_eq (settings : Settings) (file : File) :
    headText file ++ methodsText settings file =
      String.join ((fileLines settings file).map (· ++ "\n")) := by
  have methods : ∀ placed : List PlacedMessage,
      String.join (placed.map fun one => methodText settings one 0) =
        String.join ((placed.flatMap (methodLines settings)).map (· ++ "\n")) := by
    intro placed
    induction placed with
    | nil => rfl
    | cons one rest ih =>
        rw [List.map_cons, String.join_cons, methodText_eq, ih, List.flatMap_cons, List.map_append,
          String.join_append]
  simp only [fileLines, methodsText, value_render, methods, headText_eq, List.map_append,
    String.join_append]

/-! ## What begins a line -/

theorem opensMethod_headerOf (settings : Settings) (placed : PlacedMessage) :
    opensMethod (headerOf settings placed) = true := by
  simp [opensMethod, headerOf, methodHeader]

theorem not_opensMethod_headLines {file : File} :
    ∀ line ∈ headLines file, opensMethod line = false := by
  simp [headLines, opensMethod, List.isPrefixOf_cons_cons]

theorem not_opensMethod_bodyOf {settings : Settings} {placed : PlacedMessage} :
    ∀ line ∈ bodyOf settings placed, opensMethod line = false := by
  simp only [bodyOf, List.forall_mem_map]
  simp [opensMethod, List.isPrefixOf_cons_cons]

theorem brace_not_mem_bodyOf (settings : Settings) (placed : PlacedMessage) :
    "\x7d" ∉ bodyOf settings placed := by
  intro member
  obtain ⟨line, _, same⟩ := List.mem_map.mp member
  have first := congrArg (fun text => text.toList.head?) same
  simp at first

/-- A method is read with its own lines, whatever follows. -/
theorem methodsIn_methodLines (settings : Settings) (placed : PlacedMessage) (rest : List String) :
    methodsIn (methodLines settings placed ++ rest) =
      (headerOf settings placed, some (bodyOf settings placed)) :: methodsIn rest := by
  have blank : opensMethod "" = false := by decide
  have closing : ∀ line ∈ ["\x7d", ""], opensMethod line = false := by decide
  have behind : bodyOf settings placed ++ ["\x7d", ""] ++ rest =
      bodyOf settings placed ++ "\x7d" :: ("" :: rest) := by simp
  have closed : untilBrace (bodyOf settings placed ++ ["\x7d", ""] ++ rest) =
      some (bodyOf settings placed) := by
    rw [behind, untilBrace_append (brace_not_mem_bodyOf settings placed)]
  have others : methodsIn (bodyOf settings placed ++ ["\x7d", ""] ++ rest) = methodsIn rest := by
    refine methodsIn_append (fun line member => ?_) rest
    rcases List.mem_append.mp member with inside | after
    · exact not_opensMethod_bodyOf line inside
    · exact closing line after
  rw [methodLines, List.cons_append, List.cons_append, methodsIn, if_neg (by simp [blank]),
    methodsIn, if_pos (opensMethod_headerOf settings placed), closed, others]

theorem methodsIn_fileLines (settings : Settings) (file : File) :
    methodsIn (fileLines settings file ++ [""]) =
      file.placedMessages.value.map fun placed =>
        (headerOf settings placed, some (bodyOf settings placed)) := by
  have each : ∀ placed : List PlacedMessage,
      methodsIn (placed.flatMap (methodLines settings) ++ [""]) =
        placed.map fun one => (headerOf settings one, some (bodyOf settings one)) := by
    intro placed
    induction placed with
    | nil => rfl
    | cons one rest ih =>
        rw [List.flatMap_cons, List.append_assoc, methodsIn_methodLines, ih, List.map_cons]
  rw [fileLines, List.append_assoc, methodsIn_append not_opensMethod_headLines, each]

theorem filter_opensMethod (lines : List String) :
    lines.filter opensMethod = (methodsIn lines).map Prod.fst := by
  induction lines with
  | nil => rfl
  | cons line rest ih =>
      rw [List.filter_cons, methodsIn, ih]
      split <;> rfl

/-! ## Lines without line ends -/

/-- A field has a line of its own: its default can be read, and there are literals of its type. -/
def Assigned (key : String) (field : Field) : Prop :=
  Declares key field ∧ field.family ≠ .unsupported

instance (key : String) (field : Field) : Decidable (Assigned key field) :=
  inferInstanceAs (Decidable (_ ∧ _))

theorem unsupported_iff (field : Field) : field.family = .unsupported ↔ field.Unsupported := by
  obtain ⟨family, ignored⟩ | ⟨family, _, assigned⟩ | ⟨family, _, assigned⟩ := family_cases field
  · exact iff_of_true family ignored
  · exact iff_of_false (by simp [family]) assigned
  · exact iff_of_false (by simp [family]) assigned

theorem assigned_iff (receiver key : String) (field : Field) :
    (assignment? receiver key field).isSome ↔ Assigned key field := by
  rw [isSome_assignment?_iff, Assigned, Ne, unsupported_iff]
  refine and_congr_right fun declares => not_congr ?_
  exact ⟨fun ignores => ignores.2, fun unsupported => ⟨declares, unsupported⟩⟩

/-- Each field that has a line has one, in the order of the fields. -/
theorem forall₂_assigned (receiver key : String) (fields : List Field) :
    List.Forall₂ (fun field line => assignment? receiver key field = some line)
      (fields.filter fun field => Assigned key field)
      (fields.filterMap (assignment? receiver key)) := by
  induction fields with
  | nil => exact .nil
  | cons field rest ih =>
      have has := assigned_iff receiver key field
      cases given : assignment? receiver key field with
      | none =>
          have none : ¬Assigned key field := by simpa [given] using has
          rw [List.filter_cons_of_neg (by simpa using none), List.filterMap_cons_none given]
          exact ih
      | some line =>
          have one : Assigned key field := by simpa [given] using has
          rw [List.filter_cons_of_pos (by simpa using one), List.filterMap_cons_some given]
          exact .cons given ih

/-- No text that reaches the code of a file has a line end in it. -/
structure Unbroken (settings : Settings) (file : File) : Prop where
  fileName : OneLine file.name
  package : OneLine file.goPackage.value
  written : ∀ text ∈ [settings.methodName, settings.kindField, settings.apiVersionField,
    settings.apiVersionExpr], OneLine text
  names : ∀ placed ∈ file.placedMessages.value, ∀ name ∈ placed.path, OneLine name
  fields : ∀ placed ∈ file.placedMessages.value, ∀ field ∈ placed.message.fields,
    Assigned settings.optionKey field →
      OneLine field.name ∧ ∀ value ∈ Options.text? field.options settings.optionKey, OneLine value

section

variable {settings : Settings} {file : File} {placed : PlacedMessage}

theorem oneLine_headerOf (clean : Unbroken settings file)
    (member : placed ∈ file.placedMessages.value) : OneLine (headerOf settings placed) := by
  have typeName := GoName.oneLine_ofPath (clean.names placed member)
  have binding := GoName.oneLine_receiver typeName
  have method := clean.written settings.methodName (by simp)
  simp only [headerOf, methodHeader, oneLine_append, typeName, binding, method]
  decide

theorem oneLine_identity (clean : Unbroken settings file)
    (member : placed ∈ file.placedMessages.value) {receiver : String} (binding : OneLine receiver) :
    ∀ line ∈ identity settings receiver placed.message, OneLine line := by
  obtain ⟨position, stands⟩ := File.exists_standsAt member
  have name : OneLine placed.message.name :=
    clean.names placed member _ (List.mem_of_getLast? stands.last_name)
  have kind := clean.written settings.kindField (by simp)
  have version := clean.written settings.apiVersionField (by simp)
  have expression := clean.written settings.apiVersionExpr (by simp)
  rw [identity]
  split
  · simp only [List.forall_mem_cons, oneLine_append, binding, name, kind, version, expression]
    decide
  · exact nofun

theorem oneLine_assigned (clean : Unbroken settings file)
    (member : placed ∈ file.placedMessages.value) {receiver : String} (binding : OneLine receiver) :
    ∀ line ∈ placed.message.fields.filterMap (assignment? receiver settings.optionKey),
      OneLine line := by
  intro line assigned
  obtain ⟨field, inside, given⟩ := List.mem_filterMap.mp assigned
  have has : Assigned settings.optionKey field := by
    rw [← assigned_iff receiver, given]
    rfl
  obtain ⟨name, readable⟩ := clean.fields placed member field inside has
  rw [assignment?] at given
  split at given
  case isTrue => cases given
  case isFalse =>
    obtain ⟨value, found, rfl⟩ := Option.map_eq_some_iff.mp given
    have literal : OneLine (if field.type = .string then "\"" ++ value ++ "\"" else value) := by
      split
      · simp only [oneLine_append, readable value found]
        decide
      · exact readable value found
    simp only [oneLine_append, binding, GoName.oneLine_ofField name, literal]
    decide

theorem oneLine_fileLines (clean : Unbroken settings file) :
    ∀ line ∈ fileLines settings file, OneLine line := by
  have blank : OneLine "" := by decide
  have brace : OneLine "\x7d" := by decide
  have tab : OneLine "\t" := by decide
  have head : ∀ line ∈ headLines file, OneLine line := by
    simp only [headLines, List.forall_mem_cons, oneLine_append, clean.fileName, clean.package]
    decide
  have method : ∀ placed ∈ file.placedMessages.value, ∀ line ∈ methodLines settings placed,
      OneLine line := by
    intro placed member
    have binding := GoName.oneLine_receiver (GoName.oneLine_ofPath (clean.names placed member))
    have body : ∀ line ∈ bodyOf settings placed, OneLine line := by
      intro line inside
      obtain ⟨content, part, rfl⟩ := List.mem_map.mp inside
      refine oneLine_append.mpr ⟨tab, ?_⟩
      rcases List.mem_append.mp part with preamble | assigned
      · exact oneLine_identity clean member binding content preamble
      · exact oneLine_assigned clean member binding content assigned
    simp only [methodLines, List.forall_mem_cons, List.forall_mem_append]
    exact ⟨blank, oneLine_headerOf clean member, body, brace, blank, List.forall_mem_nil _⟩
  intro line inside
  rcases List.mem_append.mp inside with top | below
  · exact head line top
  · obtain ⟨placed, member, within⟩ := List.mem_flatMap.mp below
    exact method placed member line within

end

/-! ## What is read -/

/-- A method as it is read, and the message that it was written for. -/
structure ReadOf (settings : Settings) (placed : PlacedMessage)
    (read : String × Option (List String)) : Prop where
  header : read.1 = headerOf settings placed
  /-- Behind a tab each: the kind and the version of a message that carries an identity, then the
      assignments of those fields that have one. -/
  body : ∃ assignments, read.2 = some
      ((identity settings (GoName.receiver (GoName.ofPath placed.path)) placed.message ++
        assignments).map ("\t" ++ ·)) ∧
    List.Forall₂
      (fun field line => assignment? (GoName.receiver (GoName.ofPath placed.path))
        settings.optionKey field = some line)
      (placed.message.fields.filter fun field => Assigned settings.optionKey field) assignments

/-- The text of a file, split at its line ends. -/
structure ReadBack (settings : Settings) (file : File) (text : String) : Prop where
  head : (linesOf text).take 4 = ["// Code generated by protogen. DO NOT EDIT.",
    "// source: " ++ file.name, "", "package " ++ file.goPackage.value]
  headers : (linesOf text).filter opensMethod =
    file.placedMessages.value.map (headerOf settings)
  methods : List.Forall₂ (ReadOf settings) file.placedMessages.value (methodsIn (linesOf text))
  ends : ∃ before, text = before ++ "\n"

theorem readOf_bodyOf (settings : Settings) (placed : PlacedMessage) :
    ReadOf settings placed (headerOf settings placed, some (bodyOf settings placed)) :=
  ⟨rfl, _, rfl, forall₂_assigned _ _ _⟩

theorem readBack {settings : Settings} {file : File} (clean : Unbroken settings file) :
    ReadBack settings file (headText file ++ methodsText settings file) := by
  have lines : linesOf (headText file ++ methodsText settings file) =
      fileLines settings file ++ [""] := by
    rw [fileText_eq, linesOf_join (oneLine_fileLines clean)]
  have methods := methodsIn_fileLines settings file
  constructor
  case head =>
    rw [lines]
    rfl
  case headers =>
    rw [lines, filter_opensMethod, methods, List.map_map]
    rfl
  case methods =>
    rw [lines, methods, List.forall₂_map_right_iff, List.forall₂_same]
    exact fun placed _ => readOf_bodyOf settings placed
  case ends =>
    have given : fileLines settings file ≠ [] := by simp [fileLines, headLines]
    obtain ⟨front, last, parted⟩ : ∃ front last, fileLines settings file = front ++ [last] :=
      ⟨_, _, (List.dropLast_concat_getLast given).symm⟩
    refine ⟨String.join (front.map (· ++ "\n")) ++ last, ?_⟩
    rw [fileText_eq, parted, List.map_append, String.join_append, String.append_assoc]
    rfl

end Defaulter

/-! ## Sessions with one pass -/

namespace Session

/-- As soon as a session is initialized, its passes have the settings of its configuration. -/
def Bound (session : Session Defaulter) : Prop :=
  session.state = .initialized → ∀ pass ∈ session.passes, ∃ settings,
    Defaulter.usableSettingsOf session.configuration = .ok settings ∧ pass.state = ⟨some settings⟩

theorem bound_of_init {configuration : Configuration} {pass : Pass Defaulter}
    (succeeds : (PassCall.init configuration pass).Succeeds) : ∃ settings,
      Defaulter.usableSettingsOf configuration = .ok settings ∧
      (PassCall.init configuration pass).after.state = ⟨some settings⟩ := by
  simp only [PassCall.Succeeds, PassCall.result, PassCall.after, PassCall.outcome, Pass.init,
    PassBehaviour.init, Defaulter.init, Logged.value_bind, Logged.value_pure] at succeeds ⊢
  cases usable : Defaulter.usableSettingsOf configuration with
  | ok settings => exact ⟨settings, rfl, rfl⟩
  | error cause =>
      rw [usable] at succeeds
      cases succeeds

theorem state_after_generate (file : File) (pass : Pass Defaulter) (writer : CodeWriter) :
    (PassCall.generate file pass writer).after.state = pass.state := rfl

theorem settle_of_complete {σ : Type} [PassBehaviour σ] {passes : List (Pass σ)}
    {calls : List (PassCall σ)} (round : Round passes calls none) :
    PassCall.settle passes calls = calls.map PassCall.after := by
  rw [PassCall.settle, ← round.complete]
  simp

theorem Move.bound {before after : Session Defaulter} {call : Call Defaulter}
    {calls : List (PassCall Defaulter)} {answer : Except Failure Answer}
    (move : Move before call calls answer after) (bound : before.Bound) : after.Bound := by
  cases move with
  | refused | duplicate => exact bound
  | registered ready =>
      intro initialized
      rw [show before.state = .initialized from initialized] at ready
      cases ready
  | initialized ready inits round =>
      intro _ pass member
      have succeed := round.failure_eq_none_iff.mp rfl
      rw [show _ = calls.map PassCall.after from settle_of_complete round] at member
      obtain ⟨call, made, rfl⟩ := List.mem_map.mp member
      obtain ⟨given, rfl⟩ := inits call made
      exact bound_of_init (succeed _ made)
  | generated ready relay round =>
      intro initialized pass member
      rw [show _ = calls.map PassCall.after from settle_of_complete round] at member
      obtain ⟨call, made, rfl⟩ := List.mem_map.mp member
      obtain ⟨given, writer, rfl⟩ := relay.generates call made
      have within : given ∈ before.passes := by
        rw [← round.complete]
        exact List.mem_map_of_mem made
      rw [state_after_generate]
      exact bound ready given within
  | initFailed | generateFailed => exact nofun

/-- Whatever calls have led to it, a session that is initialized and has the defaulter pass alone is
    ready to run with the settings of its configuration. -/
theorem ready_of_calls {configuration : Configuration} {calls : List (Call Defaulter)}
    {session : Session Defaulter}
    (reached : ((start configuration).performAll calls).value.2 = session)
    (initialized : session.state = .initialized)
    (alone : ∃ bound, session.passes = [Defaulter.pass bound]) : ∃ settings,
      Defaulter.usableSettingsOf configuration = .ok settings ∧
      session = Catalog.ready configuration (some settings) := by
  rw [performAll_eq] at reached
  have bound : session.Bound := reached ▸ steps_keep _ calls Move.bound nofun
  have configured : session.configuration = configuration :=
    reached ▸ steps_keep (P := fun session => session.configuration = configuration) _ calls
      (fun move same => move.configuration_eq.trans same) rfl
  obtain ⟨given, only⟩ := alone
  obtain ⟨settings, usable, state⟩ := bound initialized (Defaulter.pass given) (by simp [only])
  rw [configured] at usable
  refine ⟨settings, usable, ?_⟩
  obtain ⟨_, _, _⟩ := session
  obtain rfl : _ = configuration := configured
  obtain rfl : _ = Lifecycle.initialized := initialized
  obtain rfl : given = some settings := congrArg Defaulter.bound state
  obtain rfl := only
  rfl

/-- If no text that reaches the code has a line end in it, a session that is initialized and has the
    defaulter pass alone gives every file a text from whose lines the structure of the file can be
    read back. -/
theorem schema_read_back {configuration : Configuration} {calls : List (Call Defaulter)}
    {session : Session Defaulter} {file : File}
    (reached : ((start configuration).performAll calls).value.2 = session)
    (initialized : session.state = .initialized)
    (alone : ∃ bound, session.passes = [Defaulter.pass bound])
    (clean : ∀ settings, Defaulter.usableSettingsOf configuration = .ok settings →
      Defaulter.Unbroken settings file) :
    ∃ settings text, Defaulter.usableSettingsOf configuration = .ok settings ∧
      (session.generateFile file).value = (.ok text, session) ∧
      Defaulter.ReadBack settings file text := by
  obtain ⟨settings, usable, rfl⟩ := ready_of_calls reached initialized alone
  exact ⟨settings, _, usable, Catalog.value_generateFile configuration (some settings) file,
    Defaulter.readBack (clean settings usable)⟩

/-- A file whose names and defaults look like the lines around them. The one with a line end in it
    belongs to a field that has no assignment. -/
def disguisedFile : File :=
  let default (text : String) : Option Json := some (.object [("default", .string text)])
  let message : Message := ⟨"\x7d",
    [⟨"metadata", 1, .optional, .string, none, default "func ("⟩,
      ⟨"names", 2, .repeated, .string, none, default "two\nlines"⟩,
      ⟨"\tfunc", 3, .optional, .bool, none, default "\x7d"⟩],
    [⟨"func ", [], [], none⟩], none⟩
  ⟨"func .proto", "", [message], none⟩

theorem schema_read_back_disguised :
    let settings : Defaulter.Settings :=
      { Defaulter.Settings.standard with methodName := "SetDefaults" }
    let session := Catalog.ready renamingConfiguration (some settings)
    ((start renamingConfiguration).performAll
        [.register (Defaulter.pass none), .register (Defaulter.pass none), .init,
          .generate disguisedFile]).value.2 = session ∧
      session.state = .initialized ∧
      (∃ bound, session.passes = [Defaulter.pass bound]) ∧
      Defaulter.Unbroken settings disguisedFile ∧
      ∃ text, (session.generateFile disguisedFile).value = (.ok text, session) ∧
        Defaulter.ReadBack settings disguisedFile text ∧
        (linesOf text).filter opensMethod =
          ["func (\x7d *\x7d) SetDefaults() \x7b", "func (\x7d *\x7dFunc ) SetDefaults() \x7b"] := by
  intro settings session
  have reached : ((start renamingConfiguration).performAll
      [.register (Defaulter.pass none), .register (Defaulter.pass none), .init,
        .generate disguisedFile]).value.2 = session := by rfl
  have usable : Defaulter.usableSettingsOf renamingConfiguration = .ok settings := by rfl
  have clean : Defaulter.Unbroken settings disguisedFile :=
    ⟨by decide +kernel, by decide +kernel, by decide +kernel, by decide +kernel, by decide +kernel⟩
  have headers : disguisedFile.placedMessages.value.map (Defaulter.headerOf settings) =
      ["func (\x7d *\x7d) SetDefaults() \x7b", "func (\x7d *\x7dFunc ) SetDefaults() \x7b"] := by
    decide +kernel
  obtain ⟨found, text, bound, generated, read⟩ := schema_read_back reached rfl ⟨_, rfl⟩
    fun other given => Except.ok.inj (usable.symm.trans given) ▸ clean
  obtain rfl := Except.ok.inj (usable.symm.trans bound)
  exact ⟨reached, rfl, ⟨_, rfl⟩, clean, text, generated, read, read.headers.trans headers⟩

end Session

end SchemaDefaults
