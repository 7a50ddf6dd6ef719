import SchemaDefaults.Proofs.Decoding
import SchemaDefaults.Proofs.Readable

/-! # Values that differ in their options

Options are kept as they are given, so nothing in them can stop a schema from being loaded. Two
values that differ in options only are loaded as schemas that differ in options only, and where
what can be read of the options is the same, they are the same once all the rest of the options
is dropped.
-/

namespace SchemaDefaults

/-- The keys under which options are looked up: those of files and fields for a text, those of
    messages for a truth value. Without a key nothing is looked up. -/
structure OptionKeys where
  file : Option String
  message : Option String
  field : Option String

def OptionKeys.unread : OptionKeys := ⟨none, none, none⟩

namespace Options

/-- The text that can be read under a key, if there is a key. -/
def textUnder (key : Option String) (options : Option Json) : Option String :=
  key.bind (text? options)

/-- The truth value that can be read under a key, if there is a key. -/
def truthUnder (key : Option String) (options : Option Json) : Option Bool :=
  key.bind (truth? options)

/-- Options with nothing in them but the text that can be read under a key. -/
def onlyText (key : Option String) (options : Option Json) : Option Json :=
  key.bind fun key => (text? options key).map fun text => .object [(key, .string text)]

/-- Options with nothing in them but the truth value that can be read under a key. -/
def onlyTruth (key : Option String) (options : Option Json) : Option Json :=
  key.bind fun key => (truth? options key).map fun truth => .object [(key, .bool truth)]

theorem option?_given (options : Option Json) (key : String) :
    option? (Decode.given options) key = option? options key := by
  unfold Decode.given
  split
  · rfl
  · rfl

theorem onlyText_given (key : Option String) (options : Option Json) :
    onlyText key (Decode.given options) = onlyText key options := by
  simp only [onlyText, text?, option?_given]

theorem onlyTruth_given (key : Option String) (options : Option Json) :
    onlyTruth key (Decode.given options) = onlyTruth key options := by
  simp only [onlyTruth, truth?, option?_given]

theorem onlyText_congr {key : Option String} {left right : Option Json}
    (same : textUnder key left = textUnder key right) : onlyText key left = onlyText key right := by
  cases key with
  | none => rfl
  | some key => exact congrArg (Option.map _) same

theorem onlyTruth_congr {key : Option String} {left right : Option Json}
    (same : truthUnder key left = truthUnder key right) :
    onlyTruth key left = onlyTruth key right := by
  cases key with
  | none => rfl
  | some key => exact congrArg (Option.map _) same

theorem text?_onlyText (key : String) (options : Option Json) :
    text? (onlyText (some key) options) key = text? options key := by
  rw [onlyText, Option.bind_some]
  cases text? options key with
  | none => rfl
  | some text => simp [text?, option?, Json.member?, Json.asText?]

theorem truth?_onlyTruth (key : String) (options : Option Json) :
    truth? (onlyTruth (some key) options) key = truth? options key := by
  rw [onlyTruth, Option.bind_some]
  cases truth? options key with
  | none => rfl
  | some truth => simp [truth?, option?, Json.member?, Json.asTruth?]

end Options

namespace Schema

open Decode Options

/-! ## Reduced options -/

def Field.reduce (keys : OptionKeys) (field : Field) : Field :=
  { field with options := onlyText keys.field field.options }

mutual

/-- Drops everything from the options of a message and of all inside it but what is looked up. -/
def Message.reduce (keys : OptionKeys) : Message → Message
  | ⟨name, fields, nested, options⟩ =>
      ⟨name, fields.map (Field.reduce keys), Message.reduceAll keys nested,
        onlyTruth keys.message options⟩

def Message.reduceAll (keys : OptionKeys) : List Message → List Message
  | [] => []
  | message :: rest => message.reduce keys :: Message.reduceAll keys rest

end

def File.reduce (keys : OptionKeys) (file : File) : File :=
  { file with
    messages := Message.reduceAll keys file.messages
    options := onlyText keys.file file.options }

/-- Drops everything from all options of a schema but what is looked up in them. -/
def reduce (keys : OptionKeys) (schema : Schema) : Schema :=
  ⟨schema.files.map (File.reduce keys)⟩

theorem Message.reduceAll_eq (keys : OptionKeys) (messages : List Message) :
    Message.reduceAll keys messages = messages.map (Message.reduce keys) := by
  induction messages with
  | nil => rfl
  | cons message rest ih => rw [Message.reduceAll, ih, List.map_cons]

/-! ## Names do not depend on options -/

theorem fieldsNamed_reduce (keys : OptionKeys) (file message : String) (fields : List Field) :
    fieldsNamed file message (fields.map (Field.reduce keys)) = fieldsNamed file message fields := by
  induction fields with
  | nil => rfl
  | cons field rest ih => simp only [List.map_cons, fieldsNamed, ih, Field.reduce]

mutual

theorem Message.named_reduce (keys : OptionKeys) (file : String) (message : Message) :
    (message.reduce keys).named file = message.named file := by
  match message with
  | ⟨name, fields, nested, options⟩ =>
      simp only [Message.reduce, Message.named, fieldsNamed_reduce]
      rw [Message.allNamed_reduceAll keys file nested]

theorem Message.allNamed_reduceAll (keys : OptionKeys) (file : String) (messages : List Message) :
    Message.allNamed file (Message.reduceAll keys messages) = Message.allNamed file messages := by
  match messages with
  | [] => rfl
  | message :: rest =>
      simp only [Message.reduceAll, Message.allNamed]
      rw [Message.named_reduce keys file message, Message.allNamed_reduceAll keys file rest]

end

theorem validate_reduce (keys : OptionKeys) (schema : Schema) :
    (schema.reduce keys).validate = schema.validate := by
  have named : filesNamed (schema.files.map (File.reduce keys)) = filesNamed schema.files := by
    induction schema.files with
    | nil => rfl
    | cons file rest ih =>
        simp only [List.map_cons, filesNamed, ih, File.named, File.reduce,
          Message.allNamed_reduceAll]
  rw [validate, reduce, named, validate]

/-! ## Values that differ in options only -/

/-- Parts that are the same, or lists whose items are related. -/
inductive Listed (related : Json → Json → Prop) : Option Json → Option Json → Prop where
  | same (found : Option Json) : Listed related found found
  | items {left right : List Json} :
      List.Forall₂ related left right → Listed related (some (.array left)) (some (.array right))

/-- Members that agree under all keys but some. -/
def AgreeBut (keys : List String) (left right : List (String × Json)) : Prop :=
  ∀ key, key ∉ keys → Keyed.find? key left = Keyed.find? key right

theorem AgreeBut.refl (keys : List String) (members : List (String × Json)) :
    AgreeBut keys members members :=
  fun _ _ => rfl

theorem AgreeBut.cons {keys : List String} {left right : List (String × Json)} {key : String}
    {value other : Json} (same : key ∈ keys ∨ value = other) (rest : AgreeBut keys left right) :
    AgreeBut keys ((key, value) :: left) ((key, other) :: right) := by
  intro name outside
  rw [Keyed.find?_cons, Keyed.find?_cons]
  split
  case isTrue found =>
    have known : key ∉ keys := found ▸ outside
    rw [same.resolve_left known]
  case isFalse => exact rest name outside

/-- Values that stand for one field with two sets of options. What is looked up in them is the
    same. -/
inductive Field.Reannotated (keys : OptionKeys) : Json → Json → Prop where
  | same (value : Json) : Field.Reannotated keys value value
  | object {left right : List (String × Json)} :
      AgreeBut ["options"] left right →
      textUnder keys.field (Keyed.find? "options" left) =
        textUnder keys.field (Keyed.find? "options" right) →
      Field.Reannotated keys (.object left) (.object right)

/-- Values that stand for one message, in which messages and fields have two sets of options. -/
inductive Message.Reannotated (keys : OptionKeys) : Json → Json → Prop where
  | same (value : Json) : Message.Reannotated keys value value
  | object {left right : List (String × Json)} :
      AgreeBut ["options", "fields", "nested_types"] left right →
      truthUnder keys.message (Keyed.find? "options" left) =
        truthUnder keys.message (Keyed.find? "options" right) →
      Listed (Field.Reannotated keys)
        (Keyed.find? "fields" left) (Keyed.find? "fields" right) →
      Listed (Message.Reannotated keys)
        (Keyed.find? "nested_types" left) (Keyed.find? "nested_types" right) →
      Message.Reannotated keys (.object left) (.object right)

/-- Values that stand for one file, with two sets of options for all there is in it. -/
inductive File.Reannotated (keys : OptionKeys) : Json → Json → Prop where
  | same (value : Json) : File.Reannotated keys value value
  | object {left right : List (String × Json)} :
      AgreeBut ["options", "messages"] left right →
      textUnder keys.file (Keyed.find? "options" left) =
        textUnder keys.file (Keyed.find? "options" right) →
      Listed (Message.Reannotated keys)
        (Keyed.find? "messages" left) (Keyed.find? "messages" right) →
      File.Reannotated keys (.object left) (.object right)

/-- Values that stand for one set of files, or for a single one, and differ in options only. What
    is looked up in the options is the same. -/
inductive Reannotated (keys : OptionKeys) : Json → Json → Prop where
  | set {left right : List (String × Json)} :
      AgreeBut ["files"] left right → Keyed.find? "files" left ≠ none →
      Listed (File.Reannotated keys) (Keyed.find? "files" left) (Keyed.find? "files" right) →
      Reannotated keys (.object left) (.object right)
  | single {left right : Json} : left.member? "files" = none →
      File.Reannotated keys left right → Reannotated keys left right

/-! ## Loading them -/

variable {α : Type} {keys : OptionKeys}

/-- If a decoder gives related items the same reduced results, so it does for lists of them. -/
theorem forall₂_decoded {related : Json → Json → Prop} {item : Decoder α} {reduced : α → α}
    {lefts rights : List Json} (pairs : List.Forall₂ related lefts rights)
    (each : ∀ left ∈ lefts, ∀ right, related left right → ∀ result, item left = .ok result →
      ∃ other, item right = .ok other ∧ reduced result = reduced other)
    {results : List α}
    (decoded : List.Forall₂ (fun value result => item value = .ok result) lefts results) :
    ∃ others, List.Forall₂ (fun value result => item value = .ok result) rights others ∧
      results.map reduced = others.map reduced := by
  induction pairs generalizing results with
  | nil =>
      cases decoded
      exact ⟨[], .nil, rfl⟩
  | cons pair _ ih =>
      cases decoded with
      | cons first rest =>
          obtain ⟨head, headDecoded, headSame⟩ := each _ List.mem_cons_self _ pair _ first
          obtain ⟨tail, tailDecoded, tailSame⟩ :=
            ih (fun left member => each left (List.mem_cons_of_mem _ member)) rest
          exact ⟨head :: tail, .cons headDecoded tailDecoded,
            by rw [List.map_cons, List.map_cons, headSame, tailSame]⟩

theorem Listed.decoded {related : Json → Json → Prop} {item : Decoder α} {reduced : α → α}
    {left right : Option Json} (listed : Listed related left right)
    (each : ∀ items, left = some (.array items) → ∀ value ∈ items, ∀ other, related value other →
      ∀ result, item value = .ok result →
        ∃ otherResult, item other = .ok otherResult ∧ reduced result = reduced otherResult)
    {results : List α} (decoded : part (list item) [] left = .ok results) :
    ∃ others, part (list item) [] right = .ok others ∧
      results.map reduced = others.map reduced := by
  cases listed with
  | same => exact ⟨results, decoded, rfl⟩
  | items pairs =>
      obtain ⟨items, found, given⟩ := part_list_ok_iff.mp decoded
      obtain rfl := Option.some.inj found
      obtain ⟨others, othersDecoded, same⟩ := forall₂_decoded pairs (each _ rfl) given
      exact ⟨others, part_list_ok_iff.mpr ⟨_, rfl, othersDecoded⟩, same⟩

theorem Listed.ne_none {related : Json → Json → Prop} {left right : Option Json}
    (listed : Listed related left right) (present : left ≠ none) : right ≠ none := by
  cases listed with
  | same => exact present
  | items => nofun

theorem Field.Reannotated.decoded {left right : Json} {field : Field}
    (changed : Field.Reannotated keys left right) (decoded : Field.decode left = .ok field) :
    ∃ other, Field.decode right = .ok other ∧ field.reduce keys = other.reduce keys := by
  cases changed with
  | same => exact ⟨field, decoded, rfl⟩
  | @object members others agree read =>
      have made := Field.ofMembers_ok_iff.mp decoded
      rw [agree "name" (by decide), agree "number" (by decide), agree "label" (by decide),
        agree "type" (by decide), agree "type_name" (by decide)] at made
      refine ⟨{ field with options := given (Keyed.find? "options" others) },
        Field.ofMembers_ok_iff.mpr { made with options := rfl }, ?_⟩
      simp only [Field.reduce, made.options, onlyText_given, onlyText_congr read]

theorem Message.Reannotated.decoded {left right : Json} {message : Message}
    (changed : Message.Reannotated keys left right) (decoded : Message.decode left = .ok message) :
    ∃ other, Message.decode right = .ok other ∧ message.reduce keys = other.reduce keys := by
  -- By recursion on the value: a nested message is an item of one of its members.
  match left, right, changed with
  | _, _, .same _ => exact ⟨message, decoded, rfl⟩
  | _, _, @Message.Reannotated.object _ members others agree read fields nested =>
      have made := Message.decode_object_ok_iff.mp decoded
      rw [agree "name" (by decide)] at made
      obtain ⟨otherFields, isFields, sameFields⟩ :=
        fields.decoded (fun _ _ _ _ _ pair _ => pair.decoded) made.fields
      obtain ⟨otherNested, isNested, sameNested⟩ :=
        nested.decoded (fun items found value member other pair _ => pair.decoded) made.nested
      refine ⟨⟨message.name, otherFields, otherNested, given (Keyed.find? "options" others)⟩,
        Message.decode_object_ok_iff.mpr ⟨made.name, isFields, isNested, rfl⟩, ?_⟩
      cases message with
      | mk name ownFields ownNested options =>
          obtain rfl : options = given (Keyed.find? "options" members) := made.options
          simp only [Message.reduce, Message.reduceAll_eq, sameFields, sameNested, onlyTruth_given,
            onlyTruth_congr read]
termination_by sizeOf left
decreasing_by
  exact Nat.lt_trans (Json.sizeOf_lt_of_mem member) (Json.sizeOf_lt_of_find? found)

theorem File.Reannotated.decoded {left right : Json} {file : File}
    (changed : File.Reannotated keys left right) (decoded : File.decode left = .ok file) :
    ∃ other, File.decode right = .ok other ∧ file.reduce keys = other.reduce keys := by
  cases changed with
  | same => exact ⟨file, decoded, rfl⟩
  | @object members others agree read messages =>
      have made := File.ofMembers_ok_iff.mp decoded
      rw [agree "name" (by decide), agree "package" (by decide)] at made
      obtain ⟨otherMessages, isMessages, same⟩ :=
        messages.decoded (fun _ _ _ _ _ pair _ => pair.decoded) made.messages
      refine ⟨⟨file.name, file.package, otherMessages, given (Keyed.find? "options" others)⟩,
        File.ofMembers_ok_iff.mpr ⟨made.name, made.package, isMessages, rfl⟩, ?_⟩
      simp only [File.reduce, made.options, Message.reduceAll_eq, same, onlyText_given,
        onlyText_congr read]

theorem File.Reannotated.member?_files {left right : Json}
    (changed : File.Reannotated keys left right) : left.member? "files" = right.member? "files" := by
  cases changed with
  | same => rfl
  | object agree => exact agree "files" (by decide)

theorem Reannotated.decoded {left right : Json} {schema : Schema}
    (changed : Reannotated keys left right) (decoded : decode left = .ok schema) :
    ∃ other, decode right = .ok other ∧ schema.reduce keys = other.reduce keys := by
  cases changed with
  | @set members others _ present files =>
      have several : ofMembers members = .ok schema := by
        obtain ⟨_, whole, _, several⟩ | ⟨missing, _⟩ := decode_ok_iff.mp decoded
        · cases whole
          exact several
        · exact absurd missing present
      obtain ⟨otherFiles, isFiles, same⟩ := files.decoded
        (fun _ _ _ _ _ pair _ => pair.decoded) (ofMembers_ok_iff.mp several)
      refine ⟨⟨otherFiles⟩, decode_ok_iff.mpr (.inl ⟨others, rfl, ?_, ?_⟩), congrArg Schema.mk same⟩
      · exact files.ne_none present
      · exact ofMembers_ok_iff.mpr isFiles
  | single missing file =>
      obtain ⟨_, rfl, present, _⟩ | ⟨_, only, single, rfl⟩ := decode_ok_iff.mp decoded
      · exact absurd missing present
      · obtain ⟨other, otherSingle, same⟩ := file.decoded single
        refine ⟨⟨[other]⟩, decode_ok_iff.mpr (.inr ⟨?_, other, otherSingle, rfl⟩), ?_⟩
        · rw [← file.member?_files, missing]
        · rw [reduce, reduce, List.map_singleton, List.map_singleton, same]

/-- What differs from a schema in its options is loaded if the schema is. -/
theorem Reannotated.loaded {left right : Json} {schema : Schema}
    (changed : Reannotated keys left right) (loaded : ofJson left = .ok schema) :
    ∃ other, ofJson right = .ok other ∧ schema.reduce keys = other.reduce keys := by
  obtain ⟨decoded, valid⟩ := ofJson_ok_iff.mp loaded
  obtain ⟨other, otherDecoded, same⟩ := changed.decoded decoded
  refine ⟨other, ofJson_ok_iff.mpr ⟨otherDecoded, ?_⟩, same⟩
  -- Both are valid or neither is, since reducing the options does not touch a name.
  rw [← validate_reduce keys other, ← same, validate_reduce, valid]

end Schema

end SchemaDefaults
