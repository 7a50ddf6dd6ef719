import SchemaDefaults.Proofs.FirstComplaint
import SchemaDefaults.Proofs.Positions
import SchemaDefaults.Schema.Validity

/-! # Which blank name is reported

A name stands at a place: in one of the files, there at the position of a message or at the top,
and there it is the name of its own or that of a field. Places are ordered by file, then by
position, so that a message comes before those nested in it, then by field, a name of its own
before the names of fields. A schema is refused for the blank name at the first place, at any
depth and also below the entries of a map.
-/

namespace SchemaDefaults.Schema

/-! ## Places -/

/-- Where a name stands. The position is empty for the name of the file, and there is no field
    for the name of a file or of a message. -/
structure Place where
  file : Nat
  position : List Nat
  field : Option Nat

inductive Place.Before : Place → Place → Prop where
  | file {i j : Nat} {p q : List Nat} {f g : Option Nat} : i < j → Before ⟨i, p, f⟩ ⟨j, q, g⟩
  | position {i : Nat} {p q : List Nat} {f g : Option Nat} :
      List.Lex (· < ·) p q → Before ⟨i, p, f⟩ ⟨i, q, g⟩
  | ownName {i : Nat} {p : List Nat} {k : Nat} : Before ⟨i, p, none⟩ ⟨i, p, some k⟩
  | field {i : Nat} {p : List Nat} {k l : Nat} : k < l → Before ⟨i, p, some k⟩ ⟨i, p, some l⟩

theorem Place.Before.asymm {left right : Place} (earlier : left.Before right) :
    ¬right.Before left := by
  intro later
  cases earlier with
  | file less =>
      cases later with
      | file more => omega
      | position | ownName | field => omega
  | position less =>
      cases later with
      | file more => omega
      | position more => exact List.lex_asymm (fun h => by omega) less more
      | ownName | field => exact List.lex_irrefl (fun _ => Nat.lt_irrefl _) _ less
  | ownName =>
      cases later with
      | file more => omega
      | position more => exact List.lex_irrefl (fun _ => Nat.lt_irrefl _) _ more
  | field less =>
      cases later with
      | file more => omega
      | position more => exact List.lex_irrefl (fun _ => Nat.lt_irrefl _) _ more
      | field more => omega

/-- The message at a position, whatever stands around it. -/
def MessageAt (forest : List Message) (position : List Nat) (message : Message) : Prop :=
  ∃ chain, Descent forest position chain ∧ chain.getLast? = some message

/-- A blank name stands at a place, and this is what is said of it. -/
inductive Missing (schema : Schema) : Place → BlankName → Prop where
  | ofFile {index : Nat} {file : File} :
      schema.files[index]? = some file → ¬Text.Filled file.name →
      Missing schema ⟨index, [], none⟩ .ofFile
  | ofMessage {index : Nat} {file : File} {position : List Nat} {message : Message} :
      schema.files[index]? = some file → MessageAt file.messages position message →
      ¬Text.Filled message.name →
      Missing schema ⟨index, position, none⟩ (.ofMessage file.name)
  | ofField {index : Nat} {file : File} {position : List Nat} {message : Message} {place : Nat}
      {field : Field} :
      schema.files[index]? = some file → MessageAt file.messages position message →
      message.fields[place]? = some field → ¬Text.Filled field.name →
      Missing schema ⟨index, position, some place⟩
        (.ofField file.name message.name field.number)

/-- All names have a character other than white space: those of files, of messages at any depth,
    and of their fields. -/
def AllNamed (schema : Schema) : Prop :=
  ∀ file ∈ schema.files, Text.Filled file.name ∧
    ∀ position message, MessageAt file.messages position message →
      Text.Filled message.name ∧ ∀ field ∈ message.fields, Text.Filled field.name

/-! ## All messages of a file -/

/-- The messages of a file, at any depth, with their positions. -/
def File.everyMessage (file : File) : List (List Nat × Message) :=
  (Message.locatedAll (fun _ => False) [] 0 file.messages).map
    fun (position, placed) => (position, placed.message)

theorem File.mem_everyMessage_iff {file : File} {position : List Nat} {message : Message} :
    (position, message) ∈ file.everyMessage ↔ MessageAt file.messages position message := by
  constructor
  · intro member
    obtain ⟨⟨_, placed⟩, located, same⟩ := List.mem_map.mp member
    obtain ⟨rfl, rfl⟩ := Prod.mk.inj same
    obtain ⟨chain, descent, _, _, last⟩ := mem_locatedAll_iff.mp located
    exact ⟨chain, descent, last⟩
  · rintro ⟨chain, descent, last⟩
    refine List.mem_map.mpr ⟨_, descent.mem_locatedAll fun _ _ => id, ?_⟩
    rw [List.getLast?_eq_some_getLast descent.ne_nil] at last
    rw [Option.some.inj last]

theorem File.sorted_everyMessage (file : File) :
    (file.everyMessage.map Prod.fst).Pairwise (List.Lex (· < ·)) := by
  rw [File.everyMessage, List.map_map]
  exact Message.sorted_locatedAll [] 0 file.messages

/-! ## Complaints in their order -/

/-- The complaint about a name, if it is blank. -/
def complaint (place : Place) (name : String) (blank : BlankName) : List (Place × BlankName) :=
  complainIf (Text.isBlank name) place blank

/-- The complaints about the fields of a message, which are numbered from a first number on. -/
def fieldComplaints (file : Nat) (fileName : String) (position : List Nat) (message : String)
    (fields : List (Field × Nat)) : List (Place × BlankName) :=
  fields.flatMap fun indexed =>
    complaint ⟨file, position, some indexed.2⟩ indexed.1.name
      (.ofField fileName message indexed.1.number)

def Message.complaints (file : Nat) (fileName : String) (position : List Nat)
    (message : Message) : List (Place × BlankName) :=
  complaint ⟨file, position, none⟩ message.name (.ofMessage fileName) ++
    fieldComplaints file fileName position message.name message.fields.zipIdx

def File.complaints (index : Nat) (file : File) : List (Place × BlankName) :=
  complaint ⟨index, [], none⟩ file.name .ofFile ++
    file.everyMessage.flatMap fun located => located.2.complaints index file.name located.1

def complaints (schema : Schema) : List (Place × BlankName) :=
  schema.files.zipIdx.flatMap fun indexed => indexed.1.complaints indexed.2

/-! ### The walk reports the first of them -/

theorem nameGiven_eq (place : Place) (name : String) (blank : BlankName) :
    nameGiven name blank = reportFirst (complaint place name blank) := by
  rw [complaint, reportFirst_complainIf, nameGiven]

theorem fieldsNamed_eq (file : Nat) (fileName : String) (position : List Nat) (message : String)
    (fields : List Field) (first : Nat) :
    fieldsNamed fileName message fields =
      reportFirst (fieldComplaints file fileName position message (fields.zipIdx first)) := by
  induction fields generalizing first with
  | nil => rfl
  | cons field rest ih =>
      have others := ih (first + 1)
      unfold fieldComplaints at others ⊢
      rw [fieldsNamed, List.zipIdx_cons, List.flatMap_cons, reportFirst_append, ← others,
        nameGiven_eq ⟨file, position, some first⟩]

theorem Message.reportFirst_complaints (file : Nat) (fileName : String) (position : List Nat)
    (message : Message) :
    reportFirst (message.complaints file fileName position) = (do
      nameGiven message.name (.ofMessage fileName)
      fieldsNamed fileName message.name message.fields) := by
  rw [Message.complaints, reportFirst_append, ← nameGiven_eq, ← fieldsNamed_eq]

mutual

/-- Where the messages stand makes no difference to what is reported, so their positions may be
    moved by any function, and the names around them do not matter. -/
theorem Message.named_eq (file : Nat) (fileName : String) (moved : List Nat → List Nat)
    (outer : List String) (message : Message) :
    message.named fileName =
      reportFirst ((message.located (fun _ => False) outer).flatMap fun located =>
        located.2.message.complaints file fileName (moved located.1)) := by
  match message with
  | ⟨name, fields, nested, options⟩ =>
      have inside := Message.allNamed_eq file fileName moved (outer ++ [name]) 0 nested
      simp only [Message.located, if_false, List.flatMap_cons, reportFirst_append,
        Message.reportFirst_complaints, ← inside, Message.named, bind_assoc]

theorem Message.allNamed_eq (file : Nat) (fileName : String) (moved : List Nat → List Nat)
    (outer : List String) (first : Nat) (messages : List Message) :
    Message.allNamed fileName messages =
      reportFirst ((Message.locatedAll (fun _ => False) outer first messages).flatMap
        fun located => located.2.message.complaints file fileName (moved located.1)) := by
  match messages with
  | [] => rfl
  | message :: rest =>
      have here :=
        Message.named_eq file fileName (fun position => moved (first :: position)) outer message
      have others := Message.allNamed_eq file fileName moved outer (first + 1) rest
      simp only [Message.allNamed, Message.locatedAll, List.flatMap_append, List.flatMap_map,
        reportFirst_append, here, others]

end

theorem File.named_eq (index : Nat) (file : File) :
    file.named = reportFirst (file.complaints index) := by
  have inside := Message.allNamed_eq index file.name id [] 0 file.messages
  rw [File.named, File.complaints, File.everyMessage, List.flatMap_map, reportFirst_append,
    ← nameGiven_eq, inside]
  rfl

theorem filesNamed_eq (files : List File) (first : Nat) :
    filesNamed files =
      reportFirst ((files.zipIdx first).flatMap fun indexed => indexed.1.complaints indexed.2) := by
  induction files generalizing first with
  | nil => rfl
  | cons file rest ih =>
      simp only [filesNamed, List.zipIdx_cons, List.flatMap_cons, reportFirst_append,
        ← File.named_eq, ← ih (first + 1)]

theorem validate_eq (schema : Schema) :
    schema.validate = (reportFirst schema.complaints).mapError fun blank =>
      .descriptor blank.message := by
  rw [validate, filesNamed_eq schema.files 0, complaints]

/-! ### They are all complaints, in the order of their places -/

theorem mem_complaint {place other : Place} {name : String} {blank what : BlankName} :
    (other, what) ∈ complaint place name blank ↔
      ¬Text.Filled name ∧ other = place ∧ what = blank := by
  rw [complaint, mem_complainIf, Text.isBlank_eq_true_iff]

theorem mem_fieldComplaints {file : Nat} {fileName : String} {position : List Nat}
    {message : String} {fields : List Field} {place : Place} {what : BlankName} :
    (place, what) ∈ fieldComplaints file fileName position message fields.zipIdx ↔
      ∃ index field, fields[index]? = some field ∧ ¬Text.Filled field.name ∧
        place = ⟨file, position, some index⟩ ∧ what = .ofField fileName message field.number := by
  simp only [fieldComplaints, List.mem_flatMap, mem_complaint, Prod.exists,
    List.mk_mem_zipIdx_iff_getElem?]
  exact exists_comm

theorem Message.place_of_complaints {file : Nat} {fileName : String} {position : List Nat}
    {message : Message} {entry : Place × BlankName}
    (member : entry ∈ message.complaints file fileName position) :
    ∃ field, entry.1 = ⟨file, position, field⟩ := by
  cases List.mem_append.mp member with
  | inl own => exact ⟨none, (mem_complaint.mp own).2.1⟩
  | inr ofField =>
      obtain ⟨index, _, _, _, same, _⟩ := mem_fieldComplaints.mp ofField
      exact ⟨some index, same⟩

theorem File.place_of_complaints {index : Nat} {file : File} {entry : Place × BlankName}
    (member : entry ∈ file.complaints index) : entry.1.file = index := by
  cases List.mem_append.mp member with
  | inl own => rw [(mem_complaint.mp own).2.1]
  | inr inside =>
      obtain ⟨_, _, found⟩ := List.mem_flatMap.mp inside
      obtain ⟨_, same⟩ := Message.place_of_complaints found
      rw [same]

theorem Message.ordered_complaints (file : Nat) (fileName : String) (position : List Nat)
    (message : Message) :
    (message.complaints file fileName position).Pairwise fun earlier later =>
      earlier.1.Before later.1 := by
  rw [Message.complaints, List.pairwise_append]
  refine ⟨pairwise_complainIf _ _ _ _, ?_, ?_⟩
  · apply pairwise_complaints
    exact (pairwise_zipIdx message.fields).imp .field
  · intro own inOwn ofField inFields
    obtain ⟨index, _, _, _, same, _⟩ := mem_fieldComplaints.mp inFields
    rw [(mem_complaint.mp inOwn).2.1, same]
    exact .ownName

theorem File.ordered_complaints (index : Nat) (file : File) :
    (file.complaints index).Pairwise fun earlier later => earlier.1.Before later.1 := by
  rw [File.complaints, List.pairwise_append, List.pairwise_flatMap]
  refine ⟨pairwise_complainIf _ _ _ _, ⟨?_, ?_⟩, ?_⟩
  · intro located _
    exact located.2.ordered_complaints index file.name located.1
  · refine (List.pairwise_map.mp (file.sorted_everyMessage)).imp ?_
    intro earlier later less x inEarlier y inLater
    obtain ⟨_, sameLeft⟩ := Message.place_of_complaints inEarlier
    obtain ⟨_, sameRight⟩ := Message.place_of_complaints inLater
    rw [sameLeft, sameRight]
    exact .position less
  · intro own inOwn entry inside
    obtain ⟨⟨position, message⟩, within, member⟩ := List.mem_flatMap.mp inside
    obtain ⟨_, descent, _⟩ := File.mem_everyMessage_iff.mp within
    obtain ⟨_, same⟩ := Message.place_of_complaints member
    rw [(mem_complaint.mp inOwn).2.1, same]
    cases descent with
    | stop => exact .position .nil
    | inward => exact .position .nil

theorem ordered_complaints (schema : Schema) :
    schema.complaints.Pairwise fun earlier later => earlier.1.Before later.1 := by
  refine List.pairwise_flatMap.mpr ⟨?_, (pairwise_zipIdx schema.files).imp ?_⟩
  · intro indexed _
    exact indexed.1.ordered_complaints indexed.2
  · intro earlier later less x inEarlier y inLater
    have left := File.place_of_complaints inEarlier
    have right := File.place_of_complaints inLater
    obtain ⟨⟨i, p, f⟩, _⟩ := x
    obtain ⟨⟨j, q, g⟩, _⟩ := y
    cases left
    cases right
    exact .file less

theorem mem_complaints_iff {schema : Schema} {place : Place} {what : BlankName} :
    (place, what) ∈ schema.complaints ↔ schema.Missing place what := by
  simp only [complaints, File.complaints, Message.complaints, List.mem_flatMap, List.mem_append,
    mem_complaint, mem_fieldComplaints, Prod.exists, List.mk_mem_zipIdx_iff_getElem?,
    File.mem_everyMessage_iff]
  constructor
  · rintro ⟨file, index, isFile, ⟨unnamed, rfl, rfl⟩ | ⟨position, message, found,
      ⟨unnamed, rfl, rfl⟩ | ⟨number, field, isField, unnamed, rfl, rfl⟩⟩⟩
    · exact .ofFile isFile unnamed
    · exact .ofMessage isFile found unnamed
    · exact .ofField isFile found isField unnamed
  · intro missing
    cases missing with
    | ofFile isFile unnamed => exact ⟨_, _, isFile, .inl ⟨unnamed, rfl, rfl⟩⟩
    | ofMessage isFile found unnamed =>
        exact ⟨_, _, isFile, .inr ⟨_, _, found, .inl ⟨unnamed, rfl, rfl⟩⟩⟩
    | ofField isFile found isField unnamed =>
        exact ⟨_, _, isFile, .inr ⟨_, _, found, .inr ⟨_, _, isField, unnamed, rfl, rfl⟩⟩⟩

theorem lists_complaints (schema : Schema) :
    Lists Place.Before schema.Missing schema.complaints where
  ordered := schema.ordered_complaints
  mem_iff := fun _ _ => mem_complaints_iff

theorem allNamed_iff (schema : Schema) :
    schema.AllNamed ↔ ∀ place what, ¬schema.Missing place what := by
  constructor
  · intro named place what missing
    cases missing with
    | ofFile isFile unnamed =>
        exact unnamed (named _ (List.mem_of_getElem? isFile)).1
    | ofMessage isFile found unnamed =>
        exact unnamed ((named _ (List.mem_of_getElem? isFile)).2 _ _ found).1
    | ofField isFile found isField unnamed =>
        have fields := ((named _ (List.mem_of_getElem? isFile)).2 _ _ found).2
        exact unnamed (fields _ (List.mem_of_getElem? isField))
  · intro none file member
    obtain ⟨index, isFile⟩ := List.mem_iff_getElem?.mp member
    refine ⟨?_, ?_⟩
    · apply Classical.byContradiction
      intro unnamed
      exact none _ _ (.ofFile isFile unnamed)
    · intro position message found
      refine ⟨?_, ?_⟩
      · apply Classical.byContradiction
        intro unnamed
        exact none _ _ (.ofMessage isFile found unnamed)
      · intro field within
        obtain ⟨number, isField⟩ := List.mem_iff_getElem?.mp within
        apply Classical.byContradiction
        intro unnamed
        exact none _ _ (.ofField isFile found isField unnamed)

theorem validate_ok_iff {schema : Schema} : schema.validate = .ok () ↔ schema.AllNamed := by
  simp only [validate_eq, mapError_ok_iff, reportFirst_ok_iff, mem_complaints_iff, allNamed_iff]

/-- A schema is valid exactly if all of its names have a character other than white space, and
    otherwise it is refused for the blank name that stands before all others. -/
theorem validate_reports_first (schema : Schema) :
    (schema.validate = .ok () ↔ schema.AllNamed) ∧
      ∀ failure, schema.validate = .error failure ↔
        ∃ place blank, First Place.Before schema.Missing place blank ∧
          failure = .descriptor blank.message := by
  constructor
  · exact validate_ok_iff
  · intro failure
    rw [validate_eq]
    exact schema.lists_complaints.mapError_reportFirst_iff Place.Before.asymm

end SchemaDefaults.Schema
