import Mathlib.Data.List.Nodup
import SchemaDefaults.Proofs.DepthFirst
import SchemaDefaults.Proofs.MethodText
import SchemaDefaults.Proofs.NestedNames

/-! # No type gets two methods

Camel case can make two paths one name: it drops underscores, and it raises small letters.
Names in which there is nothing to drop or to raise keep their form, so the type of a nested
message is its path with underscores between the names, and the path can be read back from
it. If besides no two siblings have the same name, no two messages have the same path, and
the methods of a file are methods of different types.
-/

namespace SchemaDefaults.GoName

open Schema

/-! ## Names without anything to drop or to raise -/

structure Plain (name : String) : Prop where
  nonempty : name ≠ ""
  noUnderscore : '_' ∉ name.toList
  start : ∀ c ∈ name.toList.head?, c.isLower = false
  digits : name.toList.IsChain fun c next => c.isDigit = true → next.isLower = false

theorem plain_iff (name : String) : Plain name ↔
    name ≠ "" ∧ '_' ∉ name.toList ∧ startsLower name.toList = false ∧
      name.toList.IsChain fun c next => c.isDigit = true → next.isLower = false := by
  rw [startsLower_eq_false_iff]
  exact ⟨fun ⟨nonempty, noUnderscore, start, digits⟩ => ⟨nonempty, noUnderscore, start, digits⟩,
    fun ⟨nonempty, noUnderscore, start, digits⟩ => ⟨nonempty, noUnderscore, start, digits⟩⟩

instance (name : String) : Decidable (Plain name) :=
  decidable_of_iff' _ (plain_iff name)

theorem Plain.cased {name : String} (plain : Plain name) : Cased name := by
  constructor
  · intro c first
    refine ⟨?_, plain.start c first⟩
    rintro rfl
    exact plain.noUnderscore (List.mem_of_mem_head? first)
  · refine List.IsChain.imp_of_mem_imp ?_ plain.digits
    intro c next within _ digits loose
    rcases loose with rfl | digit
    · exact absurd within plain.noUnderscore
    · exact digits digit

/-- The seam between two names is an underscore before a character that is no small letter. -/
theorem Cased.join {outer inner : String} (nonempty : outer ≠ "") (left : Cased outer)
    (right : Cased inner) : Cased (outer ++ "_" ++ inner) := by
  have spelled : (outer ++ "_" ++ inner).toList = outer.toList ++ '_' :: inner.toList := by
    simp
  have given : outer.toList ≠ [] := mt String.toList_eq_nil_iff.mp nonempty
  constructor
  · rw [spelled, List.head?_append_of_ne_nil _ given]
    exact left.start
  · rw [spelled]
    have behind : Settled ('_' :: inner.toList) :=
      List.isChain_cons.mpr ⟨fun c first _ => (right.start c first).2, right.settled⟩
    refine left.settled.append behind ?_
    intro c _ next first _
    obtain rfl : '_' = next := Option.some.inj first
    rfl

theorem cased_intercalate {path : List String} (plain : ∀ name ∈ path, Plain name) :
    Cased (String.intercalate "_" path) := by
  rcases eq_or_ne path [] with rfl | nonempty
  · exact ⟨nofun, .nil⟩
  · refine intercalate_of_join nonempty (fun name member => (plain name member).cased) ?_
    intro name member joined behind
    exact (plain name member).cased.join (plain name member).nonempty behind

theorem ofPath_of_plain {path : List String} (plain : ∀ name ∈ path, Plain name) :
    ofPath path = String.intercalate "_" path :=
  (cased_intercalate plain).camel_eq

/-- Names without underscores can be read back from the name that they are joined to. -/
theorem intercalate_inj {path other : List String} (given : path ≠ []) (named : other ≠ [])
    (plain : ∀ name ∈ path, Plain name) (others : ∀ name ∈ other, Plain name)
    (same : String.intercalate "_" path = String.intercalate "_" other) : path = other := by
  have parts : ∀ {names : List String}, names ≠ [] → (∀ name ∈ names, Plain name) →
      (String.intercalate "_" names).toList.splitOn '_' = names.map String.toList := by
    intro names nonempty plain
    rw [String.toList_intercalate]
    refine List.splitOn_intercalate '_' ?_ (mt List.map_eq_nil_iff.mp nonempty)
    intro chars member
    obtain ⟨name, within, rfl⟩ := List.mem_map.mp member
    exact (plain name within).noUnderscore
  have spelled := parts given plain
  rw [same, parts named others] at spelled
  exact List.map_injective_iff.mpr (fun _ _ => String.toList_inj.mp) spelled.symm

end SchemaDefaults.GoName

namespace SchemaDefaults.Schema

open GoName

/-! ## Paths -/

/-- Something holds of the messages that stand beside each other, at every level. -/
inductive AtEveryLevel (P : List Message → Prop) : List Message → Prop where
  | intro {siblings : List Message} : P siblings →
      (∀ message ∈ siblings, AtEveryLevel P message.nested) → AtEveryLevel P siblings

def DistinctNames (siblings : List Message) : Prop :=
  (siblings.map (·.name)).Nodup

def PlainNames (siblings : List Message) : Prop :=
  ∀ message ∈ siblings, Plain message.name

instance (siblings : List Message) : Decidable (DistinctNames siblings) :=
  inferInstanceAs (Decidable (List.Nodup _))

instance (siblings : List Message) : Decidable (PlainNames siblings) :=
  inferInstanceAs (Decidable (∀ message ∈ siblings, _))

theorem Descent.plainNames {forest : List Message} {position : List Nat} {chain : List Message}
    (descent : Descent forest position chain) (plain : AtEveryLevel PlainNames forest) :
    ∀ message ∈ chain, Plain message.name := by
  refine descent.forall_mem (fun siblings plain => ?_) (fun siblings plain => ?_) plain
  · cases plain with
    | intro here _ => exact here
  · cases plain with
    | intro _ below => exact below

theorem DistinctNames.index_eq {siblings : List Message} (distinct : DistinctNames siblings)
    {index other : Nat} {message twin : Message} (found : siblings[index]? = some message)
    (also : siblings[other]? = some twin) (same : message.name = twin.name) : index = other := by
  obtain ⟨bound, rfl⟩ := List.getElem?_eq_some_iff.mp found
  have inside : index < (siblings.map (·.name)).length := by rwa [List.length_map]
  refine (List.getElem?_inj inside distinct).mp ?_
  rw [List.getElem?_map, List.getElem?_map, found, also, Option.map_some, Option.map_some, same]

/-- Where no two siblings have the same name, a path leads to one message. -/
theorem Descent.position_eq {forest : List Message} {position other : List Nat}
    {chain beside : List Message} (distinct : AtEveryLevel DistinctNames forest)
    (descent : Descent forest position chain) (twin : Descent forest other beside)
    (same : chain.map (·.name) = beside.map (·.name)) : position = other := by
  induction descent generalizing other beside with
  | stop found =>
      cases distinct with
      | intro here _ =>
          cases twin with
          | stop also =>
              obtain ⟨name, _⟩ := List.cons.inj same
              rw [here.index_eq found also name]
          | inward _ deeper =>
              have shorter := (List.cons.inj same).2
              exact absurd (List.map_eq_nil_iff.mp shorter.symm) deeper.ne_nil
  | inward found deeper ih =>
      cases distinct with
      | intro here below =>
          cases twin with
          | stop =>
              have shorter := (List.cons.inj same).2
              exact absurd (List.map_eq_nil_iff.mp shorter) deeper.ne_nil
          | inward also deep =>
              obtain ⟨name, names⟩ := List.cons.inj same
              obtain rfl := here.index_eq found also name
              obtain rfl := Option.some.inj (found.symm.trans also)
              rw [ih (below _ (List.mem_of_getElem? found)) deep names]

theorem File.nodup_paths {file : File} (distinct : AtEveryLevel DistinctNames file.messages) :
    (file.placedMessages.value.map (·.path)).Nodup := by
  have positions := file.nodup_positions
  rw [File.value_placedMessages, List.map_map]
  refine List.Nodup.map_on ?_ (List.Nodup.of_map _ positions)
  rintro ⟨position, placed⟩ member ⟨other, twin⟩ also same
  obtain ⟨chain, descent, _, path, _⟩ := mem_locatedAll_iff.mp member
  obtain ⟨beside, deep, _, way, _⟩ := mem_locatedAll_iff.mp also
  have names : chain.map (·.name) = beside.map (·.name) := path.symm.trans (same.trans way)
  exact List.inj_on_of_nodup_map positions member also (descent.position_eq distinct deep names)

theorem File.plain_path {file : File} (plain : AtEveryLevel PlainNames file.messages)
    {placed : PlacedMessage} (member : placed ∈ file.placedMessages.value) :
    placed.path ≠ [] ∧ ∀ name ∈ placed.path, Plain name := by
  rw [File.value_placedMessages] at member
  obtain ⟨⟨position, _⟩, found, rfl⟩ := List.mem_map.mp member
  obtain ⟨chain, descent, _, path, _⟩ := mem_locatedAll_iff.mp found
  rw [List.nil_append] at path
  rw [path]
  refine ⟨mt List.map_eq_nil_iff.mp descent.ne_nil, ?_⟩
  intro name within
  obtain ⟨message, inside, rfl⟩ := List.mem_map.mp within
  exact descent.plainNames plain message inside

/-! ## Types -/

/-- A method of a type: below an empty line its header names the type as that of the receiver. -/
def IsMethodOf (settings : Defaulter.Settings) (typeName method : String) : Prop :=
  ∃ body, method =
    "\n" ++ Defaulter.methodHeader (receiver typeName) typeName settings.methodName ++ "\n" ++ body

theorem isMethodOf_render (settings : Defaulter.Settings) (placed : PlacedMessage) :
    IsMethodOf settings (ofPath placed.path) (Defaulter.render settings placed).value := by
  let binding := receiver (ofPath placed.path)
  let fields := placed.message.fields
  refine ⟨CodeWriter.linesAt 1 (Defaulter.identity settings binding placed.message) ++
    (CodeWriter.linesAt 1
        (fields.filterMap (Defaulter.assignment? binding settings.optionKey)) ++
      (CodeWriter.lineAt 0 "\x7d" ++ "\n")), ?_⟩
  have left : CodeWriter.tabs 0 = "" := rfl
  rw [Defaulter.value_render]
  simp only [Defaulter.methodText, Defaulter.methodHeader, CodeWriter.lineAt, left,
    String.empty_append, String.append_assoc, Nat.zero_add]
  rfl

/-- If siblings have different names, and no name has anything to drop or to raise, the methods of a
    file are methods of different types, each named by the path of its message. -/
theorem File.receiver_types_distinct (file : File)
    (distinct : AtEveryLevel DistinctNames file.messages)
    (plain : AtEveryLevel PlainNames file.messages) :
    let types := file.placedMessages.value.map fun placed => ofPath placed.path
    types.Nodup ∧
      types = file.placedMessages.value.map (fun placed => String.intercalate "_" placed.path) ∧
      ∀ settings, List.Forall₂ (IsMethodOf settings) types
        (file.placedMessages.value.map fun placed => (Defaulter.render settings placed).value) := by
  intro types
  have joined : types =
      file.placedMessages.value.map fun placed => String.intercalate "_" placed.path :=
    List.map_congr_left fun placed member => ofPath_of_plain (file.plain_path plain member).2
  refine ⟨?_, joined, fun settings => ?_⟩
  · have placed : file.placedMessages.value.Nodup := List.Nodup.of_map _ (file.nodup_paths distinct)
    rw [joined]
    refine placed.map_on ?_
    intro one member other also same
    obtain ⟨given, names⟩ := file.plain_path plain member
    obtain ⟨named, others⟩ := file.plain_path plain also
    exact List.inj_on_of_nodup_map (file.nodup_paths distinct) member also
      (intercalate_inj given named names others same)
  · rw [List.forall₂_map_left_iff, List.forall₂_map_right_iff, List.forall₂_same]
    exact fun placed _ => isMethodOf_render settings placed

def versionMessage : Message := ⟨"V2", [], [], none⟩

/-- A message with a map, whose entries have a message of their own inside them. -/
def checkMessage : Message :=
  ⟨"Check", [],
    [⟨"Entry", [], [versionMessage], some (.object [("map_entry", .bool true)])⟩, versionMessage],
    none⟩

/-- Without underscores between the names, two of the paths in this file would be one name. -/
def branchingFile : File :=
  ⟨"branching.proto", "",
    [checkMessage, ⟨"CheckV2", [], [], none⟩, ⟨"V2", [], [checkMessage], none⟩], none⟩

theorem atEveryLevel_branching {P : List Message → Prop} (leaf : P [])
    (version : P [versionMessage]) (check : P [checkMessage]) (inner : P checkMessage.nested)
    (top : P branchingFile.messages) : AtEveryLevel P branchingFile.messages := by
  have ends : AtEveryLevel P [] := .intro leaf nofun
  have alone : AtEveryLevel P [versionMessage] :=
    .intro version (List.forall_mem_singleton.mpr ends)
  have nested : AtEveryLevel P checkMessage.nested :=
    .intro inner (List.forall_mem_cons.mpr ⟨alone, List.forall_mem_singleton.mpr ends⟩)
  have outer : AtEveryLevel P [checkMessage] :=
    .intro check (List.forall_mem_singleton.mpr nested)
  refine .intro top (List.forall_mem_cons.mpr ⟨nested, ?_⟩)
  exact List.forall_mem_cons.mpr ⟨ends, List.forall_mem_singleton.mpr outer⟩

theorem receiver_types_distinct_branching :
    AtEveryLevel DistinctNames branchingFile.messages ∧
      AtEveryLevel PlainNames branchingFile.messages ∧
      branchingFile.placedMessages.value.map (fun placed => ofPath placed.path) =
        ["Check", "Check_V2", "CheckV2", "V2", "V2_Check", "V2_Check_V2"] ∧
      (branchingFile.placedMessages.value.map fun placed => ofPath placed.path).Nodup := by
  have distinct : AtEveryLevel DistinctNames branchingFile.messages :=
    atEveryLevel_branching (by decide) (by decide) (by decide) (by decide) (by decide)
  have plain : AtEveryLevel PlainNames branchingFile.messages :=
    atEveryLevel_branching (by decide) (by decide) (by decide) (by decide) (by decide)
  obtain ⟨different, joined, _⟩ := branchingFile.receiver_types_distinct distinct plain
  have spelled : branchingFile.placedMessages.value.map
      (fun placed => String.intercalate "_" placed.path) =
        ["Check", "Check_V2", "CheckV2", "V2", "V2_Check", "V2_Check_V2"] := by decide +kernel
  exact ⟨distinct, plain, joined.trans spelled, different⟩

end SchemaDefaults.Schema
