import SchemaDefaults.Proofs.DepthFirst
import SchemaDefaults.Proofs.MethodText
import SchemaDefaults.Proofs.NestedNames

/-! # Names of generated code are identifiers

If all names of a schema are identifiers, so are the names that a method has of it: the type
and the assigned fields begin with a capital, as exported names of Go do, the receiver is one
small letter, and no field is named like a method that the type has already.
-/

namespace SchemaDefaults.GoName

/-- A letter, a digit or an underscore. -/
def isWord (c : Char) : Bool :=
  c.isAlphanum || c == '_'

/-- Letters, digits and underscores, the first of them of a given kind. -/
def wordFrom (start : Char → Bool) : List Char → Bool
  | [] => false
  | c :: rest => start c && rest.all isWord

/-- An identifier of a schema: it begins with a letter or an underscore. -/
def IsIdentifier (name : String) : Prop :=
  wordFrom (fun c => c.isAlpha || c == '_') name.toList = true

/-- An exported identifier of Go: it begins with a capital. -/
def IsExported (name : String) : Prop :=
  wordFrom Char.isUpper name.toList = true

instance (name : String) : Decidable (IsIdentifier name) :=
  inferInstanceAs (Decidable (_ = true))

instance (name : String) : Decidable (IsExported name) :=
  inferInstanceAs (Decidable (_ = true))

/-! ## Letters -/

/-- A capital has one small letter, in the full mapping of lower case too. -/
theorem lower_of_isUpper {c : Char} (capital : c.isUpper = true) :
    Text.lower c = [c.toLower] ∧ c.toLower.isLower = true := by
  have every : (lettersFrom 65).all
      (fun c => Text.lower c == [c.toLower] && c.toLower.isLower) = true := by decide +kernel
  have one := List.all_eq_true.mp every c (mem_of_isUpper capital)
  rwa [Bool.and_eq_true, beq_iff_eq] at one

theorem isWord_of_isUpper {c : Char} (capital : c.isUpper = true) : isWord c = true := by
  have letter : c.isAlpha = true := Bool.or_eq_true_iff.mpr (.inl capital)
  simp [isWord, Char.isAlphanum, letter]

theorem isWord_of_start {c : Char} (start : (c.isAlpha || c == '_') = true) :
    isWord c = true := by
  rcases Bool.or_eq_true_iff.mp start with letter | underscore
  · simp [isWord, Char.isAlphanum, letter]
  · simp [isWord, underscore]

/-! ## Words -/

variable {start : Char → Bool} {chars more : List Char}

theorem all_isWord_of_wordFrom (starts : ∀ c, start c = true → isWord c = true)
    (word : wordFrom start chars = true) : chars.all isWord = true := by
  cases chars with
  | nil => rfl
  | cons c rest =>
      obtain ⟨first, others⟩ := Bool.and_eq_true_iff.mp word
      rw [List.all_cons, starts c first, others]
      rfl

theorem wordFrom_append (word : wordFrom start chars = true) (behind : more.all isWord = true) :
    wordFrom start (chars ++ more) = true := by
  cases chars with
  | nil => cases word
  | cons c rest =>
      obtain ⟨first, others⟩ := Bool.and_eq_true_iff.mp word
      rw [List.cons_append, wordFrom, first, List.all_append, others, behind]
      rfl

/-- Identifiers with underscores between them are one identifier. -/
theorem isIdentifier_intercalate {path : List String} (nonempty : path ≠ [])
    (legal : ∀ name ∈ path, IsIdentifier name) : IsIdentifier (String.intercalate "_" path) := by
  refine intercalate_of_join nonempty legal fun name member joined identifier => ?_
  have behind := all_isWord_of_wordFrom (fun _ => isWord_of_start) identifier
  rw [IsIdentifier, String.append_assoc, String.toList_append, String.toList_append]
  refine wordFrom_append (legal name member) ?_
  rw [List.all_append, behind]
  rfl

/-! ## Camel case -/

theorem all_isWord_camelChars (fresh : Bool) (word : chars.all isWord = true) :
    (camelChars fresh chars).all isWord = true := by
  rw [List.all_eq_true] at word ⊢
  intro c member
  rcases mem_camelChars member with inside | capital
  · exact word c inside
  · exact isWord_of_isUpper capital

/-- The first letter becomes a capital if it is none. -/
theorem wordFrom_camelChars {c : Char} {rest : List Char} (letter : c.isAlpha = true)
    (others : rest.all isWord = true) :
    wordFrom Char.isUpper (camelChars true (c :: rest)) = true := by
  -- The leading underscore is taken care of before, so what is no small letter is a capital.
  by_cases small : c.isLower = true
  · rw [camelChars_small small, if_pos rfl, wordFrom, isUpper_toUpper small,
      all_isWord_camelChars _ others]
    rfl
  · have capital : c.isUpper = true := (Bool.or_eq_true_iff.mp letter).resolve_right small
    have other : c ≠ '_' := by
      rintro rfl
      cases capital
    rw [camelChars_kept (of_isUpper capital).2 fun underscore => absurd underscore other, wordFrom,
      capital, all_isWord_camelChars _ others]
    rfl

theorem isExported_camel {name : String} (legal : IsIdentifier name) :
    IsExported (camel name) := by
  rw [IsExported]
  rw [IsIdentifier] at legal
  obtain ⟨rest, spelled, cased⟩ | ⟨start, cased⟩ := camel_cases name
  · rw [spelled, wordFrom, Bool.and_eq_true] at legal
    rw [cased, wordFrom, all_isWord_camelChars _ legal.2]
    rfl
  · rw [cased]
    cases spelled : name.toList with
    | nil =>
        rw [spelled] at legal
        cases legal
    | cons c rest =>
        rw [spelled] at start
        rw [spelled, wordFrom, Bool.and_eq_true, Bool.or_eq_true, beq_iff_eq] at legal
        obtain ⟨letter | rfl, others⟩ := legal
        · exact wordFrom_camelChars letter others
        · exact absurd rfl start

theorem isExported_ofPath {path : List String} (nonempty : path ≠ [])
    (legal : ∀ name ∈ path, IsIdentifier name) : IsExported (ofPath path) :=
  isExported_camel (isIdentifier_intercalate nonempty legal)

/-- An underscore behind one reserved name does not make another one. -/
theorem escape_not_mem_reserved {name : String} (taken : name ∈ reserved) :
    name ++ "_" ∉ reserved := by
  have apart : ∀ taken ∈ reserved, taken ++ "_" ∉ reserved := by decide +kernel
  exact apart name taken

theorem ofField_not_mem_reserved (name : String) : ofField name ∉ reserved := by
  by_cases taken : camel name ∈ reserved
  · rw [ofField_of_reserved taken]
    exact escape_not_mem_reserved taken
  · rw [ofField_of_free taken]
    exact taken

theorem isExported_ofField {name : String} (legal : IsIdentifier name) :
    IsExported (ofField name) := by
  have cased := isExported_camel legal
  by_cases taken : camel name ∈ reserved
  · rw [ofField_of_reserved taken, IsExported, String.toList_append]
    exact wordFrom_append cased rfl
  · rw [ofField_of_free taken]
    exact cased

theorem receiver_of_isExported {typeName : String} (exported : IsExported typeName) :
    ∃ letter : Char, letter.isLower = true ∧ receiver typeName = String.singleton letter := by
  rw [IsExported] at exported
  rw [receiver]
  split
  case h_1 spelled =>
    rw [spelled] at exported
    cases exported
  case h_2 c rest spelled =>
    rw [spelled, wordFrom, Bool.and_eq_true] at exported
    obtain ⟨single, small⟩ := lower_of_isUpper exported.1
    exact ⟨c.toLower, small, by rw [single]; rfl⟩

end SchemaDefaults.GoName

namespace SchemaDefaults.Schema

open GoName

/-! ## Messages whose names are identifiers -/

/-- The names of a message, of its fields and of the messages inside it are identifiers. -/
inductive Message.LegalNames : Message → Prop where
  | intro {name : String} {fields : List Field} {nested : List Message} {options : Option Json} :
      IsIdentifier name → (∀ field ∈ fields, IsIdentifier field.name) →
      (∀ inner ∈ nested, inner.LegalNames) → Message.LegalNames ⟨name, fields, nested, options⟩

def File.LegalNames (file : File) : Prop :=
  ∀ message ∈ file.messages, message.LegalNames

theorem Message.LegalNames.name {message : Message} (legal : message.LegalNames) :
    IsIdentifier message.name := by
  cases legal with
  | intro name _ _ => exact name

theorem Message.LegalNames.fields {message : Message} (legal : message.LegalNames) :
    ∀ field ∈ message.fields, IsIdentifier field.name := by
  cases legal with
  | intro _ fields _ => exact fields

theorem Message.LegalNames.nested {message : Message} (legal : message.LegalNames) :
    ∀ inner ∈ message.nested, inner.LegalNames := by
  cases legal with
  | intro _ _ nested => exact nested

theorem Descent.legalNames {forest : List Message} {position : List Nat} {chain : List Message}
    (descent : Descent forest position chain) (legal : ∀ message ∈ forest, message.LegalNames) :
    ∀ message ∈ chain, message.LegalNames := by
  refine descent.forall_mem (fun siblings legal => legal) ?_ legal
  intro siblings legal message member
  exact (legal message member).nested

theorem StandsAt.legalNames {forest : List Message} {position : List Nat} {placed : PlacedMessage}
    (stands : StandsAt forest position placed) (legal : ∀ message ∈ forest, message.LegalNames) :
    placed.path ≠ [] ∧ (∀ name ∈ placed.path, IsIdentifier name) ∧ placed.message.LegalNames := by
  obtain ⟨chain, descent, path, last⟩ := stands
  have within := descent.legalNames legal
  refine ⟨?_, ?_, within _ (List.mem_of_getLast? last)⟩
  · intro empty
    rw [path, List.map_eq_nil_iff] at empty
    rw [empty] at last
    cases last
  · intro name member
    rw [path] at member
    obtain ⟨message, inside, rfl⟩ := List.mem_map.mp member
    exact (within message inside).name

theorem mem_assignments {receiver key line : String} {fields : List Field}
    (member : line ∈ (Defaulter.assignments receiver key fields).value) :
    ∃ field ∈ fields, ∃ literal,
      line = receiver ++ "." ++ ofField field.name ++ " = " ++ literal := by
  rw [Defaulter.value_assignments] at member
  obtain ⟨field, within, assigned⟩ := List.mem_filterMap.mp member
  rw [Defaulter.assignment?] at assigned
  split at assigned
  case isTrue => cases assigned
  case isFalse =>
    obtain ⟨value, _, same⟩ := Option.map_eq_some_iff.mp assigned
    exact ⟨field, within, _, same.symm⟩

/-- The type of a method and the fields that it assigns have exported names, its receiver is one
    small letter, and no field is named like one of the methods that every type has. -/
theorem File.methods_use_legal_names (file : File) (legal : file.LegalNames) :
    ∀ placed ∈ file.placedMessages.value,
      IsExported (ofPath placed.path) ∧
      (∃ letter : Char, letter.isLower = true ∧
        receiver (ofPath placed.path) = String.singleton letter) ∧
      (∀ field ∈ placed.message.fields,
        IsExported (ofField field.name) ∧ ofField field.name ∉ reserved) ∧
      ∀ binding key, ∀ line ∈ (Defaulter.assignments binding key placed.message.fields).value,
        ∃ name literal, IsExported name ∧ name ∉ reserved ∧
          line = binding ++ "." ++ name ++ " = " ++ literal := by
  intro placed member
  obtain ⟨position, stands⟩ := File.exists_standsAt member
  obtain ⟨nonempty, names, inside⟩ := stands.legalNames legal
  have typeName := isExported_ofPath nonempty names
  have fields : ∀ field ∈ placed.message.fields,
      IsExported (ofField field.name) ∧ ofField field.name ∉ reserved :=
    fun field within =>
      ⟨isExported_ofField (inside.fields field within), ofField_not_mem_reserved field.name⟩
  refine ⟨typeName, receiver_of_isExported typeName, fields, ?_⟩
  intro binding key line assigned
  obtain ⟨field, within, literal, same⟩ := mem_assignments assigned
  obtain ⟨exported, free⟩ := fields field within
  exact ⟨ofField field.name, literal, exported, free, same⟩

/-- A file whose names are underscores and digits, but for one that is reserved. -/
def awkwardFile : File :=
  let field : Field := ⟨"reset", 1, .optional, .bool, none, none⟩
  ⟨"awkward.proto", "", [⟨"_", [field], [⟨"__2", [], [], none⟩], none⟩], none⟩

theorem methods_use_legal_names_awkward :
    awkwardFile.LegalNames ∧
      awkwardFile.placedMessages.value.map (fun placed => ofPath placed.path) = ["X", "X___2"] ∧
      ∀ placed ∈ awkwardFile.placedMessages.value, IsExported (ofPath placed.path) ∧
        ∀ field ∈ placed.message.fields, ofField field.name = "Reset_" ∧
          IsExported (ofField field.name) ∧ ofField field.name ∉ reserved := by
  have nested : Message.LegalNames ⟨"__2", [], [], none⟩ := .intro (by decide) nofun nofun
  have legal : awkwardFile.LegalNames := by
    refine List.forall_mem_singleton.mpr (.intro (by decide) ?_ ?_)
    · exact List.forall_mem_singleton.mpr (by decide)
    · exact List.forall_mem_singleton.mpr nested
  have renamed : ∀ placed ∈ awkwardFile.placedMessages.value,
      ∀ field ∈ placed.message.fields, ofField field.name = "Reset_" := by decide +kernel
  refine ⟨legal, by decide +kernel, fun placed member => ?_⟩
  obtain ⟨typeName, _, fields, _⟩ := awkwardFile.methods_use_legal_names legal placed member
  exact ⟨typeName, fun field within => ⟨renamed placed member field within, fields field within⟩⟩

end SchemaDefaults.Schema
