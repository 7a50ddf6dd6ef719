import SchemaDefaults.Proofs.BlankNames
import SchemaDefaults.Proofs.Decoding

/-! # Files listed and files given alone

A value that has no files of its own describes a single file. Listing such values gives the files
that each of them gives alone, in the same order, and is refused as soon as one of them is. All
values are decoded before the first name is looked at, so a value that does not decode is
reported even if a blank name stands before it.
-/

namespace SchemaDefaults

namespace Decode

variable {α : Type}

/-- A list that is refused is refused for the first of its values that does not decode. -/
theorem first_of_all_error {item : Decoder α} {values : List Json} {cause : DecodeError}
    (refused : all item values = .error cause) :
    ∃ before value after, values = before ++ value :: after ∧
      (∀ earlier ∈ before, ∃ result, item earlier = .ok result) ∧ item value = .error cause := by
  induction values with
  | nil => cases refused
  | cons head rest ih =>
      cases first : item head with
      | error inner =>
          rw [all, first] at refused
          rw [Except.error.inj refused] at first
          exact ⟨[], head, rest, rfl, List.forall_mem_nil _, first⟩
      | ok result =>
          have later : all item rest = .error cause := by
            rw [all, first] at refused
            cases others : all item rest with
            | error inner =>
                rw [others] at refused
                exact congrArg Except.error (Except.error.inj refused)
            | ok results =>
                rw [others] at refused
                cases refused
          obtain ⟨before, value, after, rfl, decoded, failed⟩ := ih later
          refine ⟨head :: before, value, after, rfl, ?_, failed⟩
          exact List.forall_mem_cons.mpr ⟨⟨result, first⟩, decoded⟩

theorem exists_of_all {item : Decoder α} {values : List Json} {results : List α}
    (decoded : all item values = .ok results) :
    ∀ value ∈ values, ∃ result, item value = .ok result := by
  induction all_ok_iff.mp decoded with
  | nil => nofun
  | cons first others ih =>
      exact List.forall_mem_cons.mpr ⟨⟨_, first⟩, ih (all_ok_iff.mpr others)⟩

end Decode

namespace Schema

open Decode

/-- The object that lists values as the descriptions of files. -/
def listing (values : List Json) : Json :=
  .object [("files", .array values)]

/-- A value is not an object that lists files. -/
def Single (value : Json) : Prop :=
  value.member? "files" = none

/-! ## Decoding -/

theorem decode_listing (values : List Json) :
    decode (listing values) = (all File.decode values).map fun files => ⟨files⟩ := by
  have several : decode (listing values) = ofMembers [("files", .array values)] := rfl
  have given : part (list File.decode) [] (Keyed.find? "files" [("files", .array values)]) =
      all File.decode values := rfl
  rw [several, ofMembers, memberOr_eq, given]
  cases all File.decode values with
  | ok files => rfl
  | error cause => rfl

theorem decode_single {value : Json} (single : Single value) :
    decode value = (File.decode value).map fun file => ⟨[file]⟩ := by
  have alone : decode value = do return ⟨[← File.decode value]⟩ := by
    cases value with
    | object members =>
        change Keyed.find? "files" members = none at single
        rw [decode, single]
        rfl
    | null | bool | number | string | array => rfl
  rw [alone]
  cases File.decode value with
  | ok file => rfl
  | error cause => rfl

/-! ## Loading -/

theorem ofJson_error_of_decode {value : Json} {cause : DecodeError}
    (undecoded : decode value = .error cause) :
    ofJson value = .error (.descriptor cause.message) := by
  rw [ofJson, undecoded]
  rfl

theorem allNamed_iff_each (files : List File) :
    AllNamed ⟨files⟩ ↔ ∀ file ∈ files, AllNamed ⟨[file]⟩ := by
  simp only [AllNamed, List.mem_singleton, forall_eq]

theorem ofJson_single_iff {value : Json} (single : Single value) {schema : Schema} :
    ofJson value = .ok schema ↔
      ∃ file, schema = ⟨[file]⟩ ∧ File.decode value = .ok file ∧ AllNamed ⟨[file]⟩ := by
  rw [ofJson_ok_iff, validate_ok_iff, decode_single single, map_ok_iff]
  constructor
  · intro loaded
    obtain ⟨⟨file, decoded, rfl⟩, named⟩ := loaded
    exact ⟨file, rfl, decoded, named⟩
  · intro loaded
    obtain ⟨file, rfl, decoded, named⟩ := loaded
    exact ⟨⟨file, decoded, rfl⟩, named⟩

/-- Values give the files when each of them is loaded alone. -/
def EachLoaded (values : List Json) (files : List File) : Prop :=
  List.Forall₂ (fun value file => ofJson value = .ok ⟨[file]⟩) values files

theorem EachLoaded.of_decoded {values : List Json} {files : List File}
    (single : ∀ value ∈ values, Single value)
    (decoded : List.Forall₂ (fun value file => File.decode value = .ok file) values files)
    (named : ∀ file ∈ files, AllNamed ⟨[file]⟩) : EachLoaded values files := by
  induction decoded with
  | nil => exact .nil
  | cons first _ ih =>
      obtain ⟨singleFirst, singleRest⟩ := List.forall_mem_cons.mp single
      obtain ⟨namedFirst, namedRest⟩ := List.forall_mem_cons.mp named
      have loaded := (ofJson_single_iff singleFirst).mpr ⟨_, rfl, first, namedFirst⟩
      exact .cons loaded (ih singleRest namedRest)

theorem EachLoaded.decoded {values : List Json} {files : List File}
    (single : ∀ value ∈ values, Single value) (loaded : EachLoaded values files) :
    List.Forall₂ (fun value file => File.decode value = .ok file) values files ∧
      ∀ file ∈ files, AllNamed ⟨[file]⟩ := by
  induction loaded with
  | nil => exact ⟨.nil, nofun⟩
  | cons first _ ih =>
      obtain ⟨singleFirst, singleRest⟩ := List.forall_mem_cons.mp single
      obtain ⟨decoded, named⟩ := ih singleRest
      obtain ⟨file, same, decodedFirst, namedFirst⟩ := (ofJson_single_iff singleFirst).mp first
      cases same
      exact ⟨.cons decodedFirst decoded, List.forall_mem_cons.mpr ⟨namedFirst, named⟩⟩

theorem ofJson_listing_iff {values : List Json} (single : ∀ value ∈ values, Single value)
    {schema : Schema} : ofJson (listing values) = .ok schema ↔ EachLoaded values schema.files := by
  rw [ofJson_ok_iff, validate_ok_iff, decode_listing, map_ok_iff]
  constructor
  · intro loaded
    obtain ⟨⟨files, decoded, rfl⟩, named⟩ := loaded
    exact .of_decoded single (all_ok_iff.mp decoded) ((allNamed_iff_each files).mp named)
  · intro loaded
    obtain ⟨decoded, named⟩ := loaded.decoded single
    exact ⟨⟨schema.files, all_ok_iff.mpr decoded, rfl⟩, (allNamed_iff_each _).mpr named⟩

theorem exists_eachLoaded_iff {values : List Json} (single : ∀ value ∈ values, Single value) :
    (∃ files, EachLoaded values files) ↔ ∀ value ∈ values, ∃ schema, ofJson value = .ok schema := by
  induction values with
  | nil => exact ⟨fun _ => nofun, fun _ => ⟨[], .nil⟩⟩
  | cons value rest ih =>
      obtain ⟨singleFirst, singleRest⟩ := List.forall_mem_cons.mp single
      rw [List.forall_mem_cons, ← ih singleRest]
      constructor
      · intro found
        obtain ⟨files, loaded⟩ := found
        cases loaded with
        | cons first others => exact ⟨⟨_, first⟩, _, others⟩
      · intro found
        obtain ⟨⟨schema, first⟩, files, others⟩ := found
        obtain ⟨file, rfl, _⟩ := (ofJson_single_iff singleFirst).mp first
        exact ⟨file :: files, .cons first others⟩

theorem ofJson_listing_one {value : Json} (single : Single value) :
    ofJson (listing [value]) = ofJson value := by
  have same : decode (listing [value]) = decode value := by
    rw [decode_listing, decode_single single, all]
    cases File.decode value with
    | ok file => rfl
    | error cause => rfl
  rw [ofJson, same, ofJson]

/-- What listing values has to do with loading each of them alone. -/
structure Compositional (values : List Json) : Prop where
  accepted_iff : (∃ schema, ofJson (listing values) = .ok schema) ↔
    ∀ value ∈ values, ∃ schema, ofJson value = .ok schema
  /-- The files are those of the values, in the same order. -/
  files : ∀ schema, ofJson (listing values) = .ok schema ↔ EachLoaded values schema.files
  one : ∀ value, values = [value] → ofJson (listing values) = ofJson value
  /-- The first value that does not decode is reported, whatever names stand before it. -/
  undecoded : (∃ value ∈ values, ∀ schema, decode value ≠ .ok schema) →
    ∃ before value after cause, values = before ++ value :: after ∧
      (∀ earlier ∈ before, ∃ schema, decode earlier = .ok schema) ∧
      decode value = .error cause ∧
      ofJson (listing values) = .error (.descriptor cause.message)

theorem undecoded_listing {values : List Json} (single : ∀ value ∈ values, Single value)
    (undecoded : ∃ value ∈ values, ∀ schema, decode value ≠ .ok schema) :
    ∃ before value after cause, values = before ++ value :: after ∧
      (∀ earlier ∈ before, ∃ schema, decode earlier = .ok schema) ∧
      decode value = .error cause ∧
      ofJson (listing values) = .error (.descriptor cause.message) := by
  cases listed : all File.decode values with
  | ok files =>
      obtain ⟨value, member, fails⟩ := undecoded
      obtain ⟨file, decoded⟩ := exists_of_all listed value member
      exact absurd (by rw [decode_single (single value member), decoded]; rfl) (fails ⟨[file]⟩)
  | error cause =>
      have whole : decode (listing values) = .error cause := by
        rw [decode_listing, listed]
        rfl
      obtain ⟨before, value, after, rfl, decoded, failed⟩ := first_of_all_error listed
      refine ⟨before, value, after, cause, rfl, ?_, ?_, ofJson_error_of_decode whole⟩
      · intro earlier member
        obtain ⟨file, accepted⟩ := decoded earlier member
        refine ⟨⟨[file]⟩, ?_⟩
        rw [decode_single (single earlier (List.mem_append_left _ member)), accepted]
        rfl
      · have member : value ∈ before ++ value :: after := by simp
        rw [decode_single (single value member), failed]
        rfl

/-- A list of descriptions of single files is loaded exactly if each of them is when it is given
    alone, and gives their files. -/
theorem listing_loads_each {values : List Json} (single : ∀ value ∈ values, Single value) :
    Compositional values where
  accepted_iff := by
    rw [← exists_eachLoaded_iff single]
    simp only [ofJson_listing_iff single]
    exact ⟨fun ⟨schema, loaded⟩ => ⟨schema.files, loaded⟩, fun ⟨files, loaded⟩ => ⟨⟨files⟩, loaded⟩⟩
  files := fun _ => ofJson_listing_iff single
  one := by
    intro value same
    subst same
    exact ofJson_listing_one (single value List.mem_cons_self)
  undecoded := undecoded_listing single

/-- Two files without a name stand before a value that is no file at all. -/
def namelessValues : List Json :=
  [.object [("name", .string " ")], .array [.string ""], .ofNat 5]

theorem listing_loads_each_nameless :
    (∀ value ∈ namelessValues, Single value) ∧ Compositional namelessValues ∧
      ofJson (listing namelessValues) =
        .error (.descriptor "invalid type: integer `5`, expected struct FileDescriptor") := by
  have single : ∀ value ∈ namelessValues, Single value := by
    simp [namelessValues, Single, Json.member?, Json.ofNat]
  let cause : DecodeError := .invalidType (.number (.integer 5)) "struct FileDescriptor"
  have undecoded : decode (listing namelessValues) = .error cause := rfl
  have text : cause.message = "invalid type: integer `5`, expected struct FileDescriptor" := by
    decide +kernel
  refine ⟨single, listing_loads_each single, ?_⟩
  rw [ofJson_error_of_decode undecoded, text]

end Schema

end SchemaDefaults
