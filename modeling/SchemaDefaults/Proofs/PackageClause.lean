import Mathlib.Data.List.Forall2
import Mathlib.Data.List.TakeWhile
import SchemaDefaults.Proofs.Readable
import SchemaDefaults.Schema.GoPackage

/-! # The package clause is never empty

The name part of an import path is what follows its first semicolon or, if there is none, its
last slash. If the option gives a name part that is not empty, the package is this name part with
underscores for its dots and dashes, whatever the schema package is. Any other options are as
good as none, and the package is the last segment of the schema package, or `main`.
-/

namespace SchemaDefaults

namespace Text

variable {mark : Char} {text part : List Char}

/-- What follows the last occurrence of a mark, or the whole text if there is none. -/
inductive AfterLast (mark : Char) : List Char → List Char → Prop where
  | behind {before part : List Char} : mark ∉ part → AfterLast mark (before ++ mark :: part) part
  | whole {part : List Char} : mark ∉ part → AfterLast mark part part

theorem AfterLast.not_mem (last : AfterLast mark text part) : mark ∉ part := by
  cases last with
  | behind absent | whole absent => exact absent

theorem AfterLast.exists (mark : Char) (text : List Char) : ∃ part, AfterLast mark text part := by
  by_cases present : mark ∈ text
  · obtain ⟨after, before, shape, absent⟩ :=
      List.eq_append_cons_of_mem (List.mem_reverse.mpr present)
    have turned : text = before.reverse ++ mark :: after.reverse := by
      rw [← List.reverse_reverse text, shape]
      simp
    rw [turned]
    exact ⟨after.reverse, .behind (by simpa using absent)⟩
  · exact ⟨text, .whole present⟩

theorem AfterLast.eq (last : AfterLast mark text part) : afterLast mark text = part := by
  have kept : ∀ c ∈ part.reverse, (c != mark) = true := by
    intro c member
    have inside := List.mem_reverse.mp member
    exact bne_iff_ne.mpr fun same => last.not_mem (same ▸ inside)
  unfold afterLast
  cases last with
  | behind _ =>
      rw [List.reverse_append, List.reverse_cons, List.append_assoc,
        List.takeWhile_append_of_pos kept]
      simp
  | whole _ => rw [List.takeWhile_eq_self_iff.mpr kept, List.reverse_reverse]

theorem afterFirst?_append {before : List Char} (absent : mark ∉ before) (part : List Char) :
    afterFirst? mark (before ++ mark :: part) = some part := by
  induction before with
  | nil => simp [afterFirst?]
  | cons c rest ih =>
      obtain ⟨other, others⟩ := List.ne_and_not_mem_of_not_mem_cons absent
      simp [afterFirst?, other.symm, ih others]

theorem afterFirst?_of_not_mem (absent : mark ∉ text) : afterFirst? mark text = none := by
  induction text with
  | nil => rfl
  | cons c rest ih =>
      obtain ⟨other, others⟩ := List.ne_and_not_mem_of_not_mem_cons absent
      simp [afterFirst?, other.symm, ih others]

end Text

namespace Schema

open Text

/-! ## The name part -/

/-- The part of an import path that names a package. -/
inductive NamePart : List Char → List Char → Prop where
  | marked {before name : List Char} : ';' ∉ before → NamePart (before ++ ';' :: name) name
  | unmarked {path name : List Char} : ';' ∉ path → AfterLast '/' path name → NamePart path name

theorem NamePart.exists (path : List Char) : ∃ name, NamePart path name := by
  by_cases present : ';' ∈ path
  · obtain ⟨before, name, rfl, absent⟩ := List.eq_append_cons_of_mem present
    exact ⟨name, .marked absent⟩
  · obtain ⟨name, last⟩ := AfterLast.exists '/' path
    exact ⟨name, .unmarked present last⟩

theorem NamePart.eq {path : String} {name : List Char} (part : NamePart path.toList name) :
    packagePart path = name := by
  unfold packagePart
  generalize path.toList = characters at part
  cases part with
  | marked absent => rw [afterFirst?_append absent]
  | unmarked absent last => rw [afterFirst?_of_not_mem absent, last.eq]

/-- Without a semicolon in the path there is no slash in the name. -/
theorem NamePart.slash_not_mem {path name : List Char} (part : NamePart path name)
    (absent : ';' ∉ path) : '/' ∉ name := by
  cases part with
  | marked => simp at absent
  | unmarked _ last => exact last.not_mem

/-- Options give a name part that is not empty. -/
def Names (options : Option Json) (path : String) (name : List Char) : Prop :=
  (∃ members, options = some (.object members) ∧
    Keyed.find? "go_package" members = some (.string path)) ∧
  NamePart path.toList name ∧ name ≠ []

theorem text?_eq_some_iff {options : Option Json} {key text : String} :
    Options.text? options key = some text ↔
      ∃ members, options = some (.object members) ∧
        Keyed.find? key members = some (.string text) := by
  have asText : ∀ entry : Json, entry.asText? = some text ↔ entry = .string text := by
    intro entry
    cases entry <;> simp [Json.asText?]
  have member : ∀ given : Json, given.member? key = some (.string text) ↔
      ∃ members, given = .object members ∧ Keyed.find? key members = some (.string text) := by
    intro given
    cases given <;> simp [Json.member?]
  simp [Options.text?, Options.option?, Option.bind_eq_some_iff, asText, member]

/-! ## What stands in the clause -/

theorem File.value_goPackage (file : File) :
    file.goPackage.value =
      match (Options.text? file.options "go_package").map packagePart with
      | none | some [] => packageOfSchema file.package
      | some name => String.ofList (name.map packageChar) := by
  rw [goPackage, Logged.value_bind, Options.value_lookup_string]
  rfl

theorem File.value_goPackage_of_names {file : File} {path : String} {name : List Char}
    (names : Names file.options path name) :
    file.goPackage.value = String.ofList (name.map packageChar) := by
  obtain ⟨given, part, filled⟩ := names
  rw [file.value_goPackage, text?_eq_some_iff.mpr given, Option.map_some, part.eq]
  cases name with
  | nil => exact absurd rfl filled
  | cons => rfl

theorem File.value_goPackage_of_unnamed {file : File}
    (unnamed : ∀ path name, ¬Names file.options path name) :
    file.goPackage.value = packageOfSchema file.package := by
  rw [file.value_goPackage]
  cases given : Options.text? file.options "go_package" with
  | none => rfl
  | some path =>
      obtain ⟨name, part⟩ := NamePart.exists path.toList
      have empty : name = [] := by
        by_contra filled
        exact unnamed path name ⟨text?_eq_some_iff.mp given, part, filled⟩
      rw [Option.map_some, part.eq, empty]

theorem packageOfSchema_eq {package : String} {segment : List Char}
    (last : AfterLast '.' package.toList segment) :
    packageOfSchema package = if segment = [] then "main" else String.ofList segment := by
  unfold packageOfSchema
  rw [last.eq]
  cases segment <;> rfl

/-- The character that stands in a package for one of the name part. -/
inductive StandsFor : Char → Char → Prop where
  | underscore {c : Char} : c = '.' ∨ c = '-' → StandsFor '_' c
  | same {c : Char} : c ≠ '.' → c ≠ '-' → StandsFor c c

theorem packageChar_standsFor (c : Char) : StandsFor (packageChar c) c := by
  unfold packageChar
  split
  case isTrue mark => exact .underscore mark
  case isFalse other =>
    obtain ⟨notDot, notDash⟩ := not_or.mp other
    exact .same notDot notDash

theorem forall₂_packageChar (name : List Char) :
    List.Forall₂ StandsFor (name.map packageChar) name := by
  induction name with
  | nil => exact .nil
  | cons c rest ih => exact .cons (packageChar_standsFor c) ih

theorem StandsFor.ne {made given : Char} (stands : StandsFor made given) :
    made ≠ '.' ∧ made ≠ '-' := by
  cases stands with
  | underscore => decide
  | same notDot notDash => exact ⟨notDot, notDash⟩

/-- Where the options name the package. -/
structure NamedBy (file : File) (path : String) (name : List Char) : Prop where
  characters : List.Forall₂ StandsFor file.goPackage.value.toList name
  noDash : '-' ∉ file.goPackage.value.toList
  noSlash : ';' ∉ path.toList → '/' ∉ file.goPackage.value.toList
  anywhere : ∀ package, ({ file with package } : File).goPackage.value = file.goPackage.value

theorem namedBy_of_names {file : File} {path : String} {name : List Char}
    (names : Names file.options path name) : NamedBy file path name := by
  have spelled : file.goPackage.value.toList = name.map packageChar := by
    rw [file.value_goPackage_of_names names, String.toList_ofList]
  have origin : ∀ c ∈ file.goPackage.value.toList, ∃ given ∈ name, StandsFor c given := by
    rw [spelled]
    intro c member
    obtain ⟨given, inside, rfl⟩ := List.mem_map.mp member
    exact ⟨given, inside, packageChar_standsFor given⟩
  constructor
  · rw [spelled]
    exact forall₂_packageChar name
  · intro member
    obtain ⟨_, _, stands⟩ := origin _ member
    exact stands.ne.2 rfl
  · intro unmarked member
    obtain ⟨given, inside, stands⟩ := origin _ member
    cases stands with
    | same => exact names.2.1.slash_not_mem unmarked inside
  · intro package
    have elsewhere : Names ({ file with package } : File).options path name := names
    rw [file.value_goPackage_of_names names, File.value_goPackage_of_names elsewhere]

/-- A text that can stand in a package clause. -/
def Nameable (package : String) : Prop :=
  package ≠ "" ∧ '.' ∉ package.toList

theorem nameable_ofList {characters : List Char} (filled : characters ≠ [])
    (noDot : '.' ∉ characters) : Nameable (String.ofList characters) := by
  constructor
  · intro empty
    apply filled
    simpa using congrArg String.toList empty
  · rw [String.toList_ofList]
    exact noDot

theorem nameable_of_names {file : File} {path : String} {name : List Char}
    (names : Names file.options path name) : Nameable file.goPackage.value := by
  rw [file.value_goPackage_of_names names]
  apply nameable_ofList
  · exact mt List.map_eq_nil_iff.mp names.2.2
  · intro member
    obtain ⟨given, _, dot⟩ := List.mem_map.mp member
    exact (packageChar_standsFor given).ne.1 dot

theorem nameable_packageOfSchema (package : String) : Nameable (packageOfSchema package) := by
  obtain ⟨segment, last⟩ := AfterLast.exists '.' package.toList
  rw [packageOfSchema_eq last]
  split
  case isTrue => exact ⟨by decide, by decide⟩
  case isFalse filled => exact nameable_ofList filled last.not_mem

theorem File.nameable_goPackage (file : File) : Nameable file.goPackage.value := by
  by_cases named : ∃ path name, Names file.options path name
  · obtain ⟨path, name, names⟩ := named
    exact nameable_of_names names
  · rw [file.value_goPackage_of_unnamed fun path name names => named ⟨path, name, names⟩]
    exact nameable_packageOfSchema file.package

/-- How the package of a file comes about. -/
structure PackageLaw (file : File) : Prop where
  nameable : Nameable file.goPackage.value
  named : ∀ path name, Names file.options path name → NamedBy file path name
  unnamed : (∀ path name, ¬Names file.options path name) →
    file.goPackage.value = ({ file with options := none } : File).goPackage.value
  plain : ∀ segment, AfterLast '.' file.package.toList segment →
    ({ file with options := none } : File).goPackage.value =
      if segment = [] then "main" else String.ofList segment

theorem not_names_none (path : String) (name : List Char) : ¬Names none path name := by
  intro names
  obtain ⟨⟨_, none, _⟩, _⟩ := names
  cases none

theorem File.value_goPackage_plain (file : File) :
    ({ file with options := none } : File).goPackage.value = packageOfSchema file.package :=
  File.value_goPackage_of_unnamed not_names_none

/-- The package of a file is never empty and has no dot. It is what the options name if they name
    one, wherever the schema package is, and otherwise what it is without options. -/
theorem package_named_or_plain (file : File) : PackageLaw file where
  nameable := file.nameable_goPackage
  named := fun _ _ names => namedBy_of_names names
  unnamed := by
    intro unnamed
    rw [file.value_goPackage_of_unnamed unnamed, file.value_goPackage_plain]
  plain := by
    intro segment last
    rw [file.value_goPackage_plain, packageOfSchema_eq last]

/-- Behind a semicolon slashes and further semicolons belong to the name. -/
theorem package_named_or_plain_semicolons :
    let options : Json := .object [("go_package", .string "x.y/z;a.b-c/d;")]
    let file : File := ⟨"a.proto", "s.t", [], some options⟩
    let name := ['a', '.', 'b', '-', 'c', '/', 'd', ';']
    Names file.options "x.y/z;a.b-c/d;" name ∧
      NamedBy file "x.y/z;a.b-c/d;" name ∧ file.goPackage.value = "a_b_c/d;" := by
  intro options file name
  have unmarked : ';' ∉ ['x', '.', 'y', '/', 'z'] := by decide
  have part : NamePart "x.y/z;a.b-c/d;".toList name := .marked unmarked
  have names : Names file.options "x.y/z;a.b-c/d;" name :=
    ⟨⟨_, rfl, rfl⟩, part, by decide⟩
  exact ⟨names, (package_named_or_plain file).named _ _ names, by decide +kernel⟩

end Schema

end SchemaDefaults
