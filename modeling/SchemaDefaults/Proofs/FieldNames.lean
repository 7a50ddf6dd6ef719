import SchemaDefaults.Proofs.Identifiers

/-! # Names of struct fields

A schema field is named in camel case, with an underscore behind the name if it is a method's.
The underscore leads to no other method, and camel case leaves it where it is, so a name that a
field has got is not changed again. But a schema may spell the underscore itself, and then two
of its fields have one name in the struct. In no other way does the underscore bring two names
together.
-/

namespace SchemaDefaults.GoName

/-! ## An underscore at the end -/

/-- An underscore at the end is never dropped, for no small letter comes behind it. -/
theorem camel_concat_underscore {name : String} (nonempty : name ≠ "") :
    camel (name ++ "_") = camel name ++ "_" := by
  have cased := toList_camel_append_underscore nonempty ""
  rw [String.append_empty] at cased
  rw [← String.toList_inj, cased, String.toList_append]
  rfl

theorem Cased.concat_underscore {name : String} (cased : Cased name) (nonempty : name ≠ "") :
    Cased (name ++ "_") := by
  have same : camel (name ++ "_") = name ++ "_" := by
    rw [camel_concat_underscore nonempty, cased.camel_eq]
  exact same ▸ cased_camel (name ++ "_")

theorem ne_empty_of_mem_reserved {name : String} (taken : name ∈ reserved) : name ≠ "" := by
  rintro rfl
  exact absurd taken (by decide)

/-! ## Names that stay as they are -/

/-- A name in camel case that no method has. -/
structure FieldName (name : String) : Prop where
  cased : Cased name
  free : name ∉ reserved

theorem fieldName_ofField (name : String) : FieldName (ofField name) := by
  have cased := cased_camel name
  refine ⟨?_, ofField_not_mem_reserved name⟩
  by_cases taken : camel name ∈ reserved
  · rw [ofField_of_reserved taken]
    exact cased.concat_underscore (ne_empty_of_mem_reserved taken)
  · rw [ofField_of_free taken]
    exact cased

theorem FieldName.ofField_eq {name : String} (field : FieldName name) : ofField name = name := by
  have same := field.cased.camel_eq
  rw [ofField_of_free (same.symm ▸ field.free), same]

/-! ## Two fields with one name -/

/-- One of two cased names is a method's, and the other is that name with an underscore. -/
def MetByEscape (cased other : String) : Prop :=
  ∃ taken ∈ reserved,
    (cased = taken ∧ other = taken ++ "_") ∨ (other = taken ∧ cased = taken ++ "_")

theorem MetByEscape.ne {cased other : String} (met : MetByEscape cased other) :
    cased ≠ other := by
  rintro rfl
  obtain ⟨taken, _, ⟨rfl, longer⟩ | ⟨rfl, longer⟩⟩ := met
  all_goals exact absurd (String.append_eq_left_iff.mp longer.symm) (by decide)

theorem ofField_of_escape {name other : String} (taken : camel name ∈ reserved)
    (spelled : camel other = camel name ++ "_") : ofField name = ofField other := by
  have free : camel other ∉ reserved := spelled ▸ escape_not_mem_reserved taken
  rw [ofField_of_reserved taken, ofField_of_free free, spelled]

theorem ofField_eq_iff (name other : String) :
    ofField name = ofField other ↔
      camel name = camel other ∨ MetByEscape (camel name) (camel other) := by
  constructor
  · intro same
    by_cases taken : camel name ∈ reserved
    · rw [ofField_of_reserved taken] at same
      by_cases also : camel other ∈ reserved
      · rw [ofField_of_reserved also, String.append_left_inj] at same
        exact .inl same
      · rw [ofField_of_free also] at same
        exact .inr ⟨camel name, taken, .inl ⟨rfl, same.symm⟩⟩
    · rw [ofField_of_free taken] at same
      by_cases also : camel other ∈ reserved
      · rw [ofField_of_reserved also] at same
        exact .inr ⟨camel other, also, .inr ⟨rfl, same⟩⟩
      · rw [ofField_of_free also] at same
        exact .inl same
  · rintro (same | ⟨_, member, ⟨rfl, spelled⟩ | ⟨rfl, spelled⟩⟩)
    · rw [ofField, ofField, same]
    · exact ofField_of_escape member spelled
    · exact (ofField_of_escape member spelled).symm

/-- An underscore that a schema spells at the end of a name is lost exactly behind the name of a
    method. -/
theorem ofField_concat_underscore_eq_iff (name : String) :
    ofField (name ++ "_") = ofField name ↔ camel name ∈ reserved := by
  rcases eq_or_ne name "" with rfl | nonempty
  · decide +kernel
  · rw [ofField_eq_iff, camel_concat_underscore nonempty]
    constructor
    · rintro (same | ⟨taken, member, ⟨ends, spelled⟩ | ⟨rfl, _⟩⟩)
      · exact absurd (String.append_eq_left_iff.mp same) (by decide)
      · have twice : taken ++ ("_" ++ "_") = taken := by
          rw [← String.append_assoc, ← spelled, ends]
        exact absurd (String.append_eq_left_iff.mp twice) (by decide)
      · exact member
    · intro taken
      exact .inr ⟨camel name, taken, .inr ⟨rfl, rfl⟩⟩

/-- No field is named like a method, and a name that a field has got is not changed again. Two
    fields have one name if camel case makes one of their names, or if it makes a method's name of
    the one and that name with an underscore of the other. Only the latter comes of escaping: an
    underscore at the end of a name is lost behind the name of a method and behind no other. -/
theorem fields_meet_by_escape (name other : String) :
    ofField name ∉ reserved ∧
      ofField (ofField name) = ofField name ∧
      (ofField name = ofField other ↔
        camel name = camel other ∨ MetByEscape (camel name) (camel other)) ∧
      (ofField name = ofField other ∧ camel name ≠ camel other ↔
        MetByEscape (camel name) (camel other)) ∧
      (ofField (name ++ "_") = ofField name ↔ camel name ∈ reserved) := by
  have meets := ofField_eq_iff name other
  have escaped : ofField name = ofField other ∧ camel name ≠ camel other ↔
      MetByEscape (camel name) (camel other) := by
    rw [meets]
    exact ⟨fun ⟨met, apart⟩ => met.resolve_left apart, fun met => ⟨.inr met, met.ne⟩⟩
  have settled := fieldName_ofField name
  exact ⟨settled.free, settled.ofField_eq, meets, escaped, ofField_concat_underscore_eq_iff name⟩

example : ofField "marshal" = "Marshal_" ∧ ofField "marshal_" = "Marshal_" ∧
    ofField "marshal__" = "Marshal__" := by
  decide +kernel

end SchemaDefaults.GoName
