import SchemaDefaults.Proofs.CamelCase

/-! # Type names of nested messages

The names on the way down to a message are joined first and cased afterwards, all at once.
Nevertheless each name is cased as it would be alone: an underscore between two names is
dropped with nothing else changed, or stays where it is. So the type of a message begins with
the type of the message around it.
-/

namespace SchemaDefaults.GoName

/-! ## Before an underscore -/

theorem startsLower_append_underscore (chars more : List Char) :
    startsLower (chars ++ '_' :: more) = startsLower chars := by
  cases chars <;> rfl

/-- An underscore and what comes behind it do not change how the characters before it are cased. -/
theorem camelChars_append_underscore (fresh : Bool) (chars more : List Char) :
    camelChars fresh (chars ++ '_' :: more) =
      camelChars fresh chars ++ camelChars true ('_' :: more) := by
  induction chars generalizing fresh with
  | nil => exact camelChars_of_large fresh rfl
  | cons c rest ih =>
      have same := startsLower_append_underscore rest more
      rw [List.cons_append]
      obtain small | ⟨rfl, lower⟩ | ⟨large, kept⟩ := char_cases c rest
      · rw [camelChars_small small, camelChars_small small, ih, List.cons_append]
      · rw [camelChars_dropped lower, camelChars_dropped (same.trans lower), ih]
      · rw [camelChars_kept large kept,
          camelChars_kept large fun underscore => same.trans (kept underscore), ih,
          List.cons_append]

theorem toList_camel_append_underscore {outer : String} (nonempty : outer ≠ "") (inner : String) :
    (camel (outer ++ "_" ++ inner)).toList =
      (camel outer).toList ++ camelChars true ('_' :: inner.toList) := by
  have spelled : (outer ++ "_" ++ inner).toList = outer.toList ++ '_' :: inner.toList := by
    simp
  obtain ⟨rest, first, cased⟩ | ⟨start, cased⟩ := camel_cases outer
  · rw [first, List.cons_append] at spelled
    obtain ⟨_, joined, text⟩ | ⟨other, _⟩ := camel_cases (outer ++ "_" ++ inner)
    · rw [text, cased]
      obtain ⟨_, rfl⟩ := List.cons.inj (joined.symm.trans spelled)
      rw [camelChars_append_underscore, List.cons_append]
    · rw [spelled] at other
      exact absurd rfl other
  · have begins : (outer ++ "_" ++ inner).toList.head? = outer.toList.head? := by
      rw [spelled, List.head?_append_of_ne_nil _ (mt String.toList_eq_nil_iff.mp nonempty)]
    rw [toList_camel_of_no_underscore (begins ▸ start), cased, spelled,
      camelChars_append_underscore]

/-! ## Paths -/

/-- What the name of a nested message adds to the type of the message around it. -/
def nestedName (name : String) : String :=
  if startsLower name.toList then camel name else "_" ++ camel name

theorem toList_nestedName {name : String} (start : name.toList.head? ≠ some '_') :
    (nestedName name).toList = camelChars true ('_' :: name.toList) := by
  rw [nestedName]
  cases lower : startsLower name.toList with
  | true => rw [if_pos rfl, toList_camel_of_no_underscore start, camelChars_dropped lower]
  | false =>
      have behind : camelChars '_'.isDigit name.toList = camelChars true name.toList :=
        camelChars_of_large _ lower
      rw [if_neg nofun, String.toList_append, toList_camel_of_no_underscore start,
        camelChars_kept rfl fun _ => lower, behind]
      rfl

theorem camel_append_underscore {outer inner : String} (nonempty : outer ≠ "")
    (start : inner.toList.head? ≠ some '_') :
    camel (outer ++ "_" ++ inner) = camel outer ++ nestedName inner := by
  rw [← String.toList_inj, toList_camel_append_underscore nonempty, String.toList_append,
    toList_nestedName start]

/-- What holds of each name, and of a name before what is joined already, holds of the names joined
    with underscores. -/
theorem intercalate_of_join {P : String → Prop} {path : List String} (nonempty : path ≠ [])
    (each : ∀ name ∈ path, P name)
    (join : ∀ name ∈ path, ∀ joined, P joined → P (name ++ "_" ++ joined)) :
    P (String.intercalate "_" path) := by
  induction path with
  | nil => contradiction
  | cons name rest ih =>
      obtain ⟨first, others⟩ := List.forall_mem_cons.mp each
      obtain ⟨before, further⟩ := List.forall_mem_cons.mp join
      by_cases last : rest = []
      · rw [last, String.intercalate_singleton]
        exact first
      · rw [String.intercalate_cons_of_ne_nil last]
        exact before _ (ih last others further)

/-- Names joined with underscores begin like the first of them. -/
theorem head?_intercalate {name : String} (nonempty : name ≠ "") (rest : List String) :
    (String.intercalate "_" (name :: rest)).toList.head? = name.toList.head? := by
  by_cases last : rest = []
  · rw [last, String.intercalate_singleton]
  · rw [String.intercalate_cons_of_ne_nil last, String.append_assoc, String.toList_append,
      List.head?_append_of_ne_nil _ (mt String.toList_eq_nil_iff.mp nonempty)]

theorem ofPath_cons {first : String} {rest : List String} (nonempty : first ≠ "")
    (seams : ∀ name ∈ rest, name ≠ "" ∧ name.toList.head? ≠ some '_') :
    ofPath (first :: rest) = camel first ++ String.join (rest.map nestedName) := by
  induction rest generalizing first with
  | nil => simp [ofPath]
  | cons name rest ih =>
      obtain ⟨⟨named, start⟩, others⟩ := List.forall_mem_cons.mp seams
      have begins := head?_intercalate named rest
      have lower : startsLower (String.intercalate "_" (name :: rest)).toList =
          startsLower name.toList := by
        rw [startsLower_eq_any, begins, ← startsLower_eq_any]
      have cased : camel (String.intercalate "_" (name :: rest)) =
          camel name ++ String.join (rest.map nestedName) := ih named others
      have inner : nestedName (String.intercalate "_" (name :: rest)) =
          nestedName name ++ String.join (rest.map nestedName) := by
        rw [nestedName, nestedName, lower, cased]
        split
        · rfl
        · rw [String.append_assoc]
      rw [ofPath, String.intercalate_cons_of_ne_nil (List.cons_ne_nil name rest),
        camel_append_underscore nonempty (begins ▸ start), inner, List.map_cons, String.join_cons]

/-- A longer path only adds to the type, whatever it goes on with. -/
theorem ofPath_prefix_concat {first : String} (nonempty : first ≠ "") (rest : List String)
    (name : String) :
    (ofPath (first :: rest)).toList <+: (ofPath (first :: rest ++ [name])).toList := by
  have joined : String.intercalate "_" (first :: rest) ≠ "" := fun blank => by
    have begins := head?_intercalate nonempty rest
    rw [blank, eq_comm] at begins
    exact nonempty (String.toList_eq_nil_iff.mp (List.head?_eq_none_iff.mp begins))
  rw [ofPath, ofPath, String.intercalate_append_of_ne_nil (List.cons_ne_nil first rest)
    (List.cons_ne_nil name []), String.intercalate_singleton, toList_camel_append_underscore joined]
  exact List.prefix_append _ _

/-- The type of a nested message is made of the names on the way down to it, each cased as it would
    be alone, with an underscore before those that do not begin with a small letter. One name more
    adds to the type of the message around it and changes nothing of it. -/
theorem ofPath_name_by_name {first : String} {rest : List String} (nonempty : first ≠ "")
    (seams : ∀ name ∈ rest, name ≠ "" ∧ name.toList.head? ≠ some '_') :
    ofPath (first :: rest) = camel first ++ String.join (rest.map nestedName) ∧
      ∀ name, (ofPath (first :: rest)).toList <+: (ofPath (first :: rest ++ [name])).toList :=
  ⟨ofPath_cons nonempty seams, ofPath_prefix_concat nonempty rest⟩

theorem ofPath_name_by_name_seams :
    (∀ name ∈ ["inner", "3rd_part", "HTTP", "ünit_x"], name ≠ "" ∧ name.toList.head? ≠ some '_') ∧
      ofPath ["_outer_", "inner", "3rd_part", "HTTP", "ünit_x"] = "XOuter_Inner_3RdPart_HTTP_ünitX" ∧
      ∀ name, "XOuter_Inner_3RdPart_HTTP_ünitX".toList <+:
        (ofPath ["_outer_", "inner", "3rd_part", "HTTP", "ünit_x", name]).toList := by
  have seams : ∀ name ∈ ["inner", "3rd_part", "HTTP", "ünit_x"],
      name ≠ "" ∧ name.toList.head? ≠ some '_' := by decide
  have nonempty : "_outer_" ≠ "" := by decide
  obtain ⟨typeName, longer⟩ := ofPath_name_by_name nonempty seams
  have spelled : ofPath ["_outer_", "inner", "3rd_part", "HTTP", "ünit_x"] =
      "XOuter_Inner_3RdPart_HTTP_ünitX" := typeName.trans (by decide +kernel)
  exact ⟨seams, spelled, spelled ▸ longer⟩

end SchemaDefaults.GoName
