import SchemaDefaults.Storage.Path

/-! # Components of paths inside a directory

A plain path only goes down, so inside a directory it means what the directory means, with
its own components after that. Two plain paths inside one directory are therefore the same
path exactly when they have the same components, and no plain path leaves the directory.
-/

namespace SchemaDefaults

namespace Path

theorem innerComponents_append (front more : List String) :
    innerComponents (front ++ more) = innerComponents front ++ innerComponents more := by
  simp [innerComponents]

/-- The components for which the segments at the front of a longer path stand. -/
def leading : List String → List Component
  | "" :: rest => .root :: innerComponents rest
  | "." :: rest => .here :: innerComponents rest
  | segments => innerComponents segments

theorem leading_eq_inner {first : String} {rest : List String} (noRoot : first ≠ "")
    (noDot : first ≠ ".") : leading (first :: rest) = innerComponents (first :: rest) := by
  rw [leading]
  · rintro _ ⟨⟩
    exact noRoot rfl
  · rintro _ ⟨⟩
    exact noDot rfl

theorem leading_append {front : List String} (given : front ≠ []) (more : List String) :
    leading (front ++ more) = leading front ++ innerComponents more := by
  obtain ⟨first, rest, rfl⟩ := List.exists_cons_of_ne_nil given
  by_cases root : first = ""
  · subst root
    simp [leading, innerComponents]
  · by_cases here : first = "."
    · subst here
      simp [leading, innerComponents]
    · rw [List.cons_append, leading_eq_inner root here, leading_eq_inner root here,
        ← List.cons_append, innerComponents_append]

theorem segments_ne_nil (path : Path) : path.segments ≠ [] := by
  simpa [segments] using Text.split_ne_nil '/' path.text.toList

theorem segments_eq_blank_iff (path : Path) : path.segments = [""] ↔ path.text = "" := by
  constructor
  · intro blank
    have alone : Text.split '/' path.text.toList = [[]] := by
      obtain ⟨part, single, named⟩ := List.map_eq_singleton_iff.mp blank
      rw [single, String.ofList_eq_empty_iff.mp named]
    exact String.toList_eq_nil_iff.mp (Text.split_eq_blank.mp alone)
  · intro nothing
    simp [segments, nothing, Text.split]

theorem components_eq_leading {path : Path} (named : path.text ≠ "") :
    path.components = leading path.segments := by
  have notBlank : path.segments ≠ [""] := fun blank =>
    named (path.segments_eq_blank_iff.mp blank)
  simp only [components]
  split
  · next nothing => exact absurd nothing path.segments_ne_nil
  · next blank => exact absurd blank notBlank
  · next rest _ given => rw [given, leading]
  · next rest given => rw [given, leading]
  · next noRoot noDot =>
      rw [leading]
      · exact noRoot
      · exact noDot

/-! ## Plain paths -/

/-- A path that is not empty is absolute if its first segment is empty. -/
theorem isAbsolute_iff {path : Path} (named : path.text ≠ "") :
    path.isAbsolute = true ↔ path.segments.head? = some "" := by
  cases spelled : path.text.toList with
  | nil => exact absurd (String.toList_eq_nil_iff.mp spelled) named
  | cons c rest =>
      obtain ⟨part, parts, parted⟩ := List.exists_cons_of_ne_nil (Text.split_ne_nil '/' rest)
      by_cases slash : c = '/'
      · simp [isAbsolute, segments, spelled, Text.split, slash]
      · simp [isAbsolute, segments, spelled, Text.split, slash, parted]

/-- A path is plain when its components are names and nothing else. -/
theorem isPlain_iff_exists (path : Path) :
    path.isPlain = true ↔ ∃ names : List String, path.components = names.map .plain := by
  rw [isPlain, List.all_eq_true]
  generalize path.components = components
  constructor
  · intro plain
    induction components with
    | nil => exact ⟨[], rfl⟩
    | cons component rest ih =>
        obtain ⟨names, rfl⟩ := ih fun one member => plain one (List.mem_cons_of_mem _ member)
        have first := plain component List.mem_cons_self
        cases component with
        | plain name => exact ⟨name :: names, rfl⟩
        | _ => cases first
  · rintro ⟨names, rfl⟩ component member
    obtain ⟨name, -, rfl⟩ := List.mem_map.mp member
    rfl

/-- The segments of a path that are neither empty nor dots. -/
def names (path : Path) : List String :=
  path.segments.filter fun segment => segment ≠ "" ∧ segment ≠ "."

theorem innerComponents_of_no_up {segments : List String} (down : ".." ∉ segments) :
    innerComponents segments =
      (segments.filter fun segment => segment ≠ "" ∧ segment ≠ ".").map .plain := by
  induction segments with
  | nil => rfl
  | cons segment rest ih =>
      obtain ⟨notUp, noUps⟩ := not_or.mp (mt List.mem_cons.mpr down)
      have rest := ih noUps
      simp only [innerComponents] at rest ⊢
      by_cases nothing : segment = "" ∨ segment = "."
      · rcases nothing with rfl | rfl
        · simpa using rest
        · simpa using rest
      · obtain ⟨notBlank, notDot⟩ := not_or.mp nothing
        simpa [notBlank, notDot, Ne.symm notUp] using rest

theorem exists_innerComponents_iff (segments : List String) :
    (∃ names : List String, innerComponents segments = names.map .plain) ↔ ".." ∉ segments := by
  constructor
  · rintro ⟨names, plain⟩ up
    have member : Component.up ∈ innerComponents segments :=
      List.mem_filterMap.mpr ⟨"..", up, by simp⟩
    rw [plain] at member
    simp at member
  · exact fun down => ⟨_, innerComponents_of_no_up down⟩

/-- Whether a path begins with a slash or with a component that is a dot, or goes up. -/
def Leaves (path : Path) : Prop :=
  path.isAbsolute = true ∨ path.segments.head? = some "." ∨ ".." ∈ path.segments

/-- A path leaves the place where it begins unless it only goes down, by plain names. -/
theorem isPlain_iff (path : Path) : path.isPlain = true ↔ ¬path.Leaves := by
  rw [isPlain_iff_exists, Leaves, not_or, not_or, Bool.not_eq_true]
  by_cases named : path.text = ""
  · have blank := path.segments_eq_blank_iff.mpr named
    simp [components, blank, isAbsolute, named]
  · have absolute := isAbsolute_iff named
    obtain ⟨first, rest, spelled⟩ := List.exists_cons_of_ne_nil path.segments_ne_nil
    rw [components_eq_leading named, ← Bool.not_eq_true, absolute, spelled]
    by_cases root : first = ""
    · simp only [leading, root, List.head?_cons, not_true_eq_false, false_and, iff_false]
      rintro ⟨_ | _, ⟨⟩⟩
    · by_cases here : first = "."
      · simp only [leading, here, List.head?_cons, not_true_eq_false, false_and, and_false,
          iff_false]
        rintro ⟨_ | _, ⟨⟩⟩
      · rw [leading_eq_inner root here, exists_innerComponents_iff]
        simp [root, here]

theorem isPlain_parts {path : Path} (plain : path.isPlain = true) :
    path.isAbsolute = false ∧ path.segments.head? ≠ some "." ∧ ".." ∉ path.segments := by
  simpa [Leaves] using path.isPlain_iff.mp plain

/-- The components of a plain path are its names. -/
theorem components_of_isPlain {path : Path} (plain : path.isPlain = true) :
    path.components = path.names.map .plain := by
  obtain ⟨relative, noDot, down⟩ := isPlain_parts plain
  rw [names, ← innerComponents_of_no_up down]
  by_cases named : path.text = ""
  · have blank := path.segments_eq_blank_iff.mpr named
    simp [components, blank, innerComponents]
  · have noRoot := mt (isAbsolute_iff named).mpr (by simp [relative])
    obtain ⟨first, rest, spelled⟩ := List.exists_cons_of_ne_nil path.segments_ne_nil
    rw [components_eq_leading named, spelled]
    rw [spelled] at noRoot noDot
    exact leading_eq_inner (by simpa using noRoot) (by simpa using noDot)

/-- A plain path that is not empty has a name. -/
theorem names_ne_nil {path : Path} (plain : path.isPlain = true) (named : path.text ≠ "") :
    path.names ≠ [] := by
  obtain ⟨relative, noDot, -⟩ := isPlain_parts plain
  have noRoot := mt (isAbsolute_iff named).mpr (by simp [relative])
  obtain ⟨first, rest, spelled⟩ := List.exists_cons_of_ne_nil path.segments_ne_nil
  rw [spelled] at noRoot noDot
  simp only [List.head?_cons, ne_eq, Option.some.injEq] at noRoot noDot
  simp [names, spelled, noRoot, noDot]

/-! ## Paths inside a directory -/

theorem segments_append_slash (front rest : String) :
    segments ⟨front ++ "/" ++ rest⟩ = segments ⟨front⟩ ++ segments ⟨rest⟩ := by
  simp [segments, Text.split_append_mark]

/-- The segments that stand for a directory in the paths inside it: its own, without the empty
    one after a slash at the end. -/
def front (directory : Path) : List String :=
  if directory.text = "" then []
  else if directory.text.toList.getLast? = some '/' then directory.segments.dropLast
  else directory.segments

theorem segments_of_slash {directory : Path} (ended : directory.text.toList.getLast? = some '/') :
    ∃ text, directory.text = text ++ "/" ∧ directory.segments = segments ⟨text⟩ ++ [""] := by
  obtain ⟨text, spelled⟩ := List.getLast?_eq_some_iff.mp ended
  refine ⟨String.ofList text, ?_, ?_⟩
  · rw [← String.toList_inj, spelled]
    simp
  · simp [segments, spelled, Text.split_append_mark, Text.split]

theorem front_ne_nil {directory : Path} (named : directory.text ≠ "") : directory.front ≠ [] := by
  rw [front, if_neg named]
  split
  · next ended =>
      obtain ⟨text, -, spelled⟩ := segments_of_slash ended
      rw [spelled, List.dropLast_concat]
      exact segments_ne_nil _
  · exact segments_ne_nil _

theorem leading_front (directory : Path) : leading directory.front = directory.components := by
  by_cases nowhere : directory.text = ""
  · have blank := directory.segments_eq_blank_iff.mpr nowhere
    simp [front, nowhere, components, blank, leading, innerComponents]
  · rw [front, if_neg nowhere, components_eq_leading nowhere]
    split
    · next ended =>
        obtain ⟨text, -, spelled⟩ := segments_of_slash ended
        rw [spelled, List.dropLast_concat, leading_append (segments_ne_nil _)]
        simp [innerComponents]
    · rfl

theorem join_of_empty {directory inner : Path} (relative : inner.isAbsolute = false)
    (nowhere : directory.text = "") : directory.join inner = inner := by
  simp [join, relative, nowhere]

theorem segments_join {inner : Path} (relative : inner.isAbsolute = false) (directory : Path) :
    (directory.join inner).segments = directory.front ++ inner.segments := by
  by_cases nowhere : directory.text = ""
  · simp [join_of_empty relative nowhere, front, nowhere]
  · have named : directory.text.isEmpty = false := by simpa using nowhere
    simp only [join, relative, front, nowhere, named, Bool.false_eq_true, if_false, false_or]
    split
    · next ended =>
        obtain ⟨text, slashed, spelled⟩ := segments_of_slash ended
        rw [spelled, List.dropLast_concat, slashed, segments_append_slash]
    · rw [segments_append_slash]

theorem isAbsolute_join {inner : Path} (relative : inner.isAbsolute = false) (directory : Path) :
    (directory.join inner).isAbsolute = directory.isAbsolute := by
  by_cases nowhere : directory.text = ""
  · rw [join_of_empty relative nowhere, relative]
    simp [isAbsolute, nowhere]
  · obtain ⟨first, rest, spelled⟩ :=
      List.exists_cons_of_ne_nil (mt String.toList_eq_nil_iff.mp nowhere)
    simp only [join, relative, Bool.false_eq_true, if_false]
    split
    · simp [isAbsolute, spelled]
    · simp [isAbsolute, spelled]

/-- Inside a directory a plain path means what the directory means, with its own names after
    that. -/
theorem components_join {inner : Path} (plain : inner.isPlain = true) (directory : Path) :
    (directory.join inner).components = directory.components ++ inner.names.map .plain := by
  obtain ⟨relative, -, down⟩ := isPlain_parts plain
  by_cases nowhere : directory.text = ""
  · have nothing : directory.components = [] := by
      simp [components, directory.segments_eq_blank_iff.mpr nowhere]
    rw [join_of_empty relative nowhere, nothing, components_of_isPlain plain, List.nil_append]
  · have spelled := segments_join relative directory
    have given := front_ne_nil nowhere
    have more : (directory.join inner).segments ≠ [""] := by
      intro blank
      rw [spelled] at blank
      obtain ⟨nothing, -⟩ | ⟨-, nothing⟩ := List.append_eq_singleton_iff.mp blank
      · exact given nothing
      · exact inner.segments_ne_nil nothing
    have named := mt (segments_eq_blank_iff _).mpr more
    rw [components_eq_leading named, spelled, leading_append given, leading_front,
      innerComponents_of_no_up down, names]

end Path

end SchemaDefaults
