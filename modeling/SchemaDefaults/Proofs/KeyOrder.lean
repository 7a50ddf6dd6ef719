import Mathlib.Data.List.Induction
import Mathlib.Data.List.Nodup
import Mathlib.Data.String.Basic
import SchemaDefaults.Keyed

/-! # Collections in the order of their keys

Entries that stand in the order of their keys are settled by what is found under each key,
so two such collections are equal as soon as every look-up agrees. What is put into a
collection keeps it in order, and a collection made of a list of entries holds under each
key the last value that the list has for it.
-/

namespace SchemaDefaults.Keyed

variable {α : Type}

/-! ## Look-ups -/

theorem find?_append (key : String) (first second : List (String × α)) :
    find? key (first ++ second) = (find? key first).or (find? key second) := by
  induction first with
  | nil => rfl
  | cons entry rest ih =>
      obtain ⟨k, value⟩ := entry
      simp only [List.cons_append, find?_cons, ih]
      split
      · rfl
      · rfl

theorem find?_eq_none_iff {key : String} {entries : List (String × α)} :
    find? key entries = none ↔ key ∉ entries.map Prod.fst := by
  induction entries with
  | nil => simp
  | cons entry rest ih =>
      obtain ⟨k, value⟩ := entry
      simp only [find?_cons, List.map_cons, List.mem_cons, not_or]
      by_cases same : k = key
      · simp [same]
      · rw [if_neg same, ih]
        exact ⟨fun absent => ⟨fun eq => same eq.symm, absent⟩, fun absent => absent.2⟩

/-- If no key stands twice, an entry is what is found under its key. -/
theorem mem_iff_find? {entries : List (String × α)} (distinct : (entries.map Prod.fst).Nodup)
    {key : String} {value : α} : (key, value) ∈ entries ↔ find? key entries = some value := by
  refine ⟨fun member => ?_, mem_of_find?⟩
  induction entries with
  | nil => cases member
  | cons entry rest ih =>
      obtain ⟨k, first⟩ := entry
      obtain ⟨fresh, distinct⟩ := List.nodup_cons.mp distinct
      rcases List.mem_cons.mp member with same | later
      · cases same
        exact if_pos rfl
      · have other : k ≠ key := by
          rintro rfl
          exact fresh (List.mem_map.mpr ⟨_, later, rfl⟩)
        rw [find?_cons, if_neg other]
        exact ih distinct later

theorem find?_reverse {entries : List (String × α)} (distinct : (entries.map Prod.fst).Nodup)
    (key : String) : find? key entries.reverse = find? key entries := by
  have reversed : (entries.reverse.map Prod.fst).Nodup := by
    rw [List.map_reverse]
    exact List.nodup_reverse.mpr distinct
  apply Option.ext
  intro value
  rw [← mem_iff_find? reversed, ← mem_iff_find? distinct, List.mem_reverse]

/-! ## Entries in order -/

theorem Sorted.distinct {entries : List (String × α)} (sorted : Sorted entries) :
    (entries.map Prod.fst).Nodup :=
  List.Pairwise.imp ne_of_lt sorted

/-- Collections in which every key has the same value are equal. -/
theorem Sorted.ext {left right : List (String × α)} (sortedLeft : Sorted left)
    (sortedRight : Sorted right) (same : ∀ key, find? key left = find? key right) :
    left = right := by
  have members : ∀ entry, entry ∈ left ↔ entry ∈ right := by
    rintro ⟨key, value⟩
    rw [mem_iff_find? sortedLeft.distinct, mem_iff_find? sortedRight.distinct, same key]
  have permuted : left.Perm right :=
    (List.perm_ext_iff_of_nodup (.of_map _ sortedLeft.distinct)
      (.of_map _ sortedRight.distinct)).mpr members
  refine permuted.eq_of_pairwise ?_ (List.pairwise_map.mp sortedLeft)
    (List.pairwise_map.mp sortedRight)
  intro a b _ _ before after
  exact absurd (lt_trans before after) (lt_irrefl _)

theorem mem_keys_insert {key other : String} {value : α} {entries : List (String × α)} :
    other ∈ (insert key value entries).map Prod.fst ↔
      other = key ∨ other ∈ entries.map Prod.fst := by
  have same := find?_insert key other value entries
  rw [← not_iff_not, ← find?_eq_none_iff, same, not_or, ← find?_eq_none_iff]
  by_cases eq : key = other
  · simp [eq]
  · rw [if_neg eq]
    exact ⟨fun absent => ⟨fun same => eq same.symm, absent⟩, fun absent => absent.2⟩

theorem sorted_insert {entries : List (String × α)} (key : String) (value : α)
    (sorted : Sorted entries) : Sorted (insert key value entries) := by
  induction entries with
  | nil => exact List.pairwise_singleton _ _
  | cons entry rest ih =>
      obtain ⟨k, old⟩ := entry
      obtain ⟨before, ordered⟩ := List.pairwise_cons.mp sorted
      rw [insert]
      split
      case isTrue same =>
        subst same
        exact .cons before ordered
      case isFalse different =>
        split
        case isTrue first =>
          refine .cons ?_ sorted
          intro other member
          rcases List.mem_cons.mp member with rfl | later
          · exact first
          · exact lt_trans first (before other later)
        case isFalse behind =>
          refine .cons ?_ (ih ordered)
          intro other member
          rcases mem_keys_insert.mp member with rfl | later
          · exact lt_of_le_of_ne (not_lt.mp behind) different
          · exact before other later

/-! ## Several insertions -/

/-- Of two values put under one key the second is left. -/
theorem insert_insert (key : String) (first second : α) (entries : List (String × α)) :
    insert key second (insert key first entries) = insert key second entries := by
  induction entries with
  | nil => simp [insert]
  | cons entry rest ih =>
      obtain ⟨k, old⟩ := entry
      by_cases same : k = key
      · simp [insert, same]
      · by_cases before : key < k
        · simp [insert, same, before]
        · simp [insert, same, before, ih]

/-- Values under different keys can be put in either order. -/
theorem insert_comm {key other : String} (different : key ≠ other) (value another : α)
    (entries : List (String × α)) :
    insert other another (insert key value entries) =
      insert key value (insert other another entries) := by
  wlog less : key < other generalizing key other value another
  · have more : other < key := lt_of_le_of_ne (not_lt.mp less) different.symm
    exact (this different.symm another value more).symm
  have notLess : ¬other < key := less.not_gt
  induction entries with
  | nil => simp [insert, different, different.symm, less, notLess]
  | cons entry rest ih =>
      obtain ⟨k, old⟩ := entry
      -- The smaller key goes before this entry, into its place, or behind it.
      rcases lt_trichotomy k key with smaller | rfl | greater
      · have below := smaller.trans less
        simp [insert, smaller.ne, smaller.not_gt, below.ne, below.not_gt, ih]
      · simp [insert, different, notLess]
      · by_cases same : k = other
        · simp [insert, same, different, different.symm, less, notLess]
        · by_cases before : other < k
          · simp [insert, same, before, greater.ne', greater, different, different.symm, less,
              notLess]
          · simp [insert, same, before, greater.ne', greater, different, notLess]

/-! ## Collections of lists -/

theorem ofList_append (first second : List (String × α)) :
    ofList (first ++ second) =
      second.foldl (fun kept (key, value) => insert key value kept) (ofList first) :=
  List.foldl_append

theorem ofList_concat (entries : List (String × α)) (key : String) (value : α) :
    ofList (entries ++ [(key, value)]) = insert key value (ofList entries) :=
  ofList_append entries [(key, value)]

theorem sorted_ofList (entries : List (String × α)) : Sorted (ofList entries) := by
  induction entries using List.reverseRecOn with
  | nil => exact .nil
  | append_singleton entries entry ih =>
      rw [ofList_concat]
      exact sorted_insert _ _ ih

/-- Of the entries under one key the last is found. -/
theorem find?_ofList (key : String) (entries : List (String × α)) :
    find? key (ofList entries) = find? key entries.reverse := by
  induction entries using List.reverseRecOn with
  | nil => rfl
  | append_singleton entries entry ih =>
      rw [ofList_concat, find?_insert, List.reverse_concat, find?_cons, ih]

/-- What is put later counts before what was there. -/
theorem find?_ofList_append {first second : List (String × α)}
    (distinctFirst : (first.map Prod.fst).Nodup) (distinctSecond : (second.map Prod.fst).Nodup)
    (key : String) :
    find? key (ofList (first ++ second)) = (find? key second).or (find? key first) := by
  rw [find?_ofList, List.reverse_append, find?_append, find?_reverse distinctSecond,
    find?_reverse distinctFirst]

theorem mem_ofList {entries : List (String × α)} (distinct : (entries.map Prod.fst).Nodup)
    {key : String} {value : α} : (key, value) ∈ ofList entries ↔ (key, value) ∈ entries := by
  rw [mem_iff_find? (sorted_ofList entries).distinct, find?_ofList, find?_reverse distinct,
    mem_iff_find? distinct]

end SchemaDefaults.Keyed
