/-! # Cutting a text at a character

The parts of a text before and after the first or the last occurrence of a character.
-/

namespace SchemaDefaults.Text

/-- What follows the first occurrence of a character, if there is one. -/
def afterFirst? (mark : Char) : List Char → Option (List Char)
  | [] => none
  | c :: rest => if c = mark then some rest else afterFirst? mark rest

/-- What follows the last occurrence of a character, or the whole text. -/
def afterLast (mark : Char) (text : List Char) : List Char :=
  (text.reverse.takeWhile (· != mark)).reverse

/-- The parts of a text between the occurrences of a character, one more than there are
    occurrences. -/
def split (mark : Char) : List Char → List (List Char)
  | [] => [[]]
  | c :: rest =>
      if c = mark then [] :: split mark rest
      else
        match split mark rest with
        | [] => [[c]]
        | part :: parts => (c :: part) :: parts

/-- The text without a given ending, or the whole text. -/
def withoutEnding (ending text : String) : String :=
  if ending.toList.isSuffixOf text.toList then
    String.ofList (text.toList.take (text.toList.length - ending.toList.length))
  else text

/-! ## Parts -/

theorem split_ne_nil (mark : Char) (text : List Char) : split mark text ≠ [] := by
  cases text with
  | nil => simp [split]
  | cons c rest =>
      simp only [split]
      split
      · simp
      · split <;> simp

/-- A mark ends one part and begins the next. -/
theorem split_append_mark (mark : Char) (before after : List Char) :
    split mark (before ++ mark :: after) = split mark before ++ split mark after := by
  induction before with
  | nil => simp [split]
  | cons c rest ih =>
      obtain ⟨part, parts, parted⟩ := List.exists_cons_of_ne_nil (split_ne_nil mark rest)
      by_cases same : c = mark
      · simp [split, same, ih]
      · simp [split, same, ih, parted]

theorem split_eq_blank {mark : Char} {text : List Char} :
    split mark text = [[]] ↔ text = [] := by
  cases text with
  | nil => simp [split]
  | cons c rest =>
      obtain ⟨part, parts, parted⟩ := List.exists_cons_of_ne_nil (split_ne_nil mark rest)
      by_cases same : c = mark
      · simp [split, same, parted]
      · simp [split, same, parted]

theorem split_of_not_mem {mark : Char} {text : List Char} (without : mark ∉ text) :
    split mark text = [text] := by
  induction text with
  | nil => rfl
  | cons c rest ih =>
      obtain ⟨other, others⟩ := not_or.mp (mt List.mem_cons.mpr without)
      simp [split, Ne.symm other, ih others]

end SchemaDefaults.Text
