/-! # White space and blank text

The characters with the Unicode property `White_Space`, and the two questions the
rest of the library asks about them: is a text blank, and what is left of it when
blanks are taken off both ends. Zero-width characters such as U+200B and U+FEFF
do not have the property, so a text made of them is not blank.
-/

namespace SchemaDefaults.Text

/-- The Unicode property `White_Space`. -/
def isSpace (c : Char) : Bool :=
  let n := c.toNat
  (0x09 ≤ n && n ≤ 0x0D) || n == 0x20 || n == 0x85 || n == 0xA0 || n == 0x1680 ||
    (0x2000 ≤ n && n ≤ 0x200A) || n == 0x2028 || n == 0x2029 || n == 0x202F ||
    n == 0x205F || n == 0x3000

/-- Whether a text has no character other than white space. -/
def isBlank (text : String) : Bool :=
  text.toList.all isSpace

/-- A text without the white space at its two ends. -/
def trim (text : String) : String :=
  String.ofList ((text.toList.dropWhile isSpace).reverse.dropWhile isSpace).reverse

/-- A text is not blank exactly when one of its characters is not white space. -/
theorem isBlank_eq_false_iff {text : String} :
    isBlank text = false ↔ ∃ c ∈ text.toList, isSpace c = false := by
  simp [isBlank]

/-- A text has a character other than white space. -/
def Filled (text : String) : Prop :=
  ∃ c ∈ text.toList, isSpace c = false

theorem isBlank_eq_true_iff {text : String} : isBlank text = true ↔ ¬Filled text := by
  rw [Filled, ← isBlank_eq_false_iff, Bool.not_eq_false]

end SchemaDefaults.Text
