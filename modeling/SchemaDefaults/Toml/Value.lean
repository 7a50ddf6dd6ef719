import SchemaDefaults.Decode.Error

/-! # TOML values

Whole numbers are kept exactly and turned into JSON numbers only when they are asked for,
so one that is too large is reported where it is used. A number that cannot be made out at
all spoils the document too, but likewise only where it is used: a wrong setting before it
is what a reader hears of. A date or a time becomes an object with a single member that
holds its text.
-/

namespace SchemaDefaults.Toml

/-- Why a document does not give what is wanted of it. -/
inductive Error where
  /-- The document breaks the grammar, or holds a number that cannot be made out. -/
  | malformed
  /-- A value is of the wrong kind. -/
  | mistyped (cause : DecodeError)
  deriving Repr, DecidableEq

/-- How messages about TOML values lay out doubles: always positionally. -/
def floatStyle : FloatStyle := ⟨fun _ => true⟩

def Error.message : Error → String
  | .malformed => "<invalid TOML>"
  | .mistyped cause => cause.messageIn floatStyle

inductive Value where
  | string (value : String)
  /-- A whole number that 128 bits can hold, with a sign or without. -/
  | integer (value : Int)
  /-- A number with a fraction or an exponent. -/
  | float (value : Double)
  /-- A number that cannot be made out. -/
  | unreadable
  | boolean (value : Bool)
  /-- A date, a time, or both. -/
  | moment (text : String)
  | array (items : List Value)
  | table (entries : List (String × Value))
  deriving Inhabited

namespace Value

/-- The member that holds the text of a date or time. -/
def momentKey : String := "$__toml_private_datetime"

/-- A whole number, if it is not too large. -/
def ofInteger (n : Int) : Value :=
  if -twoTo 127 ≤ n ∧ n < twoTo 128 then .integer n else .unreadable

/-- A number with a fraction or an exponent, if it is not beyond the largest double. -/
def ofDouble (x : Double) : Value :=
  if x.isFinite then .float x else .unreadable

/-- How a whole number is named in a message. -/
def foundInteger (n : Int) : Found :=
  if -twoTo 63 ≤ n ∧ n < twoTo 64 then .number (.integer n)
  else if n < twoTo 127 then .wideInteger n "i128"
  else .wideInteger n "u128"

/-- How a value is named in a message. -/
def found : Value → Except Error Found
  | .string value => .ok (.string value)
  | .integer value => .ok (foundInteger value)
  | .float value => .ok (.number (.float value))
  | .unreadable => .error .malformed
  | .boolean value => .ok (.bool value)
  | .moment _ => .ok .map
  | .array _ => .ok .sequence
  | .table _ => .ok .map

/-- Refuses a value because something else was expected. -/
def refuse {α : Type} (expected : String) (value : Value) : Except Error α := do
  .error (.mistyped (.invalidType (← value.found) expected))

def asString : Value → Except Error String
  | .string value => .ok value
  | value => value.refuse "a string"

def allStrings : List Value → Except Error (List String)
  | [] => .ok []
  | item :: rest => do
      let first ← item.asString
      let others ← allStrings rest
      return first :: others

def asStrings : Value → Except Error (List String)
  | .array items => allStrings items
  | value => value.refuse "a sequence"

mutual

/-- The JSON value that stands for a value. There is none for a number with too many bits;
    infinities and NaN become null. -/
def toJson : Value → Except Error Json
  | .string value => .ok (.string value)
  | .integer value =>
      match foundInteger value with
      | .number number => .ok (.number number)
      -- Numbers with too many bits are refused here, not where they were read.
      | wide => .error (.mistyped (.invalidType wide "any value"))
  | .float value => .ok (if value.isFinite then .number (.float value) else .null)
  | .unreadable => .error .malformed
  | .boolean value => .ok (.bool value)
  | .moment text => .ok (.object [(momentKey, .string text)])
  | .array items => do return .array (← itemsToJson items)
  | .table entries => do return .object (← entriesToJson entries)

/-- The JSON values of the items of an array. -/
def itemsToJson : List Value → Except Error (List Json)
  | [] => .ok []
  | item :: rest => do
      let first ← item.toJson
      let others ← itemsToJson rest
      return first :: others

/-- The JSON values of the entries of a table. -/
def entriesToJson : List (String × Value) → Except Error (List (String × Json))
  | [] => .ok []
  | (key, value) :: rest => do
      let first ← value.toJson
      let others ← entriesToJson rest
      return (key, first) :: others

end

end Value

end SchemaDefaults.Toml
