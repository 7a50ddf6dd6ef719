import SchemaDefaults.Json.Text
import SchemaDefaults.Text.Quoted

/-! # Why a value does not decode

The causes for which a value is refused where a record, a name or a scalar is expected,
and their wording. Which cause is reported when there are several is settled by the
decoders; here each cause has one text.
-/

namespace SchemaDefaults

/-- What stood where something else was expected. -/
inductive Found where
  | null
  | bool (value : Bool)
  | number (value : Number)
  | string (value : String)
  | sequence
  | map
  /-- A whole number that needs `bits` bits, more than any number here can have. -/
  | wideInteger (value : Int) (bits : String)
  deriving Repr, DecidableEq

/-- How a JSON value is named in a message. -/
def Found.ofJson : Json → Found
  | .null => .null
  | .bool value => .bool value
  | .number value => .number value
  | .string value => .string value
  | .array _ => .sequence
  | .object _ => .map

/-- The words for what was found, doubles in a given style. -/
def Found.text (style : FloatStyle) : Found → String
  | .null => "null"
  | .bool value => "boolean `" ++ (if value then "true" else "false") ++ "`"
  | .number (.integer value) => "integer `" ++ toString value ++ "`"
  | .number (.float value) => "floating point `" ++ style.text value ++ "`"
  | .string value => "string " ++ Text.quoted value
  | .sequence => "sequence"
  | .map => "map"
  | .wideInteger value bits => "integer `" ++ toString value ++ "` as " ++ bits

/-- Why a value does not decode. -/
inductive DecodeError where
  /-- A value of another kind than expected. -/
  | invalidType (found : Found) (expected : String)
  /-- A value of the right kind that is out of range. -/
  | invalidValue (found : Found) (expected : String)
  /-- An array with too few or too many items for a record. -/
  | invalidLength (length : Nat) (expected : String)
  /-- A record without a member that it needs. -/
  | missingField (name : String)
  /-- A record with a member given twice. -/
  | duplicateField (name : String)
  /-- A record with a member that it does not know. -/
  | unknownField (name : String) (known : List String)
  /-- A name that is none of the names of an enumeration. -/
  | unknownVariant (name : String) (known : List String)
  deriving Repr, DecidableEq

namespace DecodeError

/-- Names in backquotes, with commas between them. -/
def nameList (names : List String) : String :=
  String.intercalate ", " (names.map fun name => "`" ++ name ++ "`")

/-- The text of an error, doubles in a given style. -/
def messageIn (style : FloatStyle) : DecodeError → String
  | .invalidType found expected =>
      "invalid type: " ++ found.text style ++ ", expected " ++ expected
  | .invalidValue found expected =>
      "invalid value: " ++ found.text style ++ ", expected " ++ expected
  | .invalidLength length expected =>
      "invalid length " ++ toString length ++ ", expected " ++ expected
  | .missingField name => "missing field `" ++ name ++ "`"
  | .duplicateField name => "duplicate field `" ++ name ++ "`"
  | .unknownField name known =>
      "unknown field `" ++ name ++ "`, expected one of " ++ nameList known
  | .unknownVariant name known =>
      "unknown variant `" ++ name ++ "`, expected one of " ++ nameList known

def message : DecodeError → String :=
  messageIn Json.floatStyle

end DecodeError

end SchemaDefaults
