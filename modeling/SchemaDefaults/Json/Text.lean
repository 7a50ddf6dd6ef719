import SchemaDefaults.Json.Value
import SchemaDefaults.Number.DoubleText

/-! # Writing JSON

The compact text of a value. A double is written with its shortest digits, positionally
while its first digit stands between the fifth place after the point and the sixteenth
before it, otherwise with a signed exponent; a whole one keeps its `.0`, so that it reads
back as a double.
-/

namespace SchemaDefaults.Json

/-- How JSON texts and messages about JSON values lay out doubles. -/
def floatStyle : FloatStyle := ⟨fun top => -5 ≤ top && top ≤ 15⟩

def numberText : Number → String
  | .integer value => toString value
  | .float value => if value.isFinite then floatStyle.text value else "null"

/-- What stands for one character of a text. -/
def escapedChar (c : Char) : String :=
  if c = '"' then "\\\""
  else if c = '\\' then "\\\\"
  else if c.toNat < 0x20 then
    let digits := Nat.toDigits 16 c.toNat
    "\\u" ++ String.ofList (List.replicate (4 - digits.length) '0' ++ digits)
  else c.toString

def stringText (text : String) : String :=
  "\"" ++ String.join (text.toList.map escapedChar) ++ "\""

mutual

def text : Json → String
  | .null => "null"
  | .bool value => if value then "true" else "false"
  | .number value => numberText value
  | .string value => stringText value
  | .array items => "[" ++ String.intercalate "," (itemTexts items) ++ "]"
  | .object members => "\x7b" ++ String.intercalate "," (memberTexts members) ++ "\x7d"

def itemTexts : List Json → List String
  | [] => []
  | item :: rest => text item :: itemTexts rest

def memberTexts : List (String × Json) → List String
  | [] => []
  | (key, value) :: rest => (stringText key ++ ":" ++ text value) :: memberTexts rest

end

end SchemaDefaults.Json
