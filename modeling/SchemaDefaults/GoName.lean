import SchemaDefaults.Text.Lowercase

/-! # Go names of schema names

How the names of messages and fields become exported identifiers of Go. An underscore
before a small letter disappears and the letter becomes a capital; any other underscore
stays, except that a leading one becomes an `X`. Only ASCII letters change their case.
-/

namespace SchemaDefaults.GoName

/-- Whether a text begins with a small ASCII letter. -/
def startsLower : List Char → Bool
  | [] => false
  | c :: _ => c.isLower

/-- Cases the characters of a name. A small letter that comes `fresh`, at the beginning or
    after a dropped underscore or a digit, becomes a capital. -/
def camelChars (fresh : Bool) : List Char → List Char
  | [] => []
  | c :: rest =>
      if c.isLower then (if fresh then c.toUpper else c) :: camelChars false rest
      else if c = '_' && startsLower rest then camelChars true rest
      else c :: camelChars c.isDigit rest

/-- The exported identifier of a schema name. -/
def camel (name : String) : String :=
  String.ofList <|
    match name.toList with
    | '_' :: rest => 'X' :: camelChars true rest
    | chars => camelChars true chars

/-- The type name of a nested message, from the names on the way down to it. -/
def ofPath (path : List String) : String :=
  camel (String.intercalate "_" path)

/-- The methods that every generated message type has already. -/
def reserved : List String :=
  ["Reset", "String", "ProtoMessage", "Marshal", "Unmarshal", "ExtensionRangeArray",
    "ExtensionMap", "Descriptor"]

/-- The struct field of a schema field. One that would hide a method of the type gets an
    underscore behind it. -/
def ofField (name : String) : String :=
  let cased := camel name
  if cased ∈ reserved then cased ++ "_" else cased

theorem ofField_of_reserved {name : String} (taken : camel name ∈ reserved) :
    ofField name = camel name ++ "_" :=
  if_pos taken

theorem ofField_of_free {name : String} (free : camel name ∉ reserved) :
    ofField name = camel name :=
  if_neg free

/-- The receiver of the methods of a type: its first character in lower case. -/
def receiver (typeName : String) : String :=
  match typeName.toList with
  | [] => ""
  | c :: _ => String.ofList (Text.lower c)

end SchemaDefaults.GoName
