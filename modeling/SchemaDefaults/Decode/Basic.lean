import SchemaDefaults.Decode.Error

/-! # Decoding JSON values

Decoders for scalars, lists, names of an enumeration, and the parts of a record. A record
is given as an object or as the array of its fields in the order of their declaration.

The members of an object are decoded in the order of their keys, so of two bad members
the one under the smaller key is reported, and a missing member only when all that are
there are good. The items of an array are decoded in their order; fields that have a
default may be left off at the end.
-/

namespace SchemaDefaults

/-- Makes something of a JSON value, or says why that cannot be done. -/
abbrev Decoder (α : Type) := Json → Except DecodeError α

namespace Decode

variable {α : Type}

/-- Refuses a value because something else was expected. -/
def refuse (expected : String) : Decoder α := fun value =>
  .error (.invalidType (.ofJson value) expected)

def any : Decoder Json := .ok

def string : Decoder String
  | .string text => .ok text
  | value => refuse "a string" value

def bool : Decoder Bool
  | .bool b => .ok b
  | value => refuse "a boolean" value

/-- A whole number within bounds; `kind` is the name of the numbers within them. -/
def integer (kind : String) (low high : Int) : Decoder Int
  | .number (.integer n) =>
      if low ≤ n ∧ n ≤ high then .ok n
      else .error (.invalidValue (.number (.integer n)) kind)
  | value => refuse kind value

def int32 : Decoder Int32 := fun value =>
  (integer "i32" (-twoTo 31) (twoTo 31 - 1) value).map Int32.ofInt

def int64 : Decoder Int := integer "i64" (-twoTo 63) (twoTo 63 - 1)

def uint32 : Decoder Int := integer "u32" 0 (twoTo 32 - 1)

/-- Every item of a list by one decoder. -/
def all (item : Decoder α) : List Json → Except DecodeError (List α)
  | [] => .ok []
  | value :: rest => do
      let first ← item value
      let others ← all item rest
      return first :: others

/-- An array whose items go through one decoder. -/
def list (item : Decoder α) : Decoder (List α)
  | .array items => all item items
  | value => refuse "a sequence" value

/-- Null, or a value that goes through a decoder. -/
def optional (inner : Decoder α) : Decoder (Option α)
  | .null => .ok none
  | value => (inner value).map some

def ofName (known : List (String × α)) (name : String) : Except DecodeError α :=
  match known.lookup name with
  | some value => .ok value
  | none => .error (.unknownVariant name (known.map Prod.fst))

/-- One of the values of an enumeration: its name, or an object whose only key is its name and
    whose only value is null. -/
def variant (known : List (String × α)) : Decoder α
  | .string name => ofName known name
  | .object [(name, content)] => do
      let value ← ofName known name
      match content with
      | .null => return value
      | other => refuse "unit" other
  | .object _ => .error (.invalidValue .map "map with a single key")
  | value => refuse "string or map" value

/-! ## Parts of a record -/

/-- The member under a key, if there is one. -/
def member? (decoder : Decoder α) (key : String) (members : List (String × Json)) :
    Except DecodeError (Option α) :=
  match Keyed.find? key members with
  | none => .ok none
  | some value => (decoder value).map some

/-- The member under a key, or a default. -/
def memberOr (decoder : Decoder α) (fallback : α) (key : String)
    (members : List (String × Json)) : Except DecodeError α :=
  (member? decoder key members).map (·.getD fallback)

/-- A member that has to be there. -/
def required (key : String) : Option α → Except DecodeError α
  | some value => .ok value
  | none => .error (.missingField key)

/-- The item at a place, or a default. -/
def itemOr (decoder : Decoder α) (fallback : α) (place : Nat) (items : List Json) :
    Except DecodeError α :=
  match items[place]? with
  | none => .ok fallback
  | some value => decoder value

/-- An item that has to be there; `record` names the record with its number of fields. -/
def requiredItem (decoder : Decoder α) (record : String) (place : Nat) (items : List Json) :
    Except DecodeError α :=
  match items[place]? with
  | none => .error (.invalidLength place record)
  | some value => decoder value

/-- Refuses an array with more items than the record has fields. -/
def noMoreThan (fields : Nat) (items : List Json) : Except DecodeError Unit :=
  if items.length ≤ fields then .ok ()
  else .error (.invalidLength items.length "fewer elements in array")

end Decode

end SchemaDefaults
