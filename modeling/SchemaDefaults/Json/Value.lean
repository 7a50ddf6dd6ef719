import SchemaDefaults.Keyed
import SchemaDefaults.Number.Double

/-! # JSON values

Whole numbers from `-2 ^ 63` to `2 ^ 64 - 1` are kept exactly and every other number as
a double. The members of an object are entries under keys: in the order of the keys,
each key once.
-/

namespace SchemaDefaults

/-- A number of a JSON text. -/
inductive Number where
  | integer (value : Int)
  | float (value : Double)
  deriving Repr, DecidableEq

inductive Json where
  | null
  | bool (value : Bool)
  | number (value : Number)
  | string (value : String)
  | array (items : List Json)
  | object (members : List (String × Json))
  deriving Repr, Inhabited

namespace Json

def ofInt (n : Int) : Json := .number (.integer n)

def ofNat (n : Nat) : Json := .number (.integer n)

/-- An object with the given members; of two under one key the later counts. -/
def ofMembers (members : List (String × Json)) : Json := .object (Keyed.ofList members)

/-- The member of an object under a key; other values have none. -/
def member? (key : String) : Json → Option Json
  | .object members => Keyed.find? key members
  | _ => none

def isObject : Json → Bool
  | .object _ => true
  | _ => false

/-- What kind of value this is, in one word. -/
def kind : Json → String
  | .null => "null"
  | .bool _ => "bool"
  | .number _ => "number"
  | .string _ => "string"
  | .array _ => "array"
  | .object _ => "object"

/-- A member is smaller than its object. -/
theorem sizeOf_lt_of_find? {key : String} {value : Json} {members : List (String × Json)}
    (found : Keyed.find? key members = some value) :
    sizeOf value < sizeOf (Json.object members) := by
  have smaller := List.sizeOf_lt_of_mem (Keyed.mem_of_find? found)
  simp only [Prod.mk.sizeOf_spec] at smaller
  simp only [Json.object.sizeOf_spec]
  omega

/-- An item is smaller than its array. -/
theorem sizeOf_lt_of_mem {value : Json} {items : List Json} (member : value ∈ items) :
    sizeOf value < sizeOf (Json.array items) := by
  have smaller := List.sizeOf_lt_of_mem member
  simp only [Json.array.sizeOf_spec]
  omega

end Json

end SchemaDefaults
