import SchemaDefaults.Json.Reader
import SchemaDefaults.Schema.Decode
import SchemaDefaults.Schema.Validity

/-! # Loading a schema

From the bytes of a JSON text to a schema in which every name is given. A text that is
not JSON, a value that does not decode and a blank name are told apart in this order.
-/

namespace SchemaDefaults.Schema

def ofJson (value : Json) : Except Failure Schema := do
  let schema ← (decode value).mapError fun cause => .descriptor cause.message
  schema.validate
  return schema

def ofBytes (bytes : ByteArray) : Except Failure Schema :=
  match Json.ofBytes? bytes with
  | some value => ofJson value
  | none => .error (.descriptor "<invalid JSON>")

end SchemaDefaults.Schema
