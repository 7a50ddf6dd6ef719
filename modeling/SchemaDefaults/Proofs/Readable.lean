import SchemaDefaults.Decode.Basic
import SchemaDefaults.Options

/-! # What can be read from options

A look-up has many ways to fail and one answer for all of them. The entry under a key is
readable if there is a map, an entry in it, and the decoder accepts the entry; nothing else
about the options shows in the result.
-/

namespace SchemaDefaults

/-- The text that a value is. -/
def Json.asText? : Json → Option String
  | .string text => some text
  | _ => none

/-- The truth value that a value is. -/
def Json.asTruth? : Json → Option Bool
  | .bool truth => some truth
  | _ => none

namespace Options

/-- The entry under a key, if the options are a map that has one. -/
def option? (options : Option Json) (key : String) : Option Json :=
  options.bind (Json.member? key)

/-- The text that can be read under a key. -/
def text? (options : Option Json) (key : String) : Option String :=
  (option? options key).bind Json.asText?

/-- The truth value that can be read under a key. -/
def truth? (options : Option Json) (key : String) : Option Bool :=
  (option? options key).bind Json.asTruth?

/-- A null entry gives nothing without being decoded, so for a decoder that refuses null the
    look-up is nothing but the decoding of the entry. -/
theorem value_lookup {α : Type} {decode : Json → Except DecodeError α}
    (refuses : (decode .null).toOption = none) (options : Option Json) (key : String) :
    (lookup decode options key).value =
      (option? options key).bind fun entry => (decode entry).toOption := by
  cases options with
  | none => rfl
  | some given =>
      cases given with
      | null | bool | number | string | array => rfl
      | object members =>
          simp only [lookup, option?, Option.bind_some, Json.member?]
          cases found : Keyed.find? key members with
          | none => rfl
          | some entry =>
              cases decoded : decode entry with
              | ok value =>
                  cases entry with
                  | null => simp [decoded, Except.toOption] at refuses
                  | bool | number | string | array | object => simp [decoded, Except.toOption]
              | error cause =>
                  cases entry with
                  | null => simp [decoded, Except.toOption]
                  | bool | number | string | array | object => simp [decoded, Except.toOption]

theorem value_lookup_string (options : Option Json) (key : String) :
    (lookup Decode.string options key).value = text? options key := by
  rw [value_lookup rfl]
  exact congrArg (Option.bind (option? options key)) (funext fun entry => by cases entry <;> rfl)

theorem value_lookup_bool (options : Option Json) (key : String) :
    (lookup Decode.bool options key).value = truth? options key := by
  rw [value_lookup rfl]
  exact congrArg (Option.bind (option? options key)) (funext fun entry => by cases entry <;> rfl)

end Options

end SchemaDefaults
