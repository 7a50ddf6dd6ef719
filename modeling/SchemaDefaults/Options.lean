import SchemaDefaults.Decode.Error
import SchemaDefaults.Log.Record

/-! # Looking up options

Schema options are free-form annotations. One entry at a time is asked for, and every
way in which that can go wrong gives the same answer, none: no options at all, options
that are not a map, a missing or null entry, an entry of the wrong shape. The log keeps a
trace of the second and the last.
-/

namespace SchemaDefaults.Options

variable {α : Type}

/-- The entry under a key, decoded. -/
def lookup (decode : Json → Except DecodeError α) (options : Option Json) (key : String) :
    Logged (Option α) :=
  match options with
  | none => pure none
  | some (.object members) =>
      match Keyed.find? key members with
      | none | some .null => pure none
      | some entry =>
          match decode entry with
          | .ok value => pure (some value)
          | .error cause => do
              Logged.note .trace "option value could not be decoded"
                [("key", .quoted key), ("error", .plain cause.message)]
              return none
  | some other => do
      Logged.note .trace "options are not a map"
        [("key", .quoted key), ("kind", .quoted other.kind)]
      return none

end SchemaDefaults.Options
