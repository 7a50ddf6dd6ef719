import SchemaDefaults.Text.Blank

/-! # Log levels

The levels in their order of severity. As the level of a record a level says how grave
the record is; as a filter it admits the records that are at least as grave, and `off`
admits none.
-/

namespace SchemaDefaults.Log

inductive Level where
  | trace
  | debug
  | info
  | warn
  | error
  | off
  deriving Repr, DecidableEq

namespace Level

/-- The place of a level in the order of severity. -/
def rank : Level → Nat
  | .trace => 0
  | .debug => 1
  | .info => 2
  | .warn => 3
  | .error => 4
  | .off => 5

/-- How two levels compare in severity. -/
def compare (a b : Level) : Ordering :=
  Ord.compare a.rank b.rank

/-- Whether a filter lets records of a severity through. -/
def admits (filter severity : Level) : Bool :=
  filter.rank ≤ severity.rank && severity != .off

def name : Level → String
  | .trace => "TRACE"
  | .debug => "DEBUG"
  | .info => "INFO"
  | .warn => "WARN"
  | .error => "ERROR"
  | .off => "OFF"

/-- The level of a given name, in letters of any case and with white space around it. -/
def ofName? (text : String) : Option Level :=
  match (Text.trim text).toLower with
  | "trace" => some .trace
  | "debug" => some .debug
  | "info" => some .info
  | "warn" | "warning" => some .warn
  | "error" => some .error
  | "off" => some .off
  | _ => none

/-- Nothing passes the filter `off`. -/
theorem off_admits (severity : Level) : admits .off severity = false := by
  cases severity <;> rfl

end Level

end SchemaDefaults.Log
