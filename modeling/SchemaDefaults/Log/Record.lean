import SchemaDefaults.Log.Level
import SchemaDefaults.Text.Quoted

/-! # Log records and logged results

Operations do not write a log. They give, beside their result, the records of what they
did, and whoever runs them decides which records to show: `Log.text` shows those that a
level admits. So a result never depends on the level.
-/

namespace SchemaDefaults.Log

/-- The value of a field of a record: shown as it is, or in quotes. -/
inductive FieldValue where
  | plain (text : String)
  | quoted (text : String)
  deriving Repr, DecidableEq

def FieldValue.text : FieldValue → String
  | .plain text => text
  | .quoted text => Text.quoted text

structure Record where
  level : Level
  message : String
  fields : List (String × FieldValue)
  deriving Repr, DecidableEq

/-- What stands for one character of a message: the controls with which a text can take
    over a terminal are shown as escapes. -/
def messageChar (c : Char) : String :=
  if c.toNat = 0x07 then "\\x07"
  else if c.toNat = 0x08 then "\\x08"
  else if c.toNat = 0x0C then "\\x0c"
  else if c.toNat = 0x1B then "\\x1b"
  else if c.toNat = 0x7F then "\\x7f"
  else if 0x80 ≤ c.toNat ∧ c.toNat ≤ 0x9F then "\\u\x7b" ++ Text.hex c.toNat ++ "\x7d"
  else c.toString

/-- The line of a record: its level in five columns, its message and its fields. -/
def Record.line (record : Record) : String :=
  let level := record.level.name
  let padding := String.ofList (List.replicate (5 - level.length) ' ')
  let message := String.join (record.message.toList.map messageChar)
  let fields := record.fields.map fun (key, value) => " " ++ key ++ "=" ++ value.text
  padding ++ level ++ " " ++ message ++ String.join fields ++ "\n"

/-- The records that a filter lets through. -/
def admitted (filter : Level) (records : List Record) : List Record :=
  records.filter fun record => filter.admits record.level

/-- The log that a filter lets through. -/
def text (filter : Level) (records : List Record) : String :=
  String.join ((admitted filter records).map Record.line)

end SchemaDefaults.Log

namespace SchemaDefaults

/-- A result with the records made on the way to it. -/
structure Logged (α : Type) where
  value : α
  records : List Log.Record

namespace Logged

variable {α β : Type}

def note (level : Log.Level) (message : String) (fields : List (String × Log.FieldValue)) :
    Logged Unit :=
  ⟨(), [⟨level, message, fields⟩]⟩

instance : Monad Logged where
  pure value := ⟨value, []⟩
  bind x f := ⟨(f x.value).value, x.records ++ (f x.value).records⟩

@[simp] theorem value_pure (a : α) : (pure a : Logged α).value = a := rfl

@[simp] theorem records_pure (a : α) : (pure a : Logged α).records = [] := rfl

@[simp] theorem value_bind (x : Logged α) (f : α → Logged β) :
    (x >>= f).value = (f x.value).value := rfl

@[simp] theorem records_bind (x : Logged α) (f : α → Logged β) :
    (x >>= f).records = x.records ++ (f x.value).records := rfl

@[ext] theorem ext {x y : Logged α} (value : x.value = y.value)
    (records : x.records = y.records) : x = y := by
  cases x
  cases y
  simp_all

instance : LawfulMonad Logged :=
  LawfulMonad.mk' Logged (fun _ => Logged.ext rfl (List.append_nil _)) (fun _ _ => rfl)
    (fun _ _ _ => Logged.ext rfl (List.append_assoc _ _ _))

@[simp] theorem value_map (f : α → β) (x : Logged α) : (f <$> x).value = f x.value := rfl

@[simp] theorem records_map (f : α → β) (x : Logged α) : (f <$> x).records = x.records :=
  List.append_nil _

@[simp] theorem value_note (level : Log.Level) (message : String)
    (fields : List (String × Log.FieldValue)) : (note level message fields).value = () := rfl

@[simp] theorem records_note (level : Log.Level) (message : String)
    (fields : List (String × Log.FieldValue)) :
    (note level message fields).records = [⟨level, message, fields⟩] := rfl

end Logged

end SchemaDefaults
