import SchemaDefaults.Text.Showable

/-! # Quoted text

The quoted form in which messages and log lines show a text: double quotes around it,
a backslash before what would end or garble it, and a code point in hexadecimal for
every character that cannot be shown as it is.
-/

namespace SchemaDefaults.Text

/-- A number in hexadecimal, in small letters, without leading zeros. -/
def hex (n : Nat) : String :=
  String.ofList (Nat.toDigits 16 n)

/-- What stands for one character inside quotes. -/
def quotedChar (c : Char) : String :=
  if c = '\x00' then "\\0"
  else if c = '\t' then "\\t"
  else if c = '\r' then "\\r"
  else if c = '\n' then "\\n"
  else if c = '"' then "\\\""
  else if c = '\\' then "\\\\"
  else if isShowable c then c.toString
  else "\\u\x7b" ++ hex c.toNat ++ "\x7d"

def quoted (text : String) : String :=
  "\"" ++ String.join (text.toList.map quotedChar) ++ "\""

end SchemaDefaults.Text
