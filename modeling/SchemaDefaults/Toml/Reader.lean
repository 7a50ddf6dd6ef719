import SchemaDefaults.Scan
import SchemaDefaults.Toml.Document
import SchemaDefaults.Toml.Scalar

/-! # Reading TOML

The grammar of version 1.1: inline tables may go over several lines and end in a comma,
strings know the escapes `\e` and `\x`, times need no seconds. A byte order mark at the
beginning is skipped, line ends inside strings stay as they are, arrays and inline tables
nest at most `maxDepth` deep, and a key has at most as many parts.
-/

namespace SchemaDefaults.Toml

/-- A reading step over the characters of a TOML document. It fails without a cause. -/
abbrev Read := Scan Char Unit

/-- How deep arrays and inline tables may nest, and how many parts a key may have. -/
def maxDepth : Nat := 80

namespace Read

/-- A breach of the grammar. -/
def malformed {α : Type} : Read α := Scan.fail ()

def literal (text : String) : Read Unit := Scan.expect () text.toList

/-- Takes a given text if it comes next. -/
def accept (text : String) : Read Bool := Scan.accept text.toList

def skip : Read Unit := do
  let _ ← Scan.next

def isBlank (c : Char) : Bool := c == ' ' || c == '\t'

def skipBlanks : Read Unit := Scan.skipWhile isBlank

/-- Whether a character may stand in a comment or, quotes and backslashes apart, in a
    string. -/
def isText (c : Char) : Bool := c == '\t' || (0x20 ≤ c.toNat && c.toNat != 0x7F)

/-- Takes a line end, if it comes next, and gives its characters. -/
def lineEnd : Read (List Char) := do
  if ← accept "\n" then return ['\n']
  if ← accept "\r\n" then return ['\r', '\n']
  return []

/-- Takes a line end, if it comes next. -/
def newline : Read Bool := do
  return !(← lineEnd).isEmpty

/-- Takes a comment, if one comes next. -/
def comment : Read Unit := do
  if ← accept "#" then Scan.skipWhile isText

/-- Takes blanks, comments and line ends. -/
def skipLines : Read Unit := do
  let round (_ : Unit) : Read (Scan.Round Unit Unit) := do
    skipBlanks
    comment
    if ← newline then return .again () else return .done ()
  Scan.loop () round ()

/-! ## Strings -/

/-- Takes so many hexadecimal digits, as a character. -/
def hexChar (count : Nat) : Read Char := do
  let mut code := 0
  for _ in List.range count do
    match ← Scan.next with
    | some c =>
        if c.isDigit || ('a' ≤ c && c ≤ 'f') || ('A' ≤ c && c ≤ 'F') then
          code := code * 16 + digitValue c
        else malformed
    | none => malformed
  if code < 0xD800 ∨ (0xDFFF < code ∧ code < 0x110000) then return Char.ofNat code
  malformed

/-- Takes the rest of an escape, after the backslash. -/
def escape : Read Char := do
  match ← Scan.next with
  | some 'b' => return '\x08'
  | some 't' => return '\t'
  | some 'n' => return '\n'
  | some 'f' => return '\x0c'
  | some 'r' => return '\r'
  | some 'e' => return '\x1b'
  | some '"' => return '"'
  | some '\\' => return '\\'
  | some 'x' => hexChar 2
  | some 'u' => hexChar 4
  | some 'U' => hexChar 8
  | _ => malformed

/-- One of the four kinds of strings. -/
structure Quote where
  mark : Char
  /-- Whether backslashes are escapes. -/
  escapes : Bool
  /-- Whether the string may go over several lines. -/
  multiline : Bool

/-- Takes a run of quotation marks inside a string or at its end. -/
def marks (quote : Quote) (chars : List Char) :
    Read (Scan.Round (List Char) (List Char)) := do
  if !quote.multiline then
    skip
    return .done chars
  -- A string over several lines ends with three marks, and up to two may stand before these.
  let run ← Scan.takeWhile (· == quote.mark)
  if run.length < 3 then return .again (run ++ chars)
  if 5 < run.length then malformed
  return .done (run.drop 3 ++ chars)

/-- Takes what follows a backslash: an escape, or in a string over several lines a line end
    together with all blanks after it. -/
def afterBackslash (quote : Quote) (chars : List Char) : Read (List Char) := do
  match ← Scan.peek with
  | some c =>
      if quote.multiline && (isBlank c || c == '\n' || c == '\r') then
        skipBlanks
        unless ← newline do malformed
        let round (_ : Unit) : Read (Scan.Round Unit Unit) := do
          skipBlanks
          if ← newline then return .again () else return .done ()
        Scan.loop () round ()
        return chars
      else return (← escape) :: chars
  | none => malformed

/-- Takes one piece of a string. The characters so far are kept last one first. -/
def stringPiece (quote : Quote) (chars : List Char) :
    Read (Scan.Round (List Char) (List Char)) := do
  match ← Scan.peek with
  | none => malformed
  | some c =>
      if c = quote.mark then marks quote chars
      else if c = '\\' ∧ quote.escapes then
        skip
        return .again (← afterBackslash quote chars)
      else if isText c then
        skip
        return .again (c :: chars)
      else
        let ending ← lineEnd
        if ending.isEmpty || !quote.multiline then malformed
        return .again (ending.reverse ++ chars)

/-- Takes a string, after its opening quotation marks. -/
def stringBody (quote : Quote) : Read String := do
  return String.ofList (← Scan.loop () (stringPiece quote) []).reverse

def lineString (mark : Char) : Read String := do
  skip
  stringBody ⟨mark, mark == '"', false⟩

/-- Takes a string of any kind. -/
def anyString (mark : Char) : Read String := do
  if ← Scan.accept [mark, mark, mark] then
    -- A line end right after the opening marks is not part of the string.
    let _ ← newline
    stringBody ⟨mark, mark == '"', true⟩
  else lineString mark

/-! ## Keys -/

/-- Whether a character may stand in a key without quotation marks. -/
def isBare (c : Char) : Bool := c.isAlphanum || c == '_' || c == '-'

def keyPart : Read String := do
  match ← Scan.peek with
  | some '"' => lineString '"'
  | some '\'' => lineString '\''
  | _ =>
      let chars ← Scan.takeWhile isBare
      if chars.isEmpty then malformed
      return String.ofList chars

/-- Takes a key, with dots between its parts. -/
def key : Read (List String) := do
  let round (parts : List String) : Read (Scan.Round (List String) (List String)) := do
    skipBlanks
    let parts := (← keyPart) :: parts
    skipBlanks
    if ← accept "." then return .again parts else return .done parts.reverse
  let parts ← Scan.loop () round []
  if maxDepth < parts.length then malformed
  return parts

/-! ## Values -/

/-- Whether a character may stand in a bare word: all may but those that end a value. -/
def isWord (c : Char) : Bool :=
  !([' ', '\t', '\r', '\n', '#', '=', ',', '[', ']', '\x7b', '\x7d'].contains c)

/-- Takes a bare word. -/
def word : Read (List Char) := do
  let chars ← Scan.takeWhile isWord
  match date? chars with
  | some (_, []) =>
      -- A time after a single blank belongs to the date.
      let rest ← get
      match rest with
      | ' ' :: c :: _ =>
          if c.isDigit then
            skip
            return chars ++ ' ' :: (← Scan.takeWhile isWord)
          else return chars
      | _ => return chars
  | _ => return chars

/-- Takes things with commas between them up to a closing bracket, over several lines. A comma
    may stand after the last one. The things so far are kept last one first. -/
def separated {α : Type} (closing : String) (thing : Read α) : Read (List α) := do
  let round (things : List α) : Read (Scan.Round (List α) (List α)) := do
    skipLines
    if ← accept closing then return .done things.reverse
    let things := (← thing) :: things
    skipLines
    if ← accept "," then return .again things
    literal closing
    return .done things.reverse
  Scan.loop () round []

/-- Takes a key, an equals sign and a value, with gaps around the sign. -/
def pair (gap : Read Unit) (value : Read Value) : Read (List String × Value) := do
  let path ← key
  gap
  literal "="
  gap
  return (path, ← value)

/-- Takes a value whose parts are taken by `inner`; without `inner` the value may be neither
    array nor inline table. -/
def valueWithin (inner : Option (Read Value)) : Read Value := do
  match ← Scan.peek with
  | some '"' => return .string (← anyString '"')
  | some '\'' => return .string (← anyString '\'')
  | some '[' =>
      skip
      match inner with
      | none => malformed
      | some inner => return .array (← separated "]" inner)
  | some '\x7b' =>
      skip
      match inner with
      | none => malformed
      | some inner =>
          match inlineTable? (← separated "\x7d" (pair skipLines inner)) with
          | some value => return value
          | none => malformed
  | _ =>
      match scalar? (← word) with
      | some value => return value
      | none => malformed

/-- Takes a value with at most `depth` arrays and inline tables inside each other. -/
def value : (depth : Nat) → Read Value
  | 0 => valueWithin none
  | depth + 1 => valueWithin (some (value depth))

/-! ## Documents -/

def statement : Read Statement := do
  if ← accept "[[" then
    let path ← key
    literal "]]"
    return .element path
  else if ← accept "[" then
    let path ← key
    literal "]"
    return .table path
  else
    let (path, value) ← pair skipBlanks (value maxDepth)
    return .entry path value

/-- Takes one line of a document: a statement, a comment, both or none. -/
def line (statements : List Statement) :
    Read (Scan.Round (List Statement) (List Statement)) := do
  skipBlanks
  let statements ← match ← Scan.peek with
    | none | some '#' | some '\n' | some '\r' => pure statements
    | _ => do pure ((← statement) :: statements)
  skipBlanks
  comment
  if ← newline then return .again statements
  Scan.atEnd ()
  return .done statements.reverse

def statements : Read (List Statement) := do
  let _ ← accept "\ufeff"
  Scan.loop () line []

end Read

/-- The entries of the table that a document describes. -/
def ofText? (text : String) : Option (List (String × Value)) :=
  match Read.statements.run text.toList with
  | .ok statements => document? statements
  | .error _ => none

end SchemaDefaults.Toml
