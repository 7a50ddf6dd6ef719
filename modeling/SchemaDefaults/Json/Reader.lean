import SchemaDefaults.Decode.Error
import SchemaDefaults.Scan

/-! # Reading JSON

A strict reader over bytes. It takes the grammar at its word (no comments, no trailing
comma, no leading zero, no raw control character in a string), strings must be UTF-8 and
have no half of a surrogate pair, and arrays and objects nest at most `maxDepth` deep.

A text can also be read straight into a record, member by member. Then a member of the
wrong kind is reported as soon as it is met, before whatever stands after it; for that
the steps fail with a `ReadError`, which is either a breach of the grammar or a decoding
error.
-/

namespace SchemaDefaults.Json

inductive ReadError where
  | malformed
  | mistyped (cause : DecodeError)
  deriving Repr, DecidableEq

/-- A reading step over the bytes of a JSON text. -/
abbrev Read := Scan UInt8 ReadError

namespace Read

/-- A breach of the grammar. -/
def malformed {α : Type} : Read α := Scan.fail .malformed

/-- The byte of an ASCII character. -/
def byte (c : Char) : UInt8 := c.toNat.toUInt8

def skip : Read Unit := do
  let _ ← Scan.next

/-- Drops the next byte if it is a given one. -/
def skipOne (c : Char) : Read Unit := do
  let _ ← Scan.accept [byte c]

/-- Skips the four blanks that may stand between tokens. -/
def skipBlanks : Read Unit :=
  Scan.skipWhile fun b => b == byte ' ' || b == byte '\n' || b == byte '\r' || b == byte '\t'

def digit? (b : UInt8) : Option Nat :=
  if byte '0' ≤ b ∧ b ≤ byte '9' then some (b.toNat - 48) else none

def hexDigit? (b : UInt8) : Option Nat :=
  if byte '0' ≤ b ∧ b ≤ byte '9' then some (b.toNat - 48)
  else if byte 'a' ≤ b ∧ b ≤ byte 'f' then some (b.toNat - 87)
  else if byte 'A' ≤ b ∧ b ≤ byte 'F' then some (b.toNat - 55)
  else none

def digits : Read (List Nat) := do
  return (← Scan.takeWhile fun b => (digit? b).isSome).filterMap digit?

/-! ## Numbers -/

/-- Takes digits up into a significand while it fits 64 bits, and counts the others. -/
def accumulate : Nat → List Nat → Nat × Nat
  | significand, [] => (significand, 0)
  | significand, digit :: rest =>
      if significand * 10 + digit < twoTo 64 then accumulate (significand * 10 + digit) rest
      else (significand, rest.length + 1)

/-- The double `x * 10 ^ exponent`, in one step of at most 308 powers of ten at a time, each
    of them rounded. There is none beyond the largest double. -/
def scale (x : Double) (exponent : Int) : Option Double :=
  if exponent.natAbs ≤ 308 then
    if 0 ≤ exponent then
      let product := x.mulSize (.ofNat (tenTo exponent.natAbs))
      if product.isFinite then some product else none
    else some (x.divSize (.ofNat (tenTo exponent.natAbs)))
  else if x.isZero then some x
  else if 0 ≤ exponent then none
  else scale (x.divSize (.ofNat (tenTo 308))) (exponent + 308)
termination_by exponent.natAbs

/-- The number with the given sign, significand and decimal exponent. -/
def scaled (negative : Bool) (significand : Nat) (exponent : Int) : Read Number :=
  match scale (.ofNat significand) exponent with
  | some size => pure (.float (size.withSign negative))
  | none => malformed

/-- Takes the exponent of a numeral, after its letter. -/
def exponent : Read Int := do
  let negative ← Scan.accept [byte '-']
  unless negative do
    skipOne '+'
  match ← digits with
  | [] => malformed
  | ds =>
      let size : Nat := ds.foldl (fun n d => n * 10 + d) 0
      pure (if negative then -size else size)

/-- A whole number as it is written without fraction and exponent. Zero with a minus sign
    and numbers that do not fit a signed word become doubles. -/
def wholeNumber (negative : Bool) (size : Nat) : Number :=
  if !negative then .integer size
  else if size = 0 ∨ twoTo 63 < size then .float ((Double.ofNat size).withSign true)
  else .integer (-size)

/-- Takes a numeral, after its sign. -/
def numeral (negative : Bool) : Read Number := do
  let whole ← digits
  match whole with
  | [] | 0 :: _ :: _ => malformed
  | _ => pure ()
  let (significand, dropped) := accumulate 0 whole
  if ← Scan.accept [byte '.'] then
    let fraction ← digits
    if fraction.isEmpty then malformed
    let (significand, ignored) := accumulate significand fraction
    -- A digit left out before the point raises the exponent, one taken up behind it lowers it.
    let places : Int := dropped - (fraction.length - ignored : Nat)
    match ← Scan.peek with
    | some 0x65 | some 0x45 =>
        skip
        scaled negative significand (places + (← exponent))
    | _ => scaled negative significand places
  else
    match ← Scan.peek with
    | some 0x65 | some 0x45 =>
        skip
        scaled negative significand (dropped + (← exponent))
    | _ =>
        if dropped = 0 then pure (wholeNumber negative significand)
        else scaled negative significand dropped

def number : Read Number := do
  numeral (← Scan.accept [byte '-'])

/-! ## Strings -/

def codeUnit : Read Nat := do
  let mut unit := 0
  for _ in [0, 1, 2, 3] do
    match (← Scan.next).bind hexDigit? with
    | some value => unit := unit * 16 + value
    | none => malformed
  return unit

/-- Takes the rest of an escape by code units. -/
def unicodeEscape : Read Char := do
  let unit ← codeUnit
  if unit < 0xD800 ∨ 0xDFFF < unit then return Char.ofNat unit
  -- A character beyond the first plane is written as a pair of surrogates.
  if 0xDC00 ≤ unit then malformed
  Scan.expect .malformed [byte '\\', byte 'u']
  let second ← codeUnit
  if second < 0xDC00 ∨ 0xDFFF < second then malformed
  return Char.ofNat (0x10000 + (unit - 0xD800) * 0x400 + (second - 0xDC00))

/-- Takes the rest of an escape, after the backslash. -/
def escape : Read Char := do
  match (← Scan.next).map fun b => Char.ofNat b.toNat with
  | some '"' => return '"'
  | some '\\' => return '\\'
  | some '/' => return '/'
  | some 'b' => return '\x08'
  | some 'f' => return '\x0c'
  | some 'n' => return '\n'
  | some 'r' => return '\r'
  | some 't' => return '\t'
  | some 'u' => unicodeEscape
  | _ => malformed

/-- Takes one piece of a string: its end, an escape, or a byte. The bytes so far are kept
    last one first. -/
def stringPiece (bytes : List UInt8) : Read (Scan.Round (List UInt8) (List UInt8)) := do
  match ← Scan.next with
  | none => malformed
  | some b =>
      if b == byte '"' then return .done bytes.reverse
      else if b == byte '\\' then
        let c ← escape
        return .again (c.toString.toUTF8.toList.reverse ++ bytes)
      else if b < 0x20 then malformed
      else return .again (b :: bytes)

/-- Takes a string, after its opening quote. -/
def stringBody : Read String := do
  let bytes ← Scan.loop .malformed stringPiece []
  match String.fromUTF8? ⟨bytes.toArray⟩ with
  | some text => pure text
  | none => malformed

/-! ## Arrays and objects -/

/-- Takes the items of an array, after its opening bracket. -/
def items {α : Type} (item : α → Read α) (start : α) : Read α := do
  skipBlanks
  if ← Scan.accept [byte ']'] then return start
  let round (state : α) : Read (Scan.Round α α) := do
    skipBlanks
    let state ← item state
    skipBlanks
    if ← Scan.accept [byte ','] then return .again state
    Scan.expect .malformed [byte ']']
    return .done state
  Scan.loop .malformed round start

/-- Takes the colon between a key and its value. -/
def colon : Read Unit := do
  skipBlanks
  Scan.expect .malformed [byte ':']
  skipBlanks

/-- Takes the members of an object, after its opening brace. What follows a key, the colon
    included, is taken by `member`. -/
def members {α : Type} (member : α → String → Read α) (start : α) : Read α := do
  skipBlanks
  if ← Scan.accept [byte '\x7d'] then return start
  let round (state : α) : Read (Scan.Round α α) := do
    skipBlanks
    Scan.expect .malformed [byte '"']
    let state ← member state (← stringBody)
    skipBlanks
    if ← Scan.accept [byte ','] then return .again state
    Scan.expect .malformed [byte '\x7d']
    return .done state
  Scan.loop .malformed round start

/-- Takes a given word and stands for a value. -/
def word (letters : String) (value : Json) : Read Json := do
  Scan.expect .malformed (letters.toList.map byte)
  return value

/-- Takes a value whose items and members are taken by `inner`; without `inner` the value may
    be neither array nor object. -/
def valueWithin (inner : Option (Read Json)) : Read Json := do
  match (← Scan.peek).map fun b => Char.ofNat b.toNat with
  | some 'n' => word "null" .null
  | some 't' => word "true" (.bool true)
  | some 'f' => word "false" (.bool false)
  | some '"' =>
      skip
      return .string (← stringBody)
  | some '[' =>
      skip
      match inner with
      | none => malformed
      | some inner =>
          let found ← items (fun found => do return (← inner) :: found) []
          return .array found.reverse
  | some '\x7b' =>
      skip
      match inner with
      | none => malformed
      | some inner =>
          let found ← members (fun found key => do
            colon
            return Keyed.insert key (← inner) found) []
          return .object found
  | _ => return .number (← number)

/-- Takes a value with at most `depth` arrays and objects inside each other. -/
def value : (depth : Nat) → Read Json
  | 0 => valueWithin none
  | depth + 1 => valueWithin (some (value depth))

/-- What kind of value comes next, for a message. A scalar has to be well formed; of an
    array or an object only the opening bracket is looked at. -/
def found : Read Found := do
  match ← Scan.peek with
  | some 0x5B => return .sequence
  | some 0x7B => return .map
  | _ => return .ofJson (← valueWithin none)

/-- Refuses the value that comes next because something else was expected. -/
def refuse {α : Type} (expected : String) : Read α := do
  Scan.fail (.mistyped (.invalidType (← found) expected))

/-- Takes a string and refuses any other value. -/
def string : Read String := do
  if ← Scan.accept [byte '"'] then stringBody else refuse "a string"

/-- Takes a whole text that holds one thing, with blanks around it. -/
def whole {α : Type} (content : Read α) : Read α := do
  skipBlanks
  let result ← content
  skipBlanks
  Scan.atEnd .malformed
  return result

end Read

/-- How deep arrays and objects may nest. -/
def maxDepth : Nat := 127

def ofBytes? (bytes : ByteArray) : Option Json :=
  ((Read.whole (Read.value maxDepth)).run bytes.toList).toOption

end SchemaDefaults.Json
