import SchemaDefaults.Toml.Value

/-! # Numbers, truth values, dates and times

What a bare word of a TOML document stands for. Underscores may stand between two digits,
a decimal number has no leading zero, and a date or time has to exist. A date and a time
are brought into one form: capital `T` and `Z`, seconds always written, no trailing zeros
in a fraction of at most nine digits.

Two kinds of words are numbers in shape only: the mark of a base with no digits behind it,
and a whole number in which other characters follow an underscore. They stand for a number
that cannot be made out. All other words that are not numbers break the grammar.
-/

namespace SchemaDefaults.Toml

/-! ## Numbers -/

/-- The digits of a run in which single underscores may stand between digits. -/
def digitRun (isDigit : Char → Bool) (afterDigit : Bool) : List Char → Option (List Char)
  | [] => if afterDigit then some [] else none
  | c :: rest =>
      if isDigit c then (digitRun isDigit true rest).map (c :: ·)
      else if c = '_' && afterDigit && !rest.isEmpty then digitRun isDigit false rest
      else none

/-- The value of a digit of any base up to sixteen. -/
def digitValue (c : Char) : Nat :=
  if c.isDigit then c.toNat - 48 else if c.isLower then c.toNat - 87 else c.toNat - 55

/-- The number with the given digits. -/
def numberOf (base : Nat) (digits : List Char) : Nat :=
  digits.foldl (fun n c => n * base + digitValue c) 0

def decimalRun : List Char → Option (List Char) := digitRun Char.isDigit false

/-- The decimal digits of a run that has no leading zero. -/
def plainRun (chars : List Char) : Option (List Char) :=
  match decimalRun chars with
  | some ('0' :: _ :: _) => none
  | digits => digits

/-- A sign, if there is one, and what follows it. -/
def splitSign : List Char → Bool × List Char
  | '-' :: rest => (true, rest)
  | '+' :: rest => (false, rest)
  | chars => (false, chars)

/-- The parts before and after the first character with a property. -/
def splitAt? (p : Char → Bool) (chars : List Char) : List Char × Option (List Char) :=
  match chars.dropWhile (!p ·) with
  | [] => (chars, none)
  | _ :: rest => (chars.takeWhile (!p ·), some rest)

def isHexDigit (c : Char) : Bool :=
  c.isDigit || ('a' ≤ c && c ≤ 'f') || ('A' ≤ c && c ≤ 'F')

/-- A number of a base given by its digits; without any it cannot be made out. -/
def basedRun? (base : Nat) (isDigit : Char → Bool) : List Char → Option Value
  | [] => some .unreadable
  | digits => (digitRun isDigit false digits).map fun digits => .ofInteger (numberOf base digits)

/-- The number of a word in a base other than ten. -/
def basedNumber? : List Char → Option Value
  | '0' :: 'x' :: rest => basedRun? 16 isHexDigit rest
  | '0' :: 'o' :: rest => basedRun? 8 (fun c => '0' ≤ c && c ≤ '7') rest
  | '0' :: 'b' :: rest => basedRun? 2 (fun c => c == '0' || c == '1') rest
  | _ => none

/-- The exponent of ten behind the letter of a number, or zero without one. -/
def exponent? : Option (List Char) → Option Int
  | none => some 0
  | some chars =>
      let (negative, rest) := splitSign chars
      (decimalRun rest).map fun digits =>
        let size : Int := numberOf 10 digits
        if negative then -size else size

/-- A number with a fraction, an exponent or both. -/
def float? (chars : List Char) : Option Value := do
  let (negative, rest) := splitSign chars
  let (mantissa, exponent) := splitAt? (fun c => c == 'e' || c == 'E') rest
  let (whole, fraction) := splitAt? (· == '.') mantissa
  if exponent.isNone && fraction.isNone then failure
  let whole ← plainRun whole
  let places ← match fraction with
    | none => some []
    | some digits => decimalRun digits
  let exponent ← exponent? exponent
  return .ofDouble
    (.ofDecimal negative (numberOf 10 (whole ++ places)) (exponent - places.length))

def integer? (chars : List Char) : Option Value :=
  let (negative, rest) := splitSign chars
  (plainRun rest).map fun digits =>
    let size : Int := numberOf 10 digits
    .ofInteger (if negative then -size else size)

/-- Whether each underscore stands between two digits, digits of base sixteen included. -/
def areSpaced (afterDigit : Bool) : List Char → Bool
  | [] => true
  | '_' :: rest => afterDigit && rest.head?.any isHexDigit && areSpaced false rest
  | c :: rest => areSpaced (isHexDigit c) rest

/-- A word that begins as a whole number with underscores does and goes on otherwise, without
    the marks of a fraction or an exponent. -/
def spoiledInteger? (chars : List Char) : Option Value :=
  let (_, rest) := splitSign chars
  let begins := rest.head?.any (fun c => '1' ≤ c && c ≤ '9') &&
    (rest.dropWhile Char.isDigit).head? == some '_'
  let isWhole := !rest.any fun c => c == '.' || c == 'e' || c == 'E'
  if begins && isWhole && areSpaced false rest then some .unreadable else none

def special? (chars : List Char) : Option Value :=
  let (negative, rest) := splitSign chars
  if rest = ['i', 'n', 'f'] then some (.float (.infinity negative))
  else if rest = ['n', 'a', 'n'] then some (.float (.nan negative))
  else none

/-! ## Dates and times -/

/-- A number of exactly so many digits, and what follows it. -/
def fixedNumber? (count : Nat) (chars : List Char) : Option (Nat × List Char) :=
  let digits := chars.take count
  if digits.length = count ∧ digits.all Char.isDigit then
    some (numberOf 10 digits, chars.drop count)
  else none

def after? (mark : Char) : List Char → Option (List Char)
  | c :: rest => if c = mark then some rest else none
  | [] => none

def daysOfMonth (year month : Nat) : Nat :=
  if month = 2 then
    if (year % 4 = 0 ∧ year % 100 ≠ 0) ∨ year % 400 = 0 then 29 else 28
  else if month ∈ [4, 6, 9, 11] then 30
  else 31

/-- A number with leading zeros. -/
def padded (width n : Nat) : String :=
  let digits := Nat.toDigits 10 n
  String.ofList (List.replicate (width - digits.length) '0' ++ digits)

/-- A date, and what follows it. -/
def date? (chars : List Char) : Option (String × List Char) := do
  let (year, rest) ← fixedNumber? 4 chars
  let (month, rest) ← fixedNumber? 2 (← after? '-' rest)
  let (day, rest) ← fixedNumber? 2 (← after? '-' rest)
  guard (1 ≤ month ∧ month ≤ 12 ∧ 1 ≤ day ∧ day ≤ daysOfMonth year month)
  return (padded 4 year ++ "-" ++ padded 2 month ++ "-" ++ padded 2 day, rest)

/-- A fraction of a second, and what follows it. Only nine digits count. -/
def fraction? (chars : List Char) : Option (String × List Char) :=
  match after? '.' chars with
  | none => some ("", chars)
  | some rest =>
      let digits := rest.takeWhile Char.isDigit
      let kept := ((digits.take 9).reverse.dropWhile (· == '0')).reverse
      let text := if kept.isEmpty then "" else "." ++ String.ofList kept
      if digits.isEmpty then none else some (text, rest.dropWhile Char.isDigit)

/-- A time, and what follows it. The seconds may be left out. -/
def time? (chars : List Char) : Option (String × List Char) := do
  let (hour, rest) ← fixedNumber? 2 chars
  let (minute, rest) ← fixedNumber? 2 (← after? ':' rest)
  let (second, fraction, rest) ← match after? ':' rest with
    | none => some (0, "", rest)
    | some rest => do
        let (second, rest) ← fixedNumber? 2 rest
        let (fraction, rest) ← fraction? rest
        some (second, fraction, rest)
  guard (hour ≤ 23 ∧ minute ≤ 59 ∧ second ≤ 60)
  return (padded 2 hour ++ ":" ++ padded 2 minute ++ ":" ++ padded 2 second ++ fraction, rest)

/-- The offset of a time from universal time. -/
def offset? (chars : List Char) : Option String :=
  match chars with
  | [] => some ""
  | ['Z'] | ['z'] => some "Z"
  | sign :: rest => do
      guard (sign = '+' ∨ sign = '-')
      let (hours, rest) ← fixedNumber? 2 rest
      let (minutes, rest) ← fixedNumber? 2 (← after? ':' rest)
      guard (rest.isEmpty ∧ hours ≤ 23 ∧ minutes ≤ 59)
      let sign := if hours = 0 ∧ minutes = 0 then "+" else sign.toString
      return sign ++ padded 2 hours ++ ":" ++ padded 2 minutes

/-- A date, a time, or a date and a time. -/
def moment? (chars : List Char) : Option String :=
  match date? chars with
  | none => do
      let (time, rest) ← time? chars
      guard rest.isEmpty
      return time
  | some (date, []) => some date
  | some (date, mark :: rest) => do
      guard (mark = 'T' ∨ mark = 't' ∨ mark = ' ')
      let (time, rest) ← time? rest
      return date ++ "T" ++ time ++ (← offset? rest)

/-! ## Bare words -/

def scalar? (chars : List Char) : Option Value :=
  if chars = ['t', 'r', 'u', 'e'] then some (.boolean true)
  else if chars = ['f', 'a', 'l', 's', 'e'] then some (.boolean false)
  else
    integer? chars <|> basedNumber? chars <|> special? chars <|> float? chars <|>
      (moment? chars).map .moment <|> spoiledInteger? chars

end SchemaDefaults.Toml
