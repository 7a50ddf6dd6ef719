import SchemaDefaults.Number.Double

/-! # Doubles in decimal

A double is written with the fewest decimal digits that read back as the same double;
of several such numbers the nearest is taken. How the digits are laid out (positional
or with an exponent) is a choice of the format that asks, given as a `FloatStyle`.
-/

namespace SchemaDefaults

/-- The number `digits * 10 ^ exponent`. -/
structure Decimal where
  digits : Nat
  exponent : Int
  deriving Repr, DecidableEq

namespace Double

/-- The reals that round to a positive double lie between two halves of its neighbours'
    distances; they are given in units of `2 ^ (q - 2)`, where `q` is the exponent. -/
def roundingInterval (x : Double) : Nat × Nat :=
  let m := x.significand
  -- The double below a power of two is only half as far away as the one above.
  let low := if m = twoTo 52 && 1 < x.exponentField then 4 * m - 1 else 4 * m - 2
  (low, 4 * m + 2)

/-- Whether `digits * 10 ^ exponent` rounds to the given positive double. -/
def isReadBackFrom (x : Double) (digits : Nat) (exponent : Int) : Bool :=
  let (low, high) := x.roundingInterval
  let unit := x.exponent - 2
  let ten := tenTo exponent.natAbs
  let two := twoTo unit.natAbs
  let value := digits * (if 0 ≤ exponent then ten else 1) * (if 0 ≤ unit then 1 else two)
  let scale := (if 0 ≤ exponent then 1 else ten) * (if 0 ≤ unit then two else 1)
  -- A tie goes to the even significand, so the ends of the interval belong to that one.
  if x.significand % 2 = 0 then low * scale ≤ value && value ≤ high * scale
  else low * scale < value && value < high * scale

/-- The parts of the size of a double divided by `10 ^ exponent`. -/
def overPowerOfTen (x : Double) (exponent : Int) : Nat × Nat :=
  let (num, den) := x.ratio
  if 0 ≤ exponent then (num, den * tenTo exponent.toNat) else (num * tenTo (-exponent).toNat, den)

/-- The exponent `e` with `10 ^ e ≤ x < 10 ^ (e + 1)`, for a positive double. -/
def decimalExponent (x : Double) : Int :=
  let binary : Int := x.exponent + Nat.log2 x.significand
  -- `1233 / 4096` is just below the decimal logarithm of two.
  let guess := binary * 1233 / 4096
  let (num, den) := x.overPowerOfTen guess
  if num < den then guess - 1 else if num < 10 * den then guess else guess + 1

/-- The multiple of `10 ^ exponent` next to a positive double that reads back as it, the
    nearer one if both neighbours do. -/
def onGrid? (x : Double) (exponent : Int) : Option Nat :=
  let (num, den) := x.overPowerOfTen exponent
  let below := num / den
  match x.isReadBackFrom below exponent, x.isReadBackFrom (below + 1) exponent with
  | true, true => some (roundRatio num den)
  | true, false => some below
  | false, true => some (below + 1)
  | false, false => none

/-- The shortest decimal that reads back as a given positive double. -/
def shortest (x : Double) : Decimal :=
  let top := x.decimalExponent
  -- Seventeen digits are always enough.
  let found := (List.range 17).findSome? fun (extra : Nat) =>
    (x.onGrid? (top - extra)).map fun digits => Decimal.mk digits (top - extra)
  found.getD ⟨x.overPowerOfTen (top - 16) |>.1, top - 16⟩

end Double

/-- How a format lays out the digits of a double. -/
structure FloatStyle where
  /-- Whether a number whose first digit has the given exponent is written without an
      exponent of ten. -/
  isPositional : Int → Bool

namespace FloatStyle

/-- Digits with a point in them, or followed by zeros and the ending `.0`. -/
def positional (digits : List Char) (exponent : Int) : String :=
  let point := digits.length + exponent
  if 0 ≤ exponent then String.ofList (digits ++ List.replicate exponent.toNat '0') ++ ".0"
  else if 0 < point then
    String.ofList (digits.take point.toNat) ++ "." ++ String.ofList (digits.drop point.toNat)
  else "0." ++ String.ofList (List.replicate (-point).toNat '0' ++ digits)

/-- Digits with the point after the first of them, and an exponent of ten with its sign. -/
def scientific (digits : List Char) (top : Int) : String :=
  let sign := if top < 0 then "-" else "+"
  let mantissa := match digits with
    | [] => ""
    | [digit] => digit.toString
    | digit :: rest => digit.toString ++ "." ++ String.ofList rest
  mantissa ++ "e" ++ sign ++ toString top.natAbs

/-- The text of a double. -/
def text (style : FloatStyle) (x : Double) : String :=
  let sign := if x.isNegative then "-" else ""
  if x.isNaN then "NaN"
  else if !x.isFinite then sign ++ "inf"
  else if x.isZero then sign ++ "0.0"
  else
    let decimal := x.shortest
    let digits := Nat.toDigits 10 decimal.digits
    let stripped := (digits.reverse.dropWhile (· == '0')).reverse
    let exponent := decimal.exponent + (digits.length - stripped.length : Nat)
    let top := exponent + stripped.length - 1
    sign ++ if style.isPositional top then positional stripped exponent
      else scientific stripped top

end FloatStyle

end SchemaDefaults
