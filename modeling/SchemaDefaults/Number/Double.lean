/-! # Binary floating point of 64 bits

A double is kept as its bits, so equality is equality of representation and every
operation is exact arithmetic on natural numbers followed by one rounding. The
rounding is to the nearest double, a tie to the one with an even significand, and
beyond the largest double to infinity.
-/

namespace SchemaDefaults

def twoTo (exponent : Nat) : Nat :=
  Nat.pow 2 exponent

def tenTo (exponent : Nat) : Nat :=
  Nat.pow 10 exponent

/-- A double, by its bits: sign, eleven bits of exponent, 52 bits of fraction. -/
structure Double where
  bits : UInt64
  deriving Repr, DecidableEq

namespace Double

/-- Whether the sign bit is set. Zero has a sign too. -/
def isNegative (x : Double) : Bool :=
  twoTo 63 ≤ x.bits.toNat

def exponentField (x : Double) : Nat :=
  x.bits.toNat / twoTo 52 % twoTo 11

def fraction (x : Double) : Nat :=
  x.bits.toNat % twoTo 52

/-- Whether the double is a number, not an infinity or a NaN. -/
def isFinite (x : Double) : Bool :=
  x.exponentField != 2047

def isNaN (x : Double) : Bool :=
  x.exponentField == 2047 && x.fraction != 0

/-- The significand `m` of a finite double whose size is `m * 2 ^ q`. -/
def significand (x : Double) : Nat :=
  if x.exponentField = 0 then x.fraction else twoTo 52 + x.fraction

/-- The exponent `q` of a finite double whose size is `m * 2 ^ q`. -/
def exponent (x : Double) : Int :=
  if x.exponentField = 0 then -1074 else x.exponentField - 1075

/-- Whether the double is zero, of either sign. -/
def isZero (x : Double) : Bool :=
  x.exponentField == 0 && x.fraction == 0

/-- The double with a given sign and given other bits. -/
def ofSize (negative : Bool) (size : Nat) : Double :=
  ⟨(if negative then twoTo 63 + size else size).toUInt64⟩

def infinity (negative : Bool) : Double :=
  ofSize negative (2047 * twoTo 52)

/-- A quiet NaN of a given sign. -/
def nan (negative : Bool) : Double :=
  ofSize negative (2047 * twoTo 52 + twoTo 51)

/-- The quotient rounded to the nearest natural number, a tie to the even one. -/
def roundRatio (num den : Nat) : Nat :=
  let quotient := num / den
  let remainder := num % den
  if den < 2 * remainder || (2 * remainder == den && quotient % 2 == 1) then quotient + 1
  else quotient

/-- The two parts of `num / den * 2 ^ -q`. -/
def scaleDown (num den : Nat) (q : Int) : Nat × Nat :=
  if 0 ≤ q then (num, den * twoTo q.toNat) else (num * twoTo (-q).toNat, den)

/-- The binary exponent `e` with `2 ^ e ≤ num / den < 2 ^ (e + 1)`, for positive parts. -/
def ratioExponent (num den : Nat) : Int :=
  let guess : Int := (Nat.log2 num : Int) - Nat.log2 den
  let (n, d) := scaleDown num den guess
  if n < d then guess - 1 else guess

/-- The double nearest to `num / den`. -/
def ofRatio (negative : Bool) (num den : Nat) : Double :=
  if num = 0 then ofSize negative 0
  else
    -- Below the normal range the exponent stays where it is and the significand gets short.
    let q := max (ratioExponent num den - 52) (-1074)
    let (n, d) := scaleDown num den q
    let m := roundRatio n d
    -- The leading bit of `m` adds to the exponent field, and so does a carry out of its rounding.
    let size := if m < twoTo 52 then m else (q + 1074).toNat * twoTo 52 + m
    if size < 2047 * twoTo 52 then ofSize negative size else infinity negative

/-- The parts of the size of a finite double. -/
def ratio (x : Double) : Nat × Nat :=
  if 0 ≤ x.exponent then (x.significand * twoTo x.exponent.toNat, 1)
  else (x.significand, twoTo (-x.exponent).toNat)

/-- Product of two finite doubles without their signs, rounded once. -/
def mulSize (x y : Double) : Double :=
  ofRatio false (x.ratio.1 * y.ratio.1) (x.ratio.2 * y.ratio.2)

/-- Quotient of two finite doubles without their signs, rounded once. -/
def divSize (x y : Double) : Double :=
  ofRatio false (x.ratio.1 * y.ratio.2) (x.ratio.2 * y.ratio.1)

/-- A double with the sign put in front. -/
def withSign (negative : Bool) (x : Double) : Double :=
  ofSize negative (x.bits.toNat % twoTo 63)

/-- The double nearest to a natural number. -/
def ofNat (n : Nat) : Double :=
  ofRatio false n 1

/-- The number of decimal digits of a natural number. -/
def digitCount (n : Nat) : Nat :=
  (Nat.toDigits 10 n).length

/-- The double nearest to `digits * 10 ^ exponent`. -/
def ofDecimal (negative : Bool) (digits : Nat) (exponent : Int) : Double :=
  let top := exponent + digitCount digits
  -- Sizes far outside the range are settled without computing the power.
  if digits = 0 ∨ top < -400 then ofSize negative 0
  else if 400 < top then infinity negative
  else if 0 ≤ exponent then ofRatio negative (digits * tenTo exponent.toNat) 1
  else ofRatio negative digits (tenTo (-exponent).toNat)

end Double

end SchemaDefaults
