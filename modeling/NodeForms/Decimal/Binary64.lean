/-!
# Binary floating-point values

A `Binary64` is the 64-bit pattern of a double: one sign bit, eleven exponent
bits and fifty-two fraction bits. Every value is handled through exact integer
arithmetic, so reading a decimal is one correctly rounded division.
-/

namespace NodeForms

/-- A double, given by its bit pattern. -/
structure Binary64 where
  bits : UInt64
deriving DecidableEq, Repr, Inhabited

namespace Binary64

/-- Divide two naturals and round the quotient to the nearest one, a half to the even one. -/
def divideToEven (numerator denominator : Nat) : Nat :=
  let quotient := numerator / denominator
  let doubled := 2 * (numerator % denominator)
  if doubled < denominator then quotient
  else if denominator < doubled then quotient + 1
  else quotient + quotient % 2

def fractionBound : Nat := 0x10000000000000

def signBound : Nat := 0x8000000000000000

def infinityBits : Nat := 0x7FF * fractionBound

def ofMagnitude (negative : Bool) (magnitude : Nat) : Binary64 :=
  ⟨UInt64.ofNat (magnitude + if negative then signBound else 0)⟩

def zero (negative : Bool) : Binary64 := ofMagnitude negative 0

def infinity (negative : Bool) : Binary64 := ofMagnitude negative infinityBits

def nan : Binary64 := ⟨0x7FF8000000000000⟩

def isNegative (x : Binary64) : Bool := decide (signBound ≤ x.bits.toNat)

def magnitudeBits (x : Binary64) : Nat := x.bits.toNat % signBound

def isNaN (x : Binary64) : Bool := decide (infinityBits < x.magnitudeBits)

def isInfinite (x : Binary64) : Bool := x.magnitudeBits == infinityBits

def isFinite (x : Binary64) : Bool := decide (x.magnitudeBits < infinityBits)

def significand (x : Binary64) : Nat :=
  let fraction := x.magnitudeBits % fractionBound
  if x.magnitudeBits / fractionBound = 0 then fraction else fractionBound + fraction

def scale (x : Binary64) : Int :=
  (max (x.magnitudeBits / fractionBound) 1 : Nat) - 1075

def ratio (x : Binary64) : Nat × Nat :=
  (x.significand * Nat.pow 2 x.scale.toNat, Nat.pow 2 (-x.scale).toNat)

/-- The pattern of the double nearest to a positive ratio, infinity when it is too large.

The exponent is chosen so that the scaled ratio lies between `2 ^ 52` and `2 ^ 53`
whenever the value is normal; a significand that rounds up to `2 ^ 53` carries into
the exponent field of the pattern by itself. -/
def nearestBits (numerator denominator : Nat) : Nat :=
  let estimate : Int := (numerator.log2 : Int) - denominator.log2 - 53
  let scaled (exponent : Int) : Nat × Nat :=
    (numerator * Nat.pow 2 (-exponent).toNat, denominator * Nat.pow 2 exponent.toNat)
  let first := scaled estimate
  let fitted := if first.1 / first.2 < 2 * fractionBound then estimate else estimate + 1
  let exponent := max fitted (-1074)
  let parts := scaled exponent
  min ((exponent + 1074).toNat * fractionBound + divideToEven parts.1 parts.2) infinityBits

def decimalReach : Int := 400

def ofDecimal (negative : Bool) (digits : Nat) (exponent : Int) : Binary64 :=
  if digits = 0 then zero negative
  else
    let leading : Int := (Nat.toDigits 10 digits).length + exponent
    if decimalReach < leading then infinity negative
    else if leading < -decimalReach then zero negative
    else ofMagnitude negative
      (nearestBits (digits * Nat.pow 10 exponent.toNat) (Nat.pow 10 (-exponent).toNat))

/-- The integer part of a finite value, cut toward zero. -/
def truncate (x : Binary64) : Int :=
  let magnitude := x.ratio.1 / x.ratio.2
  if x.isNegative then -(magnitude : Int) else magnitude

def toInt? (x : Binary64) : Option Int :=
  if x.isFinite && x.ratio.1 % x.ratio.2 == 0 then some x.truncate else none

/-- Numeric equality: a value that is not a number equals nothing, and both zeros are equal. -/
def equals (x y : Binary64) : Bool :=
  !x.isNaN && !y.isNaN && (x == y || (x.magnitudeBits == 0 && y.magnitudeBits == 0))

def isZero (x : Binary64) : Bool := x.magnitudeBits == 0

end Binary64

end NodeForms
