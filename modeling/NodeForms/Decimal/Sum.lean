import NodeForms.Decimal.Binary64

/-!
# Sums and products of doubles

A sum or product of two doubles is the double nearest to the exact one, a tie going to the
even neighbour. Infinite values and what is not a number are carried along.
-/

namespace NodeForms

namespace Binary64

def ofRatio (numerator : Int) (denominator : Nat) : Binary64 :=
  if numerator = 0 then zero false
  else ofMagnitude (decide (numerator < 0)) (nearestBits numerator.natAbs denominator)

def signedNumerator (x : Binary64) : Int :=
  if x.isNegative then -(x.ratio.1 : Int) else x.ratio.1

/-- The sum of two values, rounded to nearest. -/
def plus (x y : Binary64) : Binary64 :=
  if x.isNaN || y.isNaN then nan
  else if x.isInfinite then
    if y.isInfinite && x.isNegative != y.isNegative then nan else x
  else if y.isInfinite then y
  else
    ofRatio (x.signedNumerator * y.ratio.2 + y.signedNumerator * x.ratio.2)
      (x.ratio.2 * y.ratio.2)

/-- The product of a value and a finite one that is not zero, rounded to nearest. -/
def times (x y : Binary64) : Binary64 :=
  if x.isFinite then ofRatio (x.signedNumerator * y.signedNumerator) (x.ratio.2 * y.ratio.2)
  else if x.isNaN then x
  else infinity (x.isNegative != y.isNegative)

def negated (x : Binary64) : Binary64 := ofMagnitude (!x.isNegative) x.magnitudeBits

end Binary64

end NodeForms
