import NodeForms.Decimal.Binary64

/-!
# Shortest decimals

The shortest decimal of a positive finite double has the fewest digits that read
back as the same double. On each decimal grid only the two neighbours of the value
need to be tried; of two that read back the nearer one is taken, and of two equally
near ones the even one.
-/

namespace NodeForms

structure Decimal where
  digits : Nat
  exponent : Int
deriving DecidableEq, Repr, Inhabited

namespace Decimal

/-- Drop trailing zeros, keeping the value; `fuel` bounds how many. -/
def trim : Nat → Decimal → Decimal
  | 0, decimal => decimal
  | fuel + 1, decimal =>
      if decimal.digits ≠ 0 ∧ decimal.digits % 10 = 0 then
        trim fuel ⟨decimal.digits / 10, decimal.exponent + 1⟩
      else decimal

def digitChars (decimal : Decimal) : List Char := Nat.toDigits 10 decimal.digits

def leadingExponent (decimal : Decimal) : Int :=
  decimal.exponent + decimal.digitChars.length - 1

end Decimal

namespace Binary64

/-- The largest power of ten not above a positive ratio, up to one step of the estimate. -/
def decimalMagnitude (numerator denominator : Nat) : Int :=
  let whole := numerator / denominator
  if 0 < whole then (Nat.toDigits 10 whole).length - 1
  else
    let inverse : Int := (Nat.toDigits 10 (denominator / numerator)).length
    let scaled := numerator * Nat.pow 10 inverse.toNat
    if denominator ≤ scaled / 10 then 1 - inverse else -inverse

def readsBack (x : Binary64) (decimal : Decimal) : Bool :=
  ofDecimal false decimal.digits decimal.exponent == x

/-- The candidate on the grid of the given power of ten: of the two neighbours of the
value that read back, the nearer one. -/
def onGrid (x : Binary64) (exponent : Int) : Option Decimal :=
  let numerator := x.ratio.1 * Nat.pow 10 (-exponent).toNat
  let denominator := x.ratio.2 * Nat.pow 10 exponent.toNat
  let below : Decimal := ⟨numerator / denominator, exponent⟩
  let above : Decimal := ⟨numerator / denominator + 1, exponent⟩
  let doubled := 2 * (numerator % denominator)
  let belowFirst :=
    decide (doubled < denominator) || (doubled == denominator && below.digits % 2 == 0)
  let (near, far) := if belowFirst then (below, above) else (above, below)
  if near.digits ≠ 0 ∧ readsBack x near then some near
  else if far.digits ≠ 0 ∧ readsBack x far then some far
  else none

/-- Try grids of one more digit each, starting at the given power of ten. -/
def searchGrids (x : Binary64) : Nat → Int → Option Decimal
  | 0, _ => none
  | fuel + 1, exponent =>
      match onGrid x exponent with
      | some decimal => some (decimal.trim 20)
      | none => searchGrids x fuel (exponent - 1)

/-- Seventeen digits tell any two doubles apart; the last grids are a reserve. -/
def gridCount : Nat := 20

def shortest (x : Binary64) : Decimal :=
  let start := decimalMagnitude x.ratio.1 x.ratio.2
  (searchGrids x gridCount start).getD ⟨x.ratio.1, 0⟩

end Binary64

end NodeForms
