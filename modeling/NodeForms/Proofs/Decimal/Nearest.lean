import NodeForms.Decimal.Binary64
import Mathlib.Algebra.Order.Field.Power
import Mathlib.Data.Rat.Cast.Order
import Mathlib.Tactic.FieldSimp
import Mathlib.Tactic.Linarith
import Mathlib.Tactic.NormNum
import Mathlib.Tactic.Positivity
import Mathlib.Tactic.Ring

/-!
# The nearest double

Which double is nearest to a ratio depends on the value of the ratio alone. Around a positive
finite double lies an interval of values to which it is the nearest one; a value at most a
fraction of `2 ^ -54` below it is in this interval, at the least magnitude of an exponent too.
-/

namespace NodeForms

namespace Binary64

theorem divideToEven_mul_right (numerator denominator : Nat) {factor : Nat}
    (positive : 0 < factor) :
    divideToEven (numerator * factor) (denominator * factor) =
      divideToEven numerator denominator := by
  have quotient : numerator * factor / (denominator * factor) = numerator / denominator :=
    Nat.mul_div_mul_right _ _ positive
  have remainder : 2 * (numerator * factor % (denominator * factor)) =
      2 * (numerator % denominator) * factor := by
    rw [Nat.mul_mod_mul_right, Nat.mul_assoc]
  unfold divideToEven
  rw [quotient, remainder]
  simp only [Nat.mul_lt_mul_right positive]

theorem divideToEven_congr {numerator denominator other divisor : Nat} (positive : 0 < denominator)
    (alsoPositive : 0 < divisor) (same : numerator * divisor = other * denominator) :
    divideToEven numerator denominator = divideToEven other divisor := by
  calc divideToEven numerator denominator
      = divideToEven (numerator * divisor) (denominator * divisor) :=
        (divideToEven_mul_right _ _ alsoPositive).symm
    _ = divideToEven (other * denominator) (divisor * denominator) := by
        rw [same, Nat.mul_comm denominator]
    _ = divideToEven other divisor := divideToEven_mul_right _ _ positive

/-- A quotient less than a half away from an integer is rounded to it. -/
theorem divideToEven_eq {numerator denominator result : Nat}
    (below : 2 * numerator < 2 * (result * denominator) + denominator)
    (above : 2 * (result * denominator) < 2 * numerator + denominator) :
    divideToEven numerator denominator = result := by
  have positive : 0 < denominator := by omega
  have split := Nat.div_add_mod' numerator denominator
  have less := Nat.mod_lt numerator positive
  unfold divideToEven
  generalize numerator / denominator = quotient at *
  generalize numerator % denominator = remainder at *
  have notLess : quotient ≤ result := by
    by_contra less
    have : (result + 1) * denominator ≤ quotient * denominator :=
      Nat.mul_le_mul_right _ (by omega)
    rw [Nat.add_one_mul] at this
    omega
  have notMore : result ≤ quotient + 1 := by
    by_contra more
    have : (quotient + 2) * denominator ≤ result * denominator :=
      Nat.mul_le_mul_right _ (by omega)
    rw [Nat.add_mul] at this
    omega
  obtain rfl | rfl : result = quotient ∨ result = quotient + 1 := by omega
  · rw [if_pos (by omega)]
  · have next := Nat.add_one_mul quotient denominator
    rw [if_neg (by omega), if_pos (by omega)]

theorem natCast_zpow (base : Nat) (positive : 0 < base) (exponent : Int) :
    (base : ℚ) ^ exponent * (base ^ (-exponent).toNat : ℕ) = (base ^ exponent.toNat : ℕ) := by
  have nonzero : (base : ℚ) ≠ 0 := by positivity
  push_cast
  rw [← zpow_natCast, ← zpow_natCast, ← zpow_add₀ nonzero]
  congr 1
  omega

theorem scaled_div (base : Nat) (positive : 0 < base) (numerator denominator : Nat)
    (exponent : Int) :
    ((numerator * base ^ (-exponent).toNat : ℕ) : ℚ) / (denominator * base ^ exponent.toNat : ℕ) =
      numerator / denominator / (base : ℚ) ^ exponent := by
  have powers := natCast_zpow base positive exponent
  have nonzero : ((base ^ (-exponent).toNat : ℕ) : ℚ) ≠ 0 := by positivity
  rw [Nat.cast_mul, Nat.cast_mul, ← powers, div_div, ← mul_assoc, mul_div_mul_right _ _ nonzero]

theorem scaled_two_div (numerator denominator : Nat) (exponent : Int) :
    ((numerator * 2 ^ (-exponent).toNat : ℕ) : ℚ) / (denominator * 2 ^ exponent.toNat : ℕ) =
      numerator / denominator / 2 ^ exponent :=
  scaled_div 2 (by decide) numerator denominator exponent

/-- The power of two in whose multiples a value is rounded: the value has fifty-three binary
digits, or fewer at the least exponent. -/
structure FitsExponent (value : ℚ) (exponent : Int) : Prop where
  least : -1074 ≤ exponent
  below : value < 2 ^ 53 * 2 ^ exponent
  above : exponent = -1074 ∨ 2 ^ 52 * 2 ^ exponent ≤ value

theorem FitsExponent.unique {value : ℚ} {first second : Int} (fits : FitsExponent value first)
    (alsoFits : FitsExponent value second) : first = second := by
  have notLess {one other : Int} (fitsOne : FitsExponent value one)
      (fitsOther : FitsExponent value other) : other ≤ one := by
    by_contra more
    rcases fitsOther.above with isLeast | enough
    · have := fitsOne.least
      omega
    · have step : (2 : ℚ) ^ (one + 1) ≤ 2 ^ other :=
        zpow_le_zpow_right₀ (by norm_num) (by omega)
      rw [zpow_add_one₀ (by norm_num)] at step
      have := fitsOne.below
      linarith
  exact le_antisymm (notLess alsoFits fits) (notLess fits alsoFits)

def binaryExponent (numerator denominator : Nat) : Int :=
  let estimate : Int := (numerator.log2 : Int) - denominator.log2 - 53
  let quotient := numerator * Nat.pow 2 (-estimate).toNat / (denominator * Nat.pow 2 estimate.toNat)
  max (if quotient < 2 * fractionBound then estimate else estimate + 1) (-1074)

theorem nearestBits_eq_binaryExponent (numerator denominator : Nat) :
    nearestBits numerator denominator =
      let exponent := binaryExponent numerator denominator
      min ((exponent + 1074).toNat * fractionBound
        + divideToEven (numerator * 2 ^ (-exponent).toNat) (denominator * 2 ^ exponent.toNat))
        infinityBits := rfl

section

variable {numerator denominator : Nat}

/-- A ratio lies between the powers of two next to its estimate. -/
theorem estimate_bounds (positive : 0 < numerator) (alsoPositive : 0 < denominator) :
    (2 : ℚ) ^ ((numerator.log2 : Int) - denominator.log2 - 1) < numerator / denominator ∧
      (numerator / denominator : ℚ) < 2 ^ ((numerator.log2 : Int) - denominator.log2 + 1) := by
  have least : ((2 ^ numerator.log2 : ℕ) : ℚ) ≤ numerator := by
    exact_mod_cast Nat.log2_self_le positive.ne'
  have most : (numerator : ℚ) < (2 ^ (numerator.log2 + 1) : ℕ) := by
    exact_mod_cast Nat.lt_log2_self
  have leastDenominator : ((2 ^ denominator.log2 : ℕ) : ℚ) ≤ denominator := by
    exact_mod_cast Nat.log2_self_le alsoPositive.ne'
  have mostDenominator : (denominator : ℚ) < (2 ^ (denominator.log2 + 1) : ℕ) := by
    exact_mod_cast Nat.lt_log2_self
  have isPositive : (0 : ℚ) < denominator := by exact_mod_cast alsoPositive
  push_cast at least most leastDenominator mostDenominator
  have join (first : Int) (second third : Nat) (sum : first + second = third) :
      (2 : ℚ) ^ first * 2 ^ second = 2 ^ third := by
    rw [← zpow_natCast, ← zpow_natCast, ← zpow_add₀ (by norm_num), sum]
  constructor
  · rw [lt_div_iff₀ isPositive]
    calc (2 : ℚ) ^ ((numerator.log2 : Int) - denominator.log2 - 1) * denominator
        < 2 ^ ((numerator.log2 : Int) - denominator.log2 - 1) * 2 ^ (denominator.log2 + 1) :=
          mul_lt_mul_of_pos_left mostDenominator (by positivity)
      _ = 2 ^ numerator.log2 := join _ _ _ (by omega)
      _ ≤ numerator := least
  · rw [div_lt_iff₀ isPositive]
    calc (numerator : ℚ) < 2 ^ (numerator.log2 + 1) := most
      _ = 2 ^ ((numerator.log2 : Int) - denominator.log2 + 1) * 2 ^ denominator.log2 :=
          (join _ _ _ (by omega)).symm
      _ ≤ 2 ^ ((numerator.log2 : Int) - denominator.log2 + 1) * denominator :=
          mul_le_mul_of_nonneg_left leastDenominator (by positivity)

theorem binaryExponent_fits (positive : 0 < numerator) (alsoPositive : 0 < denominator) :
    FitsExponent (numerator / denominator) (binaryExponent numerator denominator) := by
  obtain ⟨enough, bounded⟩ := estimate_bounds positive alsoPositive
  have quotient (exponent : Int) :
      numerator * Nat.pow 2 (-exponent).toNat / (denominator * Nat.pow 2 exponent.toNat)
          < 2 * fractionBound ↔ (numerator / denominator : ℚ) < 2 ^ 53 * 2 ^ exponent := by
    have nonzero : 0 < denominator * 2 ^ exponent.toNat := by positivity
    have isPositive : (0 : ℚ) < (denominator * 2 ^ exponent.toNat : ℕ) := by exact_mod_cast nonzero
    have bound : ((2 * fractionBound : ℕ) : ℚ) = 2 ^ 53 := by norm_num [fractionBound]
    rw [← div_lt_iff₀ (by positivity), ← scaled_two_div, ← bound, div_lt_iff₀ isPositive]
    exact (Nat.div_lt_iff_lt_mul nonzero).trans (by norm_cast)
  have shift (offset : Int) (count : Nat) (sum : offset = (numerator.log2 : Int)
      - denominator.log2 - 53 + count) : (2 : ℚ) ^ offset =
        2 ^ count * 2 ^ ((numerator.log2 : Int) - denominator.log2 - 53) := by
    rw [sum, zpow_add₀ (by norm_num), zpow_natCast, mul_comm]
  rw [shift _ 52 (by omega)] at enough
  rw [shift _ 54 (by omega)] at bounded
  have fitted : ∃ exponent, binaryExponent numerator denominator = max exponent (-1074) ∧
      (numerator / denominator : ℚ) < 2 ^ 53 * 2 ^ exponent ∧
        2 ^ 52 * 2 ^ exponent ≤ (numerator / denominator : ℚ) := by
    refine ⟨_, rfl, ?_⟩
    split
    case isTrue small => exact ⟨(quotient _).mp small, enough.le⟩
    case isFalse large =>
      rw [quotient, not_lt] at large
      rw [zpow_add_one₀ (by norm_num)]
      constructor <;> linarith
  obtain ⟨exponent, isFitted, below, above⟩ := fitted
  rw [isFitted]
  by_cases small : exponent ≤ -1074
  · rw [max_eq_right small]
    refine ⟨le_rfl, below.trans_le ?_, .inl rfl⟩
    have := zpow_le_zpow_right₀ (show (1 : ℚ) ≤ 2 by norm_num) small
    linarith
  · rw [max_eq_left (by omega)]
    exact ⟨by omega, below, .inr above⟩

theorem nearestBits_eq (positive : 0 < numerator) (alsoPositive : 0 < denominator) {exponent : Int}
    (fits : FitsExponent (numerator / denominator) exponent) :
    nearestBits numerator denominator =
      min ((exponent + 1074).toNat * fractionBound
        + divideToEven (numerator * 2 ^ (-exponent).toNat) (denominator * 2 ^ exponent.toNat))
        infinityBits := by
  rw [nearestBits_eq_binaryExponent, fits.unique (binaryExponent_fits positive alsoPositive)]

theorem nearestBits_congr {other divisor : Nat} (positive : 0 < numerator)
    (alsoPositive : 0 < denominator) (otherPositive : 0 < other) (divisorPositive : 0 < divisor)
    (same : numerator * divisor = other * denominator) :
    nearestBits numerator denominator = nearestBits other divisor := by
  have value : (numerator / denominator : ℚ) = other / divisor := by
    rw [div_eq_div_iff (by positivity) (by positivity)]
    exact_mod_cast same
  have fits := binaryExponent_fits positive alsoPositive
  have quotients (exponent : Int) :
      divideToEven (numerator * 2 ^ (-exponent).toNat) (denominator * 2 ^ exponent.toNat) =
        divideToEven (other * 2 ^ (-exponent).toNat) (divisor * 2 ^ exponent.toNat) := by
    refine divideToEven_congr (by positivity) (by positivity) ?_
    rw [Nat.mul_mul_mul_comm, same, Nat.mul_mul_mul_comm]
  rw [nearestBits_eq positive alsoPositive fits,
    nearestBits_eq otherPositive divisorPositive (value ▸ fits), quotients]

end

/-- The magnitude of a finite double. -/
def value (x : Binary64) : ℚ := x.significand * 2 ^ x.scale

section

variable (x : Binary64)

theorem ratio_snd_pos : 0 < x.ratio.2 := Nat.pow_pos (by decide)

theorem ratio_eq_value : (x.ratio.1 / x.ratio.2 : ℚ) = x.value := by
  have powers := natCast_zpow 2 (by decide) x.scale
  have nonzero : ((2 ^ (-x.scale).toNat : ℕ) : ℚ) ≠ 0 := by positivity
  rw [div_eq_iff (by exact_mod_cast x.ratio_snd_pos.ne'), value, ratio]
  simp only [Nat.pow_eq]
  rw [Nat.cast_mul, ← powers, Nat.cast_ofNat, mul_assoc]

theorem significand_lt : x.significand < 2 ^ 53 := by
  unfold significand fractionBound
  dsimp only
  split <;> omega

theorem magnitudeBits_eq :
    x.magnitudeBits = (x.scale + 1074).toNat * fractionBound + x.significand := by
  unfold significand scale fractionBound
  dsimp only
  split <;> omega

theorem value_fits : FitsExponent x.value x.scale := by
  have least : -1074 ≤ x.scale := by
    unfold scale
    omega
  have less : (x.significand : ℚ) < 2 ^ 53 := by exact_mod_cast x.significand_lt
  refine ⟨least, mul_lt_mul_of_pos_right less (by positivity), ?_⟩
  have normal : x.scale = -1074 ∨ 2 ^ 52 ≤ x.significand := by
    unfold scale significand fractionBound
    dsimp only
    split <;> omega
  rcases normal with isLeast | enough
  · exact .inl isLeast
  · have enough : (2 ^ 52 : ℚ) ≤ x.significand := by exact_mod_cast enough
    exact .inr (mul_le_mul_of_nonneg_right enough (by positivity))

end

theorem divideToEven_of_near {numerator denominator result : Nat} (positive : 0 < denominator)
    (below : (numerator / denominator : ℚ) < result + 1 / 2)
    (above : result - 1 / 2 < (numerator / denominator : ℚ)) :
    divideToEven numerator denominator = result := by
  have isPositive : (0 : ℚ) < denominator := by exact_mod_cast positive
  rw [div_lt_iff₀ isPositive] at below
  rw [lt_div_iff₀ isPositive] at above
  refine divideToEven_eq ?_ ?_
  · have : (2 * numerator : ℚ) < 2 * (result * denominator) + denominator := by linarith
    exact_mod_cast this
  · have : (2 * (result * denominator) : ℚ) < 2 * numerator + denominator := by linarith
    exact_mod_cast this

/-- A double is the nearest one to the values below it up to a fraction of `2 ^ -54`. -/
theorem nearestBits_of_near {x : Binary64} (isFinite : x.isFinite = true)
    {numerator denominator : Nat}
    (positive : 0 < denominator) (notAbove : (numerator / denominator : ℚ) ≤ x.value)
    (near : x.value * (1 - 1 / 2 ^ 54) < (numerator / denominator : ℚ)) :
    nearestBits numerator denominator = x.magnitudeBits := by
  have finite : x.magnitudeBits < infinityBits := of_decide_eq_true isFinite
  have numeratorPositive : 0 < numerator := by
    rcases Nat.eq_zero_or_pos numerator with rfl | positive
    · have : 0 ≤ x.value * (1 - 1 / 2 ^ 54) :=
        mul_nonneg (by unfold value; positivity) (by norm_num)
      rw [Nat.cast_zero, zero_div] at near
      linarith
    · exact positive
  have power : (0 : ℚ) < 2 ^ x.scale := by positivity
  have less : (x.significand : ℚ) < 2 ^ 53 := by exact_mod_cast x.significand_lt
  have scaledLess := mul_lt_mul_of_pos_right less power
  unfold value at notAbove near
  by_cases above : x.scale = -1074 ∨ 2 ^ 52 * 2 ^ x.scale ≤ (numerator / denominator : ℚ)
  · -- The value is rounded in multiples of the same power of two as the double.
    have fits : FitsExponent (numerator / denominator) x.scale :=
      ⟨x.value_fits.least, notAbove.trans_lt x.value_fits.below, above⟩
    have rounded : divideToEven (numerator * 2 ^ (-x.scale).toNat)
        (denominator * 2 ^ x.scale.toNat) = x.significand := by
      refine divideToEven_of_near (by positivity) ?_ ?_
      · rw [scaled_two_div, div_lt_iff₀ power]
        linarith
      · rw [scaled_two_div, lt_div_iff₀ power]
        linarith
    rw [nearestBits_eq numeratorPositive positive fits, rounded, ← magnitudeBits_eq]
    exact min_eq_left finite.le
  · -- The double is the least one with its exponent, and the value has the exponent before.
    obtain ⟨notLeast, small⟩ := not_or.mp above
    rw [not_le] at small
    have enough : (2 ^ 52 : ℚ) * 2 ^ x.scale ≤ x.significand * 2 ^ x.scale :=
      x.value_fits.above.resolve_left notLeast
    have isLeast : x.significand = 2 ^ 52 := by
      have atLeast : (2 ^ 52 : ℚ) ≤ x.significand := le_of_mul_le_mul_right enough power
      have atMost : (x.significand : ℚ) < 2 ^ 52 + 1 := by
        refine lt_of_mul_lt_mul_right ?_ power.le
        linarith
      have : 2 ^ 52 ≤ x.significand := by exact_mod_cast atLeast
      have : x.significand < 2 ^ 52 + 1 := by exact_mod_cast atMost
      omega
    have double : (2 : ℚ) ^ x.scale = 2 * 2 ^ (x.scale - 1) := by
      rw [← zpow_one_add₀ (by norm_num), add_sub_cancel]
    have halfPower : (0 : ℚ) < 2 ^ (x.scale - 1) := by positivity
    rw [isLeast] at near notAbove
    push_cast at near notAbove
    rw [double] at near notAbove small
    have fits : FitsExponent (numerator / denominator) (x.scale - 1) := by
      refine ⟨?_, by linarith, .inr (by linarith)⟩
      have := x.value_fits.least
      omega
    have rounded : divideToEven (numerator * 2 ^ (-(x.scale - 1)).toNat)
        (denominator * 2 ^ (x.scale - 1).toNat) = 2 ^ 53 := by
      refine divideToEven_of_near (by positivity) ?_ ?_
      · rw [scaled_two_div, div_lt_iff₀ halfPower]
        push_cast
        linarith
      · rw [scaled_two_div, lt_div_iff₀ halfPower]
        push_cast
        linarith
    have carried : (x.scale - 1 + 1074).toNat * fractionBound + 2 ^ 53 = x.magnitudeBits := by
      have := x.value_fits.least
      rw [magnitudeBits_eq, isLeast]
      unfold fractionBound
      omega
    rw [nearestBits_eq numeratorPositive positive fits, rounded, carried]
    exact min_eq_left finite.le

end Binary64

end NodeForms
