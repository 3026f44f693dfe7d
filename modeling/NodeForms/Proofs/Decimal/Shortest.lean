import NodeForms.Decimal.Shortest
import NodeForms.Proofs.Decimal.Nearest
import Mathlib.Algebra.Order.Floor.Semifield
import Mathlib.Data.Nat.Cast.Order.Field
import Mathlib.Data.Rat.Floor

/-!
# Shortest decimals read back

The digits that are written for a positive finite double read back as that double. The reader
depends on the value of a decimal alone, so zeros at its end can be dropped, and the search for
digits ends: on a grid of seventeen digits the neighbour below reads back.
-/

namespace NodeForms

namespace Binary64

theorem ofMagnitude_magnitudeBits (x : Binary64) :
    ofMagnitude x.isNegative x.magnitudeBits = x := by
  have less := x.bits.toNat_lt
  have same : x.magnitudeBits + (if x.isNegative then signBound else 0) = x.bits.toNat := by
    by_cases negative : signBound ≤ x.bits.toNat
    · have isNegative : x.isNegative = true := decide_eq_true negative
      rw [if_pos isNegative, magnitudeBits]
      unfold signBound at negative ⊢
      omega
    · have notNegative : ¬x.isNegative = true := by simpa [isNegative] using negative
      rw [if_neg notNegative, magnitudeBits, Nat.mod_eq_of_lt (by omega), Nat.add_zero]
  rw [ofMagnitude, same, UInt64.ofNat_toNat]

theorem fields_ofMagnitude (negative : Bool) {magnitude : Nat} (bounded : magnitude < signBound) :
    (ofMagnitude negative magnitude).isNegative = negative ∧
      (ofMagnitude negative magnitude).magnitudeBits = magnitude := by
  have bits : (ofMagnitude negative magnitude).bits.toNat =
      magnitude + if negative then signBound else 0 := by
    rw [ofMagnitude, UInt64.toNat_ofNat']
    refine Nat.mod_eq_of_lt ?_
    unfold signBound at bounded ⊢
    split <;> omega
  rw [isNegative, magnitudeBits, bits]
  cases negative with
  | true => simp [Nat.mod_eq_of_lt bounded]
  | false => simp [Nat.mod_eq_of_lt bounded, bounded]

/-- The pattern of the double nearest to a decimal without its sign. -/
def decimalBits (digits : Nat) (exponent : Int) : Nat :=
  let leading : Int := (Nat.toDigits 10 digits).length + exponent
  if digits = 0 then 0
  else if decimalReach < leading then infinityBits
  else if leading < -decimalReach then 0
  else nearestBits (digits * Nat.pow 10 exponent.toNat) (Nat.pow 10 (-exponent).toNat)

theorem ofDecimal_eq (negative : Bool) (digits : Nat) (exponent : Int) :
    ofDecimal negative digits exponent = ofMagnitude negative (decimalBits digits exponent) := by
  unfold ofDecimal decimalBits
  dsimp only
  repeat' split
  all_goals rfl

theorem decimalBits_le (digits : Nat) (exponent : Int) :
    decimalBits digits exponent ≤ infinityBits := by
  unfold decimalBits
  dsimp only
  repeat' split
  · exact Nat.zero_le _
  · exact le_rfl
  · exact Nat.zero_le _
  · exact Nat.min_le_right _ _

theorem length_toDigits_mul_ten {digits : Nat} (positive : 0 < digits) :
    (Nat.toDigits 10 (digits * 10)).length = (Nat.toDigits 10 digits).length + 1 := by
  have joined := Nat.toDigits_append_toDigits (b := 10) (n := digits) (d := 0) (by decide) positive
    (by decide)
  rw [Nat.mul_comm digits, ← Nat.add_zero (10 * digits), ← joined, List.length_append]
  rfl

theorem decimalBits_mul_ten (digits : Nat) (exponent : Int) :
    decimalBits (digits * 10) exponent = decimalBits digits (exponent + 1) := by
  rcases Nat.eq_zero_or_pos digits with rfl | positive
  · simp [decimalBits]
  · have leading : ((Nat.toDigits 10 (digits * 10)).length : Int) + exponent =
        (Nat.toDigits 10 digits).length + (exponent + 1) := by
      rw [length_toDigits_mul_ten positive]
      omega
    have same : nearestBits (digits * 10 * 10 ^ exponent.toNat) (10 ^ (-exponent).toNat) =
        nearestBits (digits * 10 ^ (exponent + 1).toNat) (10 ^ (-(exponent + 1)).toNat) := by
      refine nearestBits_congr (by positivity) (by positivity) (by positivity) (by positivity) ?_
      rw [Nat.mul_assoc, Nat.mul_assoc, Nat.mul_assoc, ← pow_add, ← pow_succ', ← pow_add]
      congr 2
      omega
    unfold decimalBits
    simp only [leading, Nat.pow_eq, same]
    simp [positive.ne']

theorem decimalBits_trim (fuel : Nat) (decimal : Decimal) :
    decimalBits (decimal.trim fuel).digits (decimal.trim fuel).exponent =
      decimalBits decimal.digits decimal.exponent := by
  induction fuel generalizing decimal with
  | zero => rfl
  | succ fuel inductionHypothesis =>
      rw [Decimal.trim]
      split
      · rename_i ends
        have whole : decimal.digits / 10 * 10 = decimal.digits := Nat.div_mul_cancel (by omega)
        rw [inductionHypothesis, ← decimalBits_mul_ten, whole]
      · rfl

def decimalValue (digits : Nat) (exponent : Int) : ℚ := digits * 10 ^ exponent

theorem ratio_eq_decimalValue (digits : Nat) (exponent : Int) :
    ((digits * 10 ^ exponent.toNat : ℕ) : ℚ) / (10 ^ (-exponent).toNat : ℕ) =
      decimalValue digits exponent := by
  have powers := natCast_zpow 10 (by decide) exponent
  rw [div_eq_iff (by positivity), decimalValue, mul_assoc, Nat.cast_mul, ← powers, Nat.cast_ofNat]

/-- A decimal lies between the powers of ten at its first digit. -/
theorem decimalValue_bounds {digits : Nat} (positive : 0 < digits) (exponent : Int) :
    (10 : ℚ) ^ ((Nat.toDigits 10 digits).length + exponent - 1) ≤ decimalValue digits exponent ∧
      decimalValue digits exponent < 10 ^ ((Nat.toDigits 10 digits).length + exponent) := by
  set count := (Nat.toDigits 10 digits).length with isCount
  have some : 0 < count := Nat.length_toDigits_pos
  have power : (0 : ℚ) < 10 ^ exponent := by positivity
  have most : digits < 10 ^ count :=
    (Nat.length_toDigits_le_iff (by decide) some).mp le_rfl
  have least : 10 ^ (count - 1) ≤ digits := by
    rcases Nat.eq_zero_or_pos (count - 1) with isZero | more
    · rw [isZero]
      exact positive
    · by_contra less
      have := (Nat.length_toDigits_le_iff (b := 10) (n := digits) (by decide) more).mpr (by omega)
      omega
  constructor
  · have split : (count : Int) + exponent - 1 = ((count - 1 : ℕ) : Int) + exponent := by omega
    rw [split, zpow_add₀ (by norm_num), zpow_natCast, decimalValue]
    exact mul_le_mul_of_nonneg_right (by exact_mod_cast least) power.le
  · rw [zpow_add₀ (by norm_num), zpow_natCast, decimalValue]
    exact mul_lt_mul_of_pos_right (by exact_mod_cast most) power

section

variable {x : Binary64}

theorem scale_le (isFinite : x.isFinite = true) : x.scale ≤ 971 := by
  have finite : x.magnitudeBits < infinityBits := of_decide_eq_true isFinite
  unfold infinityBits fractionBound at finite
  unfold scale fractionBound
  omega

theorem value_lt (isFinite : x.isFinite = true) : x.value < 10 ^ (400 : Int) := by
  have power : (2 : ℚ) ^ x.scale ≤ 2 ^ 971 :=
    zpow_le_zpow_right₀ (by norm_num) (scale_le isFinite)
  have large : 2 ^ 53 * 2 ^ 971 < 10 ^ 400 := by decide +kernel
  calc x.value < 2 ^ 53 * 2 ^ x.scale := x.value_fits.below
    _ ≤ 2 ^ 53 * 2 ^ 971 := mul_le_mul_of_nonneg_left power (by positivity)
    _ < 10 ^ (400 : Int) := by exact_mod_cast large

theorem le_value (nonzero : 0 < x.significand) : (2 : ℚ) ^ (-1074 : Int) ≤ x.value := by
  have one : (1 : ℚ) ≤ x.significand := by exact_mod_cast nonzero
  have least := zpow_le_zpow_right₀ (show (1 : ℚ) ≤ 2 by norm_num) x.value_fits.least
  calc (2 : ℚ) ^ (-1074 : Int) ≤ 2 ^ x.scale := least
    _ = 1 * 2 ^ x.scale := (one_mul _).symm
    _ ≤ x.value := mul_le_mul_of_nonneg_right one (by positivity)

/-- A decimal a little below a positive finite double reads as that double. -/
theorem decimalBits_of_near (isFinite : x.isFinite = true) {digits : Nat} {exponent : Int}
    (positive : 0 < digits) (notAbove : decimalValue digits exponent ≤ x.value)
    (near : x.value * (1 - 1 / 2 ^ 54) < decimalValue digits exponent) :
    decimalBits digits exponent = x.magnitudeBits := by
  obtain ⟨least, most⟩ := decimalValue_bounds positive exponent
  have valuePositive : 0 < x.value := lt_of_lt_of_le (by unfold decimalValue; positivity) notAbove
  have nonzero : 0 < x.significand := by
    rcases Nat.eq_zero_or_pos x.significand with isZero | nonzero
    · simp [value, isZero] at valuePositive
    · exact nonzero
  have notLarge : ¬decimalReach < (Nat.toDigits 10 digits).length + exponent := by
    unfold decimalReach
    intro large
    have power : (10 : ℚ) ^ (400 : Int) ≤ 10 ^ ((Nat.toDigits 10 digits).length + exponent - 1) :=
      zpow_le_zpow_right₀ (by norm_num) (by omega)
    exact absurd (value_lt isFinite) (not_lt.mpr (power.trans (least.trans notAbove)))
  have notSmall : ¬(Nat.toDigits 10 digits).length + exponent < -decimalReach := by
    unfold decimalReach
    intro small
    have power : (10 : ℚ) ^ ((Nat.toDigits 10 digits).length + exponent) ≤ 10 ^ (-400 : Int) :=
      zpow_le_zpow_right₀ (by norm_num) (by omega)
    have half : (2 : ℚ) ^ (-1074 : Int) = 2 * 2 ^ (-1075 : Int) := by
      rw [← zpow_one_add₀ (by norm_num)]
      rfl
    have tiny : (10 : ℚ) ^ (-400 : Int) < 2 ^ (-1075 : Int) := by
      have large : 2 ^ 1075 < 10 ^ 400 := by decide +kernel
      rw [zpow_neg, zpow_neg, inv_lt_inv₀ (by positivity) (by positivity)]
      exact_mod_cast large
    have enough := le_value nonzero
    rw [half] at enough
    generalize (2 : ℚ) ^ (-1075 : Int) = bound at *
    linarith
  unfold decimalBits
  rw [if_neg positive.ne', if_neg notLarge, if_neg notSmall]
  refine nearestBits_of_near isFinite (Nat.pow_pos (by decide)) ?_ ?_
  · simpa only [Nat.pow_eq, ratio_eq_decimalValue] using notAbove
  · simpa only [Nat.pow_eq, ratio_eq_decimalValue] using near

/-- The search starts at a power of ten that is not above the ratio. -/
theorem ten_zpow_decimalMagnitude_le {numerator denominator : Nat} (positive : 0 < numerator)
    (alsoPositive : 0 < denominator) :
    (10 : ℚ) ^ decimalMagnitude numerator denominator ≤ numerator / denominator := by
  have isPositive : (0 : ℚ) < denominator := by exact_mod_cast alsoPositive
  unfold decimalMagnitude
  dsimp only
  split
  case isTrue whole =>
    have bounds := (decimalValue_bounds whole 0).1
    rw [decimalValue, zpow_zero, mul_one, add_zero] at bounds
    exact bounds.trans Nat.cast_div_le
  case isFalse =>
    have most : denominator / numerator < 10 ^ (Nat.toDigits 10 (denominator / numerator)).length :=
      (Nat.length_toDigits_le_iff (by decide) Nat.length_toDigits_pos).mp le_rfl
    generalize (Nat.toDigits 10 (denominator / numerator)).length = inverse at *
    rw [Nat.div_lt_iff_lt_mul positive] at most
    rw [le_div_iff₀ isPositive]
    have power : (0 : ℚ) < 10 ^ inverse := by positivity
    have bound (count : Nat) (enough : denominator * 10 ^ count ≤ 10 ^ inverse * numerator) :
        (10 : ℚ) ^ ((count : Int) - inverse) * denominator ≤ numerator := by
      have enough : (denominator * 10 ^ count : ℚ) ≤ 10 ^ inverse * numerator := by
        exact_mod_cast enough
      rw [zpow_sub₀ (by norm_num), zpow_natCast, zpow_natCast, div_mul_eq_mul_div,
        div_le_iff₀ power]
      linarith
    split
    case isTrue small =>
      have enough := (Nat.le_div_iff_mul_le (by decide)).mp small
      exact bound 1 (by simpa [Nat.mul_comm] using enough)
    case isFalse =>
      rw [← Int.zero_sub]
      exact bound 0 (by omega)

def firstReadable (x : Binary64) (near far : Decimal) : Option Decimal :=
  if near.digits ≠ 0 ∧ readsBack x near then some near
  else if far.digits ≠ 0 ∧ readsBack x far then some far
  else none

def gridBelow (x : Binary64) (exponent : Int) : Decimal :=
  ⟨x.ratio.1 * 10 ^ (-exponent).toNat / (x.ratio.2 * 10 ^ exponent.toNat), exponent⟩

theorem onGrid_eq (exponent : Int) : ∃ above,
    onGrid x exponent = firstReadable x (gridBelow x exponent) above ∨
      onGrid x exponent = firstReadable x above (gridBelow x exponent) := by
  refine ⟨⟨(gridBelow x exponent).digits + 1, exponent⟩, ?_⟩
  unfold onGrid
  dsimp only
  split
  · exact .inl rfl
  · exact .inr rfl

theorem firstReadable_eq_some {near far decimal : Decimal}
    (found : firstReadable x near far = some decimal) :
    decimal.digits ≠ 0 ∧ readsBack x decimal = true := by
  unfold firstReadable at found
  split at found
  · obtain rfl := Option.some.inj found
    assumption
  · split at found
    · obtain rfl := Option.some.inj found
      assumption
    · cases found

theorem firstReadable_isSome {near far decimal : Decimal} (isOne : decimal = near ∨ decimal = far)
    (readable : decimal.digits ≠ 0 ∧ readsBack x decimal = true) :
    (firstReadable x near far).isSome = true := by
  unfold firstReadable
  split
  · rfl
  · rename_i notNear
    rcases isOne with rfl | rfl
    · exact absurd readable notNear
    · rw [if_pos readable]
      rfl

theorem onGrid_eq_some {exponent : Int} {decimal : Decimal}
    (found : onGrid x exponent = some decimal) :
    decimal.digits ≠ 0 ∧ readsBack x decimal = true := by
  obtain ⟨above, belowFirst | aboveFirst⟩ := onGrid_eq (x := x) exponent
  · exact firstReadable_eq_some (belowFirst ▸ found)
  · exact firstReadable_eq_some (aboveFirst ▸ found)

theorem onGrid_isSome {exponent : Int} (readable : (gridBelow x exponent).digits ≠ 0 ∧
    readsBack x (gridBelow x exponent) = true) : (onGrid x exponent).isSome = true := by
  obtain ⟨above, belowFirst | aboveFirst⟩ := onGrid_eq (x := x) exponent
  · rw [belowFirst]
    exact firstReadable_isSome (.inl rfl) readable
  · rw [aboveFirst]
    exact firstReadable_isSome (.inr rfl) readable

theorem searchGrids_eq_some {fuel : Nat} {exponent : Int} {decimal : Decimal}
    (found : searchGrids x fuel exponent = some decimal) :
    ∃ candidate : Decimal, candidate.trim 20 = decimal ∧ candidate.digits ≠ 0 ∧
      readsBack x candidate = true := by
  induction fuel generalizing exponent with
  | zero => cases found
  | succ fuel inductionHypothesis =>
      rw [searchGrids] at found
      split at found
      · rename_i candidate onGrid
        exact ⟨candidate, Option.some.inj found, onGrid_eq_some onGrid⟩
      · exact inductionHypothesis found

theorem searchGrids_isSome {fuel count : Nat} {exponent : Int} (reached : count < fuel)
    (onGrid : (onGrid x (exponent - count)).isSome = true) :
    (searchGrids x fuel exponent).isSome = true := by
  induction fuel generalizing exponent count with
  | zero => omega
  | succ fuel inductionHypothesis =>
      rw [searchGrids]
      split
      · rfl
      · rename_i notHere
        cases count with
        | zero =>
            rw [Int.natCast_zero, Int.sub_zero, notHere] at onGrid
            cases onGrid
        | succ count =>
            have next : exponent - (count + 1 : ℕ) = exponent - 1 - count := by omega
            rw [next] at onGrid
            exact inductionHypothesis (by omega) onGrid

/-- On a grid of seventeen digits and more the neighbour below reads back. -/
theorem gridBelow_reads (isFinite : x.isFinite = true) (notNegative : x.isNegative = false)
    {exponent : Int} (fine : (10 : ℚ) ^ exponent * 10 ^ 17 ≤ x.value) :
    (gridBelow x exponent).digits ≠ 0 ∧ readsBack x (gridBelow x exponent) = true := by
  have power : (0 : ℚ) < 10 ^ exponent := by positivity
  have ratio : ((x.ratio.1 * 10 ^ (-exponent).toNat : ℕ) : ℚ) / (x.ratio.2 * 10 ^ exponent.toNat : ℕ)
      = x.value / 10 ^ exponent := by
    rw [← ratio_eq_value]
    exact scaled_div 10 (by decide) _ _ _
  have floor : ⌊x.value / 10 ^ exponent⌋₊ = (gridBelow x exponent).digits := by
    rw [← ratio]
    exact Nat.floor_div_eq_div _ _
  have below : ((gridBelow x exponent).digits : ℚ) ≤ x.value / 10 ^ exponent := by
    rw [← floor]
    have : 0 ≤ x.value := by unfold value; positivity
    exact Nat.floor_le (by positivity)
  have above : x.value / 10 ^ exponent < (gridBelow x exponent).digits + 1 := by
    rw [← floor]
    exact Nat.lt_floor_add_one _
  rw [le_div_iff₀ power] at below
  rw [div_lt_iff₀ power] at above
  have nonzero : 0 < (gridBelow x exponent).digits := by
    rcases Nat.eq_zero_or_pos (gridBelow x exponent).digits with isZero | positive
    · rw [isZero] at above
      norm_num at above
      linarith
    · exact positive
  have bits : decimalBits (gridBelow x exponent).digits exponent = x.magnitudeBits := by
    refine decimalBits_of_near isFinite nonzero below ?_
    unfold decimalValue
    linarith
  refine ⟨nonzero.ne', ?_⟩
  have same : (gridBelow x exponent).exponent = exponent := rfl
  rw [readsBack, ofDecimal_eq, same, bits, beq_iff_eq]
  have whole := x.ofMagnitude_magnitudeBits
  rwa [notNegative] at whole

/-- The shortest digits of a positive finite double read as its magnitude. -/
theorem decimalBits_shortest (isFinite : x.isFinite = true) (notNegative : x.isNegative = false)
    (nonzero : 0 < x.magnitudeBits) :
    decimalBits x.shortest.digits x.shortest.exponent = x.magnitudeBits := by
  have significant : 0 < x.significand := by
    unfold significand fractionBound
    dsimp only
    split <;> omega
  have numerator : 0 < x.ratio.1 := Nat.mul_pos significant (Nat.pow_pos (by decide))
  have start := ten_zpow_decimalMagnitude_le numerator x.ratio_snd_pos
  rw [ratio_eq_value] at start
  have found : (searchGrids x gridCount (decimalMagnitude x.ratio.1 x.ratio.2)).isSome = true := by
    refine searchGrids_isSome (show 17 < gridCount by decide)
      (onGrid_isSome (gridBelow_reads isFinite notNegative ?_))
    calc (10 : ℚ) ^ (decimalMagnitude x.ratio.1 x.ratio.2 - (17 : ℕ)) * 10 ^ 17
        = 10 ^ decimalMagnitude x.ratio.1 x.ratio.2 := by
          rw [← zpow_natCast, ← zpow_add₀ (by norm_num), sub_add_cancel]
      _ ≤ x.value := start
  obtain ⟨decimal, isFound⟩ := Option.isSome_iff_exists.mp found
  obtain ⟨candidate, isTrimmed, -, reads⟩ := searchGrids_eq_some isFound
  have isShortest : x.shortest = decimal := by
    rw [shortest, isFound]
    rfl
  have bounded : decimalBits candidate.digits candidate.exponent < signBound :=
    (decimalBits_le _ _).trans_lt (by decide)
  rw [readsBack, ofDecimal_eq, beq_iff_eq] at reads
  rw [isShortest, ← isTrimmed, decimalBits_trim, ← (fields_ofMagnitude false bounded).2, reads]

end

end Binary64

end NodeForms
