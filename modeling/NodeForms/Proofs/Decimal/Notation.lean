import NodeForms.Decimal.Notation
import NodeForms.Proofs.Decimal.Shortest

/-!
# Numerals

A number is written as a numeral: digits, perhaps with more of them after a point, perhaps with
an exponent. The numeral that a finite double is written as stands for that double again, in each
of the two notations and with zeros at either end.
-/

namespace NodeForms

/-- Digits of a natural number as they are written: there are some, and no zero comes first
unless it is the only one. -/
structure IsWhole (digits : List Char) : Prop where
  all : ∀ c ∈ digits, c.isDigit = true
  nonempty : digits ≠ []
  leading : digits = ['0'] ∨ digits.head? ≠ some '0'

theorem isDigit_of_mem_toDigits {number : Nat} {c : Char} (isMember : c ∈ Nat.toDigits 10 number) :
    c.isDigit = true :=
  Nat.isDigit_of_mem_toDigits (by decide) (by decide) isMember

theorem head?_toDigits {number : Nat} (positive : 0 < number) :
    (Nat.toDigits 10 number).head? ≠ some '0' := by
  induction number using Nat.strongRecOn with
  | ind number inductionHypothesis =>
      by_cases single : number < 10
      · rw [Nat.toDigits_of_lt_base single]
        have digit : ∀ digit < 10, 0 < digit → Nat.digitChar digit ≠ '0' := by decide
        simpa using digit number single positive
      · rw [Nat.toDigits_of_base_le (by decide) (by omega), List.head?_append]
        have earlier := inductionHypothesis (number / 10) (by omega) (by omega)
        cases first : (Nat.toDigits 10 (number / 10)).head? with
        | none => exact absurd (List.head?_eq_none_iff.mp first) Nat.toDigits_ne_nil
        | some c => rwa [first] at earlier

theorem isWhole_toDigits (number : Nat) : IsWhole (Nat.toDigits 10 number) where
  all _ isMember := isDigit_of_mem_toDigits isMember
  nonempty := Nat.toDigits_ne_nil
  leading := by
    rcases Nat.eq_zero_or_pos number with rfl | positive
    · exact .inl (by decide)
    · exact .inr (head?_toDigits positive)

theorem naturalOfDigits_toDigits (number : Nat) :
    naturalOfDigits (Nat.toDigits 10 number) = number := Nat.ofDigitChars_ten_toDigits

theorem naturalOfDigits_zeros_append (count : Nat) (digits : List Char) :
    naturalOfDigits (List.replicate count '0' ++ digits) = naturalOfDigits digits := by
  rw [naturalOfDigits, Nat.ofDigitChars_append, Nat.ofDigitChars_replicate_zero, Nat.mul_zero]
  rfl

theorem naturalOfDigits_append_zeros (digits : List Char) (count : Nat) :
    naturalOfDigits (digits ++ List.replicate count '0') = naturalOfDigits digits * 10 ^ count := by
  rw [naturalOfDigits, Nat.ofDigitChars_append, Nat.ofDigitChars_replicate_zero, Nat.mul_comm]
  rfl

/-- A number without its sign: digits, those after a point, and an exponent with its sign. -/
structure Numeral where
  whole : List Char
  fraction : Option (List Char)
  exponent : Option (Bool × List Char)

namespace Numeral

def fractionChars : Option (List Char) → List Char
  | none => []
  | some digits => '.' :: digits

def exponentChars : Option (Bool × List Char) → List Char
  | none => []
  | some (negative, digits) => 'e' :: (if negative then '-' else '+') :: digits

def exponentValue : Option (Bool × List Char) → Int
  | none => 0
  | some (negative, digits) =>
      if negative then -(naturalOfDigits digits : Int) else naturalOfDigits digits

def chars (numeral : Numeral) : List Char :=
  numeral.whole ++ (fractionChars numeral.fraction ++ exponentChars numeral.exponent)

/-- A numeral with digits in each of its parts. -/
structure IsRegular (numeral : Numeral) : Prop where
  whole : IsWhole numeral.whole
  fraction : ∀ digits ∈ numeral.fraction, digits ≠ [] ∧ ∀ c ∈ digits, c.isDigit = true
  exponent : ∀ part ∈ numeral.exponent, part.2 ≠ [] ∧ ∀ c ∈ part.2, c.isDigit = true

/-- The magnitude that a numeral stands for as a double. -/
def bits (numeral : Numeral) : Nat :=
  Binary64.decimalBits (naturalOfDigits (numeral.whole ++ numeral.fraction.getD []))
    (exponentValue numeral.exponent - (numeral.fraction.getD []).length)

def IsDouble (numeral : Numeral) : Prop :=
  numeral.fraction ≠ none ∨ numeral.exponent ≠ none

end Numeral

namespace Decimal

variable {decimal : Decimal}

theorem digitChars_ne_nil : decimal.digitChars ≠ [] := Nat.toDigits_ne_nil

theorem naturalOfDigits_digitChars : naturalOfDigits decimal.digitChars = decimal.digits :=
  naturalOfDigits_toDigits _

end Decimal

namespace Binary64

theorem decimalBits_mul_ten_pow (digits : Nat) (exponent : Int) (count : Nat) :
    decimalBits (digits * 10 ^ count) exponent = decimalBits digits (exponent + count) := by
  induction count generalizing exponent with
  | zero => simp
  | succ count inductionHypothesis =>
      rw [pow_succ, ← Nat.mul_assoc, decimalBits_mul_ten, inductionHypothesis]
      congr 1
      omega

end Binary64

namespace FloatNotation

/-- The numeral of a decimal with its point in place. -/
def positionalNumeral (decimal : Decimal) : Numeral :=
  let digits := decimal.digitChars
  let whole := decimal.leadingExponent + 1
  if whole ≤ 0 then ⟨['0'], some (List.replicate (-whole).toNat '0' ++ digits), none⟩
  else if (digits.length : Int) ≤ whole then
    ⟨digits ++ List.replicate (whole.toNat - digits.length) '0', some ['0'], none⟩
  else ⟨digits.take whole.toNat, some (digits.drop whole.toNat), none⟩

theorem positional_eq (decimal : Decimal) :
    positional decimal = (positionalNumeral decimal).chars := by
  unfold positional positionalNumeral
  dsimp only
  repeat' split
  all_goals simp [Numeral.chars, Numeral.fractionChars, Numeral.exponentChars]

variable {decimal : Decimal}

theorem leading_digitChars (nonzero : decimal.digits ≠ 0) :
    decimal.digitChars.head? ≠ some '0' := head?_toDigits (Nat.pos_of_ne_zero nonzero)

theorem positionalNumeral_isRegular (nonzero : decimal.digits ≠ 0) :
    (positionalNumeral decimal).IsRegular := by
  have isDigit : ∀ c ∈ decimal.digitChars, c.isDigit = true := fun c => isDigit_of_mem_toDigits
  have zeros (count : Nat) : ∀ c ∈ List.replicate count '0', c.isDigit = true := by
    intro c isMember
    rw [List.eq_of_mem_replicate isMember]
    rfl
  have leading := leading_digitChars nonzero
  have some : decimal.digitChars ≠ [] := Decimal.digitChars_ne_nil
  unfold positionalNumeral
  dsimp only
  split
  case isTrue =>
    refine ⟨⟨by simp, by simp, .inl rfl⟩, ?_, nofun⟩
    simp only [Option.mem_some_iff, forall_eq']
    exact ⟨by simp [some], List.forall_mem_append.mpr ⟨zeros _, isDigit⟩⟩
  case isFalse positive =>
    split
    case isTrue =>
      refine ⟨⟨List.forall_mem_append.mpr ⟨isDigit, zeros _⟩, by simp [some], .inr ?_⟩, ?_, nofun⟩
      · rw [List.head?_append]
        cases first : decimal.digitChars.head? with
        | none => exact absurd (List.head?_eq_none_iff.mp first) some
        | some c => rwa [first] at leading
      · simp
    case isFalse more =>
      refine ⟨⟨fun c isMember => isDigit c (List.mem_of_mem_take isMember), ?_, .inr ?_⟩, ?_, nofun⟩
      · simp only [ne_eq, List.take_eq_nil_iff, some, or_false]
        omega
      · rwa [List.head?_take, if_neg (by omega)]
      · simp only [Option.mem_some_iff, forall_eq']
        refine ⟨?_, fun c isMember => isDigit c (List.mem_of_mem_drop isMember)⟩
        simp only [ne_eq, List.drop_eq_nil_iff]
        omega

theorem positionalNumeral_isDouble (decimal : Decimal) : (positionalNumeral decimal).IsDouble := by
  unfold positionalNumeral
  dsimp only
  repeat' split
  all_goals exact .inl nofun

theorem positionalNumeral_bits (decimal : Decimal) :
    (positionalNumeral decimal).bits = Binary64.decimalBits decimal.digits decimal.exponent := by
  have leading : decimal.leadingExponent = decimal.exponent + decimal.digitChars.length - 1 := rfl
  have digits : naturalOfDigits decimal.digitChars = decimal.digits :=
    Decimal.naturalOfDigits_digitChars
  unfold positionalNumeral
  dsimp only
  split
  case isTrue small =>
    -- The zeros before the digits count for nothing, and those after the point shift them.
    have zeros := naturalOfDigits_zeros_append ((-(decimal.leadingExponent + 1)).toNat + 1)
      decimal.digitChars
    rw [List.replicate_succ, List.cons_append] at zeros
    simp only [Numeral.bits, Option.getD_some, List.singleton_append, zeros, digits,
      Numeral.exponentValue, List.length_append, List.length_replicate]
    congr 1
    omega
  case isFalse positive =>
    split
    case isTrue whole =>
      -- The zeros after the digits are powers of ten that the place of the point takes back.
      have joined (count : Nat) : decimal.digitChars ++ List.replicate count '0' ++ ['0'] =
          decimal.digitChars ++ List.replicate (count + 1) '0' := by
        rw [List.append_assoc, List.replicate_succ']
      simp only [Numeral.bits, Option.getD_some, joined, naturalOfDigits_append_zeros, digits,
        Numeral.exponentValue, Binary64.decimalBits_mul_ten_pow, List.length_singleton]
      congr 1
      omega
    case isFalse more =>
      simp only [Numeral.bits, Option.getD_some, List.take_append_drop, digits,
        Numeral.exponentValue, List.length_drop]
      congr 1
      omega

/-- The numeral of a decimal with one digit before the point and an exponent. -/
def scientificNumeral (style : FloatNotation) (decimal : Decimal) : Numeral :=
  let exponent := decimal.leadingExponent
  let part := some (decide (exponent < 0),
    padded style.exponentWidth (Nat.toDigits 10 exponent.natAbs))
  match decimal.digitChars with
  | first :: second :: rest => ⟨[first], some (second :: rest), part⟩
  | digits => ⟨digits, none, part⟩

theorem scientific_eq (style : FloatNotation) (decimal : Decimal) :
    style.scientific decimal = (style.scientificNumeral decimal).chars := by
  unfold scientific scientificNumeral
  rcases digits : decimal.digitChars with _ | ⟨first, _ | ⟨second, rest⟩⟩
  all_goals simp [Numeral.chars, Numeral.fractionChars, Numeral.exponentChars]

theorem exponent_isRegular (width : Nat) (exponent : Nat) :
    padded width (Nat.toDigits 10 exponent) ≠ [] ∧
      ∀ c ∈ padded width (Nat.toDigits 10 exponent), c.isDigit = true := by
  refine ⟨by simp [padded, Nat.toDigits_ne_nil], fun c isMember => ?_⟩
  rcases List.mem_append.mp isMember with isZero | isDigit
  · rw [List.eq_of_mem_replicate isZero]
    rfl
  · exact isDigit_of_mem_toDigits isDigit

theorem scientificNumeral_isRegular (style : FloatNotation) (nonzero : decimal.digits ≠ 0) :
    (style.scientificNumeral decimal).IsRegular := by
  have whole : IsWhole decimal.digitChars := isWhole_toDigits decimal.digits
  have leading := leading_digitChars nonzero
  have exponent : ∀ part ∈ some (decide (decimal.leadingExponent < 0),
      padded style.exponentWidth (Nat.toDigits 10 decimal.leadingExponent.natAbs)),
      part.2 ≠ [] ∧ ∀ c ∈ part.2, c.isDigit = true := by
    simpa only [Option.mem_some_iff, forall_eq'] using exponent_isRegular _ _
  unfold scientificNumeral
  rcases digits : decimal.digitChars with _ | ⟨first, _ | ⟨second, rest⟩⟩
  · exact absurd digits Decimal.digitChars_ne_nil
  · rw [digits] at whole
    exact ⟨whole, nofun, exponent⟩
  · rw [digits] at whole leading
    have all := whole.all
    simp only [List.mem_cons, forall_eq_or_imp] at all
    refine ⟨⟨by simpa using all.1, by simp, .inr leading⟩, ?_, exponent⟩
    simp only [Option.mem_some_iff, forall_eq']
    exact ⟨by simp, by simpa using all.2⟩

theorem scientificNumeral_isDouble (style : FloatNotation) (decimal : Decimal) :
    (style.scientificNumeral decimal).IsDouble := by
  unfold scientificNumeral
  split
  · exact .inl nofun
  · exact .inr nofun

theorem scientificNumeral_bits (style : FloatNotation) (decimal : Decimal) :
    (style.scientificNumeral decimal).bits =
      Binary64.decimalBits decimal.digits decimal.exponent := by
  have leading : decimal.leadingExponent = decimal.exponent + decimal.digitChars.length - 1 := rfl
  have value : naturalOfDigits decimal.digitChars = decimal.digits :=
    Decimal.naturalOfDigits_digitChars
  have exponent : Numeral.exponentValue (some (decide (decimal.leadingExponent < 0),
      padded style.exponentWidth (Nat.toDigits 10 decimal.leadingExponent.natAbs))) =
      decimal.leadingExponent := by
    rw [Numeral.exponentValue, padded, naturalOfDigits_zeros_append, naturalOfDigits_toDigits]
    by_cases negative : decimal.leadingExponent < 0
    · rw [if_pos (decide_eq_true negative)]
      omega
    · rw [if_neg (by simpa using negative)]
      omega
  unfold scientificNumeral
  rcases digits : decimal.digitChars with _ | ⟨first, _ | ⟨second, rest⟩⟩
  · exact absurd digits Decimal.digitChars_ne_nil
  · rw [digits] at leading value
    simp only [Numeral.bits, exponent, Option.getD_none, List.append_nil, value, List.length_nil]
    congr 1
    simp only [List.length_singleton] at leading
    omega
  · rw [digits] at leading value
    simp only [Numeral.bits, exponent, Option.getD_some, List.singleton_append, value,
      List.length_cons]
    congr 1
    simp only [List.length_cons] at leading
    omega

/-- The digits of a finite double are a numeral, which stands for the magnitude of the double. -/
theorem exists_magnitudeChars (style : FloatNotation) (x : Binary64)
    (isFinite : x.isFinite = true) :
    ∃ numeral : Numeral, style.magnitudeChars x = numeral.chars ∧ numeral.IsRegular ∧
      numeral.IsDouble ∧ numeral.bits = x.magnitudeBits := by
  unfold magnitudeChars
  split
  case isTrue isZero =>
    refine ⟨⟨['0'], some ['0'], none⟩, rfl, ⟨⟨by simp, by simp, .inl rfl⟩, by simp, nofun⟩,
      .inl nofun, ?_⟩
    rw [eq_of_beq isZero]
    rfl
  case isFalse nonzero =>
    have finite : x.magnitudeBits < Binary64.infinityBits := of_decide_eq_true isFinite
    have bounded : x.magnitudeBits < Binary64.signBound := finite.trans (by decide)
    have positive : 0 < x.magnitudeBits :=
      Nat.pos_of_ne_zero (by simpa [Binary64.isZero] using nonzero)
    have magnitude : Binary64.mk (UInt64.ofNat x.magnitudeBits) =
        Binary64.ofMagnitude false x.magnitudeBits := rfl
    obtain ⟨notNegative, same⟩ := Binary64.fields_ofMagnitude false bounded
    rw [magnitude]
    generalize Binary64.ofMagnitude false x.magnitudeBits = absolute at notNegative same
    have reads := Binary64.decimalBits_shortest (x := absolute)
      (by rw [Binary64.isFinite, same]; exact isFinite) notNegative (same ▸ positive)
    rw [same] at reads
    have digits : absolute.shortest.digits ≠ 0 := by
      intro isZero
      rw [isZero] at reads
      exact positive.ne reads
    dsimp only
    split
    · exact ⟨positionalNumeral absolute.shortest, positional_eq _,
        positionalNumeral_isRegular digits, positionalNumeral_isDouble _,
        (positionalNumeral_bits _).trans reads⟩
    · exact ⟨style.scientificNumeral absolute.shortest, scientific_eq style _,
        scientificNumeral_isRegular style digits, scientificNumeral_isDouble style _,
        (scientificNumeral_bits style _).trans reads⟩

end FloatNotation

end NodeForms
