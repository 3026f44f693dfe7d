import NodeForms.Document.Json.Reader
import NodeForms.Document.Json.Writer
import NodeForms.Proofs.Decimal.Notation

/-!
# Reading scalars that were written

A numeral is read as a whole, digits, fraction and exponent, if what follows it cannot belong to
a number. So the words and the numerals that scalars are written as are read as these scalars. A
text is read up to the quote that closes it, one escape or plain character at a time.
-/

namespace NodeForms

namespace Json

/-- Characters none of which could go on with a number that ends before them. -/
def EndsNumber (rest : List Char) : Prop :=
  ∀ c ∈ rest.head?, c.isDigit = false ∧ c ≠ '.' ∧ c ≠ 'e' ∧ c ≠ 'E'

theorem spanDigits_append {digits rest : List Char} (all : ∀ c ∈ digits, c.isDigit = true)
    (ends : ∀ c ∈ rest.head?, c.isDigit = false) :
    spanDigits (digits ++ rest) = (digits, rest) := by
  induction digits with
  | nil =>
      cases rest with
      | nil => rfl
      | cons c rest =>
          have noDigit : c.isDigit = false := ends c rfl
          simp [spanDigits, noDigit]
  | cons digit digits inductionHypothesis =>
      rw [List.forall_mem_cons] at all
      have later := inductionHypothesis all.2
      simp only [spanDigits, Prod.mk.injEq] at later ⊢
      rw [List.cons_append, List.takeWhile_cons_of_pos all.1, List.dropWhile_cons_of_pos all.1,
        later.1, later.2]
      exact ⟨rfl, rfl⟩

theorem readWhole_append {whole rest : List Char} (isWhole : IsWhole whole)
    (ends : ∀ c ∈ rest.head?, c.isDigit = false) :
    readWhole (whole ++ rest) = some (whole, rest) := by
  rcases isWhole.leading with rfl | leading
  · rfl
  · have span := spanDigits_append isWhole.all ends
    cases whole with
    | nil => exact absurd rfl isWhole.nonempty
    | cons digit digits =>
        unfold readWhole
        split
        · rename_i isZero
          rw [List.cons_append] at isZero
          cases isZero
          exact absurd rfl leading
        · rw [span]
          rfl

theorem readFraction_append {fraction : Option (List Char)} {rest : List Char}
    (regular : ∀ digits ∈ fraction, digits ≠ [] ∧ ∀ c ∈ digits, c.isDigit = true)
    (ends : ∀ c ∈ rest.head?, c.isDigit = false ∧ c ≠ '.') :
    readFraction (Numeral.fractionChars fraction ++ rest) = (fraction, rest) := by
  cases fraction with
  | none =>
      rw [Numeral.fractionChars, List.nil_append]
      unfold readFraction
      split
      · exact absurd rfl (ends _ rfl).2
      · rfl
  | some digits =>
      obtain ⟨some, all⟩ := regular digits rfl
      rw [Numeral.fractionChars, List.cons_append, readFraction,
        spanDigits_append all fun c isFirst => (ends c isFirst).1]
      simp [some]

theorem readExponent_append {exponent : Option (Bool × List Char)} {rest : List Char}
    (regular : ∀ part ∈ exponent, part.2 ≠ [] ∧ ∀ c ∈ part.2, c.isDigit = true)
    (ends : EndsNumber rest) :
    readExponent (Numeral.exponentChars exponent ++ rest) =
      (exponent.map fun part => Numeral.exponentValue (some part), rest) := by
  cases exponent with
  | none =>
      rw [Numeral.exponentChars, List.nil_append]
      cases rest with
      | nil => rfl
      | cons c rest =>
          obtain ⟨-, -, noSmall, noLarge⟩ := ends c rfl
          simp [readExponent, noSmall, noLarge]
  | some part =>
      obtain ⟨negative, digits⟩ := part
      obtain ⟨some, all⟩ := regular _ rfl
      have span := spanDigits_append all fun c isFirst => (ends c isFirst).1
      cases negative with
      | true => simp [Numeral.exponentChars, readExponent, span, some, Numeral.exponentValue]
      | false => simp [Numeral.exponentChars, readExponent, span, some, Numeral.exponentValue]

section

variable {numeral : Numeral} {rest : List Char}

theorem ends_fraction (ends : EndsNumber rest) :
    ∀ c ∈ (Numeral.fractionChars numeral.fraction
      ++ (Numeral.exponentChars numeral.exponent ++ rest)).head?, c.isDigit = false := by
  cases numeral.fraction with
  | some digits => simp [Numeral.fractionChars]
  | none =>
      cases numeral.exponent with
      | some part => simp [Numeral.fractionChars, Numeral.exponentChars]
      | none => exact fun c isFirst => (ends c isFirst).1

theorem ends_exponent (ends : EndsNumber rest) :
    ∀ c ∈ (Numeral.exponentChars numeral.exponent ++ rest).head?,
      c.isDigit = false ∧ c ≠ '.' := by
  cases numeral.exponent with
  | some part => simp [Numeral.exponentChars]
  | none => exact fun c isFirst => ⟨(ends c isFirst).1, (ends c isFirst).2.1⟩

/-- The number that a numeral is read as: an integer if it has digits alone. -/
theorem readMagnitude_chars (negative : Bool) (regular : numeral.IsRegular)
    (ends : EndsNumber rest) : readMagnitude negative (numeral.chars ++ rest) =
      some (if numeral.fraction.isNone && numeral.exponent.isNone then
          .int (if negative then -(naturalOfDigits numeral.whole : Int)
            else naturalOfDigits numeral.whole)
        else .float (.ofMagnitude negative numeral.bits), rest) := by
  have exponent : (numeral.exponent.map fun part => Numeral.exponentValue (some part)).getD 0 =
      Numeral.exponentValue numeral.exponent := by
    cases numeral.exponent <;> rfl
  have double : Binary64.ofNotation negative numeral.whole (numeral.fraction.getD [])
      (Numeral.exponentValue numeral.exponent) = .ofMagnitude negative numeral.bits :=
    Binary64.ofDecimal_eq _ _ _
  rw [Numeral.chars, List.append_assoc, List.append_assoc, readMagnitude,
    readWhole_append regular.whole (ends_fraction ends)]
  simp only [Option.bind_eq_bind, Option.bind_some,
    readFraction_append regular.fraction (ends_exponent ends),
    readExponent_append regular.exponent ends, exponent, double, Option.isNone_map]
  split <;> rfl

end

theorem afterWord?_eq_none {word : String} {first c : Char} {letters rest : List Char}
    (spelled : word.toList = first :: letters) (differs : first ≠ c) :
    afterWord? word (c :: rest) = none := by
  rw [afterWord?, spelled, List.isPrefixOf]
  simp [differs]

theorem readScalar_of_noWord {c : Char} {rest : List Char}
    (noWord : c ∉ ['n', 't', 'f', 'N', 'I']) : readScalar (c :: rest) = readNumber (c :: rest) := by
  have absent (word : String) {first : Char} {letters : List Char}
      (spelled : word.toList = first :: letters) (isFirst : first ∈ ['n', 't', 'f', 'N', 'I']) :
      afterWord? word (c :: rest) = none :=
    afterWord?_eq_none spelled fun same => noWord (same ▸ isFirst)
  have noNull := absent "null" (by rfl) (by decide)
  have noTrue := absent "true" (by rfl) (by decide)
  have noFalse := absent "false" (by rfl) (by decide)
  have noNaN := absent "NaN" (by rfl) (by decide)
  have noInfinity := absent "Infinity" (by rfl) (by decide)
  rw [readScalar, words]
  simp only [List.findSome?, noNull, noTrue, noFalse, noNaN, noInfinity, Option.map_none]

theorem not_mem_of_passes {test : Char → Bool} {c : Char} (passes : test c = true)
    {others : List Char} (noOther : others.all fun other => !test other) : c ∉ others := by
  intro isMember
  have fails := List.all_eq_true.mp noOther c isMember
  simp [passes] at fails

theorem readScalar_of_digit {c : Char} {rest : List Char} (isDigit : c.isDigit = true) :
    readScalar (c :: rest) = readMagnitude false (c :: rest) := by
  rw [readScalar_of_noWord (not_mem_of_passes isDigit rfl)]
  unfold readNumber
  split
  · rename_i isMinus
    cases isMinus
    cases isDigit
  · rfl

theorem readScalar_of_minus {c : Char} {rest : List Char} (isDigit : c.isDigit = true) :
    readScalar ('-' :: c :: rest) = readMagnitude true (c :: rest) := by
  have noWord : afterWord? "Infinity" (c :: rest) = none :=
    afterWord?_eq_none rfl fun same => by
      rw [← same] at isDigit
      cases isDigit
  rw [readScalar_of_noWord (by decide), readNumber, noWord]

def signed (negative : Bool) (chars : List Char) : List Char :=
  if negative then '-' :: chars else chars

theorem exists_first_digit {numeral : Numeral} (regular : numeral.IsRegular) :
    ∃ c others, numeral.chars = c :: others ∧ c.isDigit = true := by
  cases whole : numeral.whole with
  | nil => exact absurd whole regular.whole.nonempty
  | cons c digits =>
      refine ⟨c, _, by rw [Numeral.chars, whole]; rfl, regular.whole.all c ?_⟩
      rw [whole]
      exact List.mem_cons_self

/-- The characters that a scalar other than a text starts with. -/
def startsScalar (c : Char) : Bool := c.isDigit || c ∈ ['-', 'n', 't', 'f', 'N', 'I']

/-- Characters that a scalar is read from, whatever follows them. -/
structure Spells (chars : List Char) (value : Scalar) : Prop where
  starts : ∃ c others, chars = c :: others ∧ startsScalar c = true
  reads : ∀ rest, EndsNumber rest → readScalar (chars ++ rest) = some (value, rest)

theorem spells_numeral {numeral : Numeral} (negative : Bool) (regular : numeral.IsRegular)
    {value : Scalar} (reads : ∀ rest, EndsNumber rest →
      readMagnitude negative (numeral.chars ++ rest) = some (value, rest)) :
    Spells (signed negative numeral.chars) value := by
  obtain ⟨c, others, isFirst, isDigit⟩ := exists_first_digit regular
  cases negative with
  | true =>
      refine ⟨⟨'-', numeral.chars, rfl, rfl⟩, fun rest ends => ?_⟩
      rw [← reads rest ends, isFirst]
      exact readScalar_of_minus isDigit
  | false =>
      refine ⟨⟨c, others, isFirst, by rw [startsScalar, isDigit, Bool.true_or]⟩,
        fun rest ends => ?_⟩
      rw [← reads rest ends, isFirst]
      exact readScalar_of_digit isDigit

theorem integerChars_eq (value : Int) :
    integerChars value = signed (decide (value < 0)) (Nat.toDigits 10 value.natAbs) := by
  cases value with
  | ofNat number =>
      have notNegative : ¬Int.ofNat number < 0 := Int.not_lt.mpr (Int.natCast_nonneg number)
      rw [signed, decide_eq_false notNegative]
      rfl
  | negSucc number =>
      rw [signed, decide_eq_true (Int.negSucc_lt_zero number)]
      rfl

theorem spells_int (value : Int) : Spells (integerChars value) (.int value) := by
  let numeral : Numeral := ⟨Nat.toDigits 10 value.natAbs, none, none⟩
  have regular : numeral.IsRegular := ⟨isWhole_toDigits _, nofun, nofun⟩
  have chars : numeral.chars = Nat.toDigits 10 value.natAbs := List.append_nil _
  have whole : naturalOfDigits numeral.whole = value.natAbs := naturalOfDigits_toDigits _
  rw [integerChars_eq, ← chars]
  refine spells_numeral _ regular fun rest ends => ?_
  rw [readMagnitude_chars _ regular ends, if_pos (by rfl), whole]
  by_cases negative : value < 0
  · rw [if_pos (decide_eq_true negative), Int.ofNat_natAbs_of_nonpos negative.le, neg_neg]
  · rw [if_neg (by simpa using negative), Int.natAbs_of_nonneg (Int.not_lt.mp negative)]

theorem spells_finite {x : Binary64} (isFinite : x.isFinite = true) :
    Spells (signed x.isNegative (FloatNotation.json.magnitudeChars x)) (.float x) := by
  obtain ⟨numeral, chars, regular, isDouble, bits⟩ :=
    FloatNotation.exists_magnitudeChars .json x isFinite
  have noInteger : ¬(numeral.fraction.isNone && numeral.exponent.isNone) = true := by
    rw [Bool.and_eq_true, Option.isNone_iff_eq_none, Option.isNone_iff_eq_none]
    rintro ⟨noFraction, noExponent⟩
    exact isDouble.elim (· noFraction) (· noExponent)
  rw [chars]
  refine spells_numeral _ regular fun rest ends => ?_
  rw [readMagnitude_chars _ regular ends, if_neg noInteger, bits,
    Binary64.ofMagnitude_magnitudeBits]

theorem spells_of_forall {word : List Char} {value : Scalar}
    (starts : ∃ c others, word = c :: others ∧ startsScalar c = true)
    (reads : ∀ rest, readScalar (word ++ rest) = some (value, rest)) : Spells word value :=
  ⟨starts, fun rest _ => reads rest⟩

theorem spells_infinity (negative : Bool) :
    Spells (FloatNotation.json.text (Binary64.infinity negative)).toList
      (.float (Binary64.infinity negative)) := by
  cases negative with
  | true => exact spells_of_forall ⟨_, _, rfl, rfl⟩ fun rest => rfl
  | false => exact spells_of_forall ⟨_, _, rfl, rfl⟩ fun rest => rfl

theorem infinity_isNegative {x : Binary64} (isInfinite : x.isInfinite = true) :
    Binary64.infinity x.isNegative = x := by
  rw [Binary64.infinity, ← eq_of_beq isInfinite, Binary64.ofMagnitude_magnitudeBits]

/-- Whether the pattern of a double can be told from its JSON text: all patterns that stand for
no number have the same text. -/
theorem spells_float {x : Binary64} (isJson : x.isNaN = true → x = .nan) :
    Spells (FloatNotation.json.text x).toList (.float x) := by
  by_cases isNaN : x.isNaN = true
  · rw [isJson isNaN]
    exact spells_of_forall ⟨_, _, rfl, rfl⟩ fun rest => rfl
  · by_cases isInfinite : x.isInfinite = true
    · rw [← infinity_isNegative isInfinite]
      exact spells_infinity _
    · have isFinite : x.isFinite = true := by
        have notAbove : ¬Binary64.infinityBits < x.magnitudeBits := by
          simpa [Binary64.isNaN] using isNaN
        have differs : x.magnitudeBits ≠ Binary64.infinityBits := by
          simpa [Binary64.isInfinite] using isInfinite
        exact decide_eq_true (lt_of_le_of_ne (not_lt.mp notAbove) differs)
      rw [FloatNotation.text, if_neg isNaN, if_neg isInfinite, String.toList_ofList]
      exact spells_finite isFinite

end Json

/-- The scalars that JSON texts stand for. All doubles that stand for no number have one text. -/
def Scalar.IsJson : Scalar → Prop
  | .null | .bool _ | .int _ | .text _ => True
  | .float value => value.isNaN = true → value = .nan
  | .date .. | .bytes _ => False

namespace Json

theorem spells_scalarChars {value : Scalar} (isJson : value.IsJson)
    (noText : ∀ text, value ≠ .text text) : Spells (scalarChars value) value := by
  cases value with
  | null => exact spells_of_forall ⟨_, _, rfl, rfl⟩ fun rest => rfl
  | bool value =>
      cases value with
      | true => exact spells_of_forall ⟨_, _, rfl, rfl⟩ fun rest => rfl
      | false => exact spells_of_forall ⟨_, _, rfl, rfl⟩ fun rest => rfl
  | int value =>
      rw [scalarChars, scalarWord, integerText, String.toList_ofList]
      · exact spells_int value
      · exact noText
  | float value => exact spells_float isJson
  | text value => exact absurd rfl (noText value)
  | date | bytes => exact isJson.elim

theorem hexValue?_hexDigit (value : Nat) : hexValue? (hexDigit value) = some (value % 16) := by
  have digit : ∀ value < 16, hexValue? (Nat.digitChar value) = some value := by decide
  exact digit _ (Nat.mod_lt _ (by decide))

theorem hexUnit?_hexChars {code : Nat} (bounded : code < 16 ^ 4) (rest : List Char) :
    hexUnit? (hexChars 4 code ++ rest) = some (code, rest) := by
  simp only [hexChars, List.cons_append, List.nil_append, hexUnit?, hexValue?_hexDigit,
    Option.bind_eq_bind, Option.bind_some, Nat.pow_eq]
  congr 2
  omega

theorem readText_escapeChar (fuel : Nat) (c : Char) (rest : List Char) :
    readText (fuel + 1) (escapeChar c ++ rest) =
      (readText fuel rest).map fun (content, final) => (c :: content, final) := by
  have letter {escape : Char} (noUnit : escape ≠ 'u') (escapes : escapeLetter? escape = some c) :
      readText (fuel + 1) ('\\' :: escape :: rest) =
        (readText fuel rest).map fun (content, final) => (c :: content, final) := by
    rw [readText]
    · rw [escapes]
      cases readText fuel rest <;> rfl
    · exact fun isUnit => noUnit isUnit
  unfold escapeChar
  split_ifs with isQuote isBackslash isNewline isReturn isTab isBack isFeed isControl
  · exact letter (by decide) (by rw [isQuote]; rfl)
  · exact letter (by decide) (by rw [isBackslash]; rfl)
  · exact letter (by decide) (by rw [isNewline]; rfl)
  · exact letter (by decide) (by rw [isReturn]; rfl)
  · exact letter (by decide) (by rw [isTab]; rfl)
  · exact letter (by decide) (by rw [isBack]; rfl)
  · exact letter (by decide) (by rw [isFeed]; rfl)
  · have unit : hexUnit? (hexChars 4 c.toNat ++ rest) = some (c.toNat, rest) :=
      hexUnit?_hexChars (by omega) rest
    have noHigh : isHighUnit c.toNat = false := by
      simp only [isHighUnit, Bool.and_eq_false_iff, decide_eq_false_iff_not]
      omega
    have noLow : isLowUnit c.toNat = false := by
      simp only [isLowUnit, Bool.and_eq_false_iff, decide_eq_false_iff_not]
      omega
    have escape : unicodeEscape? (hexChars 4 c.toNat ++ rest) = some (c, rest) := by
      simp [unicodeEscape?, unit, noHigh, noLow]
    simp only [List.cons_append, readText, escape, Option.bind_eq_bind, Option.bind_some]
    cases readText fuel rest <;> rfl
  · rw [List.singleton_append, readText]
    · rw [if_neg (by simp [isControl, isBackslash])]
      cases readText fuel rest <;> rfl
    · exact isQuote
    · exact fun _ same _ => isBackslash same
    · exact fun _ _ same _ => isBackslash same

theorem readText_flatMap (fuel : Nat) (chars rest : List Char) (enough : chars.length < fuel) :
    readText fuel (chars.flatMap escapeChar ++ '"' :: rest) = some (chars, rest) := by
  induction chars generalizing fuel with
  | nil =>
      cases fuel with
      | zero => exact absurd enough (Nat.not_lt_zero _)
      | succ fuel => rfl
  | cons c chars inductionHypothesis =>
      cases fuel with
      | zero => exact absurd enough (Nat.not_lt_zero _)
      | succ fuel =>
          rw [List.flatMap_cons, List.append_assoc, readText_escapeChar,
            inductionHypothesis fuel (Nat.lt_of_succ_lt_succ enough)]
          rfl

theorem length_le_flatMap_escapeChar (chars : List Char) :
    chars.length ≤ (chars.flatMap escapeChar).length := by
  induction chars with
  | nil => exact le_rfl
  | cons c chars inductionHypothesis =>
      have some : 1 ≤ (escapeChar c).length := by
        unfold escapeChar
        split_ifs <;> simp
      rw [List.flatMap_cons, List.length_append, List.length_cons]
      omega

theorem textChars_append (text : String) (rest : List Char) :
    textChars text ++ rest = '"' :: (text.toList.flatMap escapeChar ++ '"' :: rest) := by
  simp [textChars]

theorem readText_text (text : String) (rest : List Char) :
    readText ((text.toList.flatMap escapeChar ++ '"' :: rest).length + 1)
      (text.toList.flatMap escapeChar ++ '"' :: rest) = some (text.toList, rest) := by
  refine readText_flatMap _ _ _ ?_
  have bound := length_le_flatMap_escapeChar text.toList
  rw [List.length_append]
  omega

end Json

end NodeForms
