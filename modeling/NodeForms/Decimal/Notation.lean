import NodeForms.Decimal.Shortest

/-!
# Number notation

How numbers are written: integers in plain decimal, doubles with the shortest digits
that read back. A double is positional while its decimal exponent lies between -4 and
15; otherwise its exponent follows a letter, with a sign and at least two digits.
-/

namespace NodeForms

def integerChars (value : Int) : List Char :=
  match value with
  | .ofNat n => Nat.toDigits 10 n
  | .negSucc n => '-' :: Nat.toDigits 10 (n + 1)

def integerText (value : Int) : String := String.ofList (integerChars value)

def naturalText (value : Nat) : String := String.ofList (Nat.toDigits 10 value)

/-- Whether a number written with some characters has more digits than are converted between
numbers and texts, if there is a limit on them. -/
def exceedsDigits (limit : Option Nat) (chars : List Char) : Bool :=
  limit.any fun most => most < (chars.filter Char.isDigit).length

/-- Choices of a notation for doubles. -/
structure FloatNotation where
  leastPositional : Int
  greatestPositional : Int
  exponentWidth : Nat
  infinityWord : String
  negativeInfinityWord : String
  nanWord : String

namespace FloatNotation

def padded (width : Nat) (digits : List Char) : List Char :=
  List.replicate (width - digits.length) '0' ++ digits

/-- A decimal with its point in place; an integral one keeps one zero after the point. -/
def positional (decimal : Decimal) : List Char :=
  let digits := decimal.digitChars
  let whole := decimal.leadingExponent + 1
  if whole ≤ 0 then '0' :: '.' :: (List.replicate (-whole).toNat '0' ++ digits)
  else if (digits.length : Int) ≤ whole then
    digits ++ (List.replicate (whole.toNat - digits.length) '0' ++ ['.', '0'])
  else digits.take whole.toNat ++ '.' :: digits.drop whole.toNat

def scientific (style : FloatNotation) (decimal : Decimal) : List Char :=
  let mantissa := match decimal.digitChars with
    | first :: second :: rest => first :: '.' :: second :: rest
    | digits => digits
  let exponent := decimal.leadingExponent
  let sign := if exponent < 0 then '-' else '+'
  mantissa ++ 'e' :: sign :: padded style.exponentWidth (Nat.toDigits 10 exponent.natAbs)

def magnitudeChars (style : FloatNotation) (x : Binary64) : List Char :=
  if x.isZero then ['0', '.', '0']
  else
    let decimal := (Binary64.mk (UInt64.ofNat x.magnitudeBits)).shortest
    if style.leastPositional ≤ decimal.leadingExponent
        ∧ decimal.leadingExponent ≤ style.greatestPositional then positional decimal
    else style.scientific decimal

def text (style : FloatNotation) (x : Binary64) : String :=
  if x.isNaN then style.nanWord
  else if x.isInfinite then
    if x.isNegative then style.negativeInfinityWord else style.infinityWord
  else
    let digits := style.magnitudeChars x
    String.ofList (if x.isNegative then '-' :: digits else digits)

def plain : FloatNotation := ⟨-4, 15, 2, "inf", "-inf", "nan"⟩

def json : FloatNotation := ⟨-4, 15, 2, "Infinity", "-Infinity", "NaN"⟩

end FloatNotation

def spanDigits (chars : List Char) : List Char × List Char :=
  (chars.takeWhile Char.isDigit, chars.dropWhile Char.isDigit)

def naturalOfDigits (digits : List Char) : Nat := Nat.ofDigitChars 10 digits 0

/-- The double written with the given digits before and after the point and an exponent. -/
def Binary64.ofNotation (negative : Bool) (whole fraction : List Char) (exponent : Int) :
    Binary64 :=
  Binary64.ofDecimal negative (naturalOfDigits (whole ++ fraction)) (exponent - fraction.length)

end NodeForms
