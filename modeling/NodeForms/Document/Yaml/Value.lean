import NodeForms.Decimal.Sum
import NodeForms.Document.Data
import NodeForms.Document.Json.Reader
import NodeForms.Document.Yaml.Fault
import NodeForms.Document.Yaml.Tag
import NodeForms.Text.Case
import NodeForms.Text.Numeral

/-!
# Values of YAML scalars

The value a tagged text stands for. Digits may be grouped, integers may be binary, octal,
hexadecimal or sexagesimal, and doubles decimal or sexagesimal. A tag on a text without
the form it calls for is a fault.
-/

namespace NodeForms

namespace Yaml

def ungrouped (content : String) : List Char := content.toList.filter (· != '_')

def digitValue? (base : Nat) (c : Char) : Option Nat :=
  match Json.hexValue? c with
  | some digit => if digit < base then some digit else none
  | none => none

def afterBaseMark (base : Nat) (chars : List Char) : List Char :=
  match chars with
  | '0' :: letter :: rest =>
      if (base = 2 ∧ (letter = 'b' ∨ letter = 'B')) ∨ (base = 8 ∧ (letter = 'o' ∨ letter = 'O'))
          ∨ (base = 16 ∧ (letter = 'x' ∨ letter = 'X')) then rest
      else chars
  | _ => chars

/-- The integer that characters stand for in a base, in digits of any script and with blanks
around it aside. -/
def integerIn (base : Nat) (chars : List Char) : Except Fault Int :=
  let trimmed := plainNumeral chars
  let digits := afterBaseMark base (afterSign trimmed)
  let magnitude := digits.foldlM
    (fun value c => (digitValue? base c).map fun digit => value * base + digit) 0
  match magnitude with
  | some value =>
      if digits.isEmpty then .error .unreadableNumber
      else .ok (if trimmed.head? = some '-' then -(value : Int) else value)
  | none => .error .unreadableNumber

def sixtieths (parts : List Int) : Int := parts.foldl (fun value part => value * 60 + part) 0

def integerMagnitude (chars : List Char) : Except Fault Int :=
  match chars with
  | [] => .error .emptyNumber
  | ['0'] => .ok 0
  | '0' :: 'b' :: digits => integerIn 2 digits
  | '0' :: 'x' :: digits => integerIn 16 digits
  | '0' :: digits => integerIn 8 ('0' :: digits)
  | _ =>
      if chars.contains ':' then ((colonParts chars).mapM (integerIn 10)).map sixtieths
      else integerIn 10 chars

def integerOf (content : String) : Except Fault Int :=
  let chars := ungrouped content
  if chars.isEmpty then .error .emptyNumber
  else
    (integerMagnitude (afterSign chars)).map fun value =>
      if chars.head? = some '-' then -value else value

def decimalOf? (chars : List Char) : Option Binary64 :=
  let (whole, rest) := spanDigits chars
  let (fraction, rest) := match rest with
    | '.' :: more => spanDigits more
    | other => ([], other)
  if whole.isEmpty ∧ fraction.isEmpty then none
  else
    match Json.readExponent rest with
    | (exponent, []) => some (Binary64.ofNotation false whole fraction (exponent.getD 0))
    | _ => none

/-- The double that characters stand for, in digits of any script and with blanks around it
aside. -/
def doubleIn (chars : List Char) : Except Fault Binary64 :=
  let trimmed := plainNumeral chars
  let unsigned := afterSign trimmed
  let magnitude :=
    match String.ofList (smallLetters unsigned) with
    | "inf" | "infinity" => some (Binary64.infinity false)
    | "nan" => some Binary64.nan
    | _ => decimalOf? unsigned
  match magnitude with
  | some value => .ok (if trimmed.head? = some '-' then value.negated else value)
  | none => .error .unreadableNumber

/-- The sum of parts, each the sixtieth of the one before it; the last one comes first. The
weight of a part has to be a double itself. -/
def sixtiethsOf (value : Binary64) (weight : Nat) : List Binary64 → Except Fault Binary64
  | [] => .ok value
  | part :: parts =>
      let factor := Binary64.ofRatio weight 1
      if factor.isInfinite then .error .numberTooLarge
      else sixtiethsOf (value.plus (part.times factor)) (weight * 60) parts

def doubleMagnitude (chars : List Char) : Except Fault Binary64 :=
  if chars = ".inf".toList then .ok (Binary64.infinity false)
  else if chars = ".nan".toList then .ok Binary64.nan
  else if chars.contains ':' then do
    let parts ← (colonParts chars).mapM doubleIn
    sixtiethsOf (Binary64.zero false) 1 parts.reverse
  else doubleIn chars

def doubleOf (content : String) : Except Fault Binary64 :=
  let chars := smallLetters (ungrouped content)
  if chars.isEmpty then .error .emptyNumber
  else
    (doubleMagnitude (afterSign chars)).map fun value =>
      if chars.head? = some '-' then
        if value.isNaN then value else value.negated
      else value

def boolOf (content : String) : Except Fault Bool :=
  match String.ofList (smallLetters content.toList) with
  | "yes" | "true" | "on" => .ok true
  | "no" | "false" | "off" => .ok false
  | _ => .error .unknownWord

/-- The seconds of a distance from universal time, which stays below a day. -/
def offsetOf : Zone → Option Int
  | .universal => some 0
  | .shifted west hours minutes =>
      let seconds : Int := hours * 3600 + minutes * 60
      if seconds < 86400 then some (if west then -seconds else seconds) else none

def microsecondsOf (fraction : List Char) : Nat :=
  let digits := fraction.take 6
  naturalOfDigits (digits ++ List.replicate (6 - digits.length) '0')

def timeOf (time : TimeText) : Except Fault TimeOfDay := do
  let offset ← match time.zone with
    | none => Except.ok none
    | some zone =>
        match offsetOf zone with
        | some seconds => .ok (some seconds)
        | none => .error .impossibleMoment
  if time.hour < 24 ∧ time.minute < 60 ∧ time.second < 60 then
    .ok ⟨time.hour, time.minute, time.second, microsecondsOf time.fraction, offset⟩
  else .error .impossibleMoment

def momentOf (content : String) : Except Fault Scalar :=
  match readMoment (withoutFinalBreak content.toList) with
  | none => .error .unreadableMoment
  | some moment => do
      let time ← match moment.time with
        | none => Except.ok none
        | some time => (timeOf time).map some
      if isDay moment.year moment.month moment.day then
        .ok (.date moment.year moment.month moment.day time)
      else .error .impossibleMoment

def sixBits? (c : Char) : Option Nat :=
  if 'A' ≤ c ∧ c ≤ 'Z' then some (c.toNat - 65)
  else if 'a' ≤ c ∧ c ≤ 'z' then some (c.toNat - 71)
  else if c.isDigit then some (c.toNat + 4)
  else if c = '+' then some 62
  else if c = '/' then some 63
  else none

/-- The bytes of a byte text. Four characters hold three bytes; `held` is how many of the
four were read, `left` the bits not yet used, and `pads` the padding seen in a row. Other
characters are passed over, and a full padding ends the text. -/
def byteRun (held left pads : Nat) : List Char → Option (List UInt8)
  | [] => if held = 0 then some [] else none
  | '=' :: rest =>
      if 2 ≤ held ∧ 4 ≤ held + (pads + 1) then some []
      else byteRun held left (if 2 ≤ held then pads + 1 else pads) rest
  | c :: rest =>
      match sixBits? c with
      | none => byteRun held left pads rest
      | some bits =>
          match held with
          | 0 => byteRun 1 bits 0 rest
          | 1 => (byteRun 2 (bits % 16) 0 rest).map (UInt8.ofNat (left * 4 + bits / 16) :: ·)
          | 2 => (byteRun 3 (bits % 4) 0 rest).map (UInt8.ofNat (left * 16 + bits / 4) :: ·)
          | _ => (byteRun 0 0 0 rest).map (UInt8.ofNat (left * 64 + bits) :: ·)

def bytesOf (content : String) : Except Fault (List UInt8) :=
  let chars := content.toList
  if chars.all fun c => c.toNat < 128 then
    match byteRun 0 0 0 chars with
    | some bytes => .ok bytes
    | none => .error .malformed
  else .error .malformed

def scalarOf (tag : Tag) (content : String) : Except Fault Scalar :=
  match tag with
  | .null => .ok .null
  | .bool => (boolOf content).map .bool
  | .int => (integerOf content).map .int
  | .float => (doubleOf content).map .float
  | .text => .ok (.text content)
  | .moment => momentOf content
  | .bytes => (bytesOf content).map .bytes
  | .merge | .content | .sequence | .mapping | .set | .pairs | .unknown => .error .malformed

end Yaml

end NodeForms
