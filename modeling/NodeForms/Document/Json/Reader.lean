import NodeForms.Document.Data
import NodeForms.Text.Quoted

/-!
# Reading JSON

One value with blanks around it. Numbers with a point or an exponent are doubles, all
others integers of any size; the words `NaN`, `Infinity` and `-Infinity` are numbers too.
Of members with equal names the last one counts, at the place of the first.
-/

namespace NodeForms

namespace Json

def isSpace (c : Char) : Bool := c == ' ' || c == '\t' || c == '\n' || c == '\r'

def skipSpaces (chars : List Char) : List Char := chars.dropWhile isSpace

def hexValue? (c : Char) : Option Nat :=
  if '0' ≤ c ∧ c ≤ '9' then some (c.toNat - 48)
  else if 'a' ≤ c ∧ c ≤ 'f' then some (c.toNat - 87)
  else if 'A' ≤ c ∧ c ≤ 'F' then some (c.toNat - 55)
  else none

/-- The number four hexadecimal digits stand for, and what follows them. -/
def hexUnit? : List Char → Option (Nat × List Char)
  | a :: b :: c :: d :: rest => do
      let a ← hexValue? a
      let b ← hexValue? b
      let c ← hexValue? c
      let d ← hexValue? d
      some (((a * 16 + b) * 16 + c) * 16 + d, rest)
  | _ => none

def escapeLetter? : Char → Option Char
  | '"' => some '"'
  | '\\' => some '\\'
  | '/' => some '/'
  | 'b' => some '\x08'
  | 'f' => some '\x0c'
  | 'n' => some '\n'
  | 'r' => some '\r'
  | 't' => some '\t'
  | _ => none

def isHighUnit (unit : Nat) : Bool := 0xD800 ≤ unit && unit < 0xDC00

def isLowUnit (unit : Nat) : Bool := 0xDC00 ≤ unit && unit < 0xE000

/-- The character after `\u`, which takes two units beyond the basic plane. A unit without its
partner is no character; the replacement character stands for it. -/
def unicodeEscape? (chars : List Char) : Option (Char × List Char) := do
  let (unit, rest) ← hexUnit? chars
  if isHighUnit unit then
    match rest with
    | '\\' :: 'u' :: more =>
        match hexUnit? more with
        | some (low, after) =>
            if isLowUnit low then
              some (Char.ofNat (0x10000 + (unit - 0xD800) * 1024 + (low - 0xDC00)), after)
            else some ('\ufffd', rest)
        | none => none
    | _ => some ('\ufffd', rest)
  else if isLowUnit unit then some ('\ufffd', rest)
  else some (Char.ofNat unit, rest)

/-- The content of a text up to its closing quote, and what follows; `fuel` bounds the
number of its characters. -/
def readText : Nat → List Char → Option (List Char × List Char)
  | 0, _ => none
  | fuel + 1, chars =>
      match chars with
      | [] => none
      | '"' :: rest => some ([], rest)
      | '\\' :: 'u' :: rest => do
          let (c, after) ← unicodeEscape? rest
          let (content, final) ← readText fuel after
          some (c :: content, final)
      | '\\' :: letter :: rest => do
          let c ← escapeLetter? letter
          let (content, final) ← readText fuel rest
          some (c :: content, final)
      | c :: rest =>
          if c.toNat < 32 ∨ c = '\\' then none
          else do
            let (content, final) ← readText fuel rest
            some (c :: content, final)

def readFraction (chars : List Char) : Option (List Char) × List Char :=
  match chars with
  | '.' :: rest =>
      let (digits, after) := spanDigits rest
      if digits.isEmpty then (none, chars) else (some digits, after)
  | _ => (none, chars)

def readExponent (chars : List Char) : Option Int × List Char :=
  match chars with
  | letter :: rest =>
      if letter = 'e' ∨ letter = 'E' then
        let (negative, unsigned) := match rest with
          | '-' :: more => (true, more)
          | '+' :: more => (false, more)
          | _ => (false, rest)
        let (digits, after) := spanDigits unsigned
        if digits.isEmpty then (none, chars)
        else
          let magnitude : Int := naturalOfDigits digits
          (some (if negative then -magnitude else magnitude), after)
      else (none, chars)
  | [] => (none, chars)

def readWhole (chars : List Char) : Option (List Char × List Char) :=
  match chars with
  | '0' :: rest => some (['0'], rest)
  | _ =>
      let (digits, after) := spanDigits chars
      if digits.isEmpty then none else some (digits, after)

def readMagnitude (negative : Bool) (chars : List Char) : Option (Scalar × List Char) := do
  let (whole, rest) ← readWhole chars
  let (fraction, rest) := readFraction rest
  let (exponent, rest) := readExponent rest
  if fraction.isNone && exponent.isNone then
    let magnitude : Int := naturalOfDigits whole
    some (.int (if negative then -magnitude else magnitude), rest)
  else
    some (.float (Binary64.ofNotation negative whole (fraction.getD []) (exponent.getD 0)), rest)

def afterWord? (word : String) (chars : List Char) : Option (List Char) :=
  if word.toList.isPrefixOf chars then some (chars.drop word.length) else none

def readNumber : List Char → Option (Scalar × List Char)
  | '-' :: rest =>
      match afterWord? "Infinity" rest with
      | some after => some (.float (Binary64.infinity true), after)
      | none => readMagnitude true rest
  | chars => readMagnitude false chars

def words : List (String × Scalar) :=
  [("null", .null), ("true", .bool true), ("false", .bool false),
    ("NaN", .float Binary64.nan), ("Infinity", .float (Binary64.infinity false))]

def readScalar (chars : List Char) : Option (Scalar × List Char) :=
  match words.findSome? fun (word, value) =>
      (afterWord? word chars).map fun rest => (value, rest) with
  | some found => some found
  | none => readNumber chars

mutual
/-- A value and what follows it; `fuel` bounds the characters it takes. -/
def readValue : Nat → List Char → Option (Data × List Char)
  | 0, _ => none
  | fuel + 1, chars =>
      match chars with
      | '"' :: rest => do
          let (content, after) ← readText (rest.length + 1) rest
          some (.text (String.ofList content), after)
      | '[' :: rest =>
          match skipSpaces rest with
          | ']' :: after => some (.list [], after)
          | inner => do
              let (items, after) ← readItems fuel inner
              some (.list items, after)
      | '\x7b' :: rest =>
          match skipSpaces rest with
          | '\x7d' :: after => some (.map [], after)
          | inner => do
              let (members, after) ← readMembers fuel inner
              some (.map (Entries.ofList members), after)
      | _ => do
          let (value, after) ← readScalar chars
          some (.scalar value, after)
/-- The elements of a list up to its closing bracket. -/
def readItems : Nat → List Char → Option (List Data × List Char)
  | 0, _ => none
  | fuel + 1, chars => do
      let (item, rest) ← readValue fuel chars
      match skipSpaces rest with
      | ']' :: after => some ([item], after)
      | ',' :: more => do
          let (items, after) ← readItems fuel (skipSpaces more)
          some (item :: items, after)
      | _ => none
/-- The members of a mapping up to its closing brace. -/
def readMembers : Nat → List Char → Option (List (Scalar × Data) × List Char)
  | 0, _ => none
  | fuel + 1, chars =>
      match chars with
      | '"' :: nameChars => do
          let (name, rest) ← readText (nameChars.length + 1) nameChars
          match skipSpaces rest with
          | ':' :: valueChars => do
              let (value, rest) ← readValue fuel (skipSpaces valueChars)
              let member := (Scalar.text (String.ofList name), value)
              match skipSpaces rest with
              | '\x7d' :: after => some ([member], after)
              | ',' :: more => do
                  let (members, after) ← readMembers fuel (skipSpaces more)
                  some (member :: members, after)
              | _ => none
          | _ => none
      | _ => none
end

def readChars (chars : List Char) : Option Data :=
  match readValue (chars.length + 1) (skipSpaces chars) with
  | some (value, rest) => if (skipSpaces rest).isEmpty then some value else none
  | none => none

def read (text : String) : Option Data := readChars text.toList

end Json

end NodeForms
