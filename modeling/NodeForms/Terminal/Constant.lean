import NodeForms.Text.Blank

/-!
# Constants

What a click on a text does is told by a name and by constants: numbers, texts, bytes and a
few words, and tuples, sets and mappings of these. Nothing is ever clicked, so a constant is
not worked out here; it only matters whether characters are one. A constant may run over
several lines between brackets, and remarks after `#` are no part of it.
-/

namespace NodeForms

namespace Constant

/-- A token of a constant. -/
inductive Token where
  | number (imaginary : Bool)
  | text
  | bytes
  | word
  | setWord
  | opening
  | closing
  | curlyOpening
  | curlyClosing
  | comma
  | colon
  | plus
  | minus
  | lineEnd
deriving DecidableEq, Repr

def isWordPart (c : Char) : Bool := c.isAlphanum || c == '_' || 128 ≤ c.toNat

def isHex (c : Char) : Bool :=
  c.isDigit || ('a' ≤ c && c ≤ 'f') || ('A' ≤ c && c ≤ 'F')

/-- What follows digits, between which single low lines may stand. -/
def afterDigits (isDigit : Char → Bool) : List Char → List Char
  | '_' :: c :: rest => if isDigit c then afterDigits isDigit rest else '_' :: c :: rest
  | c :: rest => if isDigit c then afterDigits isDigit rest else c :: rest
  | [] => []

def startsWithDigit (chars : List Char) : Bool := chars.head?.any Char.isDigit

def afterFraction (chars : List Char) : List Char :=
  match chars with
  | '.' :: rest => if startsWithDigit rest then afterDigits Char.isDigit rest else rest
  | _ => chars

def afterExponent (chars : List Char) : List Char :=
  match chars with
  | mark :: rest =>
      let digits := if rest.head? == some '+' || rest.head? == some '-' then rest.drop 1 else rest
      if (mark == 'e' || mark == 'E') && startsWithDigit digits then
        afterDigits Char.isDigit digits
      else chars
  | [] => chars

/-- A token, unless the word goes on behind it. -/
def ended? (token : Token) (rest : List Char) : Option (Token × List Char) :=
  if rest.head?.any isWordPart then none else some (token, rest)

def basedNumber? (isDigit : Char → Bool) (chars : List Char) : Option (Token × List Char) :=
  let rest := afterDigits isDigit chars
  if rest.length < chars.length then ended? (.number false) rest else none

/-- A decimal number. A whole one does not start with a zero unless it is zero. -/
def decimalNumber? (chars : List Char) : Option (Token × List Char) :=
  let wholeRest := afterDigits Char.isDigit chars
  let rest := afterExponent (afterFraction wholeRest)
  match rest with
  | 'j' :: rest | 'J' :: rest => ended? (.number true) rest
  | _ =>
      let whole := chars.take (chars.length - wholeRest.length)
      let padded := whole.head? == some '0' && whole.any fun c => '1' ≤ c && c ≤ '9'
      if padded && rest.length == wholeRest.length then none else ended? (.number false) rest

def number? (chars : List Char) : Option (Token × List Char) :=
  match chars with
  | '0' :: 'x' :: rest | '0' :: 'X' :: rest => basedNumber? isHex rest
  | '0' :: 'o' :: rest | '0' :: 'O' :: rest =>
      basedNumber? (fun c => '0' ≤ c && c ≤ '7') rest
  | '0' :: 'b' :: rest | '0' :: 'B' :: rest => basedNumber? (fun c => c == '0' || c == '1') rest
  | _ => decimalNumber? chars

/-- How characters between quotes are read. -/
structure Quoting where
  raw : Bool
  bytes : Bool
  /-- Whether three quotes are at either end, so that lines may end in between. -/
  triple : Bool
  quote : Char

/-- The number that hexadecimal digits make, if there are so many of them. -/
def hexValue? (count : Nat) (chars : List Char) : Option Nat :=
  let digits := chars.take count
  if digits.length == count && digits.all isHex then
    some (digits.foldl (fun value c =>
      value * 16 + (if c.isDigit then c.toNat - 48 else c.toLower.toNat - 87)) 0)
  else none

/-- Whether a backslash may stand in front of a character and those behind it. Characters
cannot be given by name. -/
def allowsEscape (quoting : Quoting) (c : Char) (rest : List Char) : Bool :=
  if quoting.raw then true
  else
    match c with
    | 'x' => (hexValue? 2 rest).isSome
    | 'u' => quoting.bytes || (hexValue? 4 rest).isSome
    | 'U' => quoting.bytes || (hexValue? 8 rest).any (· ≤ 0x10FFFF)
    | 'N' => quoting.bytes
    | _ => true

def allowsChar (quoting : Quoting) (c : Char) : Bool :=
  c != '\x00' && (!quoting.bytes || c.toNat < 128)

def afterQuoted? (quoting : Quoting) : List Char → Option (List Char)
  | [] => none
  | '\\' :: c :: rest =>
      if allowsChar quoting c && allowsEscape quoting c rest then afterQuoted? quoting rest
      else none
  | c :: rest =>
      if c = quoting.quote ∧ !quoting.triple then some rest
      else if c = quoting.quote ∧ [c, c].isPrefixOf rest then some (rest.drop 2)
      else if (c = '\n' ∧ !quoting.triple) || !allowsChar quoting c then none
      else afterQuoted? quoting rest

/-- The text or the bytes that come first, after the letters in front of the quote. -/
def quoted? (raw bytes : Bool) (chars : List Char) : Option (Token × List Char) :=
  match chars with
  | quote :: rest => do
      let triple := [quote, quote].isPrefixOf rest
      let quoting : Quoting := { raw, bytes, triple, quote }
      let after ← afterQuoted? quoting (if triple then rest.drop 2 else rest)
      return (if bytes then .bytes else .text, after)
  | [] => none

/-- The word that comes first, or what is between quotes behind it. -/
def word? (chars : List Char) : Option (Token × List Char) :=
  let word := chars.takeWhile isWordPart
  let rest := chars.dropWhile isWordPart
  if rest.head? == some '\'' || rest.head? == some '"' then
    match String.ofList (word.map Char.toLower) with
    | "" | "u" => quoted? false false rest
    | "r" => quoted? true false rest
    | "b" => quoted? false true rest
    | "br" | "rb" => quoted? true true rest
    | _ => none
  else
    match String.ofList word with
    | "None" | "True" | "False" => some (.word, rest)
    | "set" => some (.setWord, rest)
    | _ => none

def token? (chars : List Char) : Option (Token × List Char) :=
  match chars with
  | '(' :: rest => some (.opening, rest)
  | ')' :: rest => some (.closing, rest)
  | '\x7b' :: rest => some (.curlyOpening, rest)
  | '\x7d' :: rest => some (.curlyClosing, rest)
  | ',' :: rest => some (.comma, rest)
  | ':' :: rest => some (.colon, rest)
  | '+' :: rest => some (.plus, rest)
  | '-' :: rest => some (.minus, rest)
  | '.' :: '.' :: '.' :: rest => some (.word, rest)
  | '.' :: rest => if startsWithDigit rest then number? chars else none
  | c :: _ => if c.isDigit then number? chars else word? chars
  | [] => none

def depthAfter (depth : Nat) : Token → Nat
  | .opening | .curlyOpening => depth + 1
  | .closing | .curlyClosing => depth - 1
  | _ => depth

def isGap (c : Char) : Bool := c == ' ' || c == '\t' || c == '\x0c'

/-- The tokens of characters, after so many open brackets; `filled` tells whether a token
stands on the line at hand. Outside of all brackets a line has no indentation. Each step
takes a character, so the count of them is enough `fuel`. -/
def tokensFrom? (fuel depth : Nat) (filled : Bool) (chars : List Char) : Option (List Token) :=
  match fuel, chars with
  | _, [] => some []
  | 0, _ => none
  | fuel + 1, '\n' :: rest =>
      if depth = 0 ∧ filled then (tokensFrom? fuel depth false rest).map (.lineEnd :: ·)
      else tokensFrom? fuel depth filled rest
  | fuel + 1, '#' :: rest => tokensFrom? fuel depth filled (rest.dropWhile (· != '\n'))
  | fuel + 1, '\\' :: '\n' :: rest =>
      if rest.isEmpty then none else tokensFrom? fuel depth filled rest
  | fuel + 1, c :: rest =>
      if isGap c then
        let after := rest.dropWhile isGap
        if depth = 0 ∧ !filled ∧ after.head?.any (fun c => c != '#' && c != '\n') then none
        else tokensFrom? fuel depth filled after
      else do
        let (token, after) ← token? (c :: rest)
        let tokens ← tokensFrom? fuel (depthAfter depth token) true after
        return token :: tokens

def withLineFeeds : List Char → List Char
  | '\r' :: '\n' :: rest => '\n' :: withLineFeeds rest
  | '\r' :: rest => '\n' :: withLineFeeds rest
  | c :: rest => c :: withLineFeeds rest
  | [] => []

/-- What matters of a part of a constant for what it is part of. -/
inductive Part where
  | real
  | imaginary
  | signedReal
  | fixed
  | changeable
deriving DecidableEq, Repr

def tupleOf (parts : List Part) : Part := if .changeable ∈ parts then .changeable else .fixed

def Token.startsPart : Token → Bool
  | .number _ | .text | .bytes | .word | .setWord | .opening | .curlyOpening | .plus
  | .minus => true
  | _ => false

mutual
def signed? (fuel : Nat) (tokens : List Token) : Option (Part × List Token) :=
  match fuel with
  | 0 => none
  | fuel + 1 =>
      match tokens with
      | .plus :: rest | .minus :: rest => do
          match ← single? fuel rest with
          | (.real, rest) => some (.signedReal, rest)
          | (.imaginary, rest) => some (.fixed, rest)
          | _ => none
      | _ => single? fuel tokens
def part? (fuel : Nat) (tokens : List Token) : Option (Part × List Token) :=
  match fuel with
  | 0 => none
  | fuel + 1 => do
      let (first, rest) ← signed? fuel tokens
      match rest with
      | .plus :: rest | .minus :: rest =>
          match first, ← single? fuel rest with
          | .real, (.imaginary, rest) | .signedReal, (.imaginary, rest) => some (.fixed, rest)
          | _, _ => none
      | _ => some (first, rest)
def single? (fuel : Nat) (tokens : List Token) : Option (Part × List Token) :=
  match fuel with
  | 0 => none
  | fuel + 1 =>
      match tokens with
      | .number imaginary :: rest => some (if imaginary then .imaginary else .real, rest)
      | .text :: rest => some (.fixed, rest.dropWhile (· == .text))
      | .bytes :: rest => some (.fixed, rest.dropWhile (· == .bytes))
      | .word :: rest => some (.fixed, rest)
      | .setWord :: .opening :: .closing :: rest => some (.changeable, rest)
      | .opening :: .closing :: rest => some (.fixed, rest)
      | .opening :: rest => do
          match ← parts? fuel rest with
          | (part, .closing :: rest) => some (part, rest)
          | _ => none
      | .curlyOpening :: .curlyClosing :: rest => some (.changeable, rest)
      | .curlyOpening :: rest => do
          match ← members? fuel rest with
          | (part, .curlyClosing :: rest) =>
              if part = .changeable then none else some (.changeable, rest)
          | _ => none
      | _ => none
/-- Parts between commas: one without a comma, or a tuple. -/
def parts? (fuel : Nat) (tokens : List Token) : Option (Part × List Token) :=
  match fuel with
  | 0 => none
  | fuel + 1 => do
      let (first, rest) ← part? fuel tokens
      match rest with
      | .comma :: rest =>
          if rest.head?.any Token.startsPart then
            let (others, rest) ← parts? fuel rest
            some (tupleOf [first, others], rest)
          else some (tupleOf [first], rest)
      | _ => some (first, rest)
/-- Members between curly brackets, all with values or all without; all that a set can hold
makes a tuple of that kind. -/
def members? (fuel : Nat) (tokens : List Token) : Option (Part × List Token) :=
  match fuel with
  | 0 => none
  | fuel + 1 => do
      let (first, rest) ← part? fuel tokens
      match rest with
      | .colon :: rest => do
          let (others, rest) ← pairs? fuel rest
          some (tupleOf [first, others], rest)
      | _ => parts? fuel tokens
def pairs? (fuel : Nat) (tokens : List Token) : Option (Part × List Token) :=
  match fuel with
  | 0 => none
  | fuel + 1 => do
      let (_, rest) ← part? fuel tokens
      match rest with
      | .comma :: rest =>
          if rest.head?.any Token.startsPart then
            match ← part? fuel rest with
            | (key, .colon :: rest) => do
                let (others, rest) ← pairs? fuel rest
                some (tupleOf [key, others], rest)
            | _ => none
          else some (.fixed, rest)
      | _ => some (.fixed, rest)
end

end Constant

/-- Whether characters are a constant. Between a token and the next there are at most seven
steps, so a multiple of the count of tokens is enough fuel. -/
def isConstant (chars : List Char) : Bool :=
  match Constant.tokensFrom? (chars.length + 1) 0 false (Constant.withLineFeeds chars) with
  | none => false
  | some tokens =>
      match Constant.parts? (8 * tokens.length + 8) tokens with
      | some (_, rest) => rest.all (· == .lineEnd)
      | none => false

/-- Whether what follows the equals sign of a tag tells what a click does: a name, a name with
constants in round brackets, or a constant. -/
def isClickParameter (chars : List Char) : Bool :=
  let inner := trimBlanks chars
  let after := inner.dropWhile fun c => Constant.isWordPart c || c == '.'
  match after with
  | [] => true
  | '(' :: _ =>
      if after.getLast? == some ')' && !after.contains '\n' then isConstant after
      else isConstant inner
  | _ => isConstant inner

end NodeForms
