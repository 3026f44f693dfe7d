import NodeForms.Decimal.Notation
import NodeForms.Text.Printable

/-!
# Quoted texts in messages

A text inside a message stands between single quotes, or between double quotes when it
holds a single quote and no double one. The quote and the backslash are escaped, and
characters that are not printable are written by their number.
-/

namespace NodeForms

def hexDigit (value : Nat) : Char := Nat.digitChar (value % 16)

/-- A number as exactly `width` hexadecimal digits, the low ones if it has more. -/
def hexChars : Nat → Nat → List Char
  | 0, _ => []
  | width + 1, value => hexDigit (value / Nat.pow 16 width) :: hexChars width value

/-- A character by its number, in the shortest of the three escapes that holds it. -/
def codeEscape (c : Char) : List Char :=
  let code := c.toNat
  if code < 0x100 then '\\' :: 'x' :: hexChars 2 code
  else if code < 0x10000 then '\\' :: 'u' :: hexChars 4 code
  else '\\' :: 'U' :: hexChars 8 code

def quotedChar (quote : Char) (c : Char) : List Char :=
  if c = quote ∨ c = '\\' then ['\\', c]
  else if c = '\n' then ['\\', 'n']
  else if c = '\r' then ['\\', 'r']
  else if c = '\t' then ['\\', 't']
  else if isPrintable c then [c]
  else codeEscape c

def quoteFor (chars : List Char) : Char :=
  if '\'' ∈ chars ∧ '"' ∉ chars then '"' else '\''

def quoted (text : String) : String :=
  let chars := text.toList
  let quote := quoteFor chars
  String.ofList (quote :: (chars.flatMap (quotedChar quote) ++ [quote]))

def quotedList (texts : List String) : String :=
  "[" ++ ", ".intercalate (texts.map quoted) ++ "]"

def sortedTexts (texts : List String) : List String :=
  texts.mergeSort fun first second => decide (first ≤ second)

end NodeForms
