import NodeForms.Document.Display
import NodeForms.Document.Yaml.Cursor
import NodeForms.Document.Yaml.Tag
import NodeForms.Text.Quoted

/-!
# Writing YAML

Mappings and sequences are written in block form, each member and item on a line of its
own; a sequence inside a mapping has no indentation of its own. A text is written plain
when that reads back as the same text, otherwise between single quotes, or between double
quotes when it holds characters that need an escape. Long texts are folded at spaces. A
collection that stands in several places is written in the first of them, under a name that
stands for it in the others.
-/

namespace NodeForms

namespace Yaml

def foldColumn : Nat := 80

/-- What was written so far, how the line at hand looks, and which shared collections there
are. -/
structure Pen where
  written : String := ""
  column : Nat := 0
  spaced : Bool := true
  indented : Bool := true
  /-- The labels of the collections that stand in more than one place, in the order of their
  names. -/
  named : List Nat := []
  introduced : List Nat := []

namespace Pen

def write (pen : Pen) (chars : List Char) : Pen :=
  { pen with written := pen.written ++ String.ofList chars, column := pen.column + chars.length }

def breakLine (pen : Pen) (lineEnd : Char) : Pen :=
  { pen with written := pen.written.push lineEnd, column := 0, spaced := true, indented := true }

/-- Go to an indentation, on a new line unless the line at hand is still blank there. -/
def startLine (indent : Nat) (pen : Pen) : Pen :=
  let fresh :=
    if !pen.indented || decide (indent < pen.column)
        || (pen.column == indent && !pen.spaced) then pen.breakLine '\n'
    else pen
  if fresh.column < indent then
    { fresh.write (List.replicate (indent - fresh.column) ' ') with spaced := true }
  else fresh

def mark (chars : List Char) (parted : Bool) (pen : Pen) (spacedAfter indentedAfter : Bool) :
    Pen :=
  let text := if pen.spaced || !parted then chars else ' ' :: chars
  { pen.write text with spaced := spacedAfter, indented := pen.indented && indentedAfter }

end Pen

def isTextBreak (c : Char) : Bool :=
  c == '\n' || c == '\u0085' || c == '\u2028' || c == '\u2029'

/-- Whether a character needs an escape wherever it stands. -/
def isSpecial (c : Char) : Bool :=
  let code := c.toNat
  let ordinary := c == '\n' || (0x20 ≤ code && code ≤ 0x7E)
  let beyond := code == 0x85 || (0xA0 ≤ code && code ≤ 0xD7FF)
    || (0xE000 ≤ code && code ≤ 0xFFFD && code != 0xFEFF)
    || (0x10000 ≤ code && code < 0x10FFFF)
  !ordinary && !beyond

/-- Whether some character holds one property and the next one another. -/
def anyAdjacent (first second : Char → Bool) : List Char → Bool
  | a :: b :: rest => (first a && second b) || anyAdjacent first second (b :: rest)
  | _ => false

def hasInnerIndicator : List Char → Bool
  | a :: b :: rest =>
      (b == ':' && endsWord rest.head?) || (b == '#' && endsWord (some a))
        || hasInnerIndicator (b :: rest)
  | _ => false

def hasLeadingIndicator : List Char → Bool
  | [] => false
  | c :: rest =>
      "#,[]\x7b\x7d&*!|>'\"%@\x60".toList.contains c
        || ((c == '?' || c == ':' || c == '-') && endsWord rest.head?)

def startsLikeMark (chars : List Char) : Bool :=
  ['-', '-', '-'].isPrefixOf chars || ['.', '.', '.'].isPrefixOf chars

def allowsSingleQuotes (chars : List Char) : Bool :=
  !anyAdjacent isTextBreak (· == ' ') chars && !anyAdjacent (· == ' ') isTextBreak chars
    && !chars.any isSpecial

/-- Whether a text can stand without quotes, whatever it reads back as. -/
def allowsPlain (chars : List Char) : Bool :=
  chars.head? != some ' ' && chars.getLast? != some ' ' && !chars.any isTextBreak
    && !chars.any isSpecial && !startsLikeMark chars && !hasLeadingIndicator chars
    && !hasInnerIndicator chars

inductive Look where
  | plain
  | single
  | double
deriving DecidableEq, Repr

/-- The look of a text, at a place where only one line fits or elsewhere. -/
def lookOf (oneLine : Bool) (content : String) : Look :=
  let chars := content.toList
  let cramped := oneLine && chars.any isTextBreak
  if Tag.ofPlain content = .text ∧ allowsPlain chars ∧ !cramped then .plain
  else if allowsSingleQuotes chars && !cramped then .single
  else .double

/-- Characters cut into runs of spaces, runs of line ends and runs of others. -/
inductive Run where
  | spaces (count : Nat)
  | breaks (ends : List Char)
  | word (chars : List Char)

def Run.cons (c : Char) (runs : List Run) : List Run :=
  if c = ' ' then
    match runs with
    | .spaces count :: rest => .spaces (count + 1) :: rest
    | _ => .spaces 1 :: runs
  else if isTextBreak c then
    match runs with
    | .breaks ends :: rest => .breaks (c :: ends) :: rest
    | _ => .breaks [c] :: runs
  else
    match runs with
    | .word chars :: rest => .word (c :: chars) :: rest
    | _ => .word [c] :: runs

def runsOf (chars : List Char) : List Run := chars.foldr Run.cons []

/-- Write spaces of a text; a single one may be folded into a line end. -/
def writeSpaces (indent : Nat) (foldable : Bool) (count : Nat) (pen : Pen) : Pen :=
  if foldable && count == 1 && decide (foldColumn < pen.column) then pen.startLine indent
  else pen.write (List.replicate count ' ')

/-- Write line ends of a text, one more than there are when a line feed comes first. -/
def writeBreaks (indent : Nat) (ends : List Char) (pen : Pen) : Pen :=
  let first := if ends.head? = some '\n' then pen.breakLine '\n' else pen
  (ends.foldl Pen.breakLine first).startLine indent

def writePlainRuns (indent : Nat) (foldable : Bool) (pen : Pen) : List Run → Pen
  | [] => pen
  | .spaces count :: rest =>
      let after := writeSpaces indent foldable count pen
      writePlainRuns indent foldable { after with spaced := false, indented := false } rest
  | .breaks ends :: rest => writePlainRuns indent foldable (writeBreaks indent ends pen) rest
  | .word chars :: rest => writePlainRuns indent foldable (pen.write chars) rest

def writePlain (indent : Nat) (foldable : Bool) (chars : List Char) (pen : Pen) : Pen :=
  let parted := if pen.spaced then pen else pen.write [' ']
  writePlainRuns indent foldable { parted with spaced := false, indented := false } (runsOf chars)

/-- Write the runs of a text between single quotes; spaces at either end are not folded. -/
def writeSingleRuns (indent : Nat) (foldable atStart : Bool) (pen : Pen) : List Run → Pen
  | [] => pen
  | .spaces count :: rest =>
      let inside := foldable && !atStart && !rest.isEmpty
      writeSingleRuns indent foldable false (writeSpaces indent inside count pen) rest
  | .breaks ends :: rest =>
      writeSingleRuns indent foldable false (writeBreaks indent ends pen) rest
  | .word chars :: rest =>
      let doubled := chars.flatMap fun c => if c = '\'' then ['\'', '\''] else [c]
      writeSingleRuns indent foldable false (pen.write doubled) rest

def writeSingle (indent : Nat) (foldable : Bool) (chars : List Char) (pen : Pen) : Pen :=
  (writeSingleRuns indent foldable true (pen.mark ['\''] true false false) (runsOf chars)).mark
    ['\''] false false false

/-- The letter that stands for a character behind a backslash. -/
def letterOf? : Char → Option Char
  | '\x00' => some '0'
  | '\x07' => some 'a'
  | '\x08' => some 'b'
  | '\t' => some 't'
  | '\n' => some 'n'
  | '\x0b' => some 'v'
  | '\x0c' => some 'f'
  | '\r' => some 'r'
  | '\x1b' => some 'e'
  | '"' => some '"'
  | '\\' => some '\\'
  | '\u0085' => some 'N'
  | '\u00a0' => some '_'
  | '\u2028' => some 'L'
  | '\u2029' => some 'P'
  | _ => none

/-- Whether a character stands for itself between double quotes. -/
def isDirect (c : Char) : Bool :=
  let code := c.toNat
  c != '"' && c != '\\' && code != 0xFEFF && code != 0x2028 && code != 0x2029
    && ((0x20 ≤ code && code ≤ 0x7E) || (0xA0 ≤ code && code ≤ 0xD7FF)
      || (0xE000 ≤ code && code ≤ 0xFFFD))

def capitalHex (width value : Nat) : List Char :=
  (hexChars width value).map fun c => if 'a' ≤ c ∧ c ≤ 'f' then Char.ofNat (c.toNat - 32) else c

def escaped (c : Char) : List Char :=
  match letterOf? c with
  | some letter => ['\\', letter]
  | none =>
      let code := c.toNat
      if code ≤ 0xFF then '\\' :: 'x' :: capitalHex 2 code
      else if code ≤ 0xFFFF then '\\' :: 'u' :: capitalHex 4 code
      else '\\' :: 'U' :: capitalHex 8 code

/-- Continue a text between double quotes on the next line; a space there is escaped. -/
def foldDouble (indent : Nat) (next : Option Char) (pen : Pen) : Pen :=
  let fresh := { (pen.write ['\\']).startLine indent with spaced := false, indented := false }
  if next = some ' ' then fresh.write ['\\'] else fresh

/-- Write characters between double quotes. `held` are the latest ones, in reverse, that
are not written yet; a line is folded before a space or next to an escape. -/
def writeDoubleChars (indent : Nat) (foldable atStart : Bool) (held : List Char) (pen : Pen) :
    List Char → Pen
  | [] => pen.write held.reverse
  | c :: rest =>
      let inside := foldable && !atStart && !rest.isEmpty
      if isDirect c then
        if inside && (c == ' ' || held.isEmpty)
            && decide (foldColumn < pen.column + held.length) then
          writeDoubleChars indent foldable false [c]
            (foldDouble indent (some c) (pen.write held.reverse)) rest
        else writeDoubleChars indent foldable false (c :: held) pen rest
      else
        let after := (pen.write held.reverse).write (escaped c)
        if inside && decide (foldColumn + 1 < after.column) then
          writeDoubleChars indent foldable false [] (foldDouble indent rest.head? after) rest
        else writeDoubleChars indent foldable false [] after rest

def writeDouble (indent : Nat) (foldable : Bool) (chars : List Char) (pen : Pen) : Pen :=
  (writeDoubleChars indent foldable true [] (pen.mark ['"'] true false false) chars).mark
    ['"'] false false false

def writeText (indent : Nat) (asKey : Bool) (content : String) (pen : Pen) : Pen :=
  let chars := content.toList
  match lookOf asKey content with
  | .plain => writePlain indent (!asKey) chars pen
  | .single => writeSingle indent (!asKey) chars pen
  | .double => writeDouble indent (!asKey) chars pen

def floatText (value : Binary64) : String :=
  if value.isNaN then ".nan"
  else if value.isInfinite then if value.isNegative then "-.inf" else ".inf"
  else
    let chars := (FloatNotation.plain.text value).toList
    if chars.contains '.' then String.ofList chars
    else String.ofList (chars.flatMap fun c => if c = 'e' then ['.', '0', 'e'] else [c])

def wordOf : Scalar → String
  | .null => "null"
  | .bool value => if value then "true" else "false"
  | .int value => integerText value
  | .float value => floatText value
  | .text value => value
  | .date .. => ""
  | .bytes _ => ""

def writeScalar (indent : Nat) (asKey : Bool) (value : Scalar) (pen : Pen) : Pen :=
  match value with
  | .text content => writeText indent asKey content pen
  | other => writePlain indent (!asKey) (wordOf other).toList pen

def tagWidth : Scalar → Nat
  | .text _ => 5
  | .int _ => 5
  | .float _ => 7
  | _ => 6

/-- Whether a key can stand in front of its colon without a mark of its own. -/
def isSimpleKey (key : Scalar) : Bool :=
  let chars := (wordOf key).toList
  !chars.isEmpty && !chars.any isTextBreak && decide (tagWidth key + chars.length < 128)

/-- What was come across on the way through a value. -/
structure Repetitions where
  met : List Nat := []
  again : List Nat := []

def Repetitions.repeat (found : Repetitions) (label : Nat) : Repetitions :=
  if label ∈ found.again then found else { found with again := label :: found.again }

mutual
/-- Look for labels in a value. What has been looked through is not looked through again. -/
def findRepeated (found : Repetitions) : Data → Repetitions
  | .shared label content =>
      if label ∈ found.met then found.repeat label
      else findRepeated { found with met := label :: found.met } content
  | .list items => findRepeatedItems found items
  | .map entries => findRepeatedEntries found entries
  | .pair key value => findRepeated (findRepeated found key) value
  | .scalar _ | .set _ | .enclosing _ => found
def findRepeatedItems (found : Repetitions) : List Data → Repetitions
  | [] => found
  | item :: items => findRepeatedItems (findRepeated found item) items
def findRepeatedEntries (found : Repetitions) : List (Scalar × Data) → Repetitions
  | [] => found
  | (_, value) :: rest => findRepeatedEntries (findRepeated found value) rest
end

def repeatedLabels (value : Data) : List Nat := (findRepeated {} value).again.reverse

def Pen.name? (pen : Pen) (label : Nat) : Option (List Char) :=
  (pen.named.idxOf? label).map fun place => ("id" ++ paddedNumber 3 (place + 1)).toList

def Pen.introduce (pen : Pen) (label : Nat) (name : List Char) : Pen :=
  { pen.mark ('&' :: name) true false false with introduced := label :: pen.introduced }

def pairTag : List Char := "!!python/tuple".toList

def innerIndent (around : Option Nat) (outermost : Nat) : Nat :=
  match around with
  | none => outermost
  | some indent => indent + 2

mutual
/-- Write a value; `inMapping` tells whether it is the key or value of a member. -/
def writeData (around : Option Nat) (inMapping : Bool) (pen : Pen) : Data → Pen
  | .scalar value => writeScalar (innerIndent around 2) false value pen
  | .list [] => (pen.mark ['['] true true false).mark [']'] false false false
  | .list items =>
      let indent :=
        if inMapping && !pen.indented then around.getD 0 else innerIndent around 0
      writeItems indent pen items
  | .map [] => (pen.mark ['\x7b'] true true false).mark ['\x7d'] false false false
  | .map entries => writeMembers (innerIndent around 0) pen entries
  | .pair key value =>
      let indent := innerIndent around 0
      let tagged := pen.mark pairTag true false false
      let first := (tagged.startLine indent).mark ['-'] true false true
      let second :=
        ((writeData (some indent) false first key).startLine indent).mark ['-'] true false true
      writeData (some indent) false second value
  | .shared label content =>
      match pen.name? label with
      | none => writeData around inMapping pen content
      | some name =>
          if label ∈ pen.introduced then pen.mark ('*' :: name) true false false
          else writeData around inMapping (pen.introduce label name) content
  | .set _ | .enclosing _ => pen
def writeItems (indent : Nat) (pen : Pen) : List Data → Pen
  | [] => pen
  | item :: items =>
      let marked := (pen.startLine indent).mark ['-'] true false true
      writeItems indent (writeData (some indent) false marked item) items
def writeMembers (indent : Nat) (pen : Pen) : List (Scalar × Data) → Pen
  | [] => pen
  | (key, value) :: rest =>
      let line := pen.startLine indent
      let marked :=
        if isSimpleKey key then
          (writeScalar (indent + 2) true key line).mark [':'] false false false
        else
          let keyed := writeScalar (indent + 2) false key (line.mark ['?'] true false true)
          (keyed.startLine indent).mark [':'] true false true
      writeMembers indent (writeData (some indent) true marked value) rest
end

def write (value : Data) : String :=
  ((writeData none false { named := repeatedLabels value } value).startLine 0).written

end Yaml

end NodeForms
