import NodeForms.Text.Blank
import NodeForms.Text.Columns

/-!
# Lines of a terminal

A text that is too wide for its place is broken between words. A word is a run of
characters other than blanks with the blanks around it; the blanks after a word may reach
beyond the place, and are then left out. What becomes of a word that does not fit a line
by itself is a choice: it goes on in the next line, or it is cut.
-/

namespace NodeForms

/-- What becomes of a word that is wider than a line. -/
inductive Overflow where
  | fold
  /-- It is cut, and an ellipsis stands at the end of the line. -/
  | ellipsis
deriving DecidableEq, Repr

inductive Alignment where
  | left
  /-- In the middle, one column further left if the blanks cannot be halved. -/
  | center
  | right
deriving DecidableEq, Repr, Inhabited

namespace Line

def columns (chars : List Char) : Nat :=
  chars.foldr (fun c total => charColumns c + total) 0

def blanks (number : Nat) : List Char := List.replicate number ' '

def trimEnd (chars : List Char) : List Char := (chars.reverse.dropWhile isBlank).reverse

/-- A beginning of characters that takes so many columns, found by halving the stretch in
which it ends: where characters take no column there may be several. A wide character that
goes beyond makes room for a blank. `fuel` bounds the halvings. -/
def beginning (width : Nat) (chars : List Char) : Nat → Nat → Nat → List Char
  | 0, _, _ => []
  | fuel + 1, low, high =>
      let middle := (low + high) / 2
      let before := chars.take (middle + 1)
      let used := columns before
      if used = width + 1 ∧ before.getLast?.any (charColumns · == 2) then before.dropLast ++ [' ']
      else if used = width then before
      else if width < used then beginning width chars fuel low middle
      else beginning width chars fuel middle high

/-- Characters up to so many columns, with blanks if they take fewer. -/
def exactly (width : Nat) (chars : List Char) : List Char :=
  let used := columns chars
  if used ≤ width then chars ++ blanks (width - used)
  else if width = 0 then []
  else beginning width chars (chars.length + 1) 0 chars.length

def cut (overflow : Overflow) (width : Nat) (chars : List Char) : List Char :=
  if columns chars ≤ width then chars
  else
    match overflow with
    | .fold => exactly width chars
    | .ellipsis => exactly (width - 1) chars ++ ['…']

def align (alignment : Alignment) (overflow : Overflow) (width : Nat) (chars : List Char) :
    List Char :=
  match alignment with
  | .left =>
      let line := cut overflow width chars
      line ++ blanks (width - columns line)
  | .center =>
      let line := cut overflow width (trimEnd chars)
      let before := (width - columns line) / 2
      blanks before ++ line ++ blanks (width - columns line - before)
  | .right =>
      let line := cut overflow width (trimEnd chars)
      blanks (width - columns line) ++ line

/-- Replace tabs by blanks up to the next multiple of eight columns. -/
def withoutTabs (position : Nat) : List Char → List Char
  | [] => []
  | c :: rest =>
      if c = '\t' then
        let number := 8 - position % 8
        blanks number ++ withoutTabs (position + number) rest
      else c :: withoutTabs (position + charColumns c) rest

def split : List Char → List (List Char)
  | [] => [[]]
  | c :: rest =>
      if c = '\n' then [] :: split rest
      else
        match split rest with
        | [] => [[c]]
        | line :: lines => (c :: line) :: lines

def isLineEnd (c : Char) : Bool :=
  let code := c.toNat
  (10 ≤ code && code ≤ 13) || (28 ≤ code && code ≤ 30) || code == 0x85 || code == 0x2028
    || code == 0x2029

/-- The columns of the widest line of a text, any line end counted, after a part of a line
that takes so many columns. -/
def widestAfter (used : Nat) : List Char → Nat
  | [] => used
  | c :: rest =>
      if isLineEnd c then max used (widestAfter 0 rest)
      else widestAfter (used + charColumns c) rest

def widest (text : String) : Nat := widestAfter 0 text.toList

/-- What the characters of a word so far are; the latest of them comes first. -/
inductive WordSoFar where
  | blanks (chars : List Char)
  | open (chars : List Char)
  | closed (chars : List Char)

def wordsAfter : WordSoFar → List Char → List (List Char)
  | .blanks _, [] => []
  | .open chars, [] => [chars.reverse]
  | .closed chars, [] => [chars.reverse]
  | .blanks chars, c :: rest =>
      wordsAfter (if isBlank c then .blanks (c :: chars) else .open (c :: chars)) rest
  | .open chars, c :: rest =>
      wordsAfter (if isBlank c then .closed (c :: chars) else .open (c :: chars)) rest
  | .closed chars, c :: rest =>
      if isBlank c then wordsAfter (.closed (c :: chars)) rest
      else chars.reverse :: wordsAfter (.open [c]) rest

def words (chars : List Char) : List (List Char) := wordsAfter (.blanks []) chars

/-- The pieces of a word that each fit a line, after a piece with so many columns left. -/
def foldedAfter (width left : Nat) : List Char → List (List Char)
  | [] => [[]]
  | c :: rest =>
      if charColumns c ≤ left then
        match foldedAfter width (left - charColumns c) rest with
        | [] => [[c]]
        | piece :: pieces => (c :: piece) :: pieces
      else
        match foldedAfter width (width - charColumns c) rest with
        | [] => [[], [c]]
        | piece :: pieces => [] :: (c :: piece) :: pieces

/-- A line that words are put into. -/
structure Filling where
  before : List (List Char) := []
  line : List Char := []
  used : Nat := 0

namespace Filling

/-- Start another line with characters; an empty first line is filled instead. -/
def next (filling : Filling) (chars : List Char) : Filling :=
  if filling.before.isEmpty ∧ filling.line.isEmpty then ⟨[], chars, columns chars⟩
  else ⟨filling.line :: filling.before, chars, columns chars⟩

def put (overflow : Overflow) (width : Nat) (filling : Filling) (word : List Char) : Filling :=
  let needed := columns (trimEnd word)
  if filling.used + needed ≤ width then
    { filling with line := filling.line ++ word, used := filling.used + columns word }
  else if needed ≤ width ∨ overflow = .ellipsis then filling.next word
  else (foldedAfter width width word).foldl next filling

def lines (filling : Filling) : List (List Char) := (filling.line :: filling.before).reverse

end Filling

def withoutExcess (width : Nat) (chars : List Char) : List Char :=
  let trailing := chars.length - (trimEnd chars).length
  chars.take (chars.length - min trailing (chars.length - width))

/-- The lines that a single line takes in a place of some width. -/
def broken (overflow : Overflow) (width : Nat) (chars : List Char) : List (List Char) :=
  let chars := withoutTabs 0 chars
  match words chars with
  | [] => [withoutExcess width chars]
  | found => (found.foldl (Filling.put overflow width) {}).lines.map (withoutExcess width)

def wrap (overflow : Overflow) (width : Nat) (text : String) : List (List Char) :=
  ((split text.toList).flatMap (broken overflow width)).map (cut overflow width)

/-- The lines that a text takes in a place of some width, filled up with blanks. -/
def wrapAligned (alignment : Alignment) (overflow : Overflow) (width : Nat) (text : String) :
    List (List Char) :=
  ((split text.toList).flatMap (broken overflow width)).map (align alignment overflow width)

end Line

end NodeForms
