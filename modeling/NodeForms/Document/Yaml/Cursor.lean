/-!
# Places in a YAML text

A cursor holds the characters that lie ahead and the place they start at. Indentation
decides the structure of a text, so the column is counted along the way. A line ends at a
line feed, a carriage return, both together, or one of the three further line ends.
-/

namespace NodeForms

namespace Yaml

def isBreak (c : Char) : Bool :=
  c == '\n' || c == '\r' || c == '\u0085' || c == '\u2028' || c == '\u2029'

def isAllowed (c : Char) : Bool :=
  let code := c.toNat
  code == 9 || code == 10 || code == 13 || (32 ≤ code && code ≤ 126) || code == 0x85
    || (0xA0 ≤ code && code ≤ 0xD7FF) || (0xE000 ≤ code && code ≤ 0xFFFD) || 0x10000 ≤ code

def endsLine : Option Char → Bool
  | none => true
  | some c => isBreak c

def endsWord : Option Char → Bool
  | none => true
  | some c => c == ' ' || c == '\t' || isBreak c

def endsStrictWord : Option Char → Bool
  | none => true
  | some c => c == ' ' || isBreak c

def isNameChar (c : Char) : Bool := c.isAlphanum || c == '-' || c == '_'

/-- A place in a text. -/
structure Cursor where
  ahead : List Char
  total : Nat
  offset : Nat := 0
  line : Nat := 0
  column : Nat := 0
deriving Repr, Inhabited

namespace Cursor

def start (chars : List Char) : Cursor := { ahead := chars, total := chars.length }

def peek (cursor : Cursor) : Option Char := cursor.ahead.head?

def peekAt (cursor : Cursor) (distance : Nat) : Option Char := cursor.ahead[distance]?

def sees (cursor : Cursor) (c : Char) : Bool := cursor.peek == some c

def starts (cursor : Cursor) (chars : List Char) : Bool := chars.isPrefixOf cursor.ahead

/-- Move past one character. -/
def next (cursor : Cursor) : Cursor :=
  match cursor.ahead with
  | [] => cursor
  | c :: rest =>
      if isBreak c && !(c == '\r' && rest.head? == some '\n') then
        ⟨rest, cursor.total, cursor.offset + 1, cursor.line + 1, 0⟩
      else
        let columns := if c == '\ufeff' then 0 else 1
        ⟨rest, cursor.total, cursor.offset + 1, cursor.line, cursor.column + columns⟩

def skip : Nat → Cursor → Cursor
  | 0, cursor => cursor
  | count + 1, cursor => skip count cursor.next

def span (cursor : Cursor) (holds : Char → Bool) : List Char × Cursor :=
  let run := cursor.ahead.takeWhile holds
  (run, skip run.length cursor)

def dropWhile (cursor : Cursor) (holds : Char → Bool) : Cursor := (cursor.span holds).2

def dropSpaces (cursor : Cursor) : Cursor := cursor.dropWhile (· == ' ')

def dropComment (cursor : Cursor) : Cursor :=
  if cursor.sees '#' then cursor.dropWhile (!isBreak ·) else cursor

/-- The line end ahead, if there is one, and the place after it. The two line ends beyond
the basic ones keep their character; all others count as a line feed. -/
def takeBreak (cursor : Cursor) : Option Char × Cursor :=
  match cursor.ahead with
  | '\r' :: '\n' :: _ => (some '\n', skip 2 cursor)
  | c :: _ =>
      if c == '\u2028' || c == '\u2029' then (some c, cursor.next)
      else if isBreak c then (some '\n', cursor.next)
      else (none, cursor)
  | [] => (none, cursor)

/-- Whether three characters that part documents stand here as a word. -/
def atDocumentMark (cursor : Cursor) (mark : Char) : Bool :=
  cursor.starts [mark, mark, mark] && endsWord (cursor.peekAt 3)

def atAnyDocumentMark (cursor : Cursor) : Bool :=
  cursor.atDocumentMark '-' || cursor.atDocumentMark '.'

/-- Move past spaces, but not beyond a column; `fuel` bounds how many. -/
def dropSpacesTo (column : Int) : Nat → Cursor → Cursor
  | 0, cursor => cursor
  | fuel + 1, cursor =>
      if (cursor.column : Int) < column && cursor.sees ' ' then
        dropSpacesTo column fuel cursor.next
      else cursor

def reach (cursor : Cursor) : Nat := cursor.total - cursor.offset

end Cursor

end Yaml

end NodeForms
