import NodeForms.Document.Data
import NodeForms.Text.Quoted

/-!
# Writing JSON

Without an indentation a value is written on one line, with a space after each comma and
colon. With one, each element and member stands on a line of its own. Texts escape the
quote, the backslash and controls alone.
-/

namespace NodeForms

namespace Json

def escapeChar (c : Char) : List Char :=
  if c = '"' then ['\\', '"']
  else if c = '\\' then ['\\', '\\']
  else if c = '\n' then ['\\', 'n']
  else if c = '\r' then ['\\', 'r']
  else if c = '\t' then ['\\', 't']
  else if c = '\x08' then ['\\', 'b']
  else if c = '\x0c' then ['\\', 'f']
  else if c.toNat < 32 then '\\' :: 'u' :: hexChars 4 c.toNat
  else [c]

def textChars (text : String) : List Char := '"' :: (text.toList.flatMap escapeChar ++ ['"'])

def scalarWord : Scalar → String
  | .null => "null"
  | .bool value => if value then "true" else "false"
  | .int value => integerText value
  | .float value => FloatNotation.json.text value
  | .text value => value
  | .date .. => ""
  | .bytes _ => ""

def scalarChars : Scalar → List Char
  | .text value => textChars value
  | value => (scalarWord value).toList

def hasForm : Scalar → Bool
  | .date .. => false
  | .bytes _ => false
  | _ => true

/-- How elements are laid out: on one line, or each on its own line with so many spaces
per level. -/
structure Style where
  indent : Option Nat
deriving DecidableEq, Repr, Inhabited

namespace Style

def compact : Style := ⟨none⟩

def lineStart (style : Style) (level : Nat) : List Char :=
  match style.indent with
  | none => []
  | some width => '\n' :: List.replicate (width * level) ' '

def separator (style : Style) (level : Nat) : List Char :=
  match style.indent with
  | none => [',', ' ']
  | some _ => ',' :: style.lineStart level

end Style

/-- Why a value has no JSON form. -/
inductive WriteFault where
  | noForm
  | selfContaining
deriving DecidableEq, Repr

mutual
/-- The first reason why a value has no JSON form, none if it has one. -/
def fault? : Data → Option WriteFault
  | .scalar value => if hasForm value then none else some .noForm
  | .list items => itemsFault? items
  | .map entries => entriesFault? entries
  | .set _ => some .noForm
  | .pair key value => (fault? key).or (fault? value)
  | .shared _ content => fault? content
  | .enclosing _ => some .selfContaining
def itemsFault? : List Data → Option WriteFault
  | [] => none
  | item :: items => (fault? item).or (itemsFault? items)
def entriesFault? : List (Scalar × Data) → Option WriteFault
  | [] => none
  | (key, value) :: entries =>
      if hasForm key then (fault? value).or (entriesFault? entries) else some .noForm
end

mutual
/-- The characters of a value at a level of nesting. -/
def writeAt (style : Style) (level : Nat) : Data → List Char
  | .scalar value => scalarChars value
  | .list [] => ['[', ']']
  | .list (item :: items) =>
      '[' :: (style.lineStart (level + 1) ++ writeAt style (level + 1) item
        ++ writeItems style (level + 1) items ++ style.lineStart level ++ [']'])
  | .map [] => ['\x7b', '\x7d']
  | .map ((key, value) :: entries) =>
      '\x7b' :: (style.lineStart (level + 1) ++ textChars (scalarWord key) ++ [':', ' ']
        ++ writeAt style (level + 1) value
        ++ writeEntries style (level + 1) entries ++ style.lineStart level ++ ['\x7d'])
  | .set _ => []
  | .pair key value =>
      '[' :: (style.lineStart (level + 1) ++ writeAt style (level + 1) key
        ++ style.separator (level + 1) ++ writeAt style (level + 1) value
        ++ style.lineStart level ++ [']'])
  | .shared _ content => writeAt style level content
  | .enclosing _ => []
def writeItems (style : Style) (level : Nat) : List Data → List Char
  | [] => []
  | item :: items =>
      style.separator level ++ writeAt style level item ++ writeItems style level items
def writeEntries (style : Style) (level : Nat) : List (Scalar × Data) → List Char
  | [] => []
  | (key, value) :: entries =>
      style.separator level ++ textChars (scalarWord key) ++ [':', ' ']
        ++ writeAt style level value ++ writeEntries style level entries
end

/-- The text of a value, or why it has no JSON form. -/
def write (style : Style) (value : Data) : Except WriteFault String :=
  match fault? value with
  | some fault => .error fault
  | none => .ok (String.ofList (writeAt style 0 value))

end Json

end NodeForms
