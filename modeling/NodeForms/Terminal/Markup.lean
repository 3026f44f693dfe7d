import NodeForms.Terminal.Constant
import NodeForms.Terminal.Emoji
import NodeForms.Terminal.Style

/-!
# Marked-up text

Text for a terminal may hold tags in square brackets: `[bold]` opens a style, `[/bold]`
closes the latest open style of that name, and `[/]` closes the latest one of all. A
backslash in front of a tag makes it text, and two of them stand for one. This library
writes to terminals without styles, so that what remains of marked-up text is its plain
text. It has none if it closes a style that is not open, and if a tag cannot be understood
at all. Names of pictures are replaced in each text between two tags.
-/

namespace NodeForms

namespace Markup

inductive Piece where
  | text (chars : List Char)
  | tag (content : List Char)
deriving DecidableEq, Repr

def startsTag (c : Char) : Bool :=
  ('a' ≤ c && c ≤ 'z') || c == '#' || c == '/' || c == '@'

/-- How many characters come before the closing bracket, if one comes before any opening
bracket. -/
def closingDistance? : List Char → Option Nat
  | [] => none
  | c :: rest =>
      if c = ']' then some 0
      else if c = '[' then none
      else (closingDistance? rest).map (· + 1)

def tagLength? : List Char → Option Nat
  | [] => none
  | c :: rest => if startsTag c then (closingDistance? rest).map (· + 1) else none

def slashes (number : Nat) : List Char := List.replicate number '\\'

def textPiece (latest : List Char) : List Piece :=
  if latest.isEmpty then [] else [.text latest.reverse]

/-- A tag after so many backslashes: an odd one makes it text. -/
def tagPieces (number : Nat) (content : List Char) : List Piece :=
  textPiece (slashes (number / 2)) ++
    [if number % 2 = 0 then .tag content else .text ('[' :: (content ++ [']']))]

/-- The pieces of what follows a text, the latest character of which comes first, and so many
backslashes. A backslash in front of a bracket that starts no tag is dropped. -/
def piecesAfter (latest : List Char) (number : Nat) : List Char → List Piece
  | [] => textPiece (slashes number ++ latest)
  | '\\' :: rest => piecesAfter latest (number + 1) rest
  | '[' :: rest =>
      match tagLength? rest with
      | some length =>
          textPiece latest ++ tagPieces number (rest.take length)
            ++ piecesAfter [] 0 (rest.drop (length + 1))
      | none => piecesAfter ('[' :: (slashes (number - 1) ++ latest)) 0 rest
  | c :: rest => piecesAfter (c :: (slashes number ++ latest)) 0 rest
termination_by chars => chars.length
decreasing_by all_goals (simp only [List.length_cons, List.length_drop]; omega)

def pieces (text : String) : List Piece := piecesAfter [] 0 text.toList

/-- Why a text cannot be shown. -/
inductive Fault where
  | unopened (tag : String)
  /-- A tag says what a click does, but with what is no constant. -/
  | unreadable (parameter : String)
  /-- A level of a colour is missing in a description of a style. -/
  | missingLevel (description : String)
deriving DecidableEq, Repr

structure OpenStyle where
  name : String
  parameter : Option (List Char) := none

def isOrder (c : Char) : Bool :=
  c.toNat == 7 || c.toNat == 8 || c.toNat == 11 || c.toNat == 12 || c.toNat == 13

/-- What a tag says before and after its first equals sign, if there is one. -/
def tagParts (content : List Char) : List Char × Option (List Char) :=
  (content.takeWhile (· != '='),
    match content.dropWhile (· != '=') with
    | [] => none
    | _ :: parameter => some parameter)

/-- Check that a style can be closed: one that tells what a click does needs a parameter that
can be read, if any. -/
def OpenStyle.checkClosing (style : OpenStyle) : Except Fault Unit :=
  match style.parameter with
  | some parameter =>
      if style.name.startsWith "@" && !parameter.isEmpty && !isClickParameter parameter then
        .error (.unreadable (String.ofList parameter))
      else .ok ()
  | none => .ok ()

def nameOf (description : List Char) : Except Fault String :=
  match styleName? description with
  | some name => .ok name
  | none => .error (.missingLevel (String.ofList description))

/-- The open styles, latest first, after a tag. A tag may have a parameter after an equals
sign. -/
def stylesAfter (styles : List OpenStyle) (content : List Char) :
    Except Fault (List OpenStyle) := do
  match tagParts content with
  | ('/' :: description, _) =>
      if (trimBlanks description).isEmpty then
        match styles with
        | [] => .error (.unopened (String.ofList content))
        | style :: rest =>
            style.checkClosing
            return rest
      else
        let name ← nameOf description
        match styles.find? fun style => style.name == name with
        | none => .error (.unopened (String.ofList content))
        | some style =>
            style.checkClosing
            return styles.eraseP fun style => style.name == name
  | (description, parameter) =>
      return { name := ← nameOf description, parameter } :: styles

def shown (styles : List OpenStyle) : List Piece → Except Fault (List Char)
  | [] => .ok []
  | .text chars :: rest =>
      (shown styles rest).map fun others =>
        (Emoji.spelled chars).filter (fun c => !isOrder c) ++ others
  | .tag content :: rest => do
      let styles ← stylesAfter styles content
      shown styles rest

/-- Check the style of a tag with its parameter, which adds to the description. It counts only
as far as it describes a style; the name alone has been read before. -/
def checkParameter : Piece → Except Fault Unit
  | .text _ => .ok ()
  | .tag content =>
      let (description, parameter) := tagParts content
      if description.head? == some '/' then .ok ()
      else do
        let name ← nameOf description
        let whole := name.toList ++ (parameter.elim [] (' ' :: ·))
        match readStyle whole with
        | .error .missingLevel => .error (.missingLevel (String.ofList whole))
        | _ => .ok ()

def follow (text : String) : Except Fault String :=
  (shown [] (pieces text)).map String.ofList

def checkStyles (text : String) : Except Fault Unit := (pieces text).forM checkParameter

/-- The plain text of a marked-up text. All tags are followed before the styles count. -/
def plain (text : String) : Except Fault String := do
  let shown ← follow text
  checkStyles text
  return shown

end Markup

end NodeForms
