import NodeForms.Document.Data
import NodeForms.Text.Quoted

/-!
# Document data in messages

How values look inside error messages, and the plain text of a value where a name is
called for and something else was given.
-/

namespace NodeForms

def twoDigits (value : Nat) : String :=
  String.ofList (FloatNotation.padded 2 (Nat.toDigits 10 value))

def paddedNumber (width value : Nat) : String :=
  String.ofList (FloatNotation.padded width (Nat.toDigits 10 value))

namespace TimeOfDay

def displayOffset (offset : Int) : String :=
  if offset = 0 then "datetime.timezone.utc"
  else
    let days := offset.fdiv 86400
    let seconds := offset.fmod 86400
    let parts := (if days = 0 then [] else ["days=" ++ integerText days])
      ++ (if seconds = 0 then [] else ["seconds=" ++ integerText seconds])
    "datetime.timezone(datetime.timedelta(" ++ ", ".intercalate parts ++ "))"

/-- The further arguments of a moment inside a message. -/
def display (time : TimeOfDay) : String :=
  let fields := [naturalText time.hour, naturalText time.minute]
  let fields := if time.second = 0 ∧ time.microsecond = 0 then fields
    else fields ++ [naturalText time.second]
  let fields := if time.microsecond = 0 then fields
    else fields ++ [naturalText time.microsecond]
  let fields := match time.offset with
    | none => fields
    | some offset => fields ++ ["tzinfo=" ++ displayOffset offset]
  ", ".intercalate fields

/-- A distance from universal time as sign, hours and minutes. -/
def plainOffset (offset : Int) : String :=
  let distance := offset.natAbs
  let seconds := distance % 60
  (if offset < 0 then "-" else "+") ++ twoDigits (distance / 3600) ++ ":"
    ++ twoDigits (distance / 60 % 60)
    ++ (if seconds = 0 then "" else ":" ++ twoDigits seconds)

def plainText (time : TimeOfDay) : String :=
  twoDigits time.hour ++ ":" ++ twoDigits time.minute ++ ":" ++ twoDigits time.second
    ++ (if time.microsecond = 0 then "" else "." ++ paddedNumber 6 time.microsecond)
    ++ (match time.offset with
      | none => ""
      | some offset => plainOffset offset)

end TimeOfDay

namespace Scalar

def displayByte (quote : Char) (byte : UInt8) : List Char :=
  let c := Char.ofNat byte.toNat
  if byte.toNat < 127 then
    if 32 ≤ byte.toNat ∨ c = '\n' ∨ c = '\r' ∨ c = '\t' then quotedChar quote c
    else codeEscape c
  else codeEscape c

def displayBytes (bytes : List UInt8) : String :=
  let quote := quoteFor (bytes.map fun byte => Char.ofNat byte.toNat)
  String.ofList ('b' :: quote :: (bytes.flatMap (displayByte quote) ++ [quote]))

def display : Scalar → String
  | .null => "None"
  | .bool value => if value then "True" else "False"
  | .int value => integerText value
  | .float value => FloatNotation.plain.text value
  | .text value => quoted value
  | .date year month day none =>
      "datetime.date(" ++ ", ".intercalate ([year, month, day].map naturalText) ++ ")"
  | .date year month day (some time) =>
      "datetime.datetime(" ++ ", ".intercalate ([year, month, day].map naturalText) ++ ", "
        ++ time.display ++ ")"
  | .bytes value => displayBytes value

/-- The plain text of a scalar: a text itself, any other as in a message. -/
def plainText : Scalar → String
  | .text value => value
  | .date year month day time =>
      let dayText := paddedNumber 4 year ++ "-" ++ twoDigits month ++ "-" ++ twoDigits day
      match time with
      | none => dayText
      | some moment => dayText ++ " " ++ moment.plainText
  | value => value.display

end Scalar

namespace Data

def ellipsis (value : Data) : String :=
  match value.bare with
  | .map _ | .enclosing false => "\x7b...\x7d"
  | _ => "[...]"

mutual
/-- A value as it stands in a message, inside the collections with the given labels. -/
def displayInside (labels : List Nat) : Data → String
  | .scalar value => value.display
  | .list [] => "[]"
  | .list (item :: items) =>
      "[" ++ displayInside labels item ++ displayRest labels items ++ "]"
  | .map [] => "\x7b\x7d"
  | .map ((key, value) :: entries) =>
      "\x7b" ++ key.display ++ ": " ++ displayInside labels value
        ++ displayEntries labels entries ++ "\x7d"
  | .set [] => "set()"
  | .set (member :: members) =>
      "\x7b" ++ ", ".intercalate ((member :: members).map Scalar.display) ++ "\x7d"
  | .pair key value =>
      "(" ++ displayInside labels key ++ ", " ++ displayInside labels value ++ ")"
  | .shared label content =>
      if label ∈ labels then content.ellipsis else displayInside (label :: labels) content
  | .enclosing isList => (Data.enclosing isList).ellipsis
def displayRest (labels : List Nat) : List Data → String
  | [] => ""
  | item :: items => ", " ++ displayInside labels item ++ displayRest labels items
def displayEntries (labels : List Nat) : List (Scalar × Data) → String
  | [] => ""
  | (key, value) :: entries =>
      ", " ++ key.display ++ ": " ++ displayInside labels value ++ displayEntries labels entries
end

def display (value : Data) : String := displayInside [] value

/-- The plain text of a value: a text itself, any other as in a message. -/
def plainText (value : Data) : String :=
  match value.bare with
  | .scalar content => content.plainText
  | _ => value.display

end Data

end NodeForms
