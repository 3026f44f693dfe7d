import NodeForms.Decimal.Notation
import NodeForms.Document.Calendar

/-!
# Document data

What a document holds once it is read: scalars, lists, and mappings from scalars whose
members keep the order in which they were written. The same type serves every document
notation, so reading a document and giving it a meaning are separate steps.

In some notations one collection can stand in several places, even inside of itself. It is
spelled out in all of them, and a label tells that it is one; inside of itself the spelling
ends in a mark.
-/

namespace NodeForms

/-- A moment of a calendar day, with an optional distance from universal time. -/
structure TimeOfDay where
  hour : Nat
  minute : Nat
  second : Nat
  microsecond : Nat
  offset : Option Int
deriving DecidableEq, Repr, Inhabited

namespace TimeOfDay

/-- A moment of a day as a point in time, in millionths of a second of universal time; the
distance from universal time counts as none if it is not known. -/
def instant (year month day : Nat) (time : TimeOfDay) : Int :=
  let seconds : Int := dayNumber year month day * 86400 + time.hour * 3600 + time.minute * 60
    + time.second
  (seconds - time.offset.getD 0) * 1000000 + time.microsecond

end TimeOfDay

inductive Scalar where
  | null
  | bool (value : Bool)
  | int (value : Int)
  | float (value : Binary64)
  | text (value : String)
  /-- A calendar day, with a moment of that day if one is given. -/
  | date (year month day : Nat) (time : Option TimeOfDay)
  | bytes (value : List UInt8)
deriving DecidableEq, Repr, Inhabited

/-- A value of a document. -/
inductive Data where
  | scalar (value : Scalar)
  | list (items : List Data)
  | map (entries : List (Scalar × Data))
  | set (members : List Scalar)
  | pair (key value : Data)
  /-- A list, mapping or set that more than one way leads to. It has the same label on all
  of them, and a different one from every other. -/
  | shared (label : Nat) (content : Data)
  /-- A list, or else a mapping, inside of itself, where it is not spelled out any more. -/
  | enclosing (isList : Bool)
deriving Repr, Inhabited

namespace Scalar

def asNumber? : Scalar → Option (Int ⊕ Binary64)
  | .bool value => some (.inl (if value then 1 else 0))
  | .int value => some (.inl value)
  | .float value => some (.inr value)
  | _ => none

def isNaN : Scalar → Bool
  | .float value => value.isNaN
  | _ => false

def instant? : Scalar → Option Int
  | .date year month day (some time) => time.offset.map fun _ => time.instant year month day
  | _ => none

/-- Equality as document values compare: numbers by value, whatever their type, and moments
as points in time if their distances from universal time are known. -/
def equals (first second : Scalar) : Bool :=
  match first.asNumber?, second.asNumber? with
  | some (.inl a), some (.inl b) => a == b
  | some (.inl a), some (.inr b) => b.toInt? == some a
  | some (.inr a), some (.inl b) => a.toInt? == some b
  | some (.inr a), some (.inr b) => a.equals b
  | _, _ =>
      first == second
        || match first.instant?, second.instant? with
          | some a, some b => a == b
          | _, _ => false

/-- Whether a scalar counts as true. -/
def isTruthy : Scalar → Bool
  | .null => false
  | .bool value => value
  | .int value => value != 0
  | .float value => !value.isZero
  | .text value => value != ""
  | .date .. => true
  | .bytes value => !value.isEmpty

/-- The name of a scalar's type in messages. -/
def typeName : Scalar → String
  | .null => "NoneType"
  | .bool _ => "bool"
  | .int _ => "int"
  | .float _ => "float"
  | .text _ => "str"
  | .date _ _ _ none => "date"
  | .date _ _ _ (some _) => "datetime"
  | .bytes _ => "bytes"

end Scalar

namespace Data

def null : Data := .scalar .null

def text (value : String) : Data := .scalar (.text value)

def int (value : Int) : Data := .scalar (.int value)

/-- A value without the labels on it; those of its parts stay. -/
def bare : Data → Data
  | .shared _ content => content.bare
  | value => value

def isNull : Data → Bool
  | .scalar .null => true
  | .shared _ content => content.isNull
  | _ => false

/-- Whether a value counts as true: an empty list, mapping or set does not. -/
def isTruthy : Data → Bool
  | .scalar value => value.isTruthy
  | .list items => !items.isEmpty
  | .map entries => !entries.isEmpty
  | .set members => !members.isEmpty
  | .pair .. => true
  | .shared _ content => content.isTruthy
  | .enclosing _ => true

/-- The name of a value's type in messages. -/
def typeName : Data → String
  | .scalar value => value.typeName
  | .list _ => "list"
  | .map _ => "dict"
  | .set _ => "set"
  | .pair .. => "tuple"
  | .shared _ content => content.typeName
  | .enclosing isList => if isList then "list" else "dict"

end Data

abbrev Entries := List (Scalar × Data)

namespace Entries

def find? (entries : Entries) (key : Scalar) : Option Data :=
  match entries with
  | [] => none
  | (name, value) :: rest => if name.equals key then some value else find? rest key

def get? (entries : Entries) (name : String) : Option Data := find? entries (.text name)

/-- Put a member into a mapping; one that is there already keeps its place and its key. -/
def insert (entries : Entries) (key : Scalar) (value : Data) : Entries :=
  match entries with
  | [] => [(key, value)]
  | (name, old) :: rest =>
      if name.equals key then (name, value) :: rest else (name, old) :: insert rest key value

def ofList (members : List (Scalar × Data)) : Entries :=
  members.foldl (fun entries (key, value) => insert entries key value) []

def keys (entries : Entries) : List Scalar := entries.map Prod.fst

end Entries

namespace Data

mutual
/-- Equality as document values compare: numbers by value, mappings without order. -/
def equals : Data → Data → Bool
  | .scalar first, second =>
      match second.bare with
      | .scalar other => first.equals other
      | _ => false
  | .list first, second =>
      match second.bare with
      | .list other => listEquals first other
      | _ => false
  | .map first, second =>
      match second.bare with
      | .map other => first.length == other.length && entriesEqual first other
      | _ => false
  | .set first, second =>
      match second.bare with
      | .set other =>
          first.length == other.length && first.all fun member => other.any member.equals
      | _ => false
  | .pair key value, second =>
      match second.bare with
      | .pair otherKey otherValue => equals key otherKey && equals value otherValue
      | _ => false
  | .shared _ content, second => equals content second
  | .enclosing _, _ => false
def listEquals : List Data → List Data → Bool
  | [], [] => true
  | first :: firsts, second :: seconds => equals first second && listEquals firsts seconds
  | _, _ => false
def entriesEqual : List (Scalar × Data) → Entries → Bool
  | [], _ => true
  | (key, value) :: rest, entries =>
      (match entries.find? key with
        | some other => equals value other
        | none => false) && entriesEqual rest entries
end

end Data

end NodeForms
