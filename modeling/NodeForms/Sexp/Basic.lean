import NodeForms.Text.Quoted

/-!
# S-expression values

The forms this library writes: atoms for names, integers, texts, and ordered
sequences of such values. A tree with misplaced payloads leaves something else in its
form; it is no part of the notation, is never read, and some of it cannot be written.
-/

namespace NodeForms

/-- What a misplaced payload leaves in a form. -/
inductive Foreign where
  /-- Something other than an integer in the place of one, by its plain text. -/
  | noInteger (plain : String)
  | loose (text : String)
  | unwritable (shown : String)
deriving DecidableEq, Repr, Inhabited

namespace Foreign

def text : Foreign → String
  | .noInteger plain => plain
  | .loose text => text
  | .unwritable _ => ""

def typeName : Foreign → String
  | .noInteger _ => "Int"
  | .loose _ => "str"
  | .unwritable _ => "object"

def display : Foreign → String
  | .noInteger plain => "Int(value=" ++ plain ++ ")"
  | .loose text => quoted text
  | .unwritable shown => shown

end Foreign

/-- An S-expression value. -/
inductive Sexp where
  | atom (name : String)
  | int (value : Int)
  | text (value : String)
  | seq (items : List Sexp)
  | foreign (what : Foreign)
deriving Repr, Inhabited

namespace Sexp

def nil : Sexp := .atom "nil"

def ofBool (value : Bool) : Sexp := .atom (if value then "true" else "false")

/-- The name of a value's type in messages. -/
def typeName : Sexp → String
  | .atom _ => "Atom"
  | .int _ => "Int"
  | .text _ => "Text"
  | .seq _ => "Seq"
  | .foreign what => what.typeName

/-- Whether a value is a sequence. -/
def isSeq : Sexp → Bool
  | .seq _ => true
  | _ => false

/-- The elements of a sequence, none for any other value. -/
def items : Sexp → List Sexp
  | .seq items => items
  | _ => []

def head? (value : Sexp) : Option Sexp := value.items.head?

def tail (value : Sexp) : List Sexp := value.items.tail

mutual
/-- Structural equality. -/
def same : Sexp → Sexp → Bool
  | .atom first, .atom second => first == second
  | .int first, .int second => first == second
  | .text first, .text second => first == second
  | .seq first, .seq second => sameItems first second
  | .foreign first, .foreign second => first == second
  | _, _ => false
def sameItems : List Sexp → List Sexp → Bool
  | [], [] => true
  | first :: firsts, second :: seconds => same first second && sameItems firsts seconds
  | _, _ => false
end

mutual
theorem same_iff : (first second : Sexp) → (first.same second = true ↔ first = second)
  | .atom _, second => by cases second <;> simp [same]
  | .int _, second => by cases second <;> simp [same]
  | .text _, second => by cases second <;> simp [same]
  | .foreign _, second => by cases second <;> simp [same]
  | .seq firsts, second => by
      cases second with
      | seq seconds => simpa [same] using sameItems_iff firsts seconds
      | _ => simp [same]
theorem sameItems_iff :
    (firsts seconds : List Sexp) → (sameItems firsts seconds = true ↔ firsts = seconds)
  | [], seconds => by cases seconds <;> simp [sameItems]
  | first :: firsts, seconds => by
      cases seconds with
      | nil => simp [sameItems]
      | cons second seconds =>
          simp [sameItems, same_iff first second, sameItems_iff firsts seconds]
end

instance : DecidableEq Sexp := fun first second =>
  decidable_of_iff _ (same_iff first second)

mutual
/-- Whether nothing foreign stands in a form, at any depth. -/
def isComplete : Sexp → Bool
  | .seq items => itemsComplete items
  | .foreign _ => false
  | _ => true
def itemsComplete : List Sexp → Bool
  | [] => true
  | item :: rest => isComplete item && itemsComplete rest
end

mutual
def display : Sexp → String
  | .atom name => "Atom(name=" ++ quoted name ++ ")"
  | .int value => "Int(value=" ++ integerText value ++ ")"
  | .text value => "Text(value=" ++ quoted value ++ ")"
  | .foreign what => what.display
  | .seq [] => "Seq(items=())"
  | .seq [item] => "Seq(items=(" ++ display item ++ ",))"
  | .seq (item :: items) => "Seq(items=(" ++ display item ++ displayRest items ++ "))"
def displayRest : List Sexp → String
  | [] => ""
  | item :: items => ", " ++ display item ++ displayRest items
end

def displayItems (items : List Sexp) : String := ", ".intercalate (items.map display)

end Sexp

end NodeForms
