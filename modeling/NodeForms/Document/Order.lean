import NodeForms.Document.Data
import NodeForms.Text.Quoted

/-!
# Sorting keys

Keys are sorted when a message lists them. Numbers compare by value, texts by their code
points, bytes and days by their parts; keys of different sorts have no order.
-/

namespace NodeForms

namespace Binary64

def belowInt (x : Binary64) (bound : Int) : Bool :=
  if x.isNaN then false
  else if x.isInfinite then x.isNegative
  else
    let magnitude : Int := x.ratio.1
    decide ((if x.isNegative then -magnitude else magnitude) < bound * x.ratio.2)

def aboveInt (x : Binary64) (bound : Int) : Bool :=
  if x.isNaN then false
  else if x.isInfinite then !x.isNegative
  else
    let magnitude : Int := x.ratio.1
    decide (bound * x.ratio.2 < (if x.isNegative then -magnitude else magnitude))

def below (x y : Binary64) : Bool :=
  if x.isNaN || y.isNaN then false
  else
    let key (z : Binary64) : Int :=
      if z.isNegative then -(z.magnitudeBits : Int) else z.magnitudeBits
    decide (key x < key y)

end Binary64

namespace Scalar

/-- Sorts of keys that have a common order. -/
inductive OrderClass where
  | numbers
  | texts
  | bytes
  | days
  | localTimes
  | universalTimes
  | absent
deriving DecidableEq, Repr

def orderClass : Scalar → OrderClass
  | .null => .absent
  | .bool _ | .int _ | .float _ => .numbers
  | .text _ => .texts
  | .bytes _ => .bytes
  | .date _ _ _ none => .days
  | .date _ _ _ (some ⟨_, _, _, _, none⟩) => .localTimes
  | .date _ _ _ (some ⟨_, _, _, _, some _⟩) => .universalTimes

def listBelow : List Int → List Int → Bool
  | [], second => !second.isEmpty
  | _ :: _, [] => false
  | a :: first, b :: second => decide (a < b) || (a == b && listBelow first second)

def orderKey : Scalar → List Int
  | .text value => value.toList.map fun c => (c.toNat : Int)
  | .bytes value => value.map fun byte => (byte.toNat : Int)
  | .date year month day none => [year, month, day]
  | .date year month day (some time) => [time.instant year month day]
  | _ => []

/-- Whether one key comes strictly before another of the same sort. -/
def isBelow (first second : Scalar) : Bool :=
  match first.asNumber?, second.asNumber? with
  | some (.inl a), some (.inl b) => decide (a < b)
  | some (.inl a), some (.inr b) => b.aboveInt a
  | some (.inr a), some (.inl b) => a.belowInt b
  | some (.inr a), some (.inr b) => a.below b
  | _, _ => listBelow first.orderKey second.orderKey

def sorted? (keys : List Scalar) : Option (List Scalar) :=
  match keys with
  | [] => some []
  | [key] => some [key]
  | first :: rest =>
      if first.orderClass ≠ .absent ∧ rest.all fun key => key.orderClass == first.orderClass then
        some (keys.mergeSort fun a b => !isBelow b a)
      else none

end Scalar

end NodeForms
