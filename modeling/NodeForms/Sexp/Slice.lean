import NodeForms.Sexp.Basic

/-!
# Parts of a sequence

Positions count from zero, or back from the end when they are negative. A slice runs
from a start to a stop by a step; bounds beyond the sequence are moved to its ends.
-/

namespace NodeForms

/-- What can go wrong when a part of a sequence is taken. -/
inductive SliceError where
  | outside
  | zeroStep
deriving DecidableEq, Repr

def elementAt (items : List α) (position : Int) : Except SliceError α :=
  let index := if position < 0 then position + items.length else position
  if index < 0 then .error .outside
  else match items[index.toNat]? with
    | some item => .ok item
    | none => .error .outside

def clampBound (length : Nat) (backward : Bool) (bound : Int) : Int :=
  let low : Int := if backward then -1 else 0
  let high : Int := if backward then (length : Int) - 1 else length
  let counted := if bound < 0 then bound + length else bound
  max low (min counted high)

/-- Positions from `position` toward `stop` by `step`, at most `fuel` of them. -/
def stepPositions (step stop : Int) : Nat → Int → List Nat
  | 0, _ => []
  | fuel + 1, position =>
      if (0 < step ∧ position < stop) ∨ (step < 0 ∧ stop < position) then
        position.toNat :: stepPositions step stop fuel (position + step)
      else []

/-- The elements of a slice; an absent bound is the end the step starts from or runs to. -/
def slice (items : List α) (start stop : Option Int) (step : Int) :
    Except SliceError (List α) :=
  if step = 0 then .error .zeroStep
  else
    let backward := decide (step < 0)
    let length := items.length
    let first := match start with
      | some bound => clampBound length backward bound
      | none => if backward then (length : Int) - 1 else 0
    let last := match stop with
      | some bound => clampBound length backward bound
      | none => if backward then -1 else (length : Int)
    .ok ((stepPositions step last length first).filterMap fun index => items[index]?)

end NodeForms
