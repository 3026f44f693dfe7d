import NodeForms.Node.Display

/-!
# Well-typed slots

A node is well typed when each payload fits what its layout expects, and no payload
stands in a slot the layout does not use. The first slot that does not fit is reported.
The children of a node are not looked into.
-/

namespace NodeForms

/-- Whether a payload fits an expectation; an empty slot always does. -/
def Expected.admits (expected : Expected) (value : Value) : Bool :=
  value.isNull || match expected, value with
    | .anything, _ => true
    | .closure, _ => true
    | .node, .node _ => true
    | .nodes, .tuple items => items.all fun item => item.node?.isSome
    | .name, .data (.scalar (.text _)) => true
    | .literal, .data (.scalar (.int _)) => true
    | .literal, .data (.scalar (.float _)) => true
    | .literal, .data (.scalar (.text _)) => true
    | .literal, .symbol _ => true
    | .literal, .regex _ => true
    | .integer, .data (.scalar (.int _)) => true
    | .table, .table _ => true
    | .selector, .selector .. => true
    | _, _ => false

/-- Why a node is not well typed. -/
inductive SlotFault where
  | unused (tag : String) (position : SlotPosition) (payload : String)
  | mismatch (tag role : String) (expected : Expected) (typeName : String)
deriving DecidableEq, Repr

def SlotFault.message : SlotFault → String
  | .unused tag position payload =>
      quoted tag ++ " node does not use slot " ++ position.label ++ ", got " ++ payload
  | .mismatch tag role expected typeName =>
      quoted tag ++ " node slot " ++ quoted role ++ " expects " ++ expected.word ++ ", got "
        ++ typeName

namespace Node

def checkSlot (node : Node) (position : SlotPosition) : Except SlotFault Unit :=
  let value := node.slots.get position
  match node.kind.layout.slotAt position with
  | none => if value.isNull then .ok () else .error (.unused node.tag position value.display)
  | some used =>
      if used.expected.admits value then .ok ()
      else .error (.mismatch node.tag used.role used.expected value.typeName)

/-- Check the three slots of a node in order. -/
def check (node : Node) : Except SlotFault Unit := do
  node.checkSlot .first
  node.checkSlot .second
  node.checkSlot .third

end Node

end NodeForms
