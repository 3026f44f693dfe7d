import NodeForms.Node.Check

/-!
# Making nodes by role

A node can be built from payloads named by role. A role that holds a sequence of nodes
takes any sequence, and keeps it as one that cannot change.
-/

namespace NodeForms

/-- Why a node cannot be built. -/
inductive MakeFault where
  | unknownRole (tag role : String) (known : List String)
  | noSequence
deriving DecidableEq, Repr

def unknownRoleMessage (tag shownRole : String) (known : List String) : String :=
  quoted tag ++ " node has no slot named " ++ shownRole ++ "; expected one of "
    ++ quotedList (sortedTexts known)

def MakeFault.message? : MakeFault → Option String
  | .unknownRole tag role known => some (unknownRoleMessage tag (quoted role) known)
  | .noSequence => none

/-- The elements of document data that is a sequence: the characters of a text, the keys of a
mapping. -/
def Data.elements? : Data → Option (List Data)
  | .list items => some items
  | .map entries => some (entries.map fun (key, _) => .scalar key)
  | .set members => some (members.map .scalar)
  | .pair key value => some [key, value]
  | .scalar (.text value) => some (value.toList.map fun c => .text (String.singleton c))
  | .scalar (.bytes value) => some (value.map fun byte => .int byte.toNat)
  | .shared _ content => content.elements?
  | .scalar _ | .enclosing _ => none

namespace Value

/-- The elements of a payload that is a sequence: those of document data, the declared names
of a local table, the elements of a ready form. -/
def elements? : Value → Option (List Value)
  | .tuple items | .list items => some items
  | .data content => content.elements?.map fun items => items.map .data
  | .table names => some (names.declared.map fun name => .data (.text name))
  | .form (.seq items) => some (items.map .form)
  | _ => none

end Value

namespace Node

def keptPayload (expected : Expected) (value : Value) : Except MakeFault Value :=
  if expected = .nodes ∧ !value.isNull then
    match value.elements? with
    | some items => .ok (.tuple items)
    | none => .error .noSequence
  else .ok value

def fillSlots (kind : Kind) (slots : Slots) :
    List (String × Value) → Except MakeFault Slots
  | [] => .ok slots
  | (role, value) :: rest =>
      match kind.layout.find? role with
      | none => .error (.unknownRole kind.tag role kind.layout.roles)
      | some (position, expected) =>
          match keptPayload expected value with
          | .error fault => .error fault
          | .ok kept => fillSlots kind (slots.set position kept) rest

def make (kind : Kind) (roles : List (String × Value)) (line : Int) (file : Option String) :
    Except MakeFault Node :=
  (fillSlots kind {} roles).map fun slots => ofSlots kind slots line file

/-- Wrap a payload in so many nodes of one kind, alone in its slot or as a sequence of one. -/
def nest (kind : Kind) (role : String) (asSequence : Bool) :
    Nat → Value → Except MakeFault Value
  | 0, value => .ok value
  | times + 1, value =>
      match make kind [(role, if asSequence then .tuple [value] else value)] 0 none with
      | .error fault => .error fault
      | .ok node => nest kind role asSequence times (.node node)

end Node

end NodeForms
