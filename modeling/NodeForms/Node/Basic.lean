import NodeForms.Document.Data
import NodeForms.Node.Layout
import NodeForms.Node.Locals
import NodeForms.Sexp.Basic

/-!
# Nodes

A node of the host's tree has a kind, three slots, and the line and file it came from.
Slots are loosely typed: whether a payload fits its slot is a separate question, so that
a tree with a misplaced payload can be described and reported.
-/

namespace NodeForms

mutual
/-- A node of the host's tree. -/
structure Node where
  kind : Kind
  u1 : Value
  u2 : Value
  u3 : Value
  line : Int
  file : Option String
/-- What a slot holds. -/
inductive Value where
  | data (content : Data)
  | tuple (items : List Value)
  | list (items : List Value)
  | node (child : Node)
  | symbol (name : String)
  | regex (source : String)
  | selector (attr operator : String)
  | table (names : LocalTable)
  | closure (params body : Value) (owner : Option String)
  | form (value : Sexp)
end

instance : Inhabited Value := ⟨.data .null⟩

instance : Inhabited Node := ⟨⟨default, default, default, default, 0, none⟩⟩

/-- The parameters, the body and the owner behind a captured closure. -/
structure Closure where
  params : Value
  body : Value
  owner : Option String

namespace Value

def null : Value := .data .null

/-- Whether a slot is empty. -/
def isNull : Value → Bool
  | .data content => content.isNull
  | _ => false

def node? : Value → Option Node
  | .node child => some child
  | _ => none

def data? : Value → Option Data
  | .data content => some content
  | _ => none

def text? : Value → Option String
  | .data (.scalar (.text value)) => some value
  | _ => none

def table? : Value → Option LocalTable
  | .table names => some names
  | _ => none

def ofNode? (node : Option Node) : Value := node.elim null .node

def ofNodes (nodes : List Node) : Value := .tuple (nodes.map .node)

/-- The name of a payload's type in messages. -/
def typeName : Value → String
  | .data content => content.typeName
  | .tuple _ => "tuple"
  | .list _ => "list"
  | .node _ => "Node"
  | .symbol _ => "Symbol"
  | .regex _ => "Regex"
  | .selector .. => "OpSelector"
  | .table _ => "LocalTable"
  | .closure .. => "CapturedClosure"
  | .form value => value.typeName

def int? : Value → Option Int
  | .data (.scalar (.int value)) => some value
  | _ => none

end Value

/-- The three payloads of a node. -/
structure Slots where
  first : Value := .null
  second : Value := .null
  third : Value := .null
deriving Inhabited

namespace Slots

def get (slots : Slots) : SlotPosition → Value
  | .first => slots.first
  | .second => slots.second
  | .third => slots.third

def set (slots : Slots) (position : SlotPosition) (value : Value) : Slots :=
  match position with
  | .first => { slots with first := value }
  | .second => { slots with second := value }
  | .third => { slots with third := value }

end Slots

namespace Node

def ofSlots (kind : Kind) (slots : Slots) (line : Int) (file : Option String) : Node :=
  ⟨kind, slots.first, slots.second, slots.third, line, file⟩

def slots (node : Node) : Slots := ⟨node.u1, node.u2, node.u3⟩

def tag (node : Node) : String := node.kind.tag

def slotsPresent (node : Node) : List Bool :=
  [!node.u1.isNull, !node.u2.isNull, !node.u3.isNull]

def byRole? (node : Node) (role : String) : Option Value :=
  (node.kind.layout.find? role).map fun (position, _) => node.slots.get position

end Node

mutual
/-- How many nodes a tree holds, at every depth and inside captured closures. -/
def Node.size : Node → Nat
  | ⟨_, u1, u2, u3, _, _⟩ => 1 + u1.size + u2.size + u3.size
def Value.size : Value → Nat
  | .tuple items => Value.listSize items
  | .list items => Value.listSize items
  | .node child => child.size
  | .closure params body _ => params.size + body.size
  | _ => 0
def Value.listSize : List Value → Nat
  | [] => 0
  | item :: items => item.size + Value.listSize items
end

/-- Whether nothing in document data can change: lists, mappings and sets can. -/
def Data.isFixed : Data → Bool
  | .scalar _ => true
  | .pair key value => key.isFixed && value.isFixed
  | .shared _ content => content.isFixed
  | .list _ | .map _ | .set _ | .enclosing _ => false

mutual
def Node.isFixed : Node → Bool
  | ⟨_, u1, u2, u3, _, _⟩ => u1.isFixed && u2.isFixed && u3.isFixed
def Value.isFixed : Value → Bool
  | .data content => content.isFixed
  | .tuple items => Value.allFixed items
  | .list _ => false
  | .node child => child.isFixed
  | .closure params body _ => params.isFixed && body.isFixed
  | .symbol _ | .regex _ | .selector .. | .table _ | .form _ => true
def Value.allFixed : List Value → Bool
  | [] => true
  | item :: items => item.isFixed && Value.allFixed items
end

/-- Equality of kinds, numbers beyond the table by value. -/
def Kind.equals : Kind → Kind → Bool
  | .numbered first, .fractional second => second.toInt? == some first
  | .fractional first, .numbered second => first.toInt? == some second
  | .fractional first, .fractional second => first.equals second
  | first, second => first == second

mutual
/-- Equality of nodes, their payloads compared as document values are. -/
def Node.equals : Node → Node → Bool
  | ⟨kind, u1, u2, u3, line, file⟩, other =>
      kind.equals other.kind && u1.equals other.u1 && u2.equals other.u2
        && u3.equals other.u3 && line == other.line && file == other.file
/-- Equality of payloads. -/
def Value.equals : Value → Value → Bool
  | .data first, .data second => first.equals second
  | .tuple first, .tuple second => Value.listEquals first second
  | .list first, .list second => Value.listEquals first second
  | .node first, .node second => first.equals second
  | .symbol first, .symbol second => first == second
  | .regex first, .regex second => first == second
  | .selector attr operator, .selector attr₂ operator₂ =>
      attr == attr₂ && operator == operator₂
  | .table first, .table second => first == second
  | .closure params body owner, .closure params₂ body₂ owner₂ =>
      params.equals params₂ && body.equals body₂ && owner == owner₂
  | .form first, .form second => first == second
  | _, _ => false
def Value.listEquals : List Value → List Value → Bool
  | [], [] => true
  | first :: firsts, second :: seconds => first.equals second && Value.listEquals firsts seconds
  | _, _ => false
end

end NodeForms
