import NodeForms.Document.Display
import NodeForms.Node.Basic

/-!
# Nodes in messages

A node shows its tag and the payloads of the slots its layout names, each after its
role; empty slots, the line and the file are left out.
-/

namespace NodeForms

def displayOptionalText : Option String → String
  | none => "None"
  | some text => quoted text

mutual
def Node.display : Node → String
  | ⟨kind, u1, u2, u3, _, _⟩ =>
      let layout := kind.layout
      let shown (used : Option SlotRole) (empty : Bool) (text : String) : List String :=
        match used with
        | some slot => if empty then [] else [slot.role ++ "=" ++ text]
        | none => []
      "Node(" ++ ", ".intercalate
        (kind.tag :: (shown layout.first u1.isNull u1.display
          ++ shown layout.second u2.isNull u2.display
          ++ shown layout.third u3.isNull u3.display)) ++ ")"
def Value.display : Value → String
  | .data content => content.display
  | .tuple [] => "()"
  | .tuple [item] => "(" ++ item.display ++ ",)"
  | .tuple (item :: items) => "(" ++ item.display ++ Value.displayRest items ++ ")"
  | .list [] => "[]"
  | .list (item :: items) => "[" ++ item.display ++ Value.displayRest items ++ "]"
  | .node child => child.display
  | .symbol name => "Symbol(name=" ++ quoted name ++ ")"
  | .regex source => "Regex(source=" ++ quoted source ++ ")"
  | .selector attr operator =>
      "OpSelector(attr=" ++ quoted attr ++ ", operator=" ++ quoted operator ++ ")"
  | .table names => names.display
  | .closure params body owner =>
      "CapturedClosure(params=" ++ params.display ++ ", body="
        ++ body.display ++ ", owner=" ++ displayOptionalText owner ++ ")"
  | .form value => value.display
def Value.displayRest : List Value → String
  | [] => ""
  | item :: items => ", " ++ item.display ++ Value.displayRest items
end

def Kind.display : Kind → String
  | .known kind => "<NodeKind." ++ capitals kind.tag ++ ": " ++ naturalText kind.id ++ ">"
  | .numbered number => integerText number
  | .fractional number => FloatNotation.plain.text number

/-- Why an attribute of a node cannot be read. -/
inductive AttributeFault where
  | noRole (tag role : String)
  | reserved (name : String)
deriving DecidableEq, Repr

def AttributeFault.message : AttributeFault → String
  | .noRole tag role => quoted tag ++ " node has no slot named " ++ quoted role
  | .reserved name => name

/-- An attribute of a node as it stands in a message: one of its own, or a role. -/
def Node.displayAttribute (node : Node) (name : String) : Except AttributeFault String :=
  match name with
  | "kind" => .ok node.kind.display
  | "u1" => .ok node.u1.display
  | "u2" => .ok node.u2.display
  | "u3" => .ok node.u3.display
  | "line" => .ok (integerText node.line)
  | "file" => .ok (displayOptionalText node.file)
  | "name" => .ok (quoted node.tag)
  | _ =>
      if "__".toList.isPrefixOf name.toList then .error (.reserved name)
      else match node.byRole? name with
        | some value => .ok value.display
        | none => .error (.noRole node.tag name)

end NodeForms
