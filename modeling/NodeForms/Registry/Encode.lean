import NodeForms.Node.Encode
import NodeForms.Registry.Basic

/-!
# Writing types as documents

The document of a registry lists its types in order. A module is marked as one; a class
has its superclass, if any; methods are written by name in the order they were defined.
-/

namespace NodeForms

namespace HostType

/-- Write method bodies; only nodes can be written. -/
def encodeMethods : List (String × Value) → Except EncodeFault Entries
  | [] => .ok []
  | (name, .node body) :: rest =>
      (encodeBoth body.encode (encodeMethods rest)).map fun (content, others) =>
        (.text name, content) :: others
  | _ :: _ => .error .missingParts

/-- What a type mapping says between the name and the methods. -/
def encodeSort (type : HostType) : Entries :=
  if type.isModule then [(.text "module", .scalar (.bool true))]
  else
    match type.superclass with
    | none => []
    | some superclass => [(.text "superclass", .text superclass)]

def encode (type : HostType) : Except EncodeFault Data := do
  let methods ← encodeMethods type.methods
  .ok (.map ((.text "name", .text type.name) :: (type.encodeSort
    ++ [(.text "methods", .map methods)])))

end HostType

def encodeTypes : List HostType → Except EncodeFault (List Data)
  | [] => .ok []
  | type :: types =>
      (encodeBoth type.encode (encodeTypes types)).map fun (first, rest) => first :: rest

def Registry.encode (registry : Registry) : Except EncodeFault Data :=
  (encodeTypes registry.types).map fun types => .map [(.text "types", .list types)]

end NodeForms
