import NodeForms.Document.Data
import NodeForms.Node.Basic

/-!
# Writing nodes to documents

A node is written as a mapping: its kind, each payload that is there by its role, the
line unless it is zero, and the file if there is one. The payload that a slot expects
decides how it is written; one that does not fit may have no written form.
-/

namespace NodeForms

inductive EncodeFault where
  | missingParts
  | noSequence
  | noForm
  | selfContaining
deriving DecidableEq, Repr

namespace EncodeFault

/-- Whether a fault shows only when the whole document is there to be written. -/
def isLate : EncodeFault → Bool
  | .noForm | .selfContaining => true
  | .missingParts | .noSequence => false

end EncodeFault

/-- Two parts of a document. Of two faults the first counts, unless it is the only one that
shows late. -/
def encodeBoth {α β : Type} (first : Except EncodeFault α) (second : Except EncodeFault β) :
    Except EncodeFault (α × β) :=
  match first, second with
  | .ok a, .ok b => .ok (a, b)
  | .ok _, .error fault => .error fault
  | .error fault, .ok _ => .error fault
  | .error fault, .error other =>
      .error (if fault.isLate && !other.isLate then other else fault)

namespace LocalTable

/-- A table as document data: its declared names, or every name in a mapping. -/
def encode (table : LocalTable) : Data :=
  if table.isOrdinary then .list (table.declared.map Data.text)
  else .map [(.text "names", .list (table.names.map Data.text))]

end LocalTable

namespace Kind

/-- A kind as document data: its tag, or its number beyond the table. -/
def encode : Kind → Data
  | .known kind => .text kind.tag
  | .numbered number => .int number
  | .fractional number => .scalar (.float number)

end Kind

namespace Node

def encodeLine (line : Int) : Entries :=
  if line = 0 then [] else [(.text "line", .int line)]

def encodeFile : Option String → Entries
  | none => []
  | some file => [(.text "file", .text file)]

def encodeOwner : Option String → Data
  | none => .null
  | some owner => .text owner

def encodeSlot (used : Option SlotRole) (empty : Bool)
    (written : Expected → Except EncodeFault Data) : Except EncodeFault Entries :=
  match used with
  | none => .ok []
  | some slot =>
      if empty then .ok []
      else (written slot.expected).map fun content => [(.text slot.role, content)]

mutual
/-- Write a node as document data. -/
def encode : Node → Except EncodeFault Data
  | ⟨kind, u1, u2, u3, line, file⟩ =>
      let first := encodeSlot kind.layout.first u1.isNull fun expected =>
        encodePayload expected u1
      let second := encodeSlot kind.layout.second u2.isNull fun expected =>
        encodePayload expected u2
      let third := encodeSlot kind.layout.third u3.isNull fun expected =>
        encodePayload expected u3
      (encodeBoth first (encodeBoth second third)).map fun (first, second, third) =>
        .map ((.text "kind", kind.encode)
          :: (first ++ second ++ third ++ encodeLine line ++ encodeFile file))
/-- Write a payload as its slot expects it. -/
def encodePayload (expected : Expected) : Value → Except EncodeFault Data
  | .tuple items =>
      match expected with
      | .nodes => (encodeNodes items).map .list
      | .table | .selector | .closure => .error .missingParts
      | _ => (encodeItems items).map .list
  | .list items =>
      match expected with
      | .nodes => (encodeNodes items).map .list
      | .table | .selector | .closure => .error .missingParts
      | _ => (encodeItems items).map .list
  | .table names =>
      match expected with
      | .table => .ok names.encode
      | .nodes => if names.declared.isEmpty then .ok (.list []) else .error .missingParts
      | .selector | .closure => .error .missingParts
      | _ => .error .noForm
  | .selector attr operator =>
      match expected with
      | .selector => .ok (.map [(.text "attr", .text attr), (.text "operator", .text operator)])
      | .nodes => .error .noSequence
      | .table | .closure => .error .missingParts
      | _ => .error .noForm
  | .closure params body owner =>
      match expected with
      | .closure =>
          (encodeBoth (encodePart params) (encodePart body)).map fun (params, body) =>
            .map [(.text "params", params), (.text "body", body),
              (.text "owner", encodeOwner owner)]
      | .nodes => .error .noSequence
      | .table | .selector => .error .missingParts
      | _ => .error .noForm
  | .node child =>
      match expected with
      | .nodes => .error .noSequence
      | .table | .selector | .closure => .error .missingParts
      | _ => encode child
  | .symbol name =>
      match expected with
      | .nodes => .error .noSequence
      | .table | .selector | .closure => .error .missingParts
      | _ => .ok (.map [(.text "sym", .text name)])
  | .regex source =>
      match expected with
      | .nodes => .error .noSequence
      | .table | .selector | .closure => .error .missingParts
      | _ => .ok (.map [(.text "regex", .text source)])
  | .form value =>
      match expected with
      | .nodes =>
          if value.isSeq then
            if value.items.isEmpty then .ok (.list []) else .error .missingParts
          else .error .noSequence
      | .table | .selector | .closure => .error .missingParts
      | _ => .error .noForm
  | .data content =>
      match expected with
      | .nodes =>
          match content.bare with
          | .list items => if items.isEmpty then .ok (.list []) else .error .missingParts
          | .map entries => if entries.isEmpty then .ok (.list []) else .error .missingParts
          | .set members => if members.isEmpty then .ok (.list []) else .error .missingParts
          | .scalar (.text value) => if value = "" then .ok (.list []) else .error .missingParts
          | .scalar (.bytes value) =>
              if value.isEmpty then .ok (.list []) else .error .missingParts
          | .pair .. | .shared .. | .enclosing _ => .error .missingParts
          | .scalar _ => .error .noSequence
      | .table | .selector | .closure => .error .missingParts
      | _ => .ok content
def encodeNodes : List Value → Except EncodeFault (List Data)
  | [] => .ok []
  | .node child :: items =>
      (encodeBoth (encode child) (encodeNodes items)).map fun (first, rest) => first :: rest
  | _ :: _ => .error .missingParts
def encodeItems : List Value → Except EncodeFault (List Data)
  | [] => .ok []
  | .data content :: items => (encodeItems items).map (content :: ·)
  | .tuple inner :: items =>
      (encodeBoth (encodeItems inner) (encodeItems items)).map fun (first, rest) =>
        .list first :: rest
  | .list inner :: items =>
      (encodeBoth (encodeItems inner) (encodeItems items)).map fun (first, rest) =>
        .list first :: rest
  | _ :: _ => .error .noForm
def encodePart : Value → Except EncodeFault Data
  | .node child => encode child
  | other => if other.isNull then .ok .null else .error .missingParts
end

end Node

end NodeForms
