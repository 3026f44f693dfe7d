import NodeForms.Document.Yaml.Fault
import NodeForms.Document.Yaml.Graph

/-!
# Merged members

A mapping can have members whose key asks for the members of other mappings. Merging puts
those in front of the mapping's own members, so that its own count most; of several merged
mappings the first counts most. The other mappings are merged themselves beforehand. A key
that marks a default value is an ordinary text once its mapping is merged.
-/

namespace NodeForms

namespace Yaml

abbrev Rewriting := StateT Graph (Except Fault)

namespace Graph

def isMerge (graph : Graph) (member : Member) : Bool := graph.tag member.1 == .merge

def settleKey (graph : Graph) (member : Member) : Graph :=
  if graph.tag member.1 = .content then graph.setTag member.1 .text else graph

def mergeCount (graph : Graph) : Nat :=
  graph.vertices.toList.foldr (fun vertex total =>
    match vertex.content with
    | .members members => members.countP graph.isMerge + total
    | _ => total) 0

/-- Merge the members of a mapping from a place on, given those that are to come in front.
Each round takes away one member that asks for others, so `fuel` bounds the rounds; a
mapping that asks for its own members finds them merged already. -/
def mergeFrom : Nat → VertexId → Nat → List Member → Rewriting Unit
  | 0, _, _, _ => return ()
  | fuel + 1, id, place, brought => do
      let (members, own) ← modifyGet fun graph =>
        let members := graph.members id
        let own := (members.drop place).takeWhile fun member => !graph.isMerge member
        ((members, own.length), own.foldl settleKey graph)
      let reached := place + own
      match members.drop reached with
      | [] =>
          if !brought.isEmpty then
            modify fun graph => graph.setContent id (.members (brought ++ members))
      | (_, source) :: rest => do
          modify fun graph => graph.setContent id (.members (members.take reached ++ rest))
          match (← get).content source with
          | .members _ => do
              mergeFrom fuel source 0 []
              let more := (← get).members source
              mergeFrom fuel id reached (brought ++ more)
          | .items items => do
              let lists ← items.mapM fun item => do
                match (← get).content item with
                | .members _ => do
                    mergeFrom fuel item 0 []
                    return (← get).members item
                | _ => throw .malformed
              mergeFrom fuel id reached (brought ++ lists.reverse.flatten)
          | .text _ => throw .malformed

end Graph

end Yaml

end NodeForms
