import NodeForms.Document.Yaml.Merge
import NodeForms.Document.Yaml.Value

/-!
# Values of graphs

The value of a vertex is found in rounds. A scalar has its value at once; a collection is
put off, and in the next round the values of its items or members are asked for. So of two
faults the one that lies less deep counts, and of those at one depth the first. Every
vertex has its value once, however many ways lead to it.

When all are known they are put together to document data. A collection inside of itself is
spelled out a few times, so that it is whole wherever one comes to look at it, and then stands
there as a mark only.
-/

namespace NodeForms

namespace Yaml

/-- What a vertex stands for, its parts by their vertices. -/
inductive Shape where
  | scalar (value : Scalar)
  | list (items : List VertexId)
  | pairs (members : List Member)
  | map (entries : List (Scalar × VertexId))
  | set (members : List Scalar)
deriving Repr, Inhabited

/-- What is known in the course of the rounds. -/
structure Shaping where
  graph : Graph
  /-- A bound for the members that ask for the members of other mappings. -/
  merges : Nat
  shapes : Array (Option Shape)
  waiting : List VertexId := []

abbrev Shaped := StateT Shaping (Except Fault)

/-- The text of a vertex: a mapping has the text of its default value. `fuel` bounds how
many mappings lie around it; with none left a mapping is its own default value. -/
def Graph.text (graph : Graph) : Nat → VertexId → Except Fault String
  | 0, _ => .error .selfContaining
  | fuel + 1, id =>
      match graph.content id with
      | .text content => .ok content
      | .items _ => .error .malformed
      | .members members =>
          match members.find? fun member => graph.tag member.1 == .content with
          | some (_, value) => graph.text fuel value
          | none => .error .malformed

/-- The scalar a vertex stands for. A day or a moment cannot be a default value. -/
def Graph.scalar (graph : Graph) (id : VertexId) : Except Fault Scalar := do
  let content ← graph.text (graph.size + 1) id
  match graph.tag id, graph.content id with
  | .moment, .members _ => .error .momentInMapping
  | tag, _ => scalarOf tag content

def Graph.isWordForNaN (graph : Graph) (id : VertexId) : Bool :=
  match graph.text (graph.size + 1) id with
  | .ok content => afterSign (smallLetters (ungrouped content)) == ".nan".toList
  | .error _ => false

namespace Shaping

def settle (id : VertexId) (shape : Shape) : Shaped Unit :=
  modify fun state => { state with shapes := state.shapes.setIfInBounds id (some shape) }

def putOff (id : VertexId) (shape : Shape) : Shaped Shape := do
  settle id shape
  modify fun state => { state with waiting := id :: state.waiting }
  return shape

def ask (id : VertexId) : Shaped Shape := do
  let state ← get
  match state.shapes[id]?.join with
  | some shape => return shape
  | none =>
      match state.graph.tag id with
      | .sequence => putOff id (.list [])
      | .mapping => putOff id (.map [])
      | .set => putOff id (.set [])
      | .pairs => putOff id (.pairs [])
      | .merge | .content | .unknown => throw .malformed
      | _ => do
          let value ← state.graph.scalar id
          settle id (.scalar value)
          return .scalar value

def askKey (id : VertexId) : Shaped Scalar := do
  match ← ask id with
  | .scalar value => return value
  | _ => throw .malformed

/-- A key of a mapping, with the value it has in it. -/
structure Entry where
  key : Scalar
  /-- Where a key that is not a number comes from: a vertex, or the word for it. -/
  source : Option VertexId
  value : VertexId

/-- Whether two keys are the same. What is not a number is only the same as itself. -/
def Entry.sameKey (first second : Entry) : Bool :=
  if first.key.isNaN && second.key.isNaN then first.source == second.source
  else first.key.equals second.key

/-- Put a member into a mapping; one that is there already keeps its place and its key. -/
def insertEntry (entries : List Entry) (entry : Entry) : List Entry :=
  match entries with
  | [] => [entry]
  | other :: rest =>
      if other.sameKey entry then { other with value := entry.value } :: rest
      else other :: insertEntry rest entry

def merge (id : VertexId) : Shaped Unit := do
  let state ← modifyGet fun state => (state, { state with graph := {} })
  let (_, graph) ← (Graph.mergeFrom (state.merges + 1) id 0 []).run state.graph
  modify fun state => { state with graph }

def askMembers (id : VertexId) : Shaped (List (Scalar × VertexId)) := do
  match (← get).graph.content id with
  | .members _ => do
      merge id
      let graph := (← get).graph
      let members ← (graph.members id).mapM fun (key, value) => do
        let name ← askKey key
        let _ ← ask value
        return (⟨name, if graph.isWordForNaN key then none else some key, value⟩ : Entry)
      return (members.foldl insertEntry []).map fun entry => (entry.key, entry.value)
  | _ => throw .malformed

def askPair (id : VertexId) : Shaped Member := do
  match (← get).graph.members id with
  | [(key, value)] => do
      let _ ← ask key
      let _ ← ask value
      return (key, value)
  | _ => throw .malformed

/-- Ask for the parts of a collection that was put off. -/
def resume (id : VertexId) : Shaped Unit := do
  let state ← get
  match state.graph.tag id, state.graph.content id with
  | .sequence, .items items => do
      items.forM fun item => discard (ask item)
      settle id (.list items)
  | .pairs, .items items => settle id (.pairs (← items.mapM askPair))
  | .mapping, _ => settle id (.map (← askMembers id))
  | .set, _ => settle id (.set ((← askMembers id).map Prod.fst))
  | _, _ => throw .malformed

/-- Ask in rounds until nothing is put off; `fuel` bounds the rounds. -/
def rounds : Nat → Shaped Unit
  | 0 => return ()
  | fuel + 1 => do
      let waiting := (← get).waiting
      if !waiting.isEmpty then do
        modify fun state => { state with waiting := [] }
        waiting.reverse.forM resume
        rounds fuel

end Shaping

def Graph.shapes (graph : Graph) (root : VertexId) : Except Fault (Array (Option Shape)) := do
  let start : Shaping :=
    { graph, merges := graph.mergeCount, shapes := Array.replicate graph.size none }
  let asked : Shaped Unit := do
    let _ ← Shaping.ask root
    Shaping.rounds (graph.size + 1)
  let (_, final) ← asked.run start
  .ok final.shapes

def Shape.targets : Shape → List VertexId
  | .scalar _ | .set _ => []
  | .list items => items
  | .pairs members => members.flatMap fun (key, value) => [key, value]
  | .map entries => entries.map Prod.snd

def entrances (shapes : Array (Option Shape)) (root : VertexId) : Array Nat :=
  let start := (Array.replicate shapes.size 0).modify root (· + 1)
  shapes.foldl (fun counts shape =>
    (shape.elim [] Shape.targets).foldl (fun counts id => counts.modify id (· + 1)) counts) start

/-- How far a value is put together. -/
structure Progress where
  depth : Nat := 0
  value : Option Data := none
deriving Inhabited

abbrev Assembling := StateM (Array Progress)

/-- A value that was put together. -/
structure Assembled where
  value : Data
  marked : Bool

def spellings : Nat := 3

def Shape.mark : Shape → Data
  | .map _ => .enclosing false
  | _ => .enclosing true

def Shape.isCollection : Shape → Bool
  | .scalar _ => false
  | _ => true

/-- The value of a shape, given how those of its parts are put together. -/
def Shape.assembleWith (part : VertexId → Assembling Assembled) : Shape → Assembling Assembled
  | .scalar value => return ⟨.scalar value, false⟩
  | .set members => return ⟨.set members, false⟩
  | .list items => do
      let parts ← items.mapM part
      return ⟨.list (parts.map Assembled.value), parts.any Assembled.marked⟩
  | .pairs members => do
      let parts ← members.mapM fun (key, value) => do
        let first ← part key
        let second ← part value
        return (⟨.pair first.value second.value, first.marked || second.marked⟩ : Assembled)
      return ⟨.list (parts.map Assembled.value), parts.any Assembled.marked⟩
  | .map entries => do
      let parts ← entries.mapM fun (key, value) => do
        let member ← part value
        return (key, member)
      return ⟨.map (parts.map fun (key, member) => (key, member.value)),
        parts.any fun (_, member) => member.marked⟩

/-- Put the value of a vertex together. It has a label if several ways lead to it, as they do
to all inside of what has one. `fuel` bounds the depth. -/
def assemble (shapes : Array (Option Shape)) (ways : Array Nat) :
    Nat → Bool → VertexId → Assembling Assembled
  | 0, _, _ => return ⟨.null, true⟩
  | fuel + 1, inside, id => do
      let shape := shapes[id]?.join.getD (.scalar .null)
      let progress := (← get)[id]?.getD {}
      match progress.value with
      | some value => return ⟨value, false⟩
      | none =>
          if progress.depth = spellings then return ⟨shape.mark, true⟩
          else do
            let isShared := inside || decide (1 < ways[id]?.getD 0)
            modify fun state => state.setIfInBounds id { progress with depth := progress.depth + 1 }
            let whole ← shape.assembleWith (assemble shapes ways fuel isShared)
            let value :=
              if isShared && shape.isCollection then .shared id whole.value else whole.value
            let known := if whole.marked then none else some value
            modify fun state => state.setIfInBounds id { progress with value := known }
            return ⟨value, whole.marked⟩

def Graph.value (graph : Graph) (root : VertexId) : Except Fault Data := do
  let shapes ← graph.shapes root
  let whole := assemble shapes (entrances shapes root) (spellings * graph.size + 1) false root
  .ok (whole.run (Array.replicate graph.size {})).1.value

end Yaml

end NodeForms
