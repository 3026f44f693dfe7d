import NodeForms.Document.Yaml.Lexer
import NodeForms.Document.Yaml.Shape

/-!
# From YAML tokens to a graph

The grammar of a single document. A value may have an anchor and a tag in front; where one
is called for and none is there, it is the absent value. Block collections are delimited
by the tokens that indentation implied, flow collections by their marks. Tokens are looked
at one by one, so what is wrong first in this order is what the text is refused for.
-/

namespace NodeForms

namespace Yaml

/-- What is known while a graph is built. -/
structure Building where
  tokens : List Token
  fault : Option Fault
  graph : Graph := {}
  anchors : List (String × VertexId) := []
  handles : List (String × String) := []

abbrev Build := StateT Building (Except Fault)

namespace Build

def refuse : Build α := throw .malformed

def peek : Build (Option Token) := do
  let state ← get
  match state.tokens, state.fault with
  | token :: _, _ => return some token
  | [], some fault => throw fault
  | [], none => return none

def drop : Build Unit := modify fun state => { state with tokens := state.tokens.tail }

/-- Whether the token ahead is one of the given ones; the end of the text counts as none. -/
def sees (choices : List Token) : Build Bool :=
  return match ← peek with
    | some token => choices.contains token
    | none => false

def expect (token : Token) : Build Unit := do
  if ← sees [token] then drop else refuse

def takeAnchor : Build (Option String) := do
  match ← peek with
  | some (.anchor name) => do
      drop
      return some name
  | _ => return none

def fullName (handle : Option String) (suffix : String) : Build String := do
  match handle with
  | none => return suffix
  | some handle =>
      match (← get).handles.lookup handle with
      | some expansion => return expansion ++ suffix
      | none => refuse

abbrev WrittenTag := Option (Option String × String)

def takeTag : Build WrittenTag := do
  match ← peek with
  | some (.tag handle suffix) => do
      drop
      return some (handle, suffix)
  | _ => return none

/-- The anchor and the tag ahead, which come in either order. -/
def takeProperties : Build (Option String × Option String) := do
  let anchor ← takeAnchor
  let tag ← takeTag
  let anchor ← if anchor.isNone then takeAnchor else pure anchor
  match tag with
  | none => return (anchor, none)
  | some (handle, suffix) => return (anchor, some (← fullName handle suffix))

def leavesOpen (tag : Option String) : Bool := tag.all (· == "!")

def scalarTag (tag : Option String) (content : String) (plain : Bool) : Tag :=
  match tag with
  | none => if plain then .ofPlain content else .text
  | some name => if name == "!" then .ofPlain content else .ofName name

def collectionTag (tag : Option String) (ordinary : Tag) : Tag :=
  if leavesOpen tag then ordinary else .ofName (tag.getD "")

def checkAnchor (anchor : Option String) : Build Unit := do
  match anchor with
  | none => return ()
  | some name => if ((← get).anchors.lookup name).isSome then refuse

def addVertex (anchor : Option String) (tag : Tag) (content : Content) : Build VertexId :=
  modifyGet fun state =>
    let id := state.graph.size
    let named := anchor.toList.map fun name => (name, id)
    (id, { state with graph := state.graph.add ⟨tag, content⟩, anchors := named ++ state.anchors })

/-- Complete a collection that was added when it started. -/
def complete (id : VertexId) (content : Content) : Build VertexId := do
  modify fun state => { state with graph := state.graph.setContent id content }
  return id

def addEmpty : Build VertexId := addVertex none .null (.text "")

def aliased (name : String) : Build VertexId := do
  match (← get).anchors.lookup name with
  | none => refuse
  | some id => return id

/-- Nothing where a value is called for: allowed behind an anchor or a tag. -/
def emptyContent (anchor tag : Option String) : Build VertexId :=
  if anchor.isNone && tag.isNone then refuse
  else addVertex anchor (scalarTag tag "" true) (.text "")

mutual
/-- A value. Block collections are allowed where a block is, and block sequences without
an indentation of their own inside block mappings; `fuel` bounds the tokens. -/
def node : Nat → Bool → Bool → Build VertexId
  | 0, _, _ => refuse
  | fuel + 1, block, bare => do
      match ← peek with
      | some (.alias name) => do
          drop
          aliased name
      | _ => do
          let (anchor, tag) ← takeProperties
          let _ ← peek
          checkAnchor anchor
          content fuel block bare anchor tag
/-- What follows the anchor and the tag of a value. -/
def content : Nat → Bool → Bool → Option String → Option String → Build VertexId
  | 0, _, _, _, _ => refuse
  | fuel + 1, block, bare, anchor, tag => do
      match ← peek with
      | some (.scalar text plain) => do
          drop
          addVertex anchor (scalarTag tag text plain) (.text text)
      | some .flowSequence => do
          drop
          let id ← addVertex anchor (collectionTag tag .sequence) (.items [])
          complete id (.items (← flowItems fuel true))
      | some .flowMapping => do
          drop
          let id ← addVertex anchor (collectionTag tag .mapping) (.members [])
          complete id (.members (← flowMembers fuel true))
      | some .blockSequence =>
          if block then do
            drop
            let id ← addVertex anchor (collectionTag tag .sequence) (.items [])
            complete id (.items (← blockItems fuel))
          else emptyContent anchor tag
      | some .blockMapping =>
          if block then do
            drop
            let id ← addVertex anchor (collectionTag tag .mapping) (.members [])
            complete id (.members (← blockMembers fuel))
          else emptyContent anchor tag
      | some .blockEntry =>
          if bare then do
            let id ← addVertex anchor (collectionTag tag .sequence) (.items [])
            complete id (.items (← bareItems fuel))
          else emptyContent anchor tag
      | _ => emptyContent anchor tag
def blockItems : Nat → Build (List VertexId)
  | 0 => refuse
  | fuel + 1 => do
      match ← peek with
      | some .blockEntry => do
          drop
          let item ← valueUnless fuel [.blockEntry, .blockEnd] true false
          return item :: (← blockItems fuel)
      | some .blockEnd => do
          drop
          return []
      | _ => refuse
def bareItems : Nat → Build (List VertexId)
  | 0 => refuse
  | fuel + 1 => do
      match ← peek with
      | some .blockEntry => do
          drop
          let item ← valueUnless fuel [.blockEntry, .key, .value, .blockEnd] true false
          return item :: (← bareItems fuel)
      | _ => return []
def valueUnless : Nat → List Token → Bool → Bool → Build VertexId
  | 0, _, _, _ => refuse
  | fuel + 1, ends, block, bare => do
      if ← sees ends then addEmpty else node fuel block bare
def blockMembers : Nat → Build (List Member)
  | 0 => refuse
  | fuel + 1 => do
      match ← peek with
      | some .key => do
          drop
          let key ← valueUnless fuel [.key, .value, .blockEnd] true true
          let value ← memberValue fuel [.key, .value, .blockEnd] true true
          return (key, value) :: (← blockMembers fuel)
      | some .blockEnd => do
          drop
          return []
      | _ => refuse
def memberValue : Nat → List Token → Bool → Bool → Build VertexId
  | 0, _, _, _ => refuse
  | fuel + 1, ends, block, bare => do
      if ← sees [.value] then do
        drop
        valueUnless fuel ends block bare
      else addEmpty
/-- The items of a flow sequence and its end; a member among them is a mapping of its own. -/
def flowItems : Nat → Bool → Build (List VertexId)
  | 0, _ => refuse
  | fuel + 1, first => do
      if ← sees [.flowSequenceEnd] then do
        drop
        return []
      else do
        if !first then expect .flowEntry
        if ← sees [.flowSequenceEnd] then do
          drop
          return []
        else if ← sees [.key] then do
          drop
          let key ← valueUnless fuel [.value, .flowEntry, .flowSequenceEnd] false false
          let value ← memberValue fuel [.flowEntry, .flowSequenceEnd] false false
          let id ← addVertex none .mapping (.members [(key, value)])
          return id :: (← flowItems fuel false)
        else do
          let item ← node fuel false false
          return item :: (← flowItems fuel false)
/-- The members of a flow mapping and its end; a lone value is a key. -/
def flowMembers : Nat → Bool → Build (List Member)
  | 0, _ => refuse
  | fuel + 1, first => do
      if ← sees [.flowMappingEnd] then do
        drop
        return []
      else do
        if !first then expect .flowEntry
        if ← sees [.flowMappingEnd] then do
          drop
          return []
        else if ← sees [.key] then do
          drop
          let key ← valueUnless fuel [.value, .flowEntry, .flowMappingEnd] false false
          let value ← memberValue fuel [.flowEntry, .flowMappingEnd] false false
          return (key, value) :: (← flowMembers fuel false)
        else do
          let key ← node fuel false false
          let value ← addEmpty
          return (key, value) :: (← flowMembers fuel false)
end

def ordinaryHandles : List (String × String) := [("!", "!"), ("!!", standardPrefix)]

/-- Take the directives in front of a document: at most one version, of the first
generation, and no handle twice. -/
def directives : Nat → Bool → Build Unit
  | 0, _ => refuse
  | fuel + 1, versioned => do
      match ← peek with
      | some (.directive content) => do
          drop
          match content with
          | .version major =>
              if versioned ∨ major ≠ 1 then refuse else directives fuel true
          | .tag handle expansion => do
              let state ← get
              if (state.handles.lookup handle).isSome then refuse
              else do
                set { state with handles := (handle, expansion) :: state.handles }
                directives fuel versioned
          | .other => directives fuel versioned
      | _ => return ()

def documentStart : Build Unit := do
  directives ((← get).tokens.length + 1) false
  expect .documentStart
  modify fun state => { state with handles := state.handles ++ ordinaryHandles }

def endsDocument : Option Token → Bool
  | none => true
  | some (.directive _) => true
  | some .documentStart => true
  | some .documentEnd => true
  | _ => false

def documentContent (marked : Bool) : Build VertexId := do
  let ahead ← peek
  if marked && endsDocument ahead then addEmpty
  else node (6 * (← get).tokens.length + 6) true false

def dropEnds : Nat → Build Unit
  | 0 => refuse
  | fuel + 1 => do
      if ← sees [.documentEnd] then do
        drop
        dropEnds fuel

def textEnd : Build Unit := do
  dropEnds ((← get).tokens.length + 1)
  match ← peek with
  | none => return ()
  | some _ => do
      modify fun state => { state with handles := [] }
      documentStart
      refuse

/-- The one document of a text, none if the text is empty. -/
def document : Build (Option VertexId) := do
  match ← peek with
  | none => return none
  | some ahead => do
      let marked := endsDocument (some ahead) && ahead != .documentEnd
      if marked then documentStart
      else modify fun state => { state with handles := ordinaryHandles }
      let root ← documentContent marked
      textEnd
      return some root

end Build

def compose (text : String) : Except Fault (Option (Graph × VertexId)) := do
  let ⟨tokens, fault⟩ := scan text
  let (root, final) ← Build.document.run { tokens, fault }
  .ok (root.map fun id => (final.graph, id))

/-- Read the one value a text holds. -/
def read (text : String) : Except Fault Data := do
  match ← compose text with
  | none => .ok .null
  | some (graph, root) => graph.value root

end Yaml

end NodeForms
