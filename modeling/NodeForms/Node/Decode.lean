import NodeForms.Document.Fault
import NodeForms.Node.Make

/-!
# Reading nodes from documents

A node is written as a mapping: its kind, its payloads by role, and optionally its line
and file. Payloads are read in the order written, and the first fault is reported; what
a slot expects decides how its payload is read. At the end the node is checked, so that
a node that was read is well typed.
-/

namespace NodeForms

namespace Node

def isOwnKey : Scalar → Bool
  | .text "kind" | .text "line" | .text "file" => true
  | _ => false

def decodeKind : Option Data → Except DecodeError Kind
  | none => .error (.document (.kindMissing "None"))
  | some (.scalar .null) => .error (.document (.kindMissing "None"))
  | some (.scalar (.bool value)) =>
      .error (.document (.kindMissing (Scalar.bool value).display))
  | some (.scalar (.int number)) => .ok (Kind.ofInt number)
  | some (.scalar (.text word)) =>
      match KnownKind.ofTag? word with
      | some kind => .ok (.known kind)
      | none => .error (.document (.kindUnknown (quoted word)))
  | some other => .error (.document (.kindMistyped other.display))

def decodeLine : Option Data → Except DecodeError Int
  | none => .ok 0
  | some (.scalar (.int line)) => .ok line
  | some other => .error (.document (.lineMistyped other.display))

def decodeFile : Option Data → Except DecodeError (Option String)
  | none => .ok none
  | some (.scalar .null) => .ok none
  | some (.scalar (.text file)) => .ok (some file)
  | some other => .error (.document (.fileMistyped other.display))

def decodeRole (kind : Kind) (key : Scalar) :
    Except DecodeError (String × SlotPosition × Expected) :=
  let found := match key with
    | .text role => (kind.layout.find? role).map fun slot => (role, slot)
    | _ => none
  match found with
  | some slot => .ok slot
  | none => .error (.document (.roleUnknown kind.tag key.display kind.layout.roles))

/-- A literal: a symbol or regular expression mapping, or the value itself. -/
def decodeLiteral (role : String) (value : Data) : Except DecodeError Value :=
  match value.bare with
  | .map entries =>
      match entries with
      | [(.text "sym", name)] => .ok (.symbol name.plainText)
      | [(.text "regex", source)] => .ok (.regex source.plainText)
      | _ => .error (.document (.literalKeys role))
  | .enclosing false => .error (.document (.literalKeys role))
  | _ => .ok (.data value)

def decodeNames (role : String) (value : Data) : Except DecodeError (List String) :=
  match value.bare with
  | .list items =>
      match items.mapM (fun item => (Value.data item).text?) with
      | some names => .ok names
      | none => .error (.document (.namesExpected role))
  | _ => .error (.document (.namesExpected role))

/-- A local table: its declared names, or a mapping with every name. -/
def decodeTable (role : String) (value : Data) : Except DecodeError Value :=
  match value.bare with
  | .map entries =>
      match entries with
      | [(.text "names", names)] =>
          (decodeNames role names).map fun names => .table ⟨names⟩
      | _ => .error (.document (.tableKeys role))
  | .enclosing false => .error (.document (.tableKeys role))
  | _ => (decodeNames role value).map fun names => .table (LocalTable.ofDeclared names)

def decodeSelector (role : String) (value : Data) : Except DecodeError Value :=
  match value.bare with
  | .map entries =>
      match entries.length, Entries.get? entries "attr", Entries.get? entries "operator" with
      | 2, some attr, some operator => .ok (.selector attr.plainText operator.plainText)
      | _, _, _ => .error (.document (.selectorKeys role))
  | _ => .error (.document (.selectorKeys role))

/-- What a value that is no node mapping is refused for. A mapping inside of itself is one,
but there is no end to reading it. -/
def refuseNode : Data → DecodeError
  | .enclosing false => .value .selfContaining
  | other => .document (.nodeExpected other.typeName)

def closureNames : List String := ["params", "body", "owner"]

def checkClosureKeys (entries : Entries) : Except DecodeError Unit :=
  let unknown := entries.keys.filter fun key =>
    !closureNames.any fun name => key == .text name
  if unknown.isEmpty then .ok ()
  else
    match listedKeys unknown with
    | .error error => .error error
    | .ok shown => .error (.document (.closureKeys shown))

def decodeOwner (entries : Entries) : Option String :=
  match entries.get? "owner" with
  | none => none
  | some (.scalar .null) => none
  | some owner => some owner.plainText

/-- Whether reading a payload goes into it: a list where nodes are expected, a mapping where
a node or a closure may be. -/
def readsInto (expected : Expected) (isList : Bool) : Bool :=
  match expected with
  | .nodes => isList
  | .node | .closure | .anything => !isList
  | _ => false

/-- A payload that was read from a value with a label: one that stays as it is keeps it. The
absent value has none. -/
def labelled (label : Nat) : Value → Value
  | .data content => if content.isNull then .null else .data (.shared label content)
  | other => other

/-- Read a payload that holds no nodes, as its slot expects it. -/
def decodeFlat (expected : Expected) (role : String) (value : Data) :
    Except DecodeError Value :=
  if value.isNull then .ok .null
  else
    match expected with
    | .node => .error (refuseNode value)
    | .nodes => .error (.document (.nodeListExpected role))
    | .literal => decodeLiteral role value
    | .table => decodeTable role value
    | .selector => decodeSelector role value
    | .closure => .error (.document (.closureExpected role))
    | .name | .integer | .anything => .ok (.data value)

def finishNode (entries : Entries) (kind : Kind) (slots : Slots) :
    Except DecodeError Node := do
  let line ← decodeLine (entries.get? "line")
  let file ← decodeFile (entries.get? "file")
  let node := ofSlots kind slots line file
  match node.check with
  | .error fault => .error (.document (.slot fault))
  | .ok () => .ok node

def decodeMapping (entries : Entries) (payloads : Kind → Except DecodeError Slots) :
    Except DecodeError Node := do
  let kind ← decodeKind (entries.get? "kind")
  let slots ← payloads kind
  finishNode entries kind slots

mutual
/-- Read a node from document data. -/
def decode : Data → Except DecodeError Node
  | .map entries => decodeMapping entries fun kind => decodeSlots kind {} entries
  | .shared _ content => decode content
  | other => .error (refuseNode other)
def decodeSlots (kind : Kind) (slots : Slots) :
    List (Scalar × Data) → Except DecodeError Slots
  | [] => .ok slots
  | (key, value) :: rest =>
      if isOwnKey key then decodeSlots kind slots rest
      else do
        let (role, position, expected) ← decodeRole kind key
        let payload ← decodePayload expected role value
        decodeSlots kind (slots.set position payload) rest
def decodePayload (expected : Expected) (role : String) : Data → Except DecodeError Value
  | .map entries =>
      match expected with
      | .node | .anything =>
          (decodeMapping entries fun kind => decodeSlots kind {} entries).map .node
      | .closure => do
          checkClosureKeys entries
          let params ← decodeMember "params" entries
          let body ← decodeMember "body" entries
          .ok (.closure (.ofNode? params) (.ofNode? body) (decodeOwner entries))
      | _ => decodeFlat expected role (.map entries)
  | .list items =>
      match expected with
      | .nodes => (decodeList items).map .ofNodes
      | _ => decodeFlat expected role (.list items)
  | .shared label content => (decodePayload expected role content).map (labelled label)
  | .enclosing isList =>
      if readsInto expected isList then .error (.value .selfContaining)
      else decodeFlat expected role (.enclosing isList)
  | other => decodeFlat expected role other
def decodeList : List Data → Except DecodeError (List Node)
  | [] => .ok []
  | item :: items => do
      let node ← decode item
      let nodes ← decodeList items
      .ok (node :: nodes)
def decodeMember (name : String) : List (Scalar × Data) → Except DecodeError (Option Node)
  | [] => .ok none
  | (key, value) :: rest =>
      if key = .text name then
        if value.isNull then .ok none else (decode value).map some
      else decodeMember name rest
end

end Node

end NodeForms
