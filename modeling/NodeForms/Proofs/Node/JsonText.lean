import NodeForms.Node.Text
import NodeForms.Proofs.Document.Json.Sound
import NodeForms.Proofs.Node.RoundTrip

/-!
# JSON texts of nodes

A node that was read from a JSON text holds only what JSON texts stand for, so what it is written
as is again a value of this sort: its members have distinct names, its kind, the roles of its
slots, and its place. So the node can be written as a JSON text with each indentation, and this text
is read as the same node.
-/

namespace NodeForms

/-- Members whose keys are among distinct names, in the order of these names. -/
theorem Entries.isNamed_of_sublist {entries : Entries} {names : List String}
    (distinct : names.Nodup) (among : entries.keys.Sublist (names.map .text)) :
    entries.IsNamed where
  names entry isMember := by
    have isKey := among.subset (List.mem_map_of_mem isMember)
    obtain ⟨name, -, same⟩ := List.mem_map.mp isKey
    exact ⟨name, same.symm⟩
  distinct := by
    have texts : (names.map Scalar.text).Pairwise fun first second =>
        first.equals second = false := by
      refine List.pairwise_map.mpr (distinct.imp fun differs => ?_)
      rw [Scalar.text_equals_text]
      simpa using differs
    exact List.pairwise_map.mp (texts.sublist among)

theorem Entries.isNamed_of_names {entries : Entries} (names : List String) (distinct : names.Nodup)
    (keys : entries.keys = names.map .text) : entries.IsNamed :=
  isNamed_of_sublist distinct (keys ▸ List.Sublist.refl _)

/-- The names that the members of a node mapping can have, in the order written. -/
def Kind.memberNames (kind : Kind) : List String :=
  "kind" :: (kind.layout.roles ++ ["line", "file"])

theorem Kind.memberNames_nodup (kind : Kind) : kind.memberNames.Nodup := by
  have generic : ("kind" :: (Layout.generic.roles ++ ["line", "file"])).Nodup := by decide
  have known : ∀ kind ∈ KnownKind.all,
      ("kind" :: (kind.layout.roles ++ ["line", "file"])).Nodup := by decide +kernel
  cases kind with
  | known kind => exact known kind kind.mem_all
  | numbered number => exact generic
  | fractional number => exact generic

theorem Layout.roles_eq (layout : Layout) : layout.roles =
    (layout.first.map SlotRole.role).toList ++ ((layout.second.map SlotRole.role).toList
      ++ (layout.third.map SlotRole.role).toList) := by
  obtain ⟨first, second, third⟩ := layout
  cases first <;> cases second <;> cases third <;> rfl

def Node.WritesJson (node : Node) : Prop :=
  ∀ written, node.encode = .ok written → written.IsJson

def Value.WritesJson (expected : Expected) (value : Value) : Prop :=
  ∀ written, Node.encodePayload expected value = .ok written → written.IsJson

namespace Node

theorem encodeBoth_eq_ok {α β : Type} {first : Except EncodeFault α} {second : Except EncodeFault β}
    {parts : α × β} (found : encodeBoth first second = .ok parts) :
    first = .ok parts.1 ∧ second = .ok parts.2 := by
  cases first <;> cases second <;> cases found
  exact ⟨rfl, rfl⟩

section

variable {used : Option SlotRole} {empty : Bool} {written : Expected → Except EncodeFault Data}
  {members : Entries}

theorem encodeSlot_eq_ok (found : encodeSlot used empty written = .ok members) :
    members = [] ∨ ∃ slot content, used = some slot ∧ written slot.expected = .ok content ∧
      members = [(.text slot.role, content)] := by
  unfold encodeSlot at found
  split at found
  · exact .inl (Except.ok.inj found).symm
  · rename_i slot
    split at found
    · exact .inl (Except.ok.inj found).symm
    · obtain ⟨content, isWritten, same⟩ := map_eq_ok.mp found
      exact .inr ⟨slot, content, rfl, isWritten, same.symm⟩

theorem keys_of_encodeSlot (found : encodeSlot used empty written = .ok members) :
    members.keys.Sublist ((used.map SlotRole.role).toList.map .text) := by
  rcases encodeSlot_eq_ok found with rfl | ⟨slot, content, rfl, -, rfl⟩
  · exact List.nil_sublist _
  · exact List.Sublist.refl _

theorem isJson_of_encodeSlot (found : encodeSlot used empty written = .ok members)
    (isJson : ∀ slot ∈ used, ∀ content, written slot.expected = .ok content → content.IsJson) :
    ∀ member ∈ members, member.2.IsJson := by
  rcases encodeSlot_eq_ok found with rfl | ⟨slot, content, rfl, isWritten, rfl⟩
  · exact nofun
  · simpa using isJson slot rfl content isWritten

end

theorem isJson_kindEncode {kind : Kind} (kindReads : decodeKind (some kind.encode) = .ok kind) :
    kind.encode.IsJson := by
  cases kind with
  | known kind => exact Data.isJson_text kind.tag
  | numbered number => exact Data.isJson_int number
  | fractional number => cases kindReads

theorem keys_encodePlace (line : Int) (file : Option String) :
    (Entries.keys (encodeLine line ++ encodeFile file)).Sublist
      (["line", "file"].map Scalar.text) := by
  have ofLine : (Entries.keys (encodeLine line)).Sublist [.text "line"] := by
    unfold encodeLine
    split
    · exact List.nil_sublist _
    · exact List.Sublist.refl _
  have ofFile : (Entries.keys (encodeFile file)).Sublist [.text "file"] := by
    cases file with
    | none => exact List.nil_sublist _
    | some file => exact List.Sublist.refl _
  rw [Entries.keys, List.map_append]
  exact ofLine.append ofFile

theorem isJson_encodePlace (line : Int) (file : Option String) :
    ∀ member ∈ encodeLine line ++ encodeFile file, member.2.IsJson := by
  have ofLine : ∀ member ∈ encodeLine line, member.2.IsJson := by
    unfold encodeLine
    split
    · exact nofun
    · simpa using Data.isJson_int line
  have ofFile : ∀ member ∈ encodeFile file, member.2.IsJson := by
    cases file with
    | none => exact nofun
    | some file => simpa [encodeFile] using Data.isJson_text file
  exact List.forall_mem_append.mpr ⟨ofLine, ofFile⟩

/-- A node is written as a mapping of its kind, its payloads and its place. -/
theorem writesJson_of_slots {node : Node}
    (kindReads : decodeKind (some node.kind.encode) = .ok node.kind)
    (held : node.slots.Hold Value.WritesJson node.kind) : node.WritesJson := by
  intro written encodes
  obtain ⟨kind, u1, u2, u3, line, file⟩ := node
  rw [encode] at encodes
  obtain ⟨⟨first, second, third⟩, parts, rfl⟩ := map_eq_ok.mp encodes
  obtain ⟨ofFirst, others⟩ := encodeBoth_eq_ok parts
  obtain ⟨ofSecond, ofThird⟩ := encodeBoth_eq_ok others
  have roles := kind.layout.roles_eq
  have place := keys_encodePlace line file
  dsimp only
  refine .map (Entries.isNamed_of_sublist kind.memberNames_nodup ?_) ?_
  · rw [Kind.memberNames, roles]
    simp only [Entries.keys, List.map_cons, List.map_append, List.append_assoc] at place ⊢
    exact .cons_cons _ ((keys_of_encodeSlot ofFirst).append ((keys_of_encodeSlot ofSecond).append
      ((keys_of_encodeSlot ofThird).append place)))
  · have payload (position : SlotPosition) : ∀ slot ∈ kind.layout.slotAt position, ∀ content,
        encodePayload slot.expected (Slots.get ⟨u1, u2, u3⟩ position) = .ok content →
        content.IsJson := fun slot isUsed => held.of_slotAt isUsed
    simp only [List.append_assoc, List.forall_mem_cons, List.forall_mem_append]
    exact ⟨isJson_kindEncode kindReads, isJson_of_encodeSlot ofFirst (payload .first),
      isJson_of_encodeSlot ofSecond (payload .second),
      isJson_of_encodeSlot ofThird (payload .third),
      List.forall_mem_append.mp (isJson_encodePlace line file)⟩

end Node

namespace Value.WritesJson

variable {expected : Expected}

theorem data {content : Data} (isJson : content.IsJson) :
    (Value.data content).WritesJson expected := by
  intro written encodes
  cases expected with
  | nodes =>
      obtain rfl := Node.eq_nil_of_encodePayload_nodes encodes
      exact .list nofun
  | table | selector | closure => simp [Node.encodePayload] at encodes
  | node | name | literal | integer | anything =>
      obtain rfl : content = written := by simpa [Node.encodePayload] using encodes
      exact isJson

theorem symbol (name : String) : (Value.symbol name).WritesJson .literal := by
  intro written encodes
  obtain rfl : _ = written := by simpa [Node.encodePayload] using encodes
  exact .map (Entries.isNamed_of_names ["sym"] (by decide) rfl)
    (by simpa using Data.isJson_text name)

theorem regex (source : String) : (Value.regex source).WritesJson .literal := by
  intro written encodes
  obtain rfl : _ = written := by simpa [Node.encodePayload] using encodes
  exact .map (Entries.isNamed_of_names ["regex"] (by decide) rfl)
    (by simpa using Data.isJson_text source)

theorem selector (attr operator : String) :
    (Value.selector attr operator).WritesJson .selector := by
  intro written encodes
  obtain rfl : _ = written := by simpa [Node.encodePayload] using encodes
  exact .map (Entries.isNamed_of_names ["attr", "operator"] (by decide) rfl)
    (by simpa using ⟨Data.isJson_text attr, Data.isJson_text operator⟩)

theorem table (names : LocalTable) : (Value.table names).WritesJson .table := by
  have texts (names : List String) : (Data.list (names.map Data.text)).IsJson :=
    .list fun item isMember => by
      obtain ⟨name, -, rfl⟩ := List.mem_map.mp isMember
      exact Data.isJson_text name
  intro written encodes
  obtain rfl : names.encode = written := by simpa [Node.encodePayload] using encodes
  unfold LocalTable.encode
  split
  · exact texts _
  · exact .map (Entries.isNamed_of_names ["names"] (by decide) rfl)
      (by simpa using texts names.names)

theorem ofFlat {content : Data} {role : String} {payload : Value} (isJson : content.IsJson)
    (found : Node.decodeFlat expected role content = .ok payload) :
    payload.WritesJson expected := by
  unfold Node.decodeFlat at found
  split at found
  · obtain rfl := Except.ok.inj found
    exact .data (.scalar trivial)
  · cases expected with
    | node | nodes | closure => cases found
    | name | integer | anything =>
        obtain rfl := Except.ok.inj found
        exact .data isJson
    | literal =>
        rcases Node.decodeLiteral_ok found with ⟨name, rfl⟩ | ⟨source, rfl⟩ | ⟨rfl, -⟩
        · exact .symbol name
        · exact .regex source
        · exact .data isJson
    | table =>
        obtain ⟨names, rfl⟩ := Node.decodeTable_ok found
        exact .table names
    | selector =>
        obtain ⟨attr, operator, rfl⟩ := Node.decodeSelector_ok found
        exact .selector attr operator

theorem child {child : Node} (forNode : expected = .node ∨ expected = .anything)
    (writesJson : child.WritesJson) : (Value.node child).WritesJson expected := by
  intro written encodes
  refine writesJson written ?_
  rcases forNode with rfl | rfl
  · simpa [Node.encodePayload] using encodes
  · simpa [Node.encodePayload] using encodes

theorem children {children : List Node} (writeJson : ∀ child ∈ children, child.WritesJson) :
    (Value.ofNodes children).WritesJson .nodes := by
  have all (written : List Data)
      (encodes : Node.encodeNodes (children.map .node) = .ok written) :
      ∀ item ∈ written, item.IsJson := by
    induction children generalizing written with
    | nil =>
        rw [List.map_nil, Node.encodeNodes] at encodes
        obtain rfl := Except.ok.inj encodes
        simp
    | cons child children inductionHypothesis =>
        rw [List.forall_mem_cons] at writeJson
        rw [List.map_cons, Node.encodeNodes] at encodes
        obtain ⟨⟨first, rest⟩, parts, rfl⟩ := map_eq_ok.mp encodes
        obtain ⟨ofFirst, ofRest⟩ := Node.encodeBoth_eq_ok parts
        rw [List.forall_mem_cons]
        exact ⟨writeJson.1 first ofFirst, inductionHypothesis writeJson.2 rest ofRest⟩
  intro written encodes
  rw [Value.ofNodes, Node.encodePayload] at encodes
  obtain ⟨items, ofItems, rfl⟩ := map_eq_ok.mp encodes
  exact .list (all items ofItems)

theorem closure {params body : Option Node} (owner : Option String)
    (ofParams : ∀ node ∈ params, node.WritesJson) (ofBody : ∀ node ∈ body, node.WritesJson) :
    (Value.closure (.ofNode? params) (.ofNode? body) owner).WritesJson .closure := by
  have side {side : Option Node} (writeJson : ∀ node ∈ side, node.WritesJson) (written : Data)
      (encodes : Node.encodePart (.ofNode? side) = .ok written) : written.IsJson := by
    cases side with
    | none =>
        obtain rfl : Data.null = written := Except.ok.inj encodes
        exact .scalar trivial
    | some node =>
        have ofNode : node.encode = .ok written := by
          simpa [Value.ofNode?, Node.encodePart] using encodes
        exact writeJson node rfl written ofNode
  have ofOwner : (Node.encodeOwner owner).IsJson := by
    cases owner with
    | none => exact .scalar trivial
    | some owner => exact Data.isJson_text owner
  intro written encodes
  rw [Node.encodePayload] at encodes
  obtain ⟨⟨first, second⟩, parts, rfl⟩ := map_eq_ok.mp encodes
  obtain ⟨ofFirst, ofSecond⟩ := Node.encodeBoth_eq_ok parts
  refine .map (Entries.isNamed_of_names ["params", "body", "owner"] (by decide) rfl) ?_
  simpa using ⟨side ofParams first ofFirst, side ofBody second ofSecond, ofOwner⟩

end Value.WritesJson

namespace Node

theorem writesJson_keptByReading : KeptByReading Data.IsJson WritesJson Value.WritesJson where
  item isJson := by
    cases isJson
    assumption
  member isJson := by
    cases isJson
    assumption
  content isJson := nomatch isJson
  absent _ := .data (.scalar trivial)
  flat isJson isFlat found := .ofFlat isJson ((isFlat _).symm.trans found)
  labelled isJson _ := nomatch isJson
  child forNode writesJson := .child forNode writesJson
  children writeJson := .children writeJson
  closure owner ofParams ofBody := .closure owner ofParams ofBody
  node kindReads held _ := writesJson_of_slots kindReads held

/-- A node that was read from a JSON text can be written as a JSON text with each indentation, on
one line or with so many spaces per level, and what is written is read as the same node. -/
theorem exists_toJson_of_ofJson (text : String) (node : Node) (read : ofJson text = .ok node)
    (style : Json.Style) : ∃ written, node.toJson style = .ok written ∧
      ofJson written = .ok node := by
  unfold ofJson at read
  split at read
  case h_1 => cases read
  case h_2 content isRead =>
    obtain ⟨document, encodes, decodes⟩ := exists_encode_of_decode content node read
    have isJson : document.IsJson := writesJson_keptByReading.of_decode content
      (Json.isJson_of_read isRead) node read document encodes
    obtain ⟨written, writes⟩ := Json.exists_write style isJson
    refine ⟨written, ?_, ?_⟩
    · rw [toJson, encodes]
      simp only [bind, Except.bind, writes, Except.mapError]
    · rw [ofJson, Json.read_of_write isJson writes]
      exact decodes

/-- A text with an escaped line end, and in it what stands for no number. -/
def interpolationText : String :=
  "\x7b\"kind\": \"dstr\", \"lit\": \"a\\n\", "
    ++ "\"parts\": [\x7b\"kind\": \"lit\", \"lit\": NaN\x7d]\x7d"

theorem exists_toJson_interpolationText :
    let noNumber : Node := ⟨.known .lit, .data (.scalar (.float .nan)), .null, .null, 0, none⟩
    let node : Node := ⟨.known .dstr, .data (.text "a\n"), .null, .ofNodes [noNumber], 0, none⟩
    ofJson interpolationText = .ok node ∧
      ∃ written, node.toJson ⟨some 2⟩ = .ok written ∧ ofJson written = .ok node := by
  intro noNumber node
  let part : Data := .map [(.text "kind", .text "lit"), (.text "lit", .scalar (.float .nan))]
  let document : Data :=
    .map [(.text "kind", .text "dstr"), (.text "lit", .text "a\n"), (.text "parts", .list [part])]
  have partIsJson : part.IsJson :=
    .map (Entries.isNamed_of_names ["kind", "lit"] (by decide) rfl)
      (by simpa using ⟨Data.isJson_text "lit", .scalar fun _ => rfl⟩)
  have isJson : document.IsJson :=
    .map (Entries.isNamed_of_names ["kind", "lit", "parts"] (by decide) rfl)
      (by simpa using ⟨Data.isJson_text "dstr", Data.isJson_text "a\n", .list (by simpa)⟩)
  have writes : Json.write .compact document = .ok interpolationText := by decide +kernel
  have read : ofJson interpolationText = .ok node := by
    rw [ofJson, Json.read_of_write isJson writes]
    rfl
  exact ⟨read, exists_toJson_of_ofJson interpolationText node read ⟨some 2⟩⟩

end Node

end NodeForms
