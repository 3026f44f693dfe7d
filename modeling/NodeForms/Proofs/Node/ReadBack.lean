import NodeForms.Proofs.Node.Members

/-!
# Payloads that read back

A payload reads back if what it is written as in its slot reads as the same payload. Nodes,
sequences of nodes and closures read back when the nodes in them do, and a well-typed node
reads back when its payloads do.
-/

namespace NodeForms

def Node.ReadsBack (node : Node) : Prop :=
  ∃ written, node.encode = .ok written ∧ Node.decode written = .ok node

/-- A payload that is absent, or is written in its slot as something that reads back as that
payload. -/
def Value.ReadsBack (expected : Expected) (value : Value) : Prop :=
  value = .null ∨ (value.isNull = false ∧
    ∃ written, Node.encodePayload expected value = .ok written ∧
      ∀ role, Node.decodePayload expected role written = .ok value)

/-- Payloads that read back in the slots of a kind, with nothing in the others. -/
def Slots.ReadBack (kind : Kind) (slots : Slots) : Prop :=
  ∀ position, match kind.layout.slotAt position with
    | none => slots.get position = .null
    | some used => (slots.get position).ReadsBack used.expected

namespace Slots.ReadBack

variable {kind : Kind} {slots : Slots}

/-- The payload of a slot is written as members that fill this slot alone. -/
theorem encodeSlot_reads (readBack : slots.ReadBack kind) (position : SlotPosition) :
    ∃ members, Node.encodeSlot (kind.layout.slotAt position) (slots.get position).isNull
        (fun expected => Node.encodePayload expected (slots.get position)) = .ok members ∧
      Entries.HoldsRoles members ∧
      ∀ before : Slots, before.get position = .null →
        Node.decodeSlots kind before members = .ok (before.set position (slots.get position)) := by
  have ofPosition := readBack position
  cases isUsed : kind.layout.slotAt position with
  | none =>
      rw [isUsed] at ofPosition
      exact ⟨[], rfl, .nil, fun before => Node.decodeSlots_nil ofPosition⟩
  | some used =>
      rw [isUsed] at ofPosition
      rcases ofPosition with absent | ⟨present, written, encodes, reads⟩
      · exact ⟨[], by rw [absent]; rfl, .nil, fun before => Node.decodeSlots_nil absent⟩
      · refine ⟨[(.text used.role, written)], ?_,
          .singleton written (Kind.find?_role isUsed).2, fun before _ => ?_⟩
        · simp [Node.encodeSlot, present, encodes, Except.map]
        · rw [Node.decodeSlots_role isUsed, reads used.role]
          rfl

end Slots.ReadBack

namespace Node

/-- A node is written as a mapping whose payloads do not stand in the way of its kind, its line
and its file. -/
theorem exists_encode {node : Node} {members : SlotPosition → Entries}
    (kindReads : decodeKind (some node.kind.encode) = .ok node.kind)
    (written : ∀ position, encodeSlot (node.kind.layout.slotAt position)
      (node.slots.get position).isNull
      (fun expected => encodePayload expected (node.slots.get position)) = .ok (members position))
    (roles : ∀ position, (members position).HoldsRoles) :
    ∃ entries, node.encode = .ok (.map entries) ∧
      decode (.map entries) = (do
        let filled ← decodeSlots node.kind {} (members .first)
        let filled ← decodeSlots node.kind filled (members .second)
        let filled ← decodeSlots node.kind filled (members .third)
        finishNode (encodeLine node.line ++ encodeFile node.file) node.kind filled) := by
  obtain ⟨kind, u1, u2, u3, line, file⟩ := node
  let place := encodeLine line ++ encodeFile file
  let entries : Entries := (.text "kind", kind.encode)
    :: (members .first ++ members .second ++ members .third ++ place)
  have encodes : encode ⟨kind, u1, u2, u3, line, file⟩ = .ok (.map entries) := by
    have first : encodeSlot kind.layout.first u1.isNull
      (fun expected => encodePayload expected u1) = .ok (members .first) := written .first
    have second : encodeSlot kind.layout.second u2.isNull
      (fun expected => encodePayload expected u2) = .ok (members .second) := written .second
    have third : encodeSlot kind.layout.third u3.isNull
      (fun expected => encodePayload expected u3) = .ok (members .third) := written .third
    rw [encode, first, second, third]
    simp only [encodeBoth, Except.map, entries, place, List.append_assoc]
  -- What is written for the slots hides none of the keys of the node itself.
  have lookup (name : String) (isOwn : isOwnKey (.text name) = true) (other : "kind" ≠ name) :
      entries.get? name = place.get? name := by
    simp only [entries, List.append_assoc]
    rw [Entries.get?_cons, if_neg other, roles .first name _ isOwn, roles .second name _ isOwn,
      roles .third name _ isOwn]
  have named : entries.get? "kind" = some kind.encode := by
    rw [Entries.get?_cons, if_pos rfl]
  have finishes (filled : Slots) :
      finishNode entries kind filled = finishNode place kind filled := by
    rw [finishNode, lookup "line" rfl (by decide), lookup "file" rfl (by decide), finishNode]
  refine ⟨entries, encodes, ?_⟩
  rw [decode, decodeMapping, named, kindReads]
  simp only [bind, Except.bind, finishes]
  simp only [entries, List.append_assoc]
  rw [decodeSlots_ownKey (by rfl)]
  simp only [decodeSlots_append, bind, Except.bind]
  cases decodeSlots kind {} (members .first) with
  | error fault => rfl
  | ok filled =>
      dsimp only
      cases decodeSlots kind filled (members .second) with
      | error fault => rfl
      | ok filled =>
          dsimp only
          cases decodeSlots kind filled (members .third) with
          | error fault => rfl
          | ok filled => simp only [place, decodeSlots_place]

theorem finishNode_place {node : Node} (fits : node.check = .ok ()) :
    finishNode (encodeLine node.line ++ encodeFile node.file) node.kind node.slots =
      .ok node := by
  have same : ofSlots node.kind node.slots node.line node.file = node := by
    cases node
    rfl
  rw [finishNode, decodeLine_encodeLine, decodeFile_encodeFile]
  simp only [bind, Except.bind, same, fits]

theorem readsBack_of_slots {node : Node}
    (kindReads : decodeKind (some node.kind.encode) = .ok node.kind)
    (readBack : node.slots.ReadBack node.kind) (fits : node.check = .ok ()) : node.ReadsBack := by
  choose members written roles reads using readBack.encodeSlot_reads
  obtain ⟨entries, encodes, decodes⟩ := exists_encode kindReads written roles
  refine ⟨.map entries, encodes, ?_⟩
  rw [decodes, reads .first {} rfl]
  simp only [bind, Except.bind]
  rw [reads .second _ rfl]
  simp only
  rw [reads .third _ rfl]
  exact finishNode_place fits

theorem decodePayload_of_decode {expected : Expected} {child : Node}
    (forNode : expected = .node ∨ expected = .anything) :
    (written : Data) → decode written = .ok child →
      ∀ role, decodePayload expected role written = .ok (.node child)
  | .map entries, reads, role => by
      rw [decode] at reads
      rcases forNode with rfl | rfl
      · simp only [decodePayload, reads, Except.map]
      · simp only [decodePayload, reads, Except.map]
  | .shared label content, reads, role => by
      rw [decode] at reads
      rw [decodePayload, decodePayload_of_decode forNode content reads role]
      rfl
  | .scalar _, reads, _ | .list _, reads, _ | .set _, reads, _ | .pair _ _, reads, _
  | .enclosing _, reads, _ => by
      simp [decode] at reads

theorem isNull_of_decode {child : Node} :
    (written : Data) → decode written = .ok child → written.isNull = false
  | .shared label content, reads => by
      rw [decode] at reads
      rw [Data.isNull, isNull_of_decode content reads]
  | .scalar _, reads => by simp [decode] at reads
  | .map _, _ | .list _, _ | .set _, _ | .pair _ _, _ | .enclosing _, _ => by
      simp [Data.isNull]

theorem encodeNodes_reads (nodes : List Node) (readBack : ∀ node ∈ nodes, node.ReadsBack) :
    ∃ written, encodeNodes (nodes.map .node) = .ok written ∧ decodeList written = .ok nodes := by
  induction nodes with
  | nil => exact ⟨[], by simp [encodeNodes], by simp [decodeList]⟩
  | cons node nodes inductionHypothesis =>
      rw [List.forall_mem_cons] at readBack
      obtain ⟨first, firstEncodes, firstReads⟩ := readBack.1
      obtain ⟨rest, restEncodes, restReads⟩ := inductionHypothesis readBack.2
      refine ⟨first :: rest, ?_, ?_⟩
      · simp only [List.map_cons, encodeNodes, firstEncodes, restEncodes, encodeBoth, Except.map]
      · simp only [decodeList, firstReads, restReads, bind, Except.bind]

/-- Plain data is written in the place of nodes only if it is empty. -/
theorem eq_nil_of_encodePayload_nodes {content written : Data}
    (encodes : encodePayload .nodes (.data content) = .ok written) : written = .list [] := by
  simp only [encodePayload] at encodes
  repeat' split at encodes
  all_goals cases encodes
  all_goals rfl

def decodeSide (content : Data) : Except DecodeError (Option Node) :=
  if content.isNull then .ok none else (decode content).map some

theorem encodePart_reads (side : Option Node) (readBack : ∀ node ∈ side, node.ReadsBack) :
    ∃ written, encodePart (.ofNode? side) = .ok written ∧ decodeSide written = .ok side := by
  cases side with
  | none => exact ⟨.null, rfl, rfl⟩
  | some node =>
      obtain ⟨written, encodes, reads⟩ := readBack node rfl
      refine ⟨written, ?_, ?_⟩
      · simpa [Value.ofNode?, encodePart] using encodes
      · rw [decodeSide, isNull_of_decode written reads, reads]
        rfl

theorem decodePayload_closure (params body : Data) (owner : Option String) (role : String) :
    decodePayload .closure role
        (.map [(.text "params", params), (.text "body", body), (.text "owner", encodeOwner owner)]) =
      (do
        let params ← decodeSide params
        let body ← decodeSide body
        .ok (.closure (.ofNode? params) (.ofNode? body) owner)) := by
  have keys : checkClosureKeys [(.text "params", params), (.text "body", body),
      (.text "owner", encodeOwner owner)] = .ok () := rfl
  have readOwner : decodeOwner [(.text "params", params), (.text "body", body),
      (.text "owner", encodeOwner owner)] = owner := by
    cases owner with
    | none => rfl
    | some owner => rfl
  have noParams : ¬Scalar.text "params" = .text "body" := by decide
  simp only [decodePayload, keys, readOwner, decodeMember, decodeSide, if_true, if_neg noParams,
    bind, Except.bind]

end Node

namespace Value.ReadsBack

variable {expected : Expected}

theorem null : Value.null.ReadsBack expected := .inl rfl

theorem node {child : Node} (forNode : expected = .node ∨ expected = .anything)
    (readsBack : child.ReadsBack) : (Value.node child).ReadsBack expected := by
  obtain ⟨written, encodes, reads⟩ := readsBack
  refine .inr ⟨rfl, written, ?_, Node.decodePayload_of_decode forNode written reads⟩
  rcases forNode with rfl | rfl
  · simpa [Node.encodePayload] using encodes
  · simpa [Node.encodePayload] using encodes

theorem nodes {nodes : List Node} (readBack : ∀ node ∈ nodes, node.ReadsBack) :
    (Value.ofNodes nodes).ReadsBack .nodes := by
  obtain ⟨written, encodes, reads⟩ := Node.encodeNodes_reads nodes readBack
  refine .inr ⟨rfl, .list written, ?_, ?_⟩
  · simp only [Value.ofNodes, Node.encodePayload, encodes, Except.map]
  · intro role
    simp only [Node.decodePayload, reads, Except.map]

theorem closure {params body : Option Node} (owner : Option String)
    (paramsReadBack : ∀ node ∈ params, node.ReadsBack)
    (bodyReadsBack : ∀ node ∈ body, node.ReadsBack) :
    (Value.closure (.ofNode? params) (.ofNode? body) owner).ReadsBack .closure := by
  obtain ⟨first, firstEncodes, firstReads⟩ := Node.encodePart_reads params paramsReadBack
  obtain ⟨second, secondEncodes, secondReads⟩ := Node.encodePart_reads body bodyReadsBack
  refine .inr ⟨rfl, .map [(.text "params", first), (.text "body", second),
    (.text "owner", Node.encodeOwner owner)], ?_, fun role => ?_⟩
  · simp only [Node.encodePayload, firstEncodes, secondEncodes, encodeBoth, Except.map]
  · rw [Node.decodePayload_closure, firstReads, secondReads]
    rfl

theorem labelled {value : Value} (label : Nat) (readsBack : value.ReadsBack expected) :
    (Node.labelled label value).ReadsBack expected := by
  cases value with
  | data content =>
      rw [Node.labelled]
      split
      · exact .null
      · rename_i present
        rcases readsBack with absent | ⟨-, written, encodes, reads⟩
        · cases absent
          exact absurd rfl present
        · refine .inr ⟨by simpa [Value.isNull, Data.isNull] using present,
            .shared label content, ?_⟩
          cases expected with
          | nodes =>
              -- Only an empty list is written here, and it reads as no plain data.
              obtain rfl := Node.eq_nil_of_encodePayload_nodes encodes
              have asTuple := reads ""
              rw [Node.decodePayload] at asTuple
              cases asTuple
          | table | selector | closure => simp [Node.encodePayload] at encodes
          | node | name | literal | integer | anything =>
              obtain rfl : content = written := by simpa [Node.encodePayload] using encodes
              refine ⟨by simp [Node.encodePayload], ?_⟩
              intro role
              rw [Node.decodePayload, reads role, Except.map, Node.labelled, if_neg present]
  | _ => exact readsBack

end Value.ReadsBack

namespace Node

variable {role : String} {value : Data} {payload : Value}

/-- A literal is a symbol, a regular expression, or the value itself. -/
theorem decodeLiteral_ok (found : decodeLiteral role value = .ok payload) :
    (∃ name, payload = .symbol name) ∨ (∃ source, payload = .regex source) ∨
      payload = .data value ∧ ∀ other, decodeLiteral other value = .ok (.data value) := by
  unfold decodeLiteral at found
  split at found
  · split at found
    · exact .inl ⟨_, (Except.ok.inj found).symm⟩
    · exact .inr (.inl ⟨_, (Except.ok.inj found).symm⟩)
    · cases found
  · cases found
  · rename_i noMap noMappingInside
    refine .inr (.inr ⟨(Except.ok.inj found).symm, fun other => ?_⟩)
    unfold decodeLiteral
    split
    · rename_i entries isMap
      exact absurd isMap (noMap entries)
    · rename_i isInside
      exact absurd isInside noMappingInside
    · rfl

theorem decodeTable_ok (found : decodeTable role value = .ok payload) :
    ∃ names, payload = .table names := by
  unfold decodeTable at found
  split at found
  · split at found
    · obtain ⟨names, -, rfl⟩ := map_eq_ok.mp found
      exact ⟨_, rfl⟩
    · cases found
  · cases found
  · obtain ⟨names, -, rfl⟩ := map_eq_ok.mp found
    exact ⟨_, rfl⟩

theorem decodeSelector_ok (found : decodeSelector role value = .ok payload) :
    ∃ attr operator, payload = .selector attr operator := by
  unfold decodeSelector at found
  split at found
  · split at found
    · exact ⟨_, _, (Except.ok.inj found).symm⟩
    · cases found
  · cases found

theorem text?_eq_some_iff {item : Data} {name : String} :
    (Value.data item).text? = some name ↔ item = .text name := by
  cases item with
  | scalar scalar => cases scalar <;> simp [Value.text?, Data.text]
  | _ => simp [Value.text?, Data.text]

theorem decodeNames_eq_ok_iff {role : String} {value : Data} {names : List String} :
    decodeNames role value = .ok names ↔ value.bare = .list (names.map .text) := by
  have texts (items : List Data) :
      items.mapM (fun item => (Value.data item).text?) = some names ↔
        items = names.map .text := by
    induction items generalizing names with
    | nil => cases names <;> simp
    | cons item items inductionHypothesis =>
        cases names with
        | nil => simp [List.mapM_cons, Option.bind_eq_some_iff]
        | cons name names =>
            simp [List.mapM_cons, Option.bind_eq_some_iff, text?_eq_some_iff, inductionHypothesis]
  unfold decodeNames
  split
  case h_1 items isList =>
    rw [isList, Data.list.injEq, ← texts items]
    cases items.mapM fun item => (Value.data item).text? <;> simp
  case h_2 noList =>
    simp only [reduceCtorEq, false_iff]
    exact noList _

theorem decodeTable_encode (role : String) (table : LocalTable) :
    decodeTable role table.encode = .ok (.table table) := by
  have reads (names : List String) : decodeNames role (.list (names.map .text)) = .ok names :=
    decodeNames_eq_ok_iff.mpr rfl
  unfold LocalTable.encode
  split
  · rename_i isOrdinary
    have ordinary : LocalTable.ofDeclared table.declared = table := by
      have reserved := eq_of_beq isOrdinary
      rw [LocalTable.ofDeclared, ← reserved, LocalTable.declared, List.take_append_drop]
    simp [decodeTable, Data.bare, reads, Except.map, ordinary]
  · simp [decodeTable, Data.bare, reads, Except.map]

theorem isNull_tableEncode (table : LocalTable) : table.encode.isNull = false := by
  unfold LocalTable.encode
  split <;> rfl

end Node

namespace Value.ReadsBack

theorem symbol (name : String) : (Value.symbol name).ReadsBack .literal :=
  .inr ⟨rfl, .map [(.text "sym", .text name)], by simp [Node.encodePayload], fun _ => rfl⟩

theorem regex (source : String) : (Value.regex source).ReadsBack .literal :=
  .inr ⟨rfl, .map [(.text "regex", .text source)], by simp [Node.encodePayload], fun _ => rfl⟩

theorem selector (attr operator : String) : (Value.selector attr operator).ReadsBack .selector :=
  .inr ⟨rfl, .map [(.text "attr", .text attr), (.text "operator", .text operator)],
    by simp [Node.encodePayload], fun _ => rfl⟩

theorem table (names : LocalTable) : (Value.table names).ReadsBack .table := by
  refine .inr ⟨rfl, names.encode, by simp [Node.encodePayload], fun role => ?_⟩
  have flat : Node.decodePayload .table role names.encode =
      Node.decodeFlat .table role names.encode := by
    unfold LocalTable.encode
    split
    · simp only [Node.decodePayload]
    · simp only [Node.decodePayload]
  rw [flat, Node.decodeFlat, Node.isNull_tableEncode]
  exact Node.decodeTable_encode role names

theorem data {expected : Expected} {content : Data} (present : content.isNull = false)
    (encodes : Node.encodePayload expected (.data content) = .ok content)
    (reads : ∀ role, Node.decodePayload expected role content = .ok (.data content)) :
    (Value.data content).ReadsBack expected :=
  .inr ⟨present, content, encodes, reads⟩

/-- A payload that is read without going into it reads back. -/
theorem ofFlat {expected : Expected} {role : String} {content : Data} {payload : Value}
    (flat : ∀ role, Node.decodePayload expected role content =
      Node.decodeFlat expected role content)
    (found : Node.decodePayload expected role content = .ok payload) :
    payload.ReadsBack expected := by
  rw [flat role] at found
  unfold Node.decodeFlat at found
  by_cases absent : content.isNull = true
  · rw [if_pos absent] at found
    obtain rfl := Except.ok.inj found
    exact .null
  · rw [if_neg absent] at found
    have present : content.isNull = false := by simpa using absent
    cases expected with
    | node | nodes | closure => cases found
    | name | integer | anything =>
        obtain rfl := Except.ok.inj found
        refine .data present (by simp [Node.encodePayload]) fun other => ?_
        rw [flat other, Node.decodeFlat, if_neg absent]
    | literal =>
        rcases Node.decodeLiteral_ok found with ⟨name, rfl⟩ | ⟨source, rfl⟩ | ⟨rfl, reads⟩
        · exact .symbol name
        · exact .regex source
        · refine .data present (by simp [Node.encodePayload]) fun other => ?_
          rw [flat other, Node.decodeFlat, if_neg absent]
          exact reads other
    | table =>
        obtain ⟨names, rfl⟩ := Node.decodeTable_ok found
        exact .table names
    | selector =>
        obtain ⟨attr, operator, rfl⟩ := Node.decodeSelector_ok found
        exact .selector attr operator

end Value.ReadsBack

end NodeForms
