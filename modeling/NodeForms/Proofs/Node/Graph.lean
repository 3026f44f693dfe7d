import NodeForms.Proofs.Node.Format

/-!
# Graphs that read back

A graph of well-typed nodes can be written, and what is written reads back as the same graph but
for one thing: a symbol or a regular expression is written as a mapping, and in a slot for
anything a mapping is read as a node.
-/

namespace NodeForms

mutual
/-- The nodes of a graph at every depth, each before those in its payloads. -/
def Node.nodes : Node → List Node
  | ⟨kind, u1, u2, u3, line, file⟩ =>
      ⟨kind, u1, u2, u3, line, file⟩ :: (u1.nodes ++ (u2.nodes ++ u3.nodes))
/-- The nodes in a payload. -/
def Value.nodes : Value → List Node
  | .tuple items | .list items => Value.listNodes items
  | .node child => child.nodes
  | .closure params body _ => params.nodes ++ body.nodes
  | _ => []
def Value.listNodes : List Value → List Node
  | [] => []
  | item :: items => item.nodes ++ Value.listNodes items
end

def Value.isSymbolic : Value → Bool
  | .symbol _ | .regex _ => true
  | _ => false

/-- Whether a payload is a literal: a number or a truth value, a text, a symbol or a regular
expression. -/
def Value.isLiteral : Value → Bool
  | .data (.scalar (.bool _)) | .data (.scalar (.int _)) | .data (.scalar (.float _))
  | .data (.scalar (.text _)) => true
  | value => value.isSymbolic

namespace Node

/-- A well-typed node with captured closures in the slots for them, and in the slots for anything
nothing but nodes and literals. -/
structure IsOrdinary (node : Node) : Prop where
  numbered : ∃ number, node.kind = .ofInt number
  fits : node.check = .ok ()
  absent : ∀ position, (node.slots.get position).isNull = true → node.slots.get position = .null
  closures : ∀ position role, node.kind.layout.slotAt position = some ⟨role, .closure⟩ →
    node.slots.get position = .null ∨
      ∃ params body owner, node.slots.get position = .closure (.ofNode? params) (.ofNode? body) owner
  loose : ∀ position role, node.kind.layout.slotAt position = some ⟨role, .anything⟩ →
    node.slots.get position = .null ∨ (∃ child, node.slots.get position = .node child) ∨
      (node.slots.get position).isLiteral = true

/-- Whether a slot for anything holds a symbol or a regular expression. -/
def hasLooseSymbolAt (node : Node) (position : SlotPosition) : Bool :=
  match node.kind.layout.slotAt position with
  | some used => used.expected == .anything && (node.slots.get position).isSymbolic
  | none => false

/-- Whether one of the slots for anything holds a symbol or a regular expression. -/
def hasLooseSymbol (node : Node) : Bool := SlotPosition.all.any node.hasLooseSymbolAt

/-- The value that is read, unless a mapping that names no kind stands where a node must. -/
def readUnless {α : Type} (spoiled : Bool) (value : α) : Except DecodeError α :=
  if spoiled then .error (.document (.kindMissing "None")) else .ok value

theorem readUnless_map {α β : Type} (spoiled : Bool) (value : α) (wrap : α → β) :
    (readUnless spoiled value).map wrap = readUnless spoiled (wrap value) := by
  cases spoiled <;> rfl

theorem readUnless_bind {α β : Type} {first second : Bool} {value : α} {result : β}
    {next : α → Except DecodeError β} (continues : next value = readUnless second result) :
    readUnless first value >>= next = readUnless (first || second) result := by
  cases first with
  | true => rfl
  | false => exact continues

end Node

/-- A payload that is there, and is written in its slot as something that is read as that payload
unless it is or holds a loose symbol. -/
def Value.Settles (expected : Expected) (value : Value) : Prop :=
  value.isNull = false ∧ ∃ written, Node.encodePayload expected value = .ok written ∧
    ∀ role, Node.decodePayload expected role written =
      Node.readUnless ((expected == .anything && value.isSymbolic)
        || value.nodes.any Node.hasLooseSymbol) value

/-- A node that is written as a mapping, which is read as that node unless it holds a loose
symbol. -/
def Node.Settles (node : Node) : Prop :=
  ∃ entries, node.encode = .ok (.map entries) ∧
    Node.decode (.map entries) = Node.readUnless (node.nodes.any Node.hasLooseSymbol) node

namespace Node

section

variable {node : Node}

theorem encodeSlot_settles (ordinary : node.IsOrdinary) (position : SlotPosition)
    (payload : ∀ used, node.kind.layout.slotAt position = some used →
      (node.slots.get position).isNull = false →
        (node.slots.get position).Settles used.expected) :
    ∃ members, encodeSlot (node.kind.layout.slotAt position) (node.slots.get position).isNull
        (fun expected => encodePayload expected (node.slots.get position)) = .ok members ∧
      Entries.HoldsRoles members ∧
      ∀ before : Slots, before.get position = .null →
        decodeSlots node.kind before members =
          readUnless (node.hasLooseSymbolAt position
            || (node.slots.get position).nodes.any hasLooseSymbol)
            (before.set position (node.slots.get position)) := by
  have fit := check_eq_ok_iff.mp ordinary.fits position
  by_cases empty : (node.slots.get position).isNull = true
  · have absent := ordinary.absent position empty
    have unspoiled : (node.hasLooseSymbolAt position
        || (node.slots.get position).nodes.any hasLooseSymbol) = false := by
      rw [absent, hasLooseSymbolAt, absent]
      cases node.kind.layout.slotAt position <;> simp [Value.null, Value.nodes, Value.isSymbolic]
    refine ⟨[], ?_, .nil, fun before isEmpty => ?_⟩
    · rw [absent]
      cases node.kind.layout.slotAt position <;> rfl
    · rw [unspoiled]
      exact decodeSlots_nil absent isEmpty
  · cases isUsed : node.kind.layout.slotAt position with
    | none =>
        rw [isUsed] at fit
        exact absurd fit empty
    | some used =>
        obtain ⟨present, written, encodes, reads⟩ := payload used isUsed (by simpa using empty)
        refine ⟨[(.text used.role, written)], ?_,
          .singleton written (Kind.find?_role isUsed).2, fun before _ => ?_⟩
        · simp [encodeSlot, present, encodes, Except.map]
        · rw [decodeSlots_role isUsed, reads used.role, readUnless_map, hasLooseSymbolAt, isUsed]

theorem settles_of_slots (ordinary : node.IsOrdinary)
    (payloads : ∀ position used, node.kind.layout.slotAt position = some used →
      (node.slots.get position).isNull = false →
        (node.slots.get position).Settles used.expected) : node.Settles := by
  have kindReads : decodeKind (some node.kind.encode) = .ok node.kind := by
    obtain ⟨number, isKind⟩ := ordinary.numbered
    have named : decodeKind (some (.int number)) = .ok node.kind := by rw [isKind]; rfl
    exact decodeKind_encode named
  choose members written roles reads using fun position =>
    encodeSlot_settles ordinary position (payloads position)
  obtain ⟨entries, encodes, decodes⟩ := exists_encode kindReads written roles
  refine ⟨entries, encodes, ?_⟩
  have finishes : finishNode (encodeLine node.line ++ encodeFile node.file) node.kind node.slots =
      readUnless false node := finishNode_place ordinary.fits
  have spoiled : node.nodes.any hasLooseSymbol =
      ((node.hasLooseSymbolAt .first || node.u1.nodes.any hasLooseSymbol)
        || ((node.hasLooseSymbolAt .second || node.u2.nodes.any hasLooseSymbol)
        || ((node.hasLooseSymbolAt .third || node.u3.nodes.any hasLooseSymbol) || false))) := by
    obtain ⟨kind, u1, u2, u3, line, file⟩ := node
    simp only [nodes, List.any_cons, List.any_append, hasLooseSymbol, SlotPosition.all,
      List.any_nil, Bool.or_false, Bool.or_assoc, Bool.or_left_comm]
  rw [decodes, reads .first {} rfl, spoiled]
  refine readUnless_bind ?_
  rw [reads .second _ rfl]
  refine readUnless_bind ?_
  rw [reads .third _ rfl]
  exact readUnless_bind finishes

end

end Node

/-- What a slot of an ordinary node holds, if it is not empty: nodes, a closure, a loose symbol, or
something without nodes in it that reads back. -/
inductive Value.IsOrdinary : Expected → Value → Prop
  | child {expected : Expected} (forNode : expected = .node ∨ expected = .anything) (child : Node) :
      Value.IsOrdinary expected (.node child)
  | nodes {items : List Value} (children : List Node) (areNodes : items = children.map .node) :
      Value.IsOrdinary .nodes (.tuple items)
  | closure {params body : Value} (paramsNode bodyNode : Option Node) (owner : Option String)
      (isParams : params = .ofNode? paramsNode) (isBody : body = .ofNode? bodyNode) :
      Value.IsOrdinary .closure (.closure params body owner)
  | looseSymbol {value : Value} (isSymbolic : value.isSymbolic = true) :
      Value.IsOrdinary .anything value
  | plain {expected : Expected} {value : Value} (noNodes : value.nodes = [])
      (unspoiled : (expected == .anything && value.isSymbolic) = false)
      (readsBack : value.ReadsBack expected) : Value.IsOrdinary expected value

theorem Value.exists_map_node (items : List Value)
    (areNodes : items.all (fun item => item.node?.isSome) = true) :
    ∃ children : List Node, items = children.map .node := by
  induction items with
  | nil => exact ⟨[], rfl⟩
  | cons item items inductionHypothesis =>
      rw [List.all_cons, Bool.and_eq_true] at areNodes
      obtain ⟨children, rfl⟩ := inductionHypothesis areNodes.2
      cases item with
      | node child => exact ⟨child :: children, rfl⟩
      | _ => cases areNodes.1

namespace Value.IsOrdinary

theorem scalar {expected : Expected} {content : Scalar} (present : content ≠ .null)
    (isPlain : expected ∈ [.name, .integer, .literal, .anything]) :
    (Value.data (.scalar content)).IsOrdinary expected := by
  have notNull : (Data.scalar content).isNull = false := by
    cases content with
    | null => exact absurd rfl present
    | _ => rfl
  refine .plain rfl (by simp [Value.isSymbolic]) (.data notNull ?_ fun role => ?_)
  · cases expected <;> simp_all [Node.encodePayload]
  · cases expected <;>
      simp_all [Node.decodePayload, Node.decodeFlat, Node.decodeLiteral, Data.bare]

theorem ofLoose {value : Value} (loose : (∃ child, value = .node child) ∨ value.isLiteral = true) :
    value.IsOrdinary .anything := by
  rcases loose with ⟨child, rfl⟩ | isLiteral
  · exact .child (.inr rfl) child
  · unfold Value.isLiteral at isLiteral
    split at isLiteral
    case h_5 => exact .looseSymbol isLiteral
    all_goals exact .scalar (by simp) (by simp)

theorem ofAdmits {expected : Expected} {value : Value} (fits : expected.admits value = true)
    (present : value.isNull = false)
    (closure : expected = .closure → ∃ params body owner,
      value = .closure (.ofNode? params) (.ofNode? body) owner)
    (loose : expected = .anything → (∃ child, value = .node child) ∨ value.isLiteral = true) :
    value.IsOrdinary expected := by
  unfold Expected.admits at fits
  rw [present, Bool.false_or] at fits
  split at fits
  case h_1 => exact ofLoose (loose rfl)
  case h_2 =>
    obtain ⟨params, body, owner, rfl⟩ := closure rfl
    exact .closure params body owner rfl rfl
  case h_3 child => exact .child (.inl rfl) child
  case h_4 items =>
    obtain ⟨children, areNodes⟩ := Value.exists_map_node items fits
    exact .nodes children areNodes
  case h_9 name => exact .plain rfl rfl (.symbol name)
  case h_10 source => exact .plain rfl rfl (.regex source)
  case h_12 names => exact .plain rfl rfl (.table names)
  case h_13 attr operator => exact .plain rfl rfl (.selector attr operator)
  case h_14 => cases fits
  all_goals exact .scalar (by simp) (by simp)

end Value.IsOrdinary

theorem Node.IsOrdinary.payload {node : Node} (ordinary : node.IsOrdinary)
    {position : SlotPosition} {used : SlotRole}
    (isUsed : node.kind.layout.slotAt position = some used)
    (present : (node.slots.get position).isNull = false) :
    (node.slots.get position).IsOrdinary used.expected := by
  have notNull : node.slots.get position ≠ .null := by
    intro absent
    rw [absent] at present
    cases present
  have fit := Node.check_eq_ok_iff.mp ordinary.fits position
  rw [isUsed] at fit
  obtain ⟨role, expected⟩ := used
  refine .ofAdmits fit present ?_ ?_
  · rintro rfl
    exact (ordinary.closures position role isUsed).resolve_left notNull
  · rintro rfl
    exact (ordinary.loose position role isUsed).resolve_left notNull

namespace Value.Settles

theorem child {expected : Expected} {child : Node}
    (forNode : expected = .node ∨ expected = .anything) (settles : child.Settles) :
    (Value.node child).Settles expected := by
  obtain ⟨entries, encodes, decodes⟩ := settles
  refine ⟨rfl, .map entries, ?_, fun role => ?_⟩
  · rcases forNode with rfl | rfl
    · simpa [Node.encodePayload] using encodes
    · simpa [Node.encodePayload] using encodes
  · have reads : Node.decodePayload expected role (.map entries) =
        (Node.decode (.map entries)).map .node := by
      rcases forNode with rfl | rfl
      · simp only [Node.decodePayload, Node.decode]
      · simp only [Node.decodePayload, Node.decode]
    rw [reads, decodes, Node.readUnless_map]
    simp [Value.nodes, Value.isSymbolic]

theorem looseSymbol {value : Value} (isSymbolic : value.isSymbolic = true) :
    value.Settles .anything := by
  cases value with
  | symbol name =>
      exact ⟨rfl, .map [(.text "sym", .text name)], by simp [Node.encodePayload], fun role => rfl⟩
  | regex source =>
      exact ⟨rfl, .map [(.text "regex", .text source)], by simp [Node.encodePayload],
        fun role => rfl⟩
  | _ => cases isSymbolic

theorem plain {expected : Expected} {value : Value} (present : value.isNull = false)
    (noNodes : value.nodes = []) (unspoiled : (expected == .anything && value.isSymbolic) = false)
    (readsBack : value.ReadsBack expected) : value.Settles expected := by
  rcases readsBack with absent | ⟨-, written, encodes, reads⟩
  · rw [absent] at present
    cases present
  · refine ⟨present, written, encodes, fun role => ?_⟩
    rw [reads role, noNodes, unspoiled]
    rfl

end Value.Settles

namespace Node

mutual
theorem settles_of_isOrdinary : (node : Node) → (∀ inner ∈ node.nodes, inner.IsOrdinary) →
    node.Settles
  | ⟨kind, u1, u2, u3, line, file⟩, ordinary => by
      have ofRoot := ordinary ⟨kind, u1, u2, u3, line, file⟩ (by simp [nodes])
      refine settles_of_slots ofRoot fun position used isUsed present => ?_
      have payload := ofRoot.payload isUsed present
      cases position with
      | first =>
          exact settles_of_payload u1 _ payload present fun inner within =>
            ordinary inner (by simp [nodes, within])
      | second =>
          exact settles_of_payload u2 _ payload present fun inner within =>
            ordinary inner (by simp [nodes, within])
      | third =>
          exact settles_of_payload u3 _ payload present fun inner within =>
            ordinary inner (by simp [nodes, within])
theorem settles_of_payload : (value : Value) → ∀ expected, value.IsOrdinary expected →
    value.isNull = false → (∀ inner ∈ value.nodes, inner.IsOrdinary) → value.Settles expected
  | .node child, expected, payload, present, within => by
      cases payload with
      | child forNode =>
          exact .child forNode (settles_of_isOrdinary child (by simpa [Value.nodes] using within))
      | looseSymbol isSymbolic => exact .looseSymbol isSymbolic
      | plain noNodes unspoiled readsBack => exact .plain present noNodes unspoiled readsBack
  | .tuple items, expected, payload, present, within => by
      cases payload with
      | nodes children areNodes =>
          obtain ⟨written, encodes, decodes⟩ :=
            settles_of_items items children areNodes (by simpa [Value.nodes] using within)
          refine ⟨rfl, .list written, by simp only [encodePayload, encodes, Except.map],
            fun role => ?_⟩
          simp only [decodePayload, decodes, readUnless_map]
          simp [Value.nodes, Value.isSymbolic, Value.ofNodes, areNodes]
      | looseSymbol isSymbolic => exact .looseSymbol isSymbolic
      | plain noNodes unspoiled readsBack => exact .plain present noNodes unspoiled readsBack
  | .closure params body owner, expected, payload, present, within => by
      cases payload with
      | closure paramsNode bodyNode owner isParams isBody =>
          simp only [Value.nodes, List.mem_append] at within
          obtain ⟨first, firstEncodes, firstReads⟩ := settles_of_side params paramsNode isParams
            fun inner member => within inner (.inl member)
          obtain ⟨second, secondEncodes, secondReads⟩ := settles_of_side body bodyNode isBody
            fun inner member => within inner (.inr member)
          refine ⟨rfl, .map [(.text "params", first), (.text "body", second),
            (.text "owner", encodeOwner owner)], ?_, fun role => ?_⟩
          · simp only [encodePayload, firstEncodes, secondEncodes, encodeBoth, Except.map]
          · have finishes : (.ok (.closure (.ofNode? paramsNode) (.ofNode? bodyNode) owner) :
                Except DecodeError Value) = readUnless false (.closure params body owner) := by
              rw [isParams, isBody]
              rfl
            -- A closure cannot be read back if one of its sides cannot.
            have spoiled : (Value.closure params body owner).nodes.any hasLooseSymbol =
                (params.nodes.any hasLooseSymbol
                  || (body.nodes.any hasLooseSymbol || false)) := by
              simp [Value.nodes]
            rw [decodePayload_closure, firstReads, secondReads, spoiled]
            exact readUnless_bind (readUnless_bind finishes)
      | looseSymbol isSymbolic => exact .looseSymbol isSymbolic
      | plain noNodes unspoiled readsBack => exact .plain present noNodes unspoiled readsBack
  | .data _, expected, payload, present, _ | .list _, expected, payload, present, _
  | .symbol _, expected, payload, present, _ | .regex _, expected, payload, present, _
  | .selector _ _, expected, payload, present, _ | .table _, expected, payload, present, _
  | .form _, expected, payload, present, _ => by
      cases payload with
      | looseSymbol isSymbolic => exact .looseSymbol isSymbolic
      | plain noNodes unspoiled readsBack => exact .plain present noNodes unspoiled readsBack
theorem settles_of_items : (items : List Value) → ∀ children : List Node,
    items = children.map .node → (∀ inner ∈ Value.listNodes items, inner.IsOrdinary) →
    ∃ written, encodeNodes items = .ok written ∧
      decodeList written = readUnless ((Value.listNodes items).any hasLooseSymbol) children
  | [], children, areNodes, _ => by
      obtain rfl := List.map_eq_nil_iff.mp areNodes.symm
      exact ⟨[], by simp [encodeNodes], by simp [decodeList, Value.listNodes, readUnless]⟩
  | .node child :: items, children, areNodes, within => by
      obtain ⟨first, rest, rfl, isFirst, isRest⟩ := List.map_eq_cons_iff.mp areNodes.symm
      obtain rfl : child = first := (Value.node.inj isFirst).symm
      simp only [Value.listNodes, Value.nodes, List.mem_append] at within
      obtain ⟨entries, encodes, decodes⟩ :=
        settles_of_isOrdinary child fun inner member => within inner (.inl member)
      obtain ⟨others, othersEncode, othersDecode⟩ :=
        settles_of_items items rest isRest.symm fun inner member => within inner (.inr member)
      refine ⟨.map entries :: others, ?_, ?_⟩
      · simp only [encodeNodes, encodes, othersEncode, encodeBoth, Except.map]
      · have finishes : (.ok (child :: rest) : Except DecodeError (List Node)) =
            readUnless false (child :: rest) := rfl
        have spoiled : (Value.listNodes (.node child :: items)).any hasLooseSymbol =
            (child.nodes.any hasLooseSymbol
              || ((Value.listNodes items).any hasLooseSymbol || false)) := by
          simp [Value.listNodes, Value.nodes]
        rw [decodeList, decodes, othersDecode, spoiled]
        exact readUnless_bind (readUnless_bind finishes)
  | .data _ :: _, _, areNodes, _ | .tuple _ :: _, _, areNodes, _ | .list _ :: _, _, areNodes, _
  | .symbol _ :: _, _, areNodes, _ | .regex _ :: _, _, areNodes, _
  | .selector _ _ :: _, _, areNodes, _ | .table _ :: _, _, areNodes, _
  | .closure _ _ _ :: _, _, areNodes, _ | .form _ :: _, _, areNodes, _ => by
      obtain ⟨_, _, -, isFirst, -⟩ := List.map_eq_cons_iff.mp areNodes.symm
      cases isFirst
theorem settles_of_side : (side : Value) → ∀ node : Option Node, side = .ofNode? node →
    (∀ inner ∈ side.nodes, inner.IsOrdinary) →
    ∃ written, encodePart side = .ok written ∧
      decodeSide written = readUnless (side.nodes.any hasLooseSymbol) node
  | .node child, node, isNode, within => by
      obtain ⟨entries, encodes, decodes⟩ :=
        settles_of_isOrdinary child (by simpa [Value.nodes] using within)
      refine ⟨.map entries, by simpa [encodePart] using encodes, ?_⟩
      have isChild : node = some child := by
        cases node with
        | none => cases isNode
        | some other => rw [Value.node.inj isNode]
      rw [isChild, Value.nodes, ← readUnless_map, ← decodes]
      rfl
  | .data content, node, isNode, _ => by
      cases node with
      | none =>
          obtain rfl := Value.data.inj isNode
          exact ⟨.null, rfl, rfl⟩
      | some child => cases isNode
  | .tuple _, node, isNode, _ | .list _, node, isNode, _ | .symbol _, node, isNode, _
  | .regex _, node, isNode, _ | .selector _ _, node, isNode, _ | .table _, node, isNode, _
  | .closure _ _ _, node, isNode, _ | .form _, node, isNode, _ => by
      cases node with
      | none => cases isNode
      | some child => cases isNode
end

/-- A graph of ordinary nodes can be written. What is written reads back as the same graph if it
holds no loose symbol, and is refused for a missing kind if it holds one. -/
theorem decode_encode_of_isOrdinary (node : Node)
    (ordinary : ∀ inner ∈ node.nodes, inner.IsOrdinary) :
    ∃ written, node.encode = .ok written ∧
      decode written = if node.nodes.any hasLooseSymbol
        then .error (.document (.kindMissing "None")) else .ok node := by
  obtain ⟨entries, encodes, decodes⟩ := settles_of_isOrdinary node ordinary
  exact ⟨.map entries, encodes, decodes⟩

def symbolLiteral : Node := ⟨.known .lit, .symbol "up", .null, .null, 4, none⟩

/-- A cfunc, whose slots hold anything, with a literal, a number and a given payload. -/
def looseGraph (third : Value) : Node :=
  ⟨.known .cfunc, .node symbolLiteral, .data (.int 3), third, 0, some "a.rb"⟩

theorem isOrdinary_symbolLiteral : symbolLiteral.IsOrdinary where
  numbered := ⟨58, rfl⟩
  fits := rfl
  absent position isNull := by
    cases position with
    | first => cases isNull
    | second => rfl
    | third => rfl
  closures position role isUsed := by cases position <;> cases isUsed
  loose position role isUsed := by cases position <;> cases isUsed

theorem isOrdinary_looseGraph {third : Value} (isLoose : third = .null ∨ third = .symbol "x") :
    ∀ inner ∈ (looseGraph third).nodes, inner.IsOrdinary := by
  intro inner within
  have isOne : inner = looseGraph third ∨ inner = symbolLiteral := by
    rcases isLoose with rfl | rfl <;>
      simpa [looseGraph, symbolLiteral, nodes, Value.nodes, Value.null] using within
  rcases isOne with rfl | rfl
  · refine ⟨⟨2, rfl⟩, ?_, fun position isNull => ?_, fun position role isUsed => ?_,
      fun position role isUsed => ?_⟩
    · rcases isLoose with rfl | rfl <;> rfl
    · cases position with
      | first => cases isNull
      | second => cases isNull
      | third =>
          rcases isLoose with rfl | rfl
          · rfl
          · cases isNull
    · cases position <;> cases isUsed
    · cases position with
      | first => exact .inr (.inl ⟨_, rfl⟩)
      | second => exact .inr (.inr rfl)
      | third =>
          rcases isLoose with rfl | rfl
          · exact .inl rfl
          · exact .inr (.inr rfl)
  · exact isOrdinary_symbolLiteral

theorem decode_encode_looseGraph :
    (∃ written, (looseGraph .null).encode = .ok written ∧
      decode written = .ok (looseGraph .null)) ∧
    ∃ written, (looseGraph (.symbol "x")).encode = .ok written ∧
      decode written = .error (.document (.kindMissing "None")) :=
  ⟨decode_encode_of_isOrdinary (looseGraph .null) (isOrdinary_looseGraph (.inl rfl)),
    decode_encode_of_isOrdinary (looseGraph (.symbol "x")) (isOrdinary_looseGraph (.inr rfl))⟩

/-- Not every graph of ordinary nodes reads back. -/
theorem exists_isOrdinary_decode_ne : ¬∀ node : Node, (∀ inner ∈ node.nodes, inner.IsOrdinary) →
    ∃ written, node.encode = .ok written ∧ decode written = .ok node := by
  intro readsBack
  obtain ⟨written, encodes, decodes⟩ :=
    readsBack (looseGraph (.symbol "x")) (isOrdinary_looseGraph (.inr rfl))
  cases encodes
  cases decodes

end Node

end NodeForms
