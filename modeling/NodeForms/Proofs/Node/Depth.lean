import NodeForms.Proofs.Node.Graph

/-!
# Nodes at every depth

The check of a node does not look into its children, and it lets anything stand in a slot for a
captured closure. Reading leaves no gap there: whatever is read in the place of a node is a node
that was read in its turn, so every node below one that was read is regular.
-/

namespace NodeForms

/-- A well-typed node with closures in the slots for closures and tables of texts in the slots for
tables, and with a kind of the table if the table has a kind with its number. -/
structure Node.IsRegular (node : Node) : Prop where
  fits : node.check = .ok ()
  closures : ∀ position, node.kind.layout.Expects position .closure →
    node.slots.get position = .null ∨ ∃ params body owner,
      node.slots.get position = .closure (.ofNode? params) (.ofNode? body) owner
  tables : ∀ position, node.kind.layout.Expects position .table →
    node.slots.get position = .null ∨
      ∃ names : List String, node.slots.get position = .table ⟨names⟩
  known : ∀ kind, KnownKind.ofId? node.kind.id = some kind → node.kind = .known kind

theorem KnownKind.ofId?_id (kind : KnownKind) : KnownKind.ofId? kind.id = some kind := by
  cases kind <;> rfl

theorem Kind.ofInt_eq_known {number : Int} {kind : KnownKind}
    (isKnown : KnownKind.ofId? (Kind.ofInt number).id = some kind) :
    Kind.ofInt number = .known kind := by
  unfold Kind.ofInt at isKnown ⊢
  cases found : KnownKind.ofId? number with
  | none =>
      rw [found] at isKnown
      exact absurd (found.symm.trans isKnown) (by simp)
  | some other =>
      rw [found] at isKnown
      have same : some other = some kind := (KnownKind.ofId?_id other).symm.trans isKnown
      rw [Option.some.inj same]

theorem Kind.eq_known_of_decodeKind {named : Option Data} {kind : Kind} {known : KnownKind}
    (found : Node.decodeKind named = .ok kind) (isKnown : KnownKind.ofId? kind.id = some known) :
    kind = .known known := by
  obtain ⟨_, -, isNamed⟩ := Node.decodeKind_eq_ok_iff.mp found
  cases isNamed with
  | number number => exact Kind.ofInt_eq_known isKnown
  | @tag other _ _ => rw [Option.some.inj ((KnownKind.ofId?_id other).symm.trans isKnown)]

namespace Value

/-- A payload that the check does not tell apart is of the sort that its slot is for. -/
def Answers (expected : Expected) (value : Value) : Prop :=
  match expected with
  | .closure => value = .null ∨
      ∃ params body owner, value = .closure (.ofNode? params) (.ofNode? body) owner
  | .table => value = .null ∨ ∃ names : List String, value = .table ⟨names⟩
  | _ => True

theorem answers_null (expected : Expected) : Value.null.Answers expected := by
  cases expected with
  | closure | table => exact .inl rfl
  | _ => trivial

theorem mem_listNodes {items : List Value} {inner : Node} :
    inner ∈ listNodes items ↔ ∃ item ∈ items, inner ∈ item.nodes := by
  induction items with
  | nil => simp [listNodes]
  | cons item items inductionHypothesis => simp [listNodes, inductionHypothesis]

theorem mem_nodes_ofNodes {children : List Node} {inner : Node} :
    inner ∈ (ofNodes children).nodes ↔ ∃ child ∈ children, inner ∈ child.nodes := by
  rw [ofNodes, nodes, mem_listNodes]
  simp [nodes]

theorem mem_nodes_ofNode? {side : Option Node} {inner : Node} :
    inner ∈ (ofNode? side).nodes ↔ ∃ node ∈ side, inner ∈ node.nodes := by
  cases side with
  | none => simp [ofNode?, null, nodes]
  | some node => simp [ofNode?, nodes]

end Value

namespace Node

theorem mem_nodes {node inner : Node} :
    inner ∈ node.nodes ↔
      inner = node ∨ ∃ position, inner ∈ (node.slots.get position).nodes := by
  obtain ⟨kind, u1, u2, u3, line, file⟩ := node
  rw [nodes, List.mem_cons, List.mem_append, List.mem_append]
  refine or_congr_right ⟨?_, ?_⟩
  · rintro (first | second | third)
    · exact ⟨.first, first⟩
    · exact ⟨.second, second⟩
    · exact ⟨.third, third⟩
  · rintro ⟨position, within⟩
    cases position with
    | first => exact .inl within
    | second => exact .inr (.inl within)
    | third => exact .inr (.inr within)

theorem answers_of_decodeFlat {expected : Expected} {role : String} {content : Data}
    {payload : Value} (found : decodeFlat expected role content = .ok payload) :
    payload.Answers expected ∧ payload.nodes = [] := by
  unfold decodeFlat at found
  by_cases absent : content.isNull = true
  · rw [if_pos absent] at found
    obtain rfl := Except.ok.inj found
    exact ⟨Value.answers_null expected, rfl⟩
  · rw [if_neg absent] at found
    cases expected with
    | node | nodes | closure => cases found
    | name | integer | anything =>
        obtain rfl := Except.ok.inj found
        exact ⟨trivial, rfl⟩
    | literal =>
        rcases decodeLiteral_ok found with ⟨name, rfl⟩ | ⟨source, rfl⟩ | ⟨rfl, -⟩ <;>
          exact ⟨trivial, rfl⟩
    | table =>
        obtain ⟨names, rfl⟩ := decodeTable_ok found
        exact ⟨.inr ⟨names.names, rfl⟩, rfl⟩
    | selector =>
        obtain ⟨attr, operator, rfl⟩ := decodeSelector_ok found
        exact ⟨trivial, rfl⟩

theorem labelled_answers {expected : Expected} {value : Value} (label : Nat)
    (answers : value.Answers expected) : (labelled label value).Answers expected := by
  cases value with
  | data content =>
      have isNull (absent : Value.data content = .null) :
          labelled label (.data content) = .null := by
        obtain rfl := Value.data.inj absent
        rfl
      cases expected with
      | closure =>
          rcases answers with absent | ⟨_, _, _, isClosure⟩
          · exact .inl (isNull absent)
          · cases isClosure
      | table =>
          rcases answers with absent | ⟨_, isTable⟩
          · exact .inl (isNull absent)
          · cases isTable
      | _ => trivial
  | _ => exact answers

theorem nodes_labelled (label : Nat) (value : Value) :
    (labelled label value).nodes = value.nodes := by
  cases value with
  | data content =>
      rw [labelled]
      split <;> rfl
  | _ => rfl

theorem regular_keptByReading : KeptByReading (fun _ => True)
    (fun node => ∀ inner ∈ node.nodes, inner.IsRegular)
    (fun expected value => value.Answers expected ∧ ∀ inner ∈ value.nodes, inner.IsRegular) where
  item _ _ _ := trivial
  member _ _ _ := trivial
  content _ := trivial
  absent expected := ⟨Value.answers_null expected, by simp [Value.null, Value.nodes]⟩
  flat _ isFlat found := by
    rw [isFlat] at found
    obtain ⟨answers, noNodes⟩ := answers_of_decodeFlat found
    exact ⟨answers, by simp [noNodes]⟩
  labelled _ holds := ⟨labelled_answers _ holds.1, by rw [nodes_labelled]; exact holds.2⟩
  child forNode regular := by
    refine ⟨?_, regular⟩
    rcases forNode with rfl | rfl <;> trivial
  children regular := by
    refine ⟨trivial, fun inner within => ?_⟩
    obtain ⟨child, isChild, within⟩ := Value.mem_nodes_ofNodes.mp within
    exact regular child isChild inner within
  closure {params body} owner ofParams ofBody := by
    refine ⟨.inr ⟨params, body, owner, rfl⟩, fun inner within => ?_⟩
    rcases List.mem_append.mp within with within | within
    · obtain ⟨node, isParams, within⟩ := Value.mem_nodes_ofNode?.mp within
      exact ofParams node isParams inner within
    · obtain ⟨node, isBody, within⟩ := Value.mem_nodes_ofNode?.mp within
      exact ofBody node isBody inner within
  node {node} named held fits := by
    have answers {position : SlotPosition} {expected : Expected}
        (expects : node.kind.layout.Expects position expected) :
        (node.slots.get position).Answers expected := by
      obtain ⟨used, isUsed, rfl⟩ := Option.map_eq_some_iff.mp expects
      exact (held.of_slotAt isUsed).1
    intro inner within
    rcases mem_nodes.mp within with rfl | ⟨position, within⟩
    · exact ⟨fits, fun position expects => answers expects,
        fun position expects => answers expects,
        fun known isKnown => Kind.eq_known_of_decodeKind named isKnown⟩
    · have ofPosition := held position
      split at ofPosition
      case h_1 =>
        rw [ofPosition] at within
        cases within
      case h_2 => exact ofPosition.2 inner within

/-- Every node that was read is regular, and so is every node in it, at every depth. -/
theorem isRegular_of_decode (document : Data) (node : Node) (read : decode document = .ok node) :
    ∀ inner ∈ node.nodes, inner.IsRegular :=
  regular_keptByReading.of_decode document trivial node read

/-- A closure around a masgn, with a scope and its table in the loose slot of the masgn. -/
def nestedDocument : Data :=
  .map [(.text "closure", .map [(.text "params", .null),
      (.text "body", .map [(.text "kind", .int 24),
        (.text "splat", .map [(.text "table", .list [.text "a"]),
          (.text "body", .map [(.text "kind", .text "nil")]), (.text "kind", .text "scope")])])]),
    (.text "kind", .text "bmethod")]

theorem isRegular_of_decode_nestedDocument :
    ∃ node, decode nestedDocument = .ok node ∧ node.nodes.length = 4 ∧
      ∀ inner ∈ node.nodes, inner.IsRegular :=
  ⟨_, rfl, rfl, isRegular_of_decode nestedDocument _ rfl⟩

end Node

end NodeForms
