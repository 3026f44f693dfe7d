import NodeForms.Proofs.Node.Members

/-!
# What reading keeps

Reading goes through a document once. A property of nodes and payloads holds of everything that is
read if each step keeps it: an empty slot, a payload that is read as a whole, a node among the
payloads of another, the sides of a closure, and a well-typed node from the payloads of its slots.
The documents can be of one sort, if their parts are.
-/

namespace NodeForms

/-- Payloads of which a property holds in the slots of a kind, with nothing in the others. -/
def Slots.Hold (ofPayload : Expected → Value → Prop) (kind : Kind) (slots : Slots) : Prop :=
  ∀ position, match kind.layout.slotAt position with
    | none => slots.get position = .null
    | some used => ofPayload used.expected (slots.get position)

namespace Slots.Hold

variable {ofPayload : Expected → Value → Prop} {kind : Kind} {slots : Slots}

theorem empty (absent : ∀ expected, ofPayload expected .null) : Hold ofPayload kind {} := by
  intro position
  have isNull : ({} : Slots).get position = .null := by cases position <;> rfl
  rw [isNull]
  split
  · rfl
  · exact absent _

theorem set {position : SlotPosition} {used : SlotRole} {payload : Value}
    (isUsed : kind.layout.slotAt position = some used) (held : slots.Hold ofPayload kind)
    (holds : ofPayload used.expected payload) :
    (slots.set position payload).Hold ofPayload kind := by
  intro other
  by_cases same : other = position
  · subst same
    rw [isUsed, get_set_self]
    exact holds
  · rw [get_set_of_ne slots payload same]
    exact held other

theorem of_slotAt (held : slots.Hold ofPayload kind) {position : SlotPosition} {used : SlotRole}
    (isUsed : kind.layout.slotAt position = some used) :
    ofPayload used.expected (slots.get position) := by
  have ofPosition := held position
  rwa [isUsed] at ofPosition

end Slots.Hold

namespace Node

/-- Properties of nodes and payloads that each step of reading keeps, in documents of one sort. -/
structure KeptByReading (source : Data → Prop) (ofNode : Node → Prop)
    (ofPayload : Expected → Value → Prop) : Prop where
  item {items : List Data} : source (.list items) → ∀ item ∈ items, source item
  member {entries : Entries} : source (.map entries) → ∀ entry ∈ entries, source entry.2
  content {label : Nat} {content : Data} : source (.shared label content) → source content
  absent (expected : Expected) : ofPayload expected .null
  flat {expected : Expected} {content : Data} {role : String} {payload : Value} :
    source content →
    (∀ role, decodePayload expected role content = decodeFlat expected role content) →
    decodePayload expected role content = .ok payload → ofPayload expected payload
  labelled {label : Nat} {content : Data} {expected : Expected} {value : Value} :
    source (.shared label content) → ofPayload expected value →
    ofPayload expected (labelled label value)
  child {expected : Expected} {child : Node} : expected = .node ∨ expected = .anything →
    ofNode child → ofPayload expected (.node child)
  children {children : List Node} : (∀ child ∈ children, ofNode child) →
    ofPayload .nodes (.ofNodes children)
  closure {params body : Option Node} (owner : Option String) : (∀ node ∈ params, ofNode node) →
    (∀ node ∈ body, ofNode node) →
    ofPayload .closure (.closure (.ofNode? params) (.ofNode? body) owner)
  node {node : Node} : decodeKind (some node.kind.encode) = .ok node.kind →
    node.slots.Hold ofPayload node.kind → node.check = .ok () → ofNode node

namespace KeptByReading

variable {source : Data → Prop} {ofNode : Node → Prop} {ofPayload : Expected → Value → Prop}

theorem of_decodeMapping (kept : KeptByReading source ofNode ofPayload) {entries : Entries}
    {node : Node}
    (found : decodeMapping entries (fun kind => decodeSlots kind {} entries) = .ok node)
    (payloads : ∀ kind slots, decodeSlots kind {} entries = .ok slots →
      slots.Hold ofPayload kind) : ofNode node := by
  obtain ⟨kind, slots, line, file, named, filled, -, -, fits, rfl⟩ :=
    decodeMapping_eq_ok_iff.mp found
  exact kept.node (decodeKind_encode named) (payloads kind slots filled) fits

mutual
theorem of_decode (kept : KeptByReading source ofNode ofPayload) : (content : Data) →
    source content → ∀ node, decode content = .ok node → ofNode node
  | .map entries, isSource, node, found => by
      rw [decode] at found
      exact kept.of_decodeMapping found fun kind slots filled =>
        kept.of_decodeSlots entries (kept.member isSource) kind {} slots (.empty kept.absent) filled
  | .shared _ content, isSource, node, found => by
      rw [decode] at found
      exact kept.of_decode content (kept.content isSource) node found
  | .scalar _, _, _, found | .list _, _, _, found | .set _, _, _, found | .pair _ _, _, _, found
  | .enclosing _, _, _, found => by
      simp [decode] at found
theorem of_decodeSlots (kept : KeptByReading source ofNode ofPayload) :
    (entries : List (Scalar × Data)) → (∀ entry ∈ entries, source entry.2) →
    ∀ kind slots filled, slots.Hold ofPayload kind → decodeSlots kind slots entries = .ok filled →
    filled.Hold ofPayload kind
  | [], _, kind, slots, filled, held, found => by
      rw [decodeSlots] at found
      obtain rfl := Except.ok.inj found
      exact held
  | (key, content) :: rest, areSources, kind, slots, filled, held, found => by
      rw [List.forall_mem_cons] at areSources
      rw [decodeSlots] at found
      split at found
      · exact kept.of_decodeSlots rest areSources.2 kind slots filled held found
      · obtain ⟨⟨role, position, expected⟩, leads, found⟩ := bind_eq_ok.mp found
        obtain ⟨payload, reads, found⟩ := bind_eq_ok.mp found
        have holds := kept.of_decodePayload content areSources.1 expected role payload reads
        exact kept.of_decodeSlots rest areSources.2 kind _ filled
          (held.set (slotAt_of_decodeRole leads) holds) found
theorem of_decodePayload (kept : KeptByReading source ofNode ofPayload) : (content : Data) →
    source content → ∀ expected role payload, decodePayload expected role content = .ok payload →
    ofPayload expected payload
  | .map entries, isSource, expected, role, payload, found => by
      have child (forNode : expected = .node ∨ expected = .anything) (node : Node)
          (read : decodeMapping entries (fun kind => decodeSlots kind {} entries) = .ok node) :
          ofPayload expected (.node node) :=
        kept.child forNode (kept.of_decodeMapping read fun kind slots filled =>
          kept.of_decodeSlots entries (kept.member isSource) kind {} slots (.empty kept.absent)
            filled)
      cases expected with
      | node =>
          simp only [decodePayload] at found
          obtain ⟨node, read, rfl⟩ := map_eq_ok.mp found
          exact child (.inl rfl) node read
      | anything =>
          simp only [decodePayload] at found
          obtain ⟨node, read, rfl⟩ := map_eq_ok.mp found
          exact child (.inr rfl) node read
      | closure =>
          simp only [decodePayload] at found
          obtain ⟨_, -, found⟩ := bind_eq_ok.mp found
          obtain ⟨params, paramsRead, found⟩ := bind_eq_ok.mp found
          obtain ⟨body, bodyRead, found⟩ := bind_eq_ok.mp found
          obtain rfl := Except.ok.inj found
          have side := kept.of_decodeMember entries (kept.member isSource)
          exact kept.closure _ (side "params" params paramsRead) (side "body" body bodyRead)
      | _ => exact kept.flat isSource (fun role => by simp only [decodePayload]) found
  | .list items, isSource, expected, role, payload, found => by
      cases expected with
      | nodes =>
          simp only [decodePayload] at found
          obtain ⟨nodes, read, rfl⟩ := map_eq_ok.mp found
          exact kept.children (kept.of_decodeList items (kept.item isSource) nodes read)
      | _ => exact kept.flat isSource (fun role => by simp only [decodePayload]) found
  | .shared label content, isSource, expected, role, payload, found => by
      rw [decodePayload] at found
      obtain ⟨value, read, rfl⟩ := map_eq_ok.mp found
      exact kept.labelled isSource
        (kept.of_decodePayload content (kept.content isSource) expected role value read)
  | .enclosing isList, isSource, expected, role, payload, found => by
      by_cases into : readsInto expected isList = true
      · rw [decodePayload, if_pos into] at found
        cases found
      · exact kept.flat isSource (fun role => by rw [decodePayload, if_neg into]) found
  | .scalar _, isSource, _, _, _, found | .set _, isSource, _, _, _, found
  | .pair _ _, isSource, _, _, _, found =>
      kept.flat isSource (fun role => by simp only [decodePayload]) found
theorem of_decodeList (kept : KeptByReading source ofNode ofPayload) : (items : List Data) →
    (∀ item ∈ items, source item) → ∀ nodes, decodeList items = .ok nodes →
    ∀ node ∈ nodes, ofNode node
  | [], _, nodes, found => by
      rw [decodeList] at found
      obtain rfl := Except.ok.inj found
      simp
  | item :: items, areSources, nodes, found => by
      rw [List.forall_mem_cons] at areSources
      rw [decodeList] at found
      obtain ⟨first, firstRead, found⟩ := bind_eq_ok.mp found
      obtain ⟨rest, restRead, found⟩ := bind_eq_ok.mp found
      obtain rfl := Except.ok.inj found
      rw [List.forall_mem_cons]
      exact ⟨kept.of_decode item areSources.1 first firstRead,
        kept.of_decodeList items areSources.2 rest restRead⟩
theorem of_decodeMember (kept : KeptByReading source ofNode ofPayload) :
    (entries : List (Scalar × Data)) → (∀ entry ∈ entries, source entry.2) → ∀ name side,
    decodeMember name entries = .ok side → ∀ node ∈ side, ofNode node
  | [], _, name, side, found => by
      rw [decodeMember] at found
      obtain rfl := Except.ok.inj found
      simp
  | (key, content) :: rest, areSources, name, side, found => by
      rw [List.forall_mem_cons] at areSources
      rw [decodeMember] at found
      split at found
      · split at found
        · obtain rfl := Except.ok.inj found
          simp
        · obtain ⟨node, read, rfl⟩ := map_eq_ok.mp found
          rintro _ ⟨⟩
          exact kept.of_decode content areSources.1 node read
      · exact kept.of_decodeMember rest areSources.2 name side found
end

end KeptByReading

end Node

end NodeForms
