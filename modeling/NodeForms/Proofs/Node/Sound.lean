import NodeForms.Proofs.Node.ReadBack
import NodeForms.Proofs.Node.Reading

/-!
# Nodes that were read

What the checks of a node leave open is settled for a node that was read from a document: the
nodes in its slots were read in their turn, at every depth. So each slot is empty or holds a
payload of the sort that its layout expects, and nothing else.
-/

namespace NodeForms

mutual
/-- A well-typed node that holds well-typed nodes only. -/
inductive Node.Sound : Node → Prop
  | mk {node : Node} (fits : node.check = .ok ()) (first : node.u1.Sound) (second : node.u2.Sound)
      (third : node.u3.Sound) : node.Sound
/-- A payload that can be read from a document, with sound nodes in it. -/
inductive Value.Sound : Value → Prop
  | null : Value.null.Sound
  | data {content : Data} (present : content.isNull = false) : (Value.data content).Sound
  | symbol (name : String) : (Value.symbol name).Sound
  | regex (source : String) : (Value.regex source).Sound
  | selector (attr operator : String) : (Value.selector attr operator).Sound
  | table (names : LocalTable) : (Value.table names).Sound
  | node {child : Node} (sound : child.Sound) : (Value.node child).Sound
  | nodes {children : List Node} (sound : ∀ child ∈ children, child.Sound) :
      (Value.ofNodes children).Sound
  | closure {params body : Option Node} (owner : Option String)
      (ofParams : ∀ node ∈ params, node.Sound) (ofBody : ∀ node ∈ body, node.Sound) :
      (Value.closure (.ofNode? params) (.ofNode? body) owner).Sound
end

theorem Value.Sound.labelled {value : Value} (sound : value.Sound) (label : Nat) :
    (Node.labelled label value).Sound := by
  cases value with
  | data content =>
      rw [Node.labelled]
      split
      · exact .null
      · rename_i present
        exact .data (by simpa [Data.isNull] using present)
  | _ => exact sound

def Slots.Sound (slots : Slots) : Prop := ∀ position, (slots.get position).Sound

namespace Node

theorem sound_of_decodeFlat {expected : Expected} {role : String} {value : Data} {payload : Value}
    (found : decodeFlat expected role value = .ok payload) : payload.Sound := by
  unfold decodeFlat at found
  by_cases absent : value.isNull = true
  · rw [if_pos absent] at found
    obtain rfl := Except.ok.inj found
    exact .null
  · rw [if_neg absent] at found
    have present : value.isNull = false := by simpa using absent
    cases expected with
    | node | nodes | closure => cases found
    | name | integer | anything =>
        obtain rfl := Except.ok.inj found
        exact .data present
    | literal =>
        rcases decodeLiteral_ok found with ⟨name, rfl⟩ | ⟨source, rfl⟩ | ⟨rfl, -⟩
        · exact .symbol name
        · exact .regex source
        · exact .data present
    | table =>
        obtain ⟨names, rfl⟩ := decodeTable_ok found
        exact .table names
    | selector =>
        obtain ⟨attr, operator, rfl⟩ := decodeSelector_ok found
        exact .selector attr operator

theorem sound_keptByReading : KeptByReading (fun _ => True) Sound fun _ => Value.Sound where
  item _ _ _ := trivial
  member _ _ _ := trivial
  content _ := trivial
  absent _ := .null
  flat _ isFlat found := by
    rw [isFlat] at found
    exact sound_of_decodeFlat found
  labelled _ sound := sound.labelled _
  child _ sound := .node sound
  children sound := .nodes sound
  closure owner ofParams ofBody := .closure owner ofParams ofBody
  node {node} _ held fits := by
    have sound (position : SlotPosition) : (node.slots.get position).Sound := by
      have ofPosition := held position
      split at ofPosition
      · rw [ofPosition]
        exact .null
      · exact ofPosition
    exact .mk fits (sound .first) (sound .second) (sound .third)

theorem sound_of_decode (content : Data) (node : Node) (found : decode content = .ok node) :
    node.Sound :=
  sound_keptByReading.of_decode content trivial node found

end Node

/-- Payloads that fit the slots of a kind, with nothing in the slots that it does not use. -/
def Slots.Fit (kind : Kind) (slots : Slots) : Prop :=
  ∀ position, match kind.layout.slotAt position with
    | none => (slots.get position).isNull = true
    | some used => used.expected.admits (slots.get position) = true

theorem Slots.Fit.empty (kind : Kind) : ({} : Slots).Fit kind := by
  intro position
  cases kind.layout.slotAt position <;> cases position <;> rfl

theorem Node.checkSlot_eq_ok_iff {node : Node} {position : SlotPosition} :
    node.checkSlot position = .ok () ↔ match node.kind.layout.slotAt position with
      | none => (node.slots.get position).isNull = true
      | some used => used.expected.admits (node.slots.get position) = true := by
  unfold checkSlot
  cases node.kind.layout.slotAt position with
  | none =>
      dsimp only
      split <;> simp_all
  | some used =>
      dsimp only
      split <;> simp_all

/-- A node passes its check exactly if the payloads fit its slots. -/
theorem Node.check_eq_ok_iff {node : Node} : node.check = .ok () ↔ node.slots.Fit node.kind := by
  constructor
  · intro fits position
    obtain ⟨_, first, fits⟩ := bind_eq_ok.mp fits
    obtain ⟨_, second, third⟩ := bind_eq_ok.mp fits
    cases position with
    | first => exact checkSlot_eq_ok_iff.mp first
    | second => exact checkSlot_eq_ok_iff.mp second
    | third => exact checkSlot_eq_ok_iff.mp third
  · intro fits
    have slot (position : SlotPosition) : node.checkSlot position = .ok () :=
      checkSlot_eq_ok_iff.mpr (fits position)
    simp only [check, slot, bind, Except.bind]

def Value.HoldsNode (value : Value) : Prop := ∃ child : Node, value = .node child ∧ child.Sound

def Value.IsSite (value : Value) : Prop := value = .null ∨ value.HoldsNode

/-- The nodes that a slot holds as a sequence; an empty slot holds none. -/
def Value.HoldsNodes (payload : Value) (children : List Node) : Prop :=
  payload = .ofNodes children ∨ payload = .null ∧ children = []

theorem Value.isSite_ofNode? {side : Option Node} (sound : ∀ node ∈ side, node.Sound) :
    (Value.ofNode? side).IsSite := by
  cases side with
  | none => exact .inl rfl
  | some node => exact .inr ⟨node, rfl, sound node rfl⟩

def Value.Fits (expected : Expected) (value : Value) : Prop :=
  value.Sound ∧ expected.admits value = true

namespace Value.Fits

variable {value : Value}

theorem isSite (fits : value.Fits .node) : value.IsSite := by
  obtain ⟨sound, admits⟩ := fits
  cases sound with
  | null => exact .inl rfl
  | node sound => exact .inr ⟨_, rfl, sound⟩
  | data present => simp [Expected.admits, isNull, present] at admits
  | _ => cases admits

theorem nodes (fits : value.Fits .nodes) :
    ∃ children, value.HoldsNodes children ∧ ∀ child ∈ children, child.Sound := by
  obtain ⟨sound, admits⟩ := fits
  cases sound with
  | null => exact ⟨[], .inr ⟨rfl, rfl⟩, by simp⟩
  | nodes sound => exact ⟨_, .inl rfl, sound⟩
  | data present => simp [Expected.admits, isNull, present] at admits
  | _ => cases admits

theorem name (fits : value.Fits .name) :
    value = .null ∨ ∃ text, value = .data (.scalar (.text text)) := by
  obtain ⟨sound, admits⟩ := fits
  cases sound with
  | null => exact .inl rfl
  | @data content present =>
      right
      simp only [Expected.admits, isNull, present, Bool.false_or] at admits
      split at admits <;> simp_all
  | _ => cases admits

theorem integer (fits : value.Fits .integer) :
    value = .null ∨ ∃ number, value = .data (.scalar (.int number)) := by
  obtain ⟨sound, admits⟩ := fits
  cases sound with
  | null => exact .inl rfl
  | @data content present =>
      right
      simp only [Expected.admits, isNull, present, Bool.false_or] at admits
      split at admits <;> simp_all
  | _ => cases admits

theorem table (fits : value.Fits .table) : value = .null ∨ ∃ names, value = .table names := by
  obtain ⟨sound, admits⟩ := fits
  cases sound with
  | null => exact .inl rfl
  | table names => exact .inr ⟨names, rfl⟩
  | data present => simp [Expected.admits, isNull, present] at admits
  | _ => cases admits

end Value.Fits

def Layout.Expects (layout : Layout) (position : SlotPosition) (expected : Expected) : Prop :=
  (layout.slotAt position).map SlotRole.expected = some expected

instance (layout : Layout) (position : SlotPosition) (expected : Expected) :
    Decidable (layout.Expects position expected) :=
  inferInstanceAs (Decidable (_ = _))

namespace Node.Sound

variable {node : Node}

theorem slots_sound (sound : node.Sound) : node.slots.Sound := by
  obtain ⟨-, first, second, third⟩ := sound
  intro position
  cases position with
  | first => exact first
  | second => exact second
  | third => exact third

theorem fits (sound : node.Sound) {position : SlotPosition} {expected : Expected}
    (expects : node.kind.layout.Expects position expected) :
    (node.slots.get position).Fits expected := by
  obtain ⟨used, isUsed, rfl⟩ := Option.map_eq_some_iff.mp expects
  have payload := sound.slots_sound position
  obtain ⟨checked, -, -, -⟩ := sound
  have fit := check_eq_ok_iff.mp checked position
  rw [isUsed] at fit
  exact ⟨payload, fit⟩

end Node.Sound

end NodeForms
