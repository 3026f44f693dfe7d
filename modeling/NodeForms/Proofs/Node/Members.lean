import NodeForms.Node.Decode
import NodeForms.Node.Encode
import NodeForms.Proofs.Computation

/-!
# Members of node mappings

The members of a node mapping are found by their names: a role leads back to its slot, no
role is one of the three names that every mapping has, and the tag of a kind leads back to
the kind. So the members that a slot is written as are read back into that slot, and they do
not stand in the way of the others.
-/

namespace NodeForms

theorem KnownKind.mem_all (kind : KnownKind) : kind ∈ KnownKind.all := by
  have atNumber : KnownKind.all[kind.id]? = some kind := by cases kind <;> rfl
  exact List.mem_of_getElem? atNumber

theorem KnownKind.ofTag?_tag (kind : KnownKind) : KnownKind.ofTag? kind.tag = some kind := by
  have found : ∀ kind ∈ KnownKind.all, KnownKind.ofTag? kind.tag = some kind := by
    decide +kernel
  exact found kind kind.mem_all

/-- A kind that a mapping named is named again by what it is written as. -/
theorem Node.decodeKind_encode {named : Option Data} {kind : Kind}
    (found : Node.decodeKind named = .ok kind) :
    Node.decodeKind (some kind.encode) = .ok kind := by
  have ofKnown (kind : KnownKind) :
      Node.decodeKind (some (Kind.known kind).encode) = .ok (.known kind) := by
    simp [Kind.encode, Data.text, Node.decodeKind, KnownKind.ofTag?_tag]
  unfold Node.decodeKind at found
  split at found
  · cases found
  · cases found
  · cases found
  · rename_i number
    obtain rfl := Except.ok.inj found
    unfold Kind.ofInt
    split
    · exact ofKnown _
    · rename_i noKind
      simp [Kind.encode, Data.int, Node.decodeKind, Kind.ofInt, noKind]
  · split at found
    · obtain rfl := Except.ok.inj found
      exact ofKnown _
    · cases found
  · cases found

/-- Whether each role of a layout leads to its own slot and is no name of every mapping. -/
def Layout.isReadable (layout : Layout) : Bool :=
  SlotPosition.all.all fun position =>
    match layout.slotAt position with
    | none => true
    | some used =>
        layout.find? used.role == some (position, used.expected)
          && !Node.isOwnKey (.text used.role)

theorem Kind.layout_isReadable (kind : Kind) : kind.layout.isReadable = true := by
  have generic : Layout.generic.isReadable = true := by decide
  cases kind with
  | known kind => cases kind <;> decide
  | numbered number => exact generic
  | fractional number => exact generic

theorem SlotPosition.mem_all (position : SlotPosition) : position ∈ SlotPosition.all := by
  cases position <;> decide

theorem Kind.find?_role {kind : Kind} {position : SlotPosition} {used : SlotRole}
    (isUsed : kind.layout.slotAt position = some used) :
    kind.layout.find? used.role = some (position, used.expected) ∧
      Node.isOwnKey (.text used.role) = false := by
  have readable := List.all_eq_true.mp kind.layout_isReadable position position.mem_all
  simpa [isUsed] using readable

theorem Layout.slotAt_of_find? {layout : Layout} {role : String} {position : SlotPosition}
    {expected : Expected} (found : layout.find? role = some (position, expected)) :
    layout.slotAt position = some ⟨role, expected⟩ := by
  obtain ⟨candidate, -, leads⟩ := List.exists_of_findSome?_eq_some found
  cases isUsed : layout.slotAt candidate with
  | none => simp [isUsed] at leads
  | some used =>
      simp only [isUsed] at leads
      split at leads
      · rename_i sameRole
        cases leads
        rw [isUsed, ← eq_of_beq sameRole]
      · cases leads

theorem Scalar.text_equals_text (first second : String) :
    (Scalar.text first).equals (.text second) = (first == second) := by
  simp [Scalar.equals, Scalar.asNumber?, Scalar.instant?, Bool.beq_eq_decide_eq]

namespace Entries

theorem get?_nil (name : String) : get? [] name = none := rfl

theorem get?_cons (role name : String) (content : Data) (rest : Entries) :
    get? ((.text role, content) :: rest) name =
      if role = name then some content else get? rest name := by
  simp [get?, find?, Scalar.text_equals_text]

/-- Members that are none of the names of every mapping. -/
def HoldsRoles (members : Entries) : Prop :=
  ∀ (name : String) (rest : Entries), Node.isOwnKey (.text name) = true →
    get? (members ++ rest) name = get? rest name

theorem HoldsRoles.nil : HoldsRoles [] := fun _ _ _ => rfl

theorem HoldsRoles.singleton {role : String} (content : Data)
    (noOwn : Node.isOwnKey (.text role) = false) : HoldsRoles [(.text role, content)] := by
  intro name rest isOwn
  have other : role ≠ name := by
    rintro rfl
    rw [noOwn] at isOwn
    cases isOwn
  rw [List.singleton_append, get?_cons, if_neg other]

end Entries

namespace Slots

theorem set_get (slots : Slots) (position : SlotPosition) :
    slots.set position (slots.get position) = slots := by
  cases position <;> rfl

theorem get_set_self (slots : Slots) (position : SlotPosition) (value : Value) :
    (slots.set position value).get position = value := by
  cases position <;> rfl

theorem get_set_of_ne (slots : Slots) {position other : SlotPosition} (value : Value)
    (different : other ≠ position) : (slots.set position value).get other = slots.get other := by
  cases position <;> cases other <;> first | rfl | exact absurd rfl different

end Slots

namespace Node

section

variable {kind : Kind} {slots : Slots}

theorem decodeSlots_ownKey {key : Scalar} (isOwn : isOwnKey key = true) (content : Data)
    (rest : Entries) : decodeSlots kind slots ((key, content) :: rest) =
      decodeSlots kind slots rest := by
  rw [decodeSlots, if_pos isOwn]

theorem decodeSlots_append (first second : Entries) :
    decodeSlots kind slots (first ++ second) =
      decodeSlots kind slots first >>= fun filled => decodeSlots kind filled second := by
  induction first generalizing slots with
  | nil => rfl
  | cons member members inductionHypothesis =>
      obtain ⟨key, content⟩ := member
      rw [List.cons_append, decodeSlots, decodeSlots]
      by_cases isOwn : isOwnKey key = true
      · rw [if_pos isOwn, if_pos isOwn, inductionHypothesis]
      · rw [if_neg isOwn, if_neg isOwn]
        cases decodeRole kind key with
        | error fault => rfl
        | ok slot =>
            obtain ⟨role, position, expected⟩ := slot
            simp only [bind, Except.bind]
            cases decodePayload expected role content with
            | error fault => rfl
            | ok payload => exact inductionHypothesis

theorem decodeRole_role {position : SlotPosition} {used : SlotRole}
    (isUsed : kind.layout.slotAt position = some used) :
    decodeRole kind (.text used.role) = .ok (used.role, position, used.expected) := by
  simp [decodeRole, (Kind.find?_role isUsed).1]

theorem slotAt_of_decodeRole {key : Scalar} {role : String} {position : SlotPosition}
    {expected : Expected} (found : decodeRole kind key = .ok (role, position, expected)) :
    kind.layout.slotAt position = some ⟨role, expected⟩ := by
  unfold decodeRole at found
  cases key with
  | text name =>
      dsimp only at found
      cases leads : kind.layout.find? name with
      | none => rw [leads] at found; cases found
      | some slot =>
          rw [leads] at found
          cases found
          exact Layout.slotAt_of_find? leads
  | _ => cases found

theorem decodeSlots_role {position : SlotPosition} {used : SlotRole} {content : Data}
    (isUsed : kind.layout.slotAt position = some used) :
    decodeSlots kind slots [(.text used.role, content)] =
      (decodePayload used.expected used.role content).map (slots.set position) := by
  have noOwn : ¬isOwnKey (.text used.role) = true := by
    simp [(Kind.find?_role isUsed).2]
  rw [decodeSlots, if_neg noOwn, decodeRole_role isUsed]
  simp only [bind, Except.bind, decodeSlots]
  cases decodePayload used.expected used.role content with
  | error fault => rfl
  | ok payload => rfl

theorem decodeSlots_nil {position : SlotPosition} {payload : Value} (absent : payload = .null)
    (isEmpty : slots.get position = .null) :
    decodeSlots kind slots [] = .ok (slots.set position payload) := by
  rw [absent, ← isEmpty, Slots.set_get, decodeSlots]

end

theorem decodeLine_encodeLine (line : Int) (file : Option String) :
    decodeLine ((encodeLine line ++ encodeFile file).get? "line") = .ok line := by
  by_cases isZero : line = 0
  · subst isZero
    cases file with
    | none => rfl
    | some file => rfl
  · rw [encodeLine, if_neg isZero, List.singleton_append, Entries.get?_cons, if_pos rfl]
    rfl

theorem decodeFile_encodeFile (line : Int) (file : Option String) :
    decodeFile ((encodeLine line ++ encodeFile file).get? "file") = .ok file := by
  have ofFile : decodeFile ((encodeFile file).get? "file") = .ok file := by
    cases file with
    | none => rfl
    | some file => rfl
  by_cases isZero : line = 0
  · rwa [encodeLine, if_pos isZero, List.nil_append]
  · rwa [encodeLine, if_neg isZero, List.singleton_append, Entries.get?_cons,
      if_neg (by decide)]

theorem decodeSlots_place {kind : Kind} {slots : Slots} (line : Int) (file : Option String) :
    decodeSlots kind slots (encodeLine line ++ encodeFile file) = .ok slots := by
  have ofFile : decodeSlots kind slots (encodeFile file) = .ok slots := by
    cases file with
    | none => rfl
    | some file => rfl
  by_cases isZero : line = 0
  · rwa [encodeLine, if_pos isZero, List.nil_append]
  · rwa [encodeLine, if_neg isZero, List.singleton_append, decodeSlots_ownKey (by rfl)]

/-- A mapping is read as a node from its kind, its payloads, its line and its file, if these make a
well-typed node. -/
theorem decodeMapping_eq_ok_iff {entries : Entries} {payloads : Kind → Except DecodeError Slots}
    {node : Node} : decodeMapping entries payloads = .ok node ↔ ∃ kind slots line file,
      decodeKind (entries.get? "kind") = .ok kind ∧ payloads kind = .ok slots ∧
        decodeLine (entries.get? "line") = .ok line ∧
        decodeFile (entries.get? "file") = .ok file ∧
        (ofSlots kind slots line file).check = .ok () ∧ node = ofSlots kind slots line file := by
  constructor
  · intro found
    obtain ⟨kind, named, found⟩ := bind_eq_ok.mp found
    obtain ⟨slots, filled, found⟩ := bind_eq_ok.mp found
    obtain ⟨line, ofLine, found⟩ := bind_eq_ok.mp found
    obtain ⟨file, ofFile, found⟩ := bind_eq_ok.mp found
    dsimp only at found
    split at found
    case h_1 => cases found
    case h_2 fits =>
      exact ⟨kind, slots, line, file, named, filled, ofLine, ofFile, fits,
        (Except.ok.inj found).symm⟩
  · rintro ⟨kind, slots, line, file, named, filled, ofLine, ofFile, fits, rfl⟩
    simp only [decodeMapping, finishNode, named, filled, ofLine, ofFile, fits, bind, Except.bind]

end Node

end NodeForms
