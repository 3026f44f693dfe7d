import NodeForms.Proofs.Node.Format

/-!
# Refused documents

A document that cannot be read is refused with a fault of the document. There is one way out: a
message lists the unknown keys of a closure mapping in order, and keys of several sorts have none.
-/

namespace NodeForms

mutual
/-- A value in which no collection stands inside of itself. -/
def Data.IsFinite : Data → Prop
  | .scalar _ | .set _ => True
  | .list items => Data.AllAreFinite items
  | .map entries => Data.EntriesAreFinite entries
  | .pair key value => key.IsFinite ∧ value.IsFinite
  | .shared _ content => content.IsFinite
  | .enclosing _ => False
/-- Elements in which no collection stands inside of itself. -/
def Data.AllAreFinite : List Data → Prop
  | [] => True
  | item :: items => item.IsFinite ∧ Data.AllAreFinite items
/-- Members in whose values no collection stands inside of itself. -/
def Data.EntriesAreFinite : List (Scalar × Data) → Prop
  | [] => True
  | (_, value) :: entries => value.IsFinite ∧ Data.EntriesAreFinite entries
end

mutual
/-- A node document in which, at some depth, a closure mapping has unknown keys that cannot be
listed in order. -/
inductive Data.HoldsUnsortable : Data → Prop
  | member {entries : Entries} {name : Data} {kind : Kind} {role : String}
      {position : SlotPosition} {expected : Expected} {value : Data}
      (named : entries.get? "kind" = some name) (isKind : kind.IsNamedBy name)
      (leads : kind.layout.find? role = some (position, expected))
      (isMember : (.text role, value) ∈ entries) (holds : expected.HoldsUnsortable value) :
      Data.HoldsUnsortable (.map entries)
  | shared (label : Nat) {content : Data} (holds : content.HoldsUnsortable) :
      Data.HoldsUnsortable (.shared label content)
/-- A payload that is, or in which stands, such a closure mapping. -/
inductive Expected.HoldsUnsortable : Expected → Data → Prop
  | closure {entries : Entries}
      (unsortable : Scalar.Unsortable (entries.unknownKeys Node.closureNames)) :
      Expected.HoldsUnsortable .closure (.map entries)
  | side {entries : Entries} {name : String} {value : Data} (isSide : name ∈ ["params", "body"])
      (isMember : (.text name, value) ∈ entries) (holds : value.HoldsUnsortable) :
      Expected.HoldsUnsortable .closure (.map entries)
  | child {expected : Expected} {value : Data}
      (forNode : expected = .node ∨ expected = .anything) (holds : value.HoldsUnsortable) :
      Expected.HoldsUnsortable expected value
  | item {items : List Data} {item : Data} (isItem : item ∈ items)
      (holds : item.HoldsUnsortable) : Expected.HoldsUnsortable .nodes (.list items)
  | shared (label : Nat) {expected : Expected} {content : Data}
      (holds : expected.HoldsUnsortable content) :
      Expected.HoldsUnsortable expected (.shared label content)
end

/-- An error that is a fault of the document, or keys that cannot be listed if such keys are
there. -/
def DecodeError.IsReported (unsortable : Prop) : DecodeError → Prop
  | .document _ => True
  | .keysWithoutOrder => unsortable
  | .value _ => False

/-- A reading that gives a value or an error that is reported. -/
def Reports {Result : Type} (unsortable : Prop) : Except DecodeError Result → Prop
  | .ok _ => True
  | .error error => error.IsReported unsortable

namespace Reports

variable {First Second : Type} {unsortable : Prop} {step : Except DecodeError First}

theorem ok {result : First} : Reports unsortable (.ok result) := trivial

theorem error {error : DecodeError} (isReported : error.IsReported unsortable) :
    Reports unsortable (.error error : Except DecodeError First) := isReported

theorem document {fault : DocumentFault} :
    Reports unsortable (.error (.document fault) : Except DecodeError First) := trivial

theorem mono {other : Prop} (reports : Reports unsortable step) (weaker : unsortable → other) :
    Reports other step := by
  match step with
  | .ok _ | .error (.document _) => trivial
  | .error .keysWithoutOrder => exact weaker reports

theorem bind {next : First → Except DecodeError Second} (first : Reports unsortable step)
    (later : ∀ result, step = .ok result → Reports unsortable (next result)) :
    Reports unsortable (step >>= next) := by
  cases step with
  | error error => exact first
  | ok result => exact later result rfl

theorem map {change : First → Second} (reports : Reports unsortable step) :
    Reports unsortable (step.map change) := by
  cases step with
  | error error => exact reports
  | ok result => exact trivial

end Reports

theorem refuseKeys_reports (fault : String → DocumentFault) (keys : List Scalar) :
    Reports (Scalar.Unsortable keys) (refuseKeys fault keys) := by
  unfold refuseKeys
  split
  · exact .ok
  · split
    · rename_i error listed
      obtain ⟨rfl, isUnsortable⟩ := listedKeys_eq_error_iff.mp listed
      exact .error isUnsortable
    · exact .document

namespace Node

variable {unsortable : Prop}

theorem decodeKind_reports (named : Option Data) : Reports unsortable (decodeKind named) := by
  unfold decodeKind
  repeat' split
  all_goals trivial

theorem decodeRole_reports (kind : Kind) (key : Scalar) :
    Reports unsortable (decodeRole kind key) := by
  unfold decodeRole
  dsimp only
  split <;> trivial

theorem decodeNames_reports (role : String) (value : Data) :
    Reports unsortable (decodeNames role value) := by
  unfold decodeNames
  repeat' split
  all_goals trivial

theorem decodeTable_reports (role : String) (value : Data) :
    Reports unsortable (decodeTable role value) := by
  unfold decodeTable
  repeat' split
  all_goals first
    | exact (decodeNames_reports ..).map
    | trivial

theorem decodeLiteral_reports (role : String) (value : Data) :
    Reports unsortable (decodeLiteral role value) := by
  unfold decodeLiteral
  repeat' split
  all_goals trivial

theorem decodeSelector_reports (role : String) (value : Data) :
    Reports unsortable (decodeSelector role value) := by
  unfold decodeSelector
  repeat' split
  all_goals trivial

theorem refuseNode_isReported {value : Data} (finite : value.IsFinite) :
    (refuseNode value).IsReported unsortable := by
  unfold refuseNode
  split
  · exact finite
  · trivial

theorem decodeFlat_reports (expected : Expected) (role : String) {value : Data}
    (finite : value.IsFinite) : Reports unsortable (decodeFlat expected role value) := by
  unfold decodeFlat
  split
  · exact .ok
  · cases expected with
    | node => exact refuseNode_isReported finite
    | nodes | closure => exact .document
    | literal => exact decodeLiteral_reports role value
    | table => exact decodeTable_reports role value
    | selector => exact decodeSelector_reports role value
    | name | integer | anything => exact .ok

theorem finishNode_reports (entries : Entries) (kind : Kind) (slots : Slots) :
    Reports unsortable (finishNode entries kind slots) := by
  have ofLine : Reports unsortable (decodeLine (entries.get? "line")) := by
    unfold decodeLine
    split <;> trivial
  have ofFile : Reports unsortable (decodeFile (entries.get? "file")) := by
    unfold decodeFile
    split <;> trivial
  refine ofLine.bind fun line _ => ofFile.bind fun file _ => ?_
  dsimp only
  split <;> trivial

theorem decodeMapping_reports {entries : Entries}
    (payloads : ∀ kind, Reports (∃ role position expected value,
      kind.layout.find? role = some (position, expected) ∧ (.text role, value) ∈ entries ∧
        expected.HoldsUnsortable value) (decodeSlots kind {} entries)) :
    Reports (Data.map entries).HoldsUnsortable
      (decodeMapping entries fun kind => decodeSlots kind {} entries) := by
  refine (decodeKind_reports _).bind fun kind named => ?_
  obtain ⟨name, leadsName, isKind⟩ := decodeKind_eq_ok_iff.mp named
  refine ((payloads kind).mono ?_).bind fun slots _ => finishNode_reports entries kind slots
  rintro ⟨role, position, expected, value, leads, isMember, holds⟩
  exact .member leadsName isKind leads isMember holds

mutual
/-- A finite document is read as a node or refused with a fault of the document, unless a closure
mapping in it has unknown keys that cannot be listed. -/
theorem decode_reports : (content : Data) → content.IsFinite →
    Reports content.HoldsUnsortable (decode content)
  | .map entries, finite => by
      rw [decode]
      exact decodeMapping_reports fun kind => decodeSlots_reports entries finite kind {}
  | .shared label content, finite => by
      rw [decode]
      exact (decode_reports content finite).mono (.shared label)
  | .scalar _, finite | .list _, finite | .set _, finite | .pair _ _, finite
  | .enclosing _, finite => by
      simp only [decode]
      exact .error (refuseNode_isReported finite)
theorem decodeSlots_reports : (entries : List (Scalar × Data)) → Data.EntriesAreFinite entries →
    ∀ kind slots, Reports (∃ role position expected value,
      kind.layout.find? role = some (position, expected) ∧ (.text role, value) ∈ entries ∧
        expected.HoldsUnsortable value) (decodeSlots kind slots entries)
  | [], _, kind, slots => by
      rw [decodeSlots]
      exact .ok
  | (key, value) :: rest, finite, kind, slots => by
      have later (slots : Slots) : Reports (∃ role position expected other,
          kind.layout.find? role = some (position, expected) ∧
            (.text role, other) ∈ (key, value) :: rest ∧ expected.HoldsUnsortable other)
          (decodeSlots kind slots rest) :=
        (decodeSlots_reports rest finite.2 kind slots).mono
          fun ⟨role, position, expected, other, leads, isMember, holds⟩ =>
            ⟨role, position, expected, other, leads, List.mem_cons_of_mem _ isMember, holds⟩
      rw [decodeSlots]
      split
      · exact later slots
      · refine (decodeRole_reports kind key).bind fun ⟨role, position, expected⟩ isRole => ?_
        obtain ⟨rfl, leads⟩ := decodeRole_eq_ok_iff.mp isRole
        refine ((decodePayload_reports value finite.1 expected role).mono fun holds => ?_).bind
          fun payload _ => later _
        exact ⟨role, position, expected, value, leads, List.mem_cons_self, holds⟩
theorem decodePayload_reports : (content : Data) → content.IsFinite → ∀ expected role,
    Reports (expected.HoldsUnsortable content) (decodePayload expected role content)
  | .map entries, finite, expected, role => by
      have ofNode (forNode : expected = .node ∨ expected = .anything) :=
        (decodeMapping_reports fun kind => decodeSlots_reports entries finite kind {}).mono
          (Expected.HoldsUnsortable.child forNode)
      cases expected with
      | node =>
          simp only [decodePayload]
          exact (ofNode (.inl rfl)).map
      | anything =>
          simp only [decodePayload]
          exact (ofNode (.inr rfl)).map
      | closure =>
          have ofSide (name : String) (isSide : name ∈ ["params", "body"]) :
              Reports (Expected.closure.HoldsUnsortable (.map entries))
                (decodeMember name entries) :=
            (decodeMember_reports entries finite name).mono fun ⟨value, isMember, holds⟩ =>
              .side isSide isMember holds
          simp only [decodePayload]
          rw [checkClosureKeys_eq]
          refine ((refuseKeys_reports _ _).mono .closure).bind fun _ _ => ?_
          refine (ofSide "params" (by simp)).bind fun params _ => ?_
          exact (ofSide "body" (by simp)).bind fun body _ => .ok
      | _ =>
          simp only [decodePayload]
          exact decodeFlat_reports _ role finite
  | .list items, finite, expected, role => by
      cases expected with
      | nodes =>
          simp only [decodePayload]
          refine ((decodeList_reports items finite).mono ?_).map
          rintro ⟨item, isItem, holds⟩
          exact .item isItem holds
      | _ =>
          simp only [decodePayload]
          exact decodeFlat_reports _ role finite
  | .shared label content, finite, expected, role => by
      rw [decodePayload]
      exact ((decodePayload_reports content finite expected role).mono (.shared label)).map
  | .scalar _, finite, expected, role | .set _, finite, expected, role
  | .pair _ _, finite, expected, role => by
      simp only [decodePayload]
      exact decodeFlat_reports expected role finite
  | .enclosing _, finite, _, _ => finite.elim
theorem decodeList_reports : (items : List Data) → Data.AllAreFinite items →
    Reports (∃ item ∈ items, item.HoldsUnsortable) (decodeList items)
  | [], _ => by
      rw [decodeList]
      exact .ok
  | item :: items, finite => by
      rw [decodeList]
      refine ((decode_reports item finite.1).mono fun holds => ?_).bind fun node _ =>
        ((decodeList_reports items finite.2).mono ?_).bind fun nodes _ => .ok
      · exact ⟨item, List.mem_cons_self, holds⟩
      · rintro ⟨other, isItem, holds⟩
        exact ⟨other, List.mem_cons_of_mem _ isItem, holds⟩
theorem decodeMember_reports : (entries : List (Scalar × Data)) → Data.EntriesAreFinite entries →
    ∀ name, Reports (∃ value, (.text name, value) ∈ entries ∧ value.HoldsUnsortable)
      (decodeMember name entries)
  | [], _, name => by
      rw [decodeMember]
      exact .ok
  | (key, value) :: rest, finite, name => by
      rw [decodeMember]
      split
      · rename_i same
        split
        · exact .ok
        · refine ((decode_reports value finite.1).mono fun holds => ?_).map
          exact ⟨value, same ▸ List.mem_cons_self, holds⟩
      · refine (decodeMember_reports rest finite.2 name).mono ?_
        rintro ⟨other, isMember, holds⟩
        exact ⟨other, List.mem_cons_of_mem _ isMember, holds⟩
end

/-- A closure mapping whose unknown keys cannot be listed stops the reading of its node. -/
theorem decode_of_unsortable {kind : KnownKind} {position : SlotPosition} {role : String}
    {entries : Entries} (isUsed : kind.layout.slotAt position = some ⟨role, .closure⟩)
    (unsortable : Scalar.Unsortable (entries.unknownKeys closureNames)) :
    decode (.map [(.text "kind", .text kind.tag), (.text role, .map entries)]) =
      .error .keysWithoutOrder := by
  have named : decodeKind (some (.text kind.tag)) = .ok (.known kind) :=
    decodeKind_eq_ok_iff.mpr ⟨_, rfl, .tag rfl⟩
  have refused : decodePayload .closure role (.map entries) = .error .keysWithoutOrder := by
    simp only [decodePayload, checkClosureKeys_eq, refuseKeys_of_unsortable unsortable, bind,
      Except.bind]
  have isSlot : (Kind.known kind).layout.slotAt position = some ⟨role, .closure⟩ := isUsed
  have reads : decodeSlots (.known kind) {} [(.text role, .map entries)] =
      .error .keysWithoutOrder := by
    rw [decodeSlots_role isSlot, refused]
    rfl
  rw [decode, decodeMapping, Entries.get?_cons, if_pos rfl, named]
  simp only [bind, Except.bind]
  rw [decodeSlots_ownKey (by rfl), reads]

end Node

end NodeForms
