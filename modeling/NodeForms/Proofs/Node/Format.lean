import NodeForms.Proofs.Document.Keys
import NodeForms.Proofs.Node.Sound
import Mathlib.Data.List.Perm.Subperm

/-!
# The format of node documents

A node document is a mapping that names a kind. Its other members are a line, a file, and the
payloads of slots by their roles, each empty or in the format that the slot calls for. Reading
accepts the documents of this format and no others.
-/

namespace NodeForms

/-- The kind that a value names: by its number, or by its tag in letters of any case. -/
inductive Kind.IsNamedBy : Kind → Data → Prop
  | number (number : Int) : IsNamedBy (.ofInt number) (.int number)
  | tag {kind : KnownKind} {word : String} (spelled : capitals word = capitals kind.tag) :
      IsNamedBy (.known kind) (.text word)

def Data.isMapping (content : Data) : Bool :=
  match content.bare with
  | .map _ | .enclosing false => true
  | _ => false

mutual
/-- Data in the format of a node. -/
inductive Data.IsNode : Data → Prop
  | map {entries : Entries} {name : Data} {kind : Kind} (named : entries.get? "kind" = some name)
      (isKind : kind.IsNamedBy name)
      (members : ∀ key value, (key, value) ∈ entries → kind.Permits key value) :
      Data.IsNode (.map entries)
  | shared (label : Nat) {content : Data} (isNode : content.IsNode) :
      Data.IsNode (.shared label content)
/-- What may be a member of a mapping that names a kind. -/
inductive Kind.Permits : Kind → Scalar → Data → Prop
  | kind (kind : Kind) (name : Data) : Kind.Permits kind (.text "kind") name
  | line (kind : Kind) (line : Int) : Kind.Permits kind (.text "line") (.int line)
  | noFile (kind : Kind) : Kind.Permits kind (.text "file") .null
  | file (kind : Kind) (file : String) : Kind.Permits kind (.text "file") (.text file)
  | empty {kind : Kind} {role : String} {position : SlotPosition} {expected : Expected}
      {value : Data} (leads : kind.layout.find? role = some (position, expected))
      (absent : value.isNull = true) : Kind.Permits kind (.text role) value
  | payload {kind : Kind} {role : String} {position : SlotPosition} {expected : Expected}
      {value : Data} (leads : kind.layout.find? role = some (position, expected))
      (describes : expected.IsDescribedBy value) : Kind.Permits kind (.text role) value
/-- Data in the format of the payloads that a slot expects. -/
inductive Expected.IsDescribedBy : Expected → Data → Prop
  | node {value : Data} (isNode : value.IsNode) : Expected.IsDescribedBy .node value
  | nodes {value : Data} {items : List Data} (isList : value.bare = .list items)
      (areNodes : ∀ item ∈ items, item.IsNode) : Expected.IsDescribedBy .nodes value
  | name (name : String) : Expected.IsDescribedBy .name (.text name)
  | integer (number : Int) : Expected.IsDescribedBy .integer (.int number)
  | whole (number : Int) : Expected.IsDescribedBy .literal (.int number)
  | double (number : Binary64) : Expected.IsDescribedBy .literal (.scalar (.float number))
  | text (text : String) : Expected.IsDescribedBy .literal (.text text)
  | symbol {value name : Data} (only : value.bare = .map [(.text "sym", name)]) :
      Expected.IsDescribedBy .literal value
  | regex {value source : Data} (only : value.bare = .map [(.text "regex", source)]) :
      Expected.IsDescribedBy .literal value
  | declared {value : Data} {names : List String}
      (isList : value.bare = .list (names.map .text)) : Expected.IsDescribedBy .table value
  | table {value whole : Data} {names : List String}
      (only : value.bare = .map [(.text "names", whole)])
      (isList : whole.bare = .list (names.map .text)) : Expected.IsDescribedBy .table value
  | selector {value : Data} {entries : Entries} (isMap : value.bare = .map entries)
      (both : entries.keys.Perm [.text "attr", .text "operator"]) :
      Expected.IsDescribedBy .selector value
  | closure {value : Data} {entries : Entries} (isMap : value.bare = .map entries)
      (known : ∀ key ∈ entries.keys, ∃ name ∈ Node.closureNames, key = .text name)
      (sides : ∀ name ∈ ["params", "body"], ∀ side, entries.get? name = some side →
        side.isNull = false → side.IsNode) : Expected.IsDescribedBy .closure value
  | looseNode {value : Data} (isNode : value.IsNode) : Expected.IsDescribedBy .anything value
  | loose {value : Data} (noMapping : value.isMapping = false) : Expected.IsDescribedBy .anything value
end

theorem Node.decodeKind_eq_ok_iff {named : Option Data} {kind : Kind} :
    decodeKind named = .ok kind ↔ ∃ name, named = some name ∧ kind.IsNamedBy name := by
  constructor
  · intro found
    unfold decodeKind at found
    split at found
    case h_4 number =>
      obtain rfl := Except.ok.inj found
      exact ⟨_, rfl, .number number⟩
    case h_5 word =>
      split at found
      case h_1 known leads =>
        obtain rfl := Except.ok.inj found
        have spelled := List.find?_some leads
        exact ⟨_, rfl, .tag (eq_of_beq spelled)⟩
      case h_2 => cases found
    all_goals cases found
  · rintro ⟨name, rfl, isNamed⟩
    cases isNamed with
    | number number => rfl
    | @tag known word spelled =>
        have leads : KnownKind.ofTag? word = some known := by
          rw [← known.ofTag?_tag, KnownKind.ofTag?, KnownKind.ofTag?, spelled]
        simp [decodeKind, Data.text, leads]

namespace Node

theorem decodeRole_eq_ok_iff {kind : Kind} {key : Scalar} {role : String}
    {position : SlotPosition} {expected : Expected} :
    decodeRole kind key = .ok (role, position, expected) ↔
      key = .text role ∧ kind.layout.find? role = some (position, expected) := by
  cases key with
  | text name =>
      cases leads : kind.layout.find? name with
      | none =>
          simp only [decodeRole, leads, Option.map_none, reduceCtorEq, Scalar.text.injEq,
            false_iff, not_and]
          rintro rfl
          simp [leads]
      | some slot =>
          simp only [decodeRole, leads, Option.map_some, Except.ok.injEq, Prod.mk.injEq,
            Scalar.text.injEq]
          constructor
          · rintro ⟨rfl, rfl⟩
            exact ⟨rfl, leads⟩
          · rintro ⟨rfl, same⟩
            exact ⟨rfl, Option.some.inj (leads.symm.trans same)⟩
  | _ => simp [decodeRole]

section

variable {kind : Kind} {slots filled : Slots} {entries : Entries}

theorem get_of_decodeSlots {position : SlotPosition}
    (found : decodeSlots kind slots entries = .ok filled)
    (others : ∀ role value expected, (.text role, value) ∈ entries →
      kind.layout.find? role ≠ some (position, expected)) :
    filled.get position = slots.get position := by
  induction entries generalizing slots with
  | nil =>
      rw [decodeSlots] at found
      obtain rfl := Except.ok.inj found
      rfl
  | cons member entries inductionHypothesis =>
      obtain ⟨key, value⟩ := member
      have later : ∀ role value expected, (.text role, value) ∈ entries →
          kind.layout.find? role ≠ some (position, expected) := fun role value expected member =>
        others role value expected (List.mem_cons_of_mem _ member)
      rw [decodeSlots] at found
      split at found
      · exact inductionHypothesis found later
      · obtain ⟨⟨role, other, expected⟩, slot, rest⟩ := bind_eq_ok.mp found
        obtain ⟨payload, -, rest⟩ := bind_eq_ok.mp rest
        obtain ⟨rfl, leads⟩ := decodeRole_eq_ok_iff.mp slot
        have different : position ≠ other := by
          rintro rfl
          exact others role value expected List.mem_cons_self leads
        rw [inductionHypothesis rest later, Slots.get_set_of_ne slots payload different]

/-- Each of distinct members that were read fills a slot of its own. -/
theorem exists_payload_of_decodeSlots (found : decodeSlots kind slots entries = .ok filled)
    (distinct : entries.Distinct) {key : Scalar} {value : Data} (member : (key, value) ∈ entries)
    (noOwn : isOwnKey key = false) :
    ∃ role position expected, key = .text role ∧
      kind.layout.find? role = some (position, expected) ∧
        decodePayload expected role value = .ok (filled.get position) := by
  induction entries generalizing slots with
  | nil => cases member
  | cons first entries inductionHypothesis =>
      obtain ⟨firstKey, firstValue⟩ := first
      obtain ⟨differs, distinct⟩ := List.pairwise_cons.mp distinct
      rw [decodeSlots] at found
      rcases List.mem_cons.mp member with same | later
      · cases same
        rw [if_neg (by simp [noOwn])] at found
        obtain ⟨⟨role, position, expected⟩, slot, rest⟩ := bind_eq_ok.mp found
        obtain ⟨payload, reads, rest⟩ := bind_eq_ok.mp rest
        obtain ⟨rfl, leads⟩ := decodeRole_eq_ok_iff.mp slot
        refine ⟨role, position, expected, rfl, leads, ?_⟩
        -- No later member has this role, and no other role leads to this slot.
        have kept : filled.get position = (slots.set position payload).get position := by
          refine get_of_decodeSlots rest fun other value wanted member leadsToo => ?_
          have sameRole : some (SlotRole.mk role expected) = some ⟨other, wanted⟩ :=
            (Layout.slotAt_of_find? leads).symm.trans (Layout.slotAt_of_find? leadsToo)
          obtain ⟨rfl, -⟩ : role = other ∧ expected = wanted := by simpa using sameRole
          have unequal := differs _ member
          rw [Scalar.equals_text_iff.mpr rfl] at unequal
          cases unequal
        rw [kept, Slots.get_set_self, reads]
      · split at found
        · exact inductionHypothesis found distinct later
        · obtain ⟨_, -, rest⟩ := bind_eq_ok.mp found
          obtain ⟨_, -, rest⟩ := bind_eq_ok.mp rest
          exact inductionHypothesis rest distinct later

end

theorem decodeLine_eq_ok_iff {value : Data} {line : Int} :
    decodeLine (some value) = .ok line ↔ value = .int line := by
  cases value with
  | scalar scalar => cases scalar <;> simp [decodeLine, Data.int]
  | _ => simp [decodeLine, Data.int]

theorem decodeFile_eq_ok_iff {value : Data} {file : Option String} :
    decodeFile (some value) = .ok file ↔ value = file.elim .null .text := by
  cases value with
  | scalar scalar => cases scalar <;> cases file <;> simp [decodeFile, Data.null, Data.text]
  | _ => cases file <;> simp [decodeFile, Data.null, Data.text]

theorem isOwnKey_eq_true_iff {key : Scalar} :
    isOwnKey key = true ↔ key = .text "kind" ∨ key = .text "line" ∨ key = .text "file" := by
  constructor
  · intro isOwn
    unfold isOwnKey at isOwn
    split at isOwn <;> simp_all
  · rintro (rfl | rfl | rfl) <;> rfl

theorem checkClosureKeys_eq (entries : Entries) :
    checkClosureKeys entries =
      refuseKeys .closureKeys (entries.unknownKeys closureNames) := rfl

theorem checkClosureKeys_eq_ok_iff {entries : Entries} :
    checkClosureKeys entries = .ok () ↔
      ∀ key ∈ entries.keys, ∃ name ∈ closureNames, key = .text name := by
  rw [checkClosureKeys_eq, refuseKeys_eq_ok_iff, Entries.unknownKeys_eq_nil]

section

variable {role : String} {value : Data} {payload : Value}

theorem decodeLiteral_eq_ok_iff : decodeLiteral role value = .ok payload ↔
    (∃ name, value.bare = .map [(.text "sym", name)] ∧ payload = .symbol name.plainText) ∨
      (∃ source, value.bare = .map [(.text "regex", source)] ∧
        payload = .regex source.plainText) ∨
      value.isMapping = false ∧ payload = .data value := by
  unfold decodeLiteral
  constructor
  · intro found
    split at found
    case h_1 entries isMap =>
      split at found
      case h_1 name => exact .inl ⟨name, isMap, (Except.ok.inj found).symm⟩
      case h_2 source => exact .inr (.inl ⟨source, isMap, (Except.ok.inj found).symm⟩)
      case h_3 => cases found
    case h_2 => cases found
    case h_3 noMap noMappingInside =>
      refine .inr (.inr ⟨?_, (Except.ok.inj found).symm⟩)
      unfold Data.isMapping
      split <;> simp_all
  · rintro (⟨name, isMap, rfl⟩ | ⟨source, isMap, rfl⟩ | ⟨noMapping, rfl⟩)
    · rw [isMap]
      rfl
    · rw [isMap]
      rfl
    · unfold Data.isMapping at noMapping
      cases isBare : value.bare with
      | map entries =>
          rw [isBare] at noMapping
          cases noMapping
      | enclosing isList =>
          rw [isBare] at noMapping
          cases isList with
          | true => rfl
          | false => cases noMapping
      | _ => rfl

theorem decodeTable_eq_ok_iff : decodeTable role value = .ok payload ↔
    (∃ whole names, value.bare = .map [(.text "names", whole)] ∧
      whole.bare = .list (names.map .text) ∧ payload = .table ⟨names⟩) ∨
    ∃ names, value.bare = .list (names.map .text) ∧ payload = .table (.ofDeclared names) := by
  unfold decodeTable
  constructor
  · intro found
    split at found
    case h_1 entries isMap =>
      split at found
      case h_1 whole =>
        obtain ⟨names, isList, rfl⟩ := map_eq_ok.mp found
        exact .inl ⟨whole, names, isMap, decodeNames_eq_ok_iff.mp isList, rfl⟩
      case h_2 => cases found
    case h_2 => cases found
    case h_3 =>
      obtain ⟨names, isList, rfl⟩ := map_eq_ok.mp found
      exact .inr ⟨names, decodeNames_eq_ok_iff.mp isList, rfl⟩
  · rintro (⟨whole, names, isMap, isList, rfl⟩ | ⟨names, isList, rfl⟩)
    · rw [isMap]
      change (decodeNames role whole).map (fun names => Value.table ⟨names⟩) = _
      rw [decodeNames_eq_ok_iff.mpr isList]
      rfl
    · have texts : decodeNames role value = .ok names := decodeNames_eq_ok_iff.mpr isList
      rw [isList]
      dsimp only
      rw [texts]
      rfl

theorem decodeSelector_eq_ok_iff : decodeSelector role value = .ok payload ↔
    ∃ (entries : Entries) (attr operator : Data), value.bare = .map entries ∧
      entries.length = 2 ∧ entries.get? "attr" = some attr ∧
        entries.get? "operator" = some operator ∧
        payload = .selector attr.plainText operator.plainText := by
  unfold decodeSelector
  constructor
  · intro found
    split at found
    case h_1 entries isMap =>
      split at found
      case h_1 attr operator two ofAttr ofOperator =>
        exact ⟨entries, attr, operator, isMap, two, ofAttr, ofOperator,
          (Except.ok.inj found).symm⟩
      case h_2 => cases found
    case h_2 => cases found
  · rintro ⟨entries, attr, operator, isMap, two, ofAttr, ofOperator, rfl⟩
    rw [isMap]
    dsimp only
    rw [two, ofAttr, ofOperator]
    rfl

theorem isDescribed_of_decodeLiteral (found : decodeLiteral role value = .ok payload)
    (present : value.isNull = false) (admits : Expected.literal.admits payload = true) :
    Expected.literal.IsDescribedBy value := by
  rcases decodeLiteral_eq_ok_iff.mp found with ⟨_, only, -⟩ | ⟨_, only, -⟩ | ⟨-, rfl⟩
  · exact .symbol only
  · exact .regex only
  · cases value with
    | scalar scalar =>
        cases scalar with
        | int number => exact .whole number
        | float number => exact .double number
        | text text => exact .text text
        | _ => simp_all [Expected.admits, Value.isNull]
    | _ => simp_all [Expected.admits, Value.isNull]

theorem isDescribed_of_decodeTable (found : decodeTable role value = .ok payload) :
    Expected.table.IsDescribedBy value := by
  rcases decodeTable_eq_ok_iff.mp found with ⟨_, _, only, isList, -⟩ | ⟨_, isList, -⟩
  · exact .table only isList
  · exact .declared isList

theorem keys_perm_of_get? {entries : Entries} {first second : String} {a b : Data}
    (two : entries.length = 2) (different : first ≠ second)
    (leadsFirst : entries.get? first = some a) (leadsSecond : entries.get? second = some b) :
    entries.keys.Perm [.text first, .text second] := by
  have distinct : [Scalar.text first, .text second].Nodup := by simpa using different
  have inside : [Scalar.text first, .text second] ⊆ entries.keys := by
    simp only [List.cons_subset, List.nil_subset, and_true]
    exact ⟨List.mem_map_of_mem (Entries.mem_of_get? leadsFirst),
      List.mem_map_of_mem (Entries.mem_of_get? leadsSecond)⟩
  have full : entries.keys.length ≤ [Scalar.text first, .text second].length := by
    simp [Entries.keys, two]
  exact ((distinct.subperm inside).perm_of_length_le full).symm

theorem isDescribed_of_decodeSelector (found : decodeSelector role value = .ok payload) :
    Expected.selector.IsDescribedBy value := by
  obtain ⟨_, _, _, isMap, two, ofAttr, ofOperator, -⟩ := decodeSelector_eq_ok_iff.mp found
  exact .selector isMap (keys_perm_of_get? two (by decide) ofAttr ofOperator)

theorem isDescribed_of_decodeFlat {expected : Expected}
    (found : decodeFlat expected role value = .ok payload)
    (admits : expected.admits payload = true)
    (noMapping : expected = .anything → value.isMapping = false) :
    value.isNull = true ∨ expected.IsDescribedBy value := by
  unfold decodeFlat at found
  by_cases absent : value.isNull = true
  · exact .inl absent
  · right
    rw [if_neg absent] at found
    have present : value.isNull = false := by simpa using absent
    cases expected with
    | node | nodes | closure => cases found
    | anything => exact .loose (noMapping rfl)
    | literal => exact isDescribed_of_decodeLiteral found present admits
    | table => exact isDescribed_of_decodeTable found
    | selector => exact isDescribed_of_decodeSelector found
    | name =>
        obtain rfl := Except.ok.inj found
        cases value with
        | scalar scalar =>
            cases scalar with
            | text name => exact .name name
            | _ => simp_all [Expected.admits, Value.isNull]
        | _ => simp_all [Expected.admits, Value.isNull]
    | integer =>
        obtain rfl := Except.ok.inj found
        cases value with
        | scalar scalar =>
            cases scalar with
            | int number => exact .integer number
            | _ => simp_all [Expected.admits, Value.isNull]
        | _ => simp_all [Expected.admits, Value.isNull]

end

theorem admits_of_labelled {expected : Expected} {payload : Value} {label : Nat}
    (admits : expected.admits (labelled label payload) = true) :
    expected.admits payload = true := by
  cases payload with
  | data content =>
      rw [labelled] at admits
      by_cases absent : content.isNull = true
      · simp [Expected.admits, Value.isNull, absent]
      · rw [if_neg absent] at admits
        cases expected <;> simp_all [Expected.admits, Value.isNull, Data.isNull]
  | _ => exact admits

/-- A payload with a label is in the format of its slot as without, unless it is a scalar, which
does not fit with one. -/
theorem isDescribed_shared {expected : Expected} {content : Data}
    (describes : expected.IsDescribedBy content) {label : Nat} {role : String} {inner : Value}
    (read : decodePayload expected role content = .ok inner)
    (admits : expected.admits (labelled label inner) = true) :
    expected.IsDescribedBy (.shared label content) := by
  cases describes with
  | node isNode => exact .node (.shared label isNode)
  | nodes isList areNodes => exact .nodes isList areNodes
  | symbol only => exact .symbol only
  | regex only => exact .regex only
  | declared isList => exact .declared isList
  | table only isList => exact .table only isList
  | selector isMap both => exact .selector isMap both
  | closure isMap known sides => exact .closure isMap known sides
  | looseNode isNode => exact .looseNode (.shared label isNode)
  | loose noMapping => exact .loose noMapping
  | _ =>
      obtain rfl := Except.ok.inj read
      cases admits

theorem isNode_of_decodeMapping {entries : Entries} {node : Node}
    (found : decodeMapping entries (fun kind => decodeSlots kind {} entries) = .ok node)
    (distinct : entries.Distinct)
    (payloads : ∀ member ∈ entries, ∀ expected role payload,
      decodePayload expected role member.2 = .ok payload → expected.admits payload = true →
        member.2.isNull = true ∨ expected.IsDescribedBy member.2) :
    (Data.map entries).IsNode := by
  obtain ⟨kind, slots, line, file, namesKind, filled, ofLine, ofFile, check, rfl⟩ :=
    decodeMapping_eq_ok_iff.mp found
  have fits : slots.Fit kind := check_eq_ok_iff.mp check
  obtain ⟨name, named, isKind⟩ := decodeKind_eq_ok_iff.mp namesKind
  refine .map named isKind fun key value member => ?_
  by_cases isOwn : isOwnKey key = true
  · rcases isOwnKey_eq_true_iff.mp isOwn with rfl | rfl | rfl
    · exact .kind kind value
    · rw [Entries.get?_of_mem distinct member] at ofLine
      obtain rfl := decodeLine_eq_ok_iff.mp ofLine
      exact .line kind line
    · rw [Entries.get?_of_mem distinct member] at ofFile
      obtain rfl := decodeFile_eq_ok_iff.mp ofFile
      cases file with
      | none => exact .noFile kind
      | some file => exact .file kind file
  · obtain ⟨role, position, expected, rfl, leads, reads⟩ :=
      exists_payload_of_decodeSlots filled distinct member (by simpa using isOwn)
    have admits : expected.admits (slots.get position) = true := by
      have fit := fits position
      rwa [Layout.slotAt_of_find? leads] at fit
    rcases payloads _ member expected role _ reads admits with absent | describes
    · exact .empty leads absent
    · exact .payload leads describes

mutual
theorem isNode_of_decode : (content : Data) → content.HasDistinctKeys → ∀ node,
    decode content = .ok node → content.IsNode
  | .map entries, keyed, node, read => by
      rw [Data.HasDistinctKeys] at keyed
      rw [decode] at read
      exact isNode_of_decodeMapping read keyed.1 (areDescribed entries keyed.2)
  | .shared label content, keyed, node, read => by
      rw [Data.HasDistinctKeys] at keyed
      rw [decode] at read
      exact .shared label (isNode_of_decode content keyed node read)
  | .scalar _, _, _, read | .list _, _, _, read | .set _, _, _, read | .pair _ _, _, _, read
  | .enclosing _, _, _, read => by
      simp [decode] at read
/-- What was read as a payload that fits its slot is empty or has the format of the slot. -/
theorem isDescribed_of_decodePayload : (content : Data) → content.HasDistinctKeys →
    ∀ expected role payload, decodePayload expected role content = .ok payload →
      expected.admits payload = true → content.isNull = true ∨ expected.IsDescribedBy content
  | .map entries, keyed, expected, role, payload, read, admits => by
      rw [Data.HasDistinctKeys] at keyed
      have flat (noLoose : expected ≠ .anything)
          (read : decodeFlat expected role (.map entries) = .ok payload) :=
        isDescribed_of_decodeFlat read admits fun loose => absurd loose noLoose
      -- A mapping is read as a node, as a closure, or like a payload without nodes.
      cases expected with
      | node =>
          simp only [decodePayload] at read
          obtain ⟨node, read, -⟩ := map_eq_ok.mp read
          exact .inr (.node (isNode_of_decodeMapping read keyed.1 (areDescribed entries keyed.2)))
      | anything =>
          simp only [decodePayload] at read
          obtain ⟨node, read, -⟩ := map_eq_ok.mp read
          exact .inr (.looseNode
            (isNode_of_decodeMapping read keyed.1 (areDescribed entries keyed.2)))
      | closure =>
          simp only [decodePayload] at read
          obtain ⟨_, known, read⟩ := bind_eq_ok.mp read
          obtain ⟨params, ofParams, read⟩ := bind_eq_ok.mp read
          obtain ⟨body, ofBody, -⟩ := bind_eq_ok.mp read
          refine .inr (.closure rfl (checkClosureKeys_eq_ok_iff.mp known) fun name isSide => ?_)
          have isSide : name = "params" ∨ name = "body" := by simpa using isSide
          rcases isSide with rfl | rfl
          · exact isNode_of_decodeMember entries keyed.2 "params" params ofParams
          · exact isNode_of_decodeMember entries keyed.2 "body" body ofBody
      | _ => exact flat (by simp) (by simpa only [decodePayload] using read)
  | .list items, keyed, expected, role, payload, read, admits => by
      rw [Data.HasDistinctKeys] at keyed
      cases expected with
      | nodes =>
          simp only [decodePayload] at read
          obtain ⟨nodes, read, -⟩ := map_eq_ok.mp read
          exact .inr (.nodes rfl (areNodes_of_decodeList items keyed nodes read))
      | _ =>
          simp only [decodePayload] at read
          exact isDescribed_of_decodeFlat read admits fun _ => rfl
  | .shared label content, keyed, expected, role, payload, read, admits => by
      rw [Data.HasDistinctKeys] at keyed
      rw [decodePayload] at read
      obtain ⟨inner, ofContent, rfl⟩ := map_eq_ok.mp read
      have described := isDescribed_of_decodePayload content keyed expected role inner ofContent
        (admits_of_labelled admits)
      exact described.imp id fun describes => isDescribed_shared describes ofContent admits
  | .enclosing isList, keyed, expected, role, payload, read, admits => by
      rw [decodePayload] at read
      split at read
      case isTrue => cases read
      case isFalse notInto =>
        refine isDescribed_of_decodeFlat read admits fun isLoose => ?_
        subst isLoose
        cases isList with
        | true => rfl
        | false => exact absurd rfl notInto
  | .scalar _, _, _, _, _, read, admits | .set _, _, _, _, _, read, admits
  | .pair _ _, _, _, _, _, read, admits => by
      simp only [decodePayload] at read
      exact isDescribed_of_decodeFlat read admits fun _ => rfl
theorem areNodes_of_decodeList : (items : List Data) → Data.AllHaveDistinctKeys items → ∀ nodes,
    decodeList items = .ok nodes → ∀ item ∈ items, item.IsNode
  | [], _, _, _ => by simp
  | item :: items, keyed, nodes, read => by
      rw [Data.AllHaveDistinctKeys] at keyed
      rw [decodeList] at read
      obtain ⟨first, firstRead, read⟩ := bind_eq_ok.mp read
      obtain ⟨rest, restRead, -⟩ := bind_eq_ok.mp read
      rw [List.forall_mem_cons]
      exact ⟨isNode_of_decode item keyed.1 first firstRead,
        areNodes_of_decodeList items keyed.2 rest restRead⟩
theorem isNode_of_decodeMember : (entries : List (Scalar × Data)) →
    Data.EntriesHaveDistinctKeys entries → ∀ name side, decodeMember name entries = .ok side →
      ∀ value, Entries.get? entries name = some value → value.isNull = false → value.IsNode
  | [], _, _, _, _, _, found, _ => by cases found
  | (key, content) :: rest, keyed, name, side, read, value, found, present => by
      rw [Data.EntriesHaveDistinctKeys] at keyed
      rw [decodeMember] at read
      rw [Entries.get?, Entries.find?] at found
      by_cases same : key = .text name
      · rw [if_pos same] at read
        rw [if_pos (Scalar.equals_text_iff.mpr same)] at found
        obtain rfl := Option.some.inj found
        rw [present] at read
        obtain ⟨node, read, -⟩ := map_eq_ok.mp read
        exact isNode_of_decode content keyed.1 node read
      · rw [if_neg same] at read
        rw [if_neg (fun equal => same (Scalar.equals_text_iff.mp equal))] at found
        exact isNode_of_decodeMember rest keyed.2 name side read value found present
theorem areDescribed : (entries : List (Scalar × Data)) → Data.EntriesHaveDistinctKeys entries →
    ∀ member ∈ entries, ∀ expected role payload, decodePayload expected role member.2 = .ok payload →
      expected.admits payload = true → member.2.isNull = true ∨ expected.IsDescribedBy member.2
  | [], _ => by simp
  | (_, content) :: rest, keyed => by
      rw [Data.EntriesHaveDistinctKeys] at keyed
      rw [List.forall_mem_cons]
      exact ⟨isDescribed_of_decodePayload content keyed.1, areDescribed rest keyed.2⟩
end

theorem decodePayload_of_isNull {expected : Expected} {role : String} :
    (content : Data) → content.isNull = true → decodePayload expected role content = .ok .null
  | .scalar _, absent => by
      simp only [decodePayload]
      rw [decodeFlat.eq_def, if_pos absent]
  | .shared label content, absent => by
      rw [decodePayload, decodePayload_of_isNull content absent]
      rfl
  | .list _, absent | .map _, absent | .set _, absent | .pair _ _, absent
  | .enclosing _, absent => by cases absent

theorem decodePayload_of_bare {expected : Expected} {role : String} {payload : Value}
    (notKept : ∀ content, payload ≠ .data content) : (content : Data) →
      decodePayload expected role content.bare = .ok payload →
        decodePayload expected role content = .ok payload
  | .shared label content, reads => by
      rw [decodePayload, decodePayload_of_bare notKept content reads]
      cases payload with
      | data content => exact absurd rfl (notKept content)
      | _ => rfl
  | .scalar _, reads | .list _, reads | .map _, reads | .set _, reads | .pair _ _, reads
  | .enclosing _, reads => reads

theorem exists_decodePayload_loose (role : String) : (content : Data) →
    content.isMapping = false → ∃ payload, decodePayload .anything role content = .ok payload
  | .shared label content, noMapping => by
      obtain ⟨payload, reads⟩ := exists_decodePayload_loose role content noMapping
      exact ⟨labelled label payload, by rw [decodePayload, reads]; rfl⟩
  | .enclosing true, _ => ⟨.data (.enclosing true), by
      rw [decodePayload, if_neg (by decide)]
      rfl⟩
  | .scalar scalar, _ => by
      simp only [decodePayload, decodeFlat]
      split <;> exact ⟨_, rfl⟩
  | .list items, _ => ⟨.data (.list items), by simp only [decodePayload]; rfl⟩
  | .set members, _ => ⟨.data (.set members), by simp only [decodePayload]; rfl⟩
  | .pair key value, _ => ⟨.data (.pair key value), by simp only [decodePayload]; rfl⟩
  | .map _, noMapping | .enclosing false, noMapping => by cases noMapping

section

variable {kind : Kind} {slots : Slots} {entries : Entries}

theorem fit_set {position : SlotPosition} {role : String} {expected : Expected} {payload : Value}
    (fits : slots.Fit kind) (leads : kind.layout.find? role = some (position, expected))
    (admits : expected.admits payload = true) : (slots.set position payload).Fit kind := by
  intro other
  by_cases same : other = position
  · subst same
    rw [Layout.slotAt_of_find? leads, Slots.get_set_self]
    exact admits
  · rw [Slots.get_set_of_ne slots payload same]
    exact fits other

theorem exists_decodeSlots (fits : slots.Fit kind)
    (reads : ∀ member ∈ entries, isOwnKey member.1 = false → ∃ role position expected payload,
      decodeRole kind member.1 = .ok (role, position, expected) ∧
        decodePayload expected role member.2 = .ok payload ∧ expected.admits payload = true) :
    ∃ filled, decodeSlots kind slots entries = .ok filled ∧ filled.Fit kind := by
  induction entries generalizing slots with
  | nil => exact ⟨slots, by rw [decodeSlots], fits⟩
  | cons member entries inductionHypothesis =>
      obtain ⟨key, value⟩ := member
      rw [List.forall_mem_cons] at reads
      obtain ⟨first, others⟩ := reads
      by_cases isOwn : isOwnKey key = true
      · rw [decodeSlots, if_pos isOwn]
        exact inductionHypothesis fits others
      · obtain ⟨role, position, expected, payload, slot, read, admits⟩ :=
          first (by simpa using isOwn)
        obtain ⟨-, leads⟩ := decodeRole_eq_ok_iff.mp slot
        obtain ⟨filled, rest, fit⟩ := inductionHypothesis (fit_set fits leads admits) others
        refine ⟨filled, ?_, fit⟩
        rw [decodeSlots, if_neg isOwn, slot]
        simp only [bind, Except.bind, read, rest]

end

theorem isOwnKey_of_find? {kind : Kind} {role : String} {slot : SlotPosition × Expected}
    (leads : kind.layout.find? role = some slot) : isOwnKey (.text role) = false :=
  (Kind.find?_role (Layout.slotAt_of_find? leads)).2

theorem exists_decodeLine {kind : Kind} {key : Scalar} {value : Data}
    (permits : kind.Permits key value) (isLine : key = .text "line") :
    ∃ line, decodeLine (some value) = .ok line := by
  cases permits with
  | line _ line => exact ⟨line, rfl⟩
  | empty leads _ | payload leads _ =>
      have noOwn := isOwnKey_of_find? leads
      rw [isLine] at noOwn
      cases noOwn
  | _ => simp at isLine

theorem exists_decodeFile {kind : Kind} {key : Scalar} {value : Data}
    (permits : kind.Permits key value) (isFile : key = .text "file") :
    ∃ file, decodeFile (some value) = .ok file := by
  cases permits with
  | noFile => exact ⟨none, rfl⟩
  | file _ file => exact ⟨some file, rfl⟩
  | empty leads _ | payload leads _ =>
      have noOwn := isOwnKey_of_find? leads
      rw [isFile] at noOwn
      cases noOwn
  | _ => simp at isFile

/-- A mapping of permitted members is read as a node if the payloads among them are read. -/
theorem exists_decodeMapping {entries : Entries} {name : Data} {kind : Kind}
    (named : entries.get? "kind" = some name) (isKind : kind.IsNamedBy name)
    (members : ∀ key value, (key, value) ∈ entries → kind.Permits key value)
    (reads : ∀ member ∈ entries, isOwnKey member.1 = false → ∃ role position expected payload,
      decodeRole kind member.1 = .ok (role, position, expected) ∧
        decodePayload expected role member.2 = .ok payload ∧ expected.admits payload = true) :
    ∃ node, decodeMapping entries (fun kind => decodeSlots kind {} entries) = .ok node := by
  obtain ⟨filled, fills, fits⟩ := exists_decodeSlots (Slots.Fit.empty kind) reads
  have ofKind : decodeKind (entries.get? "kind") = .ok kind :=
    decodeKind_eq_ok_iff.mpr ⟨name, named, isKind⟩
  obtain ⟨line, ofLine⟩ : ∃ line, decodeLine (entries.get? "line") = .ok line := by
    cases found : entries.get? "line" with
    | none => exact ⟨0, rfl⟩
    | some value => exact exists_decodeLine (members _ _ (Entries.mem_of_get? found)) rfl
  obtain ⟨file, ofFile⟩ : ∃ file, decodeFile (entries.get? "file") = .ok file := by
    cases found : entries.get? "file" with
    | none => exact ⟨none, rfl⟩
    | some value => exact exists_decodeFile (members _ _ (Entries.mem_of_get? found)) rfl
  have check : (ofSlots kind filled line file).check = .ok () := check_eq_ok_iff.mpr fits
  exact ⟨_, decodeMapping_eq_ok_iff.mpr
    ⟨kind, filled, line, file, ofKind, fills, ofLine, ofFile, check, rfl⟩⟩

theorem exists_decodeList {items : List Data}
    (reads : ∀ item ∈ items, ∃ node, decode item = .ok node) :
    ∃ nodes, decodeList items = .ok nodes := by
  induction items with
  | nil => exact ⟨[], by rw [decodeList]⟩
  | cons item items inductionHypothesis =>
      rw [List.forall_mem_cons] at reads
      obtain ⟨⟨node, first⟩, others⟩ := reads
      obtain ⟨nodes, rest⟩ := inductionHypothesis others
      exact ⟨node :: nodes, by simp only [decodeList, first, rest, bind, Except.bind]⟩

theorem decodeMember_eq (name : String) (entries : Entries) :
    decodeMember name entries = match entries.get? name with
      | none => .ok none
      | some value => decodeSide value := by
  induction entries with
  | nil => rfl
  | cons entry entries inductionHypothesis =>
      obtain ⟨key, value⟩ := entry
      rw [decodeMember, Entries.get?, Entries.find?]
      by_cases same : key = .text name
      · rw [if_pos same, if_pos (Scalar.equals_text_iff.mpr same)]
        rfl
      · rw [if_neg same, if_neg fun equal => same (Scalar.equals_text_iff.mp equal)]
        exact inductionHypothesis

theorem exists_decodeMember {entries : Entries} {name : String}
    (reads : ∀ side, entries.get? name = some side → side.isNull = false →
      ∃ node, decode side = .ok node) :
    ∃ side, decodeMember name entries = .ok side := by
  rw [decodeMember_eq]
  cases found : entries.get? name with
  | none => exact ⟨none, rfl⟩
  | some value =>
      dsimp only [decodeSide]
      cases absent : value.isNull with
      | true => exact ⟨none, rfl⟩
      | false =>
          obtain ⟨node, read⟩ := reads value found absent
          exact ⟨some node, by rw [read]; rfl⟩

mutual
theorem exists_decode : ∀ {content : Data}, content.IsNode → ∃ node, decode content = .ok node
  | _, .map named isKind members => by
      obtain ⟨node, read⟩ := exists_decodeMapping named isKind members fun member isMember =>
        exists_payload_of_permits (members member.1 member.2 isMember)
      exact ⟨node, by rw [decode, read]⟩
  | _, .shared label isNode => by
      obtain ⟨node, read⟩ := exists_decode isNode
      exact ⟨node, by rw [decode, read]⟩
theorem exists_payload_of_permits : ∀ {kind : Kind} {key : Scalar} {value : Data},
    kind.Permits key value → isOwnKey key = false → ∃ role position expected payload,
      decodeRole kind key = .ok (role, position, expected) ∧
        decodePayload expected role value = .ok payload ∧ expected.admits payload = true
  | _, _, value, .empty leads absent, _ =>
      ⟨_, _, _, .null, decodeRole_eq_ok_iff.mpr ⟨rfl, leads⟩, decodePayload_of_isNull value absent,
        rfl⟩
  | _, _, _, @Kind.Permits.payload _ role _ _ _ leads describes, _ => by
      obtain ⟨payload, read, admits⟩ := exists_payload_of_isDescribed describes role
      exact ⟨_, _, _, payload, decodeRole_eq_ok_iff.mpr ⟨rfl, leads⟩, read, admits⟩
  | _, _, _, .kind _ _, noOwn | _, _, _, .line _ _, noOwn | _, _, _, .noFile _, noOwn
  | _, _, _, .file _ _, noOwn => by cases noOwn
theorem exists_payload_of_isDescribed : ∀ {expected : Expected} {value : Data},
    expected.IsDescribedBy value → ∀ role, ∃ payload,
      decodePayload expected role value = .ok payload ∧ expected.admits payload = true
  | _, value, .node isNode, role => by
      obtain ⟨node, read⟩ := exists_decode isNode
      exact ⟨.node node, decodePayload_of_decode (.inl rfl) value read role, rfl⟩
  | _, value, .nodes isList areNodes, role => by
      obtain ⟨nodes, read⟩ := exists_decodeList fun item member =>
        exists_decode (areNodes item member)
      refine ⟨.ofNodes nodes, decodePayload_of_bare (by simp [Value.ofNodes]) value ?_, ?_⟩
      · simp only [isList, decodePayload, read, Except.map]
      · simp [Expected.admits, Value.ofNodes, Value.node?]
  | _, _, .name name, _ => ⟨.data (.text name), rfl, rfl⟩
  | _, _, .integer number, _ => ⟨.data (.int number), rfl, rfl⟩
  | _, _, .whole number, _ => ⟨.data (.int number), rfl, rfl⟩
  | _, _, .double number, _ => ⟨.data (.scalar (.float number)), rfl, rfl⟩
  | _, _, .text text, _ => ⟨.data (.text text), rfl, rfl⟩
  | _, value, @Expected.IsDescribedBy.symbol _ name only, role =>
      ⟨.symbol name.plainText, decodePayload_of_bare (by simp) value (by rw [only]; rfl), rfl⟩
  | _, value, @Expected.IsDescribedBy.regex _ source only, role =>
      ⟨.regex source.plainText, decodePayload_of_bare (by simp) value (by rw [only]; rfl), rfl⟩
  | _, value, @Expected.IsDescribedBy.declared _ names isList, role => by
      refine ⟨.table (.ofDeclared names), decodePayload_of_bare (by simp) value ?_, rfl⟩
      have texts : decodeNames role (.list (names.map .text)) = .ok names :=
        decodeNames_eq_ok_iff.mpr rfl
      rw [isList]
      simp only [decodePayload]
      simp [decodeFlat, decodeTable, texts, Data.isNull, Data.bare, Except.map]
  | _, value, @Expected.IsDescribedBy.table _ _ names only isList, role => by
      refine ⟨.table ⟨names⟩, decodePayload_of_bare (by simp) value ?_, rfl⟩
      rw [only]
      simp only [decodePayload]
      simp [decodeFlat, decodeTable, decodeNames_eq_ok_iff.mpr isList, Data.isNull, Data.bare,
        Except.map]
  | _, value, @Expected.IsDescribedBy.selector _ entries isMap both, role => by
      obtain ⟨attr, leadsAttr⟩ : ∃ attr, entries.get? "attr" = some attr :=
        Entries.exists_get?_of_mem (both.mem_iff.mpr (by simp))
      obtain ⟨operator, leadsOperator⟩ : ∃ operator, entries.get? "operator" = some operator :=
        Entries.exists_get?_of_mem (both.mem_iff.mpr (by simp))
      have two : entries.length = 2 := by simpa [Entries.keys] using both.length_eq
      refine ⟨.selector attr.plainText operator.plainText,
        decodePayload_of_bare (by simp) value ?_, rfl⟩
      rw [isMap]
      simp only [decodePayload]
      simp [decodeFlat, decodeSelector, Data.isNull, Data.bare, two, leadsAttr, leadsOperator]
  | _, value, @Expected.IsDescribedBy.closure _ entries isMap known sides, role => by
      obtain ⟨params, ofParams⟩ : ∃ side, decodeMember "params" entries = .ok side :=
        exists_decodeMember fun side found present =>
          exists_decode (sides "params" (by simp) side found present)
      obtain ⟨body, ofBody⟩ : ∃ side, decodeMember "body" entries = .ok side :=
        exists_decodeMember fun side found present =>
          exists_decode (sides "body" (by simp) side found present)
      refine ⟨.closure (.ofNode? params) (.ofNode? body) (decodeOwner entries),
        decodePayload_of_bare (by simp) value ?_, rfl⟩
      rw [isMap]
      simp only [decodePayload, checkClosureKeys_eq_ok_iff.mpr known, ofParams, ofBody, bind,
        Except.bind]
  | _, value, .looseNode isNode, role => by
      obtain ⟨node, read⟩ := exists_decode isNode
      exact ⟨.node node, decodePayload_of_decode (.inr rfl) value read role, rfl⟩
  | _, value, .loose noMapping, role => by
      obtain ⟨payload, read⟩ := exists_decodePayload_loose role value noMapping
      exact ⟨payload, read, by simp [Expected.admits]⟩
end

/-- A document in whose mappings no two keys are equal is read as a node exactly if it has the
format of one. -/
theorem decode_isOk_iff (content : Data) (keyed : content.HasDistinctKeys) :
    (∃ node, decode content = .ok node) ↔ content.IsNode := by
  constructor
  · rintro ⟨node, read⟩
    exact isNode_of_decode content keyed node read
  · exact exists_decode

/-- A closure in capitals around a masgn that is named by its number, with a mapping in the list
that its loose slot holds. -/
def captureDocument : Data :=
  .map [(.text "kind", .text "BMETHOD"),
    (.text "closure", .map [(.text "params", .null), (.text "owner", .int 5),
      (.text "body", .map [(.text "splat", .list [.map [(.int 1, .null)]]),
        (.text "line", .int 3), (.text "kind", .int 24)])])]

def looseSymbolDocument : Data :=
  .map [(.text "kind", .int 24), (.text "splat", .map [(.text "sym", .text "x")])]

theorem isNode_captureDocument :
    (captureDocument.HasDistinctKeys ∧ captureDocument.IsNode) ∧
      looseSymbolDocument.HasDistinctKeys ∧ ¬looseSymbolDocument.IsNode := by
  have keyed : captureDocument.HasDistinctKeys := by
    simp [captureDocument, Data.HasDistinctKeys, Data.EntriesHaveDistinctKeys,
      Data.AllHaveDistinctKeys, Entries.Distinct, Scalar.text_equals_text, Data.text, Data.int,
      Data.null]
  have looseKeyed : looseSymbolDocument.HasDistinctKeys := by
    simp [looseSymbolDocument, Data.HasDistinctKeys, Data.EntriesHaveDistinctKeys,
      Entries.Distinct, Scalar.text_equals_text, Data.text, Data.int]
  have refused : decode looseSymbolDocument = .error (.document (.kindMissing "None")) := rfl
  refine ⟨⟨keyed, (decode_isOk_iff captureDocument keyed).mp ⟨_, rfl⟩⟩, looseKeyed, ?_⟩
  intro isNode
  obtain ⟨node, read⟩ := (decode_isOk_iff looseSymbolDocument looseKeyed).mpr isNode
  rw [refused] at read
  cases read

end Node

end NodeForms
