import NodeForms.Proofs.Node.Alike

/-!
# Nodes from documents in another order

Reading a node goes through the members of a mapping in the order in which they were written, but
what it comes to does not depend on this order. A document that is read in one order is read in
every other, as a node that is alike.
-/

namespace NodeForms

namespace Node

section

variable {named other : Option Data}

theorem decodeKind_reordered {kind : Kind} (same : Option.Rel Data.Reordered named other)
    (found : decodeKind named = .ok kind) : decodeKind other = .ok kind := by
  obtain ⟨name, rfl, isNamed⟩ := decodeKind_eq_ok_iff.mp found
  cases same with
  | some same =>
      cases isNamed with
      | number number => cases same; exact found
      | tag spelled => cases same; exact found

theorem decodeLine_reordered {line : Int} (same : Option.Rel Data.Reordered named other)
    (found : decodeLine named = .ok line) : decodeLine other = .ok line := by
  cases same with
  | none => exact found
  | some same =>
      obtain rfl := decodeLine_eq_ok_iff.mp found
      cases same
      exact found

theorem decodeFile_reordered {file : Option String} (same : Option.Rel Data.Reordered named other)
    (found : decodeFile named = .ok file) : decodeFile other = .ok file := by
  cases same with
  | none => exact found
  | some same =>
      obtain rfl := decodeFile_eq_ok_iff.mp found
      cases file <;> cases same <;> exact found

end

section

variable {texts : String → String → Prop} {role : String} {content other : Data} {payload : Value}

theorem isMapping_eq_of_reordered (same : content.Reordered other) :
    content.isMapping = other.isMapping := by
  have bareSame := same.bare
  unfold Data.isMapping
  generalize content.bare = bare at bareSame ⊢
  generalize other.bare = otherBare at bareSame ⊢
  cases bareSame <;> rfl

theorem decodeLiteral_reordered (same : content.Reordered other)
    (settled : ∀ value, Expected.literal.Spells content value → value.Settles texts)
    (found : decodeLiteral role content = .ok payload) :
    ∃ again, decodeLiteral role other = .ok again ∧ payload.Alike texts again := by
  have bareSame := same.bare
  rcases decodeLiteral_eq_ok_iff.mp found with
    ⟨name, only, rfl⟩ | ⟨source, only, rfl⟩ | ⟨noMapping, rfl⟩
  · rw [only] at bareSame
    obtain ⟨moved, otherOnly, nameSame⟩ := bareSame.exists_only
    exact ⟨_, decodeLiteral_eq_ok_iff.mpr (.inl ⟨moved, otherOnly, rfl⟩),
      .symbol (settled name (.symbol only) moved nameSame)⟩
  · rw [only] at bareSame
    obtain ⟨moved, otherOnly, sourceSame⟩ := bareSame.exists_only
    exact ⟨_, decodeLiteral_eq_ok_iff.mpr (.inr (.inl ⟨moved, otherOnly, rfl⟩)),
      .regex (settled source (.regex only) moved sourceSame)⟩
  · have otherNoMapping : other.isMapping = false := by
      rw [← isMapping_eq_of_reordered same, noMapping]
    exact ⟨_, decodeLiteral_eq_ok_iff.mpr (.inr (.inr ⟨otherNoMapping, rfl⟩)), .data same⟩

theorem bare_eq_texts {names : List String} (same : content.Reordered other)
    (areTexts : content.bare = .list (names.map .text)) :
    other.bare = .list (names.map .text) := by
  have bareSame := same.bare
  rw [areTexts] at bareSame
  exact (bareSame.eq_of_hasOneOrder (Data.hasOneOrder_texts names)).symm

theorem decodeTable_reordered (same : content.Reordered other)
    (found : decodeTable role content = .ok payload) :
    ∃ again, decodeTable role other = .ok again ∧ payload.Alike texts again := by
  rcases decodeTable_eq_ok_iff.mp found with
    ⟨whole, names, only, areTexts, rfl⟩ | ⟨names, areTexts, rfl⟩
  · have bareSame := same.bare
    rw [only] at bareSame
    obtain ⟨moved, otherOnly, wholeSame⟩ := bareSame.exists_only
    exact ⟨_, decodeTable_eq_ok_iff.mpr
      (.inl ⟨moved, names, otherOnly, bare_eq_texts wholeSame areTexts, rfl⟩), .table _⟩
  · exact ⟨_, decodeTable_eq_ok_iff.mpr (.inr ⟨names, bare_eq_texts same areTexts, rfl⟩),
      .table _⟩

theorem decodeSelector_reordered (same : content.Reordered other)
    (settled : ∀ value, Expected.selector.Spells content value → value.Settles texts)
    (found : decodeSelector role content = .ok payload) :
    ∃ again, decodeSelector role other = .ok again ∧ payload.Alike texts again := by
  obtain ⟨entries, attr, operator, isMap, two, ofAttr, ofOperator, rfl⟩ :=
    decodeSelector_eq_ok_iff.mp found
  have bareSame := same.bare
  rw [isMap] at bareSame
  generalize otherIsMap : other.bare = otherBare at bareSame
  cases bareSame with
  | map distinct same order =>
      obtain ⟨otherAttr, otherOfAttr, attrSame⟩ := same.exists_get? order distinct ofAttr
      obtain ⟨otherOperator, otherOfOperator, operatorSame⟩ :=
        same.exists_get? order distinct ofOperator
      have otherTwo := (same.keys_perm order).length_eq
      rw [Entries.keys, Entries.keys, List.length_map, List.length_map, two] at otherTwo
      exact ⟨_, decodeSelector_eq_ok_iff.mpr
        ⟨_, otherAttr, otherOperator, otherIsMap, otherTwo.symm, otherOfAttr, otherOfOperator, rfl⟩,
        .selector (settled attr (.selector isMap (by simp) ofAttr) otherAttr attrSame)
          (settled operator (.selector isMap (by simp) ofOperator) otherOperator operatorSame)⟩

/-- What is read without going into it is read in every order. -/
theorem decodeFlat_reordered {expected : Expected} (same : content.Reordered other)
    (settled : ∀ value, expected.Spells content value → value.Settles texts)
    (found : decodeFlat expected role content = .ok payload) :
    ∃ again, decodeFlat expected role other = .ok again ∧ payload.Alike texts again := by
  unfold decodeFlat at found ⊢
  rw [← same.isNull_eq]
  split at found
  · rename_i absent
    obtain rfl := Except.ok.inj found
    exact ⟨.null, if_pos absent, .null⟩
  · rename_i present
    rw [if_neg present]
    cases expected with
    | node | nodes | closure => cases found
    | name | integer | anything =>
        obtain rfl := Except.ok.inj found
        exact ⟨_, rfl, .data same⟩
    | literal => exact decodeLiteral_reordered same settled found
    | table => exact decodeTable_reordered same found
    | selector => exact decodeSelector_reordered same settled found

end

end Node

/-- A value that is read in every order if it is read, as nodes and payloads that are alike. -/
structure Data.ReadsAlike (texts : String → String → Prop) (content : Data) : Prop where
  node {other : Data} {node : Node} : (∀ value, content.Spells value → value.Settles texts) →
    content.Reordered other → Node.decode content = .ok node →
    ∃ again, Node.decode other = .ok again ∧ node.Alike texts again
  payload {other : Data} {expected : Expected} {role : String} {payload : Value} :
    (∀ value, expected.Spells content value → value.Settles texts) → content.Reordered other →
    Node.decodePayload expected role content = .ok payload →
    ∃ again, Node.decodePayload expected role other = .ok again ∧ payload.Alike texts again

namespace Node

theorem decodePayload_of_decodeSlots {kind : Kind} {slots filled : Slots} {entries : Entries}
    (found : decodeSlots kind slots entries = .ok filled) (distinct : entries.Distinct)
    {role : String} {value : Data} {position : SlotPosition} {expected : Expected}
    (isMember : (.text role, value) ∈ entries)
    (leads : kind.layout.find? role = some (position, expected)) :
    decodePayload expected role value = .ok (filled.get position) := by
  obtain ⟨_, _, _, same, leadsToo, reads⟩ :=
    exists_payload_of_decodeSlots found distinct isMember (isOwnKey_of_find? leads)
  cases same
  cases leads.symm.trans leadsToo
  exact reads

section

variable {texts : String → String → Prop} {entries arranged others : Entries}
  (distinct : entries.Distinct) (same : Data.EntriesReordered entries arranged)
  (order : arranged.Perm others)

include distinct same order

theorem decodeOwner_reordered
    (settled : ∀ owner, entries.get? "owner" = some owner → owner.Settles texts) :
    Option.Rel texts (decodeOwner entries) (decodeOwner others) := by
  have leads := same.get? order distinct "owner"
  unfold decodeOwner
  cases found : entries.get? "owner" with
  | none =>
      rw [found] at leads
      cases otherFound : others.get? "owner" with
      | none => exact .none
      | some other => rw [otherFound] at leads; cases leads
  | some owner =>
      obtain ⟨other, otherFound, moved⟩ := same.exists_get? order distinct found
      rw [otherFound]
      have paired := settled owner found other moved
      cases moved with
      | scalar value =>
          cases value with
          | null => exact .none
          | _ => exact .some paired
      | _ => exact .some paired

variable (members : ∀ member ∈ entries, member.2.ReadsAlike texts)

include members

theorem decodeSlots_reordered {kind : Kind} {slots : Slots}
    (settled : ∀ role value position expected, (.text role, value) ∈ entries →
      kind.layout.find? role = some (position, expected) →
        ∀ spelled, expected.Spells value spelled → spelled.Settles texts)
    (found : decodeSlots kind {} entries = .ok slots) (fits : slots.Fit kind) :
    ∃ again, decodeSlots kind {} others = .ok again ∧ again.Fit kind ∧
      ∀ position, (slots.get position).Alike texts (again.get position) := by
  have otherDistinct := (same.distinct distinct).perm order
  have readAgain {role : String} {value other : Data} {position : SlotPosition}
      {expected : Expected} (isMember : (.text role, value) ∈ entries)
      (leads : kind.layout.find? role = some (position, expected))
      (moved : value.Reordered other) :
      ∃ again, decodePayload expected role other = .ok again ∧
        (slots.get position).Alike texts again :=
    (members _ isMember).payload (settled role value position expected isMember leads) moved
      (decodePayload_of_decodeSlots found distinct isMember leads)
  -- Each member is read in the other order too, and as a payload that fits the same slot.
  obtain ⟨again, filled, fitsAgain⟩ : ∃ again, decodeSlots kind {} others = .ok again ∧
      again.Fit kind := by
    refine exists_decodeSlots (Slots.Fit.empty kind) fun member isMember noOwn => ?_
    obtain ⟨key, other⟩ := member
    obtain ⟨value, isValue, moved⟩ := same.exists_value order isMember
    obtain ⟨role, position, expected, rfl, leads, -⟩ :=
      exists_payload_of_decodeSlots found distinct isValue noOwn
    obtain ⟨payload, reads, alike⟩ := readAgain isValue leads moved
    have admits : expected.admits (slots.get position) = true := by
      have fit := fits position
      rwa [Layout.slotAt_of_find? leads] at fit
    exact ⟨role, position, expected, payload, decodeRole_eq_ok_iff.mpr ⟨rfl, leads⟩, reads,
      by rw [← alike.admits_eq, admits]⟩
  refine ⟨again, filled, fitsAgain, fun position => ?_⟩
  by_cases isFilled : ∃ role value expected, (Scalar.text role, value) ∈ entries ∧
      kind.layout.find? role = some (position, expected)
  · obtain ⟨role, value, expected, isMember, leads⟩ := isFilled
    obtain ⟨other, isOther, moved⟩ := same.exists_other order isMember
    obtain ⟨payload, reads, alike⟩ := readAgain isMember leads moved
    rw [decodePayload_of_decodeSlots filled otherDistinct isOther leads] at reads
    rwa [Except.ok.inj reads]
  · -- No member leads to this slot in either order.
    have isEmpty : ({} : Slots).get position = .null := by cases position <;> rfl
    rw [get_of_decodeSlots found fun role value expected isMember leads =>
        isFilled ⟨role, value, expected, isMember, leads⟩,
      get_of_decodeSlots filled fun role other expected isMember leads => by
        obtain ⟨value, isValue, -⟩ := same.exists_value order isMember
        exact isFilled ⟨role, value, expected, isValue, leads⟩, isEmpty]
    exact .null

theorem decodeMapping_reordered {node : Node}
    (settled : ∀ value, (Data.map entries).Spells value → value.Settles texts)
    (found : decodeMapping entries (fun kind => decodeSlots kind {} entries) = .ok node) :
    ∃ again, decodeMapping others (fun kind => decodeSlots kind {} others) = .ok again ∧
      node.Alike texts again := by
  obtain ⟨kind, slots, line, file, named, filled, ofLine, ofFile, fits, rfl⟩ :=
    decodeMapping_eq_ok_iff.mp found
  obtain ⟨again, filledAgain, fitsAgain, alike⟩ :=
    decodeSlots_reordered distinct same order members
      (fun role value position expected isMember leads spelled spells =>
        settled spelled (.member named leads isMember spells))
      filled (check_eq_ok_iff.mp fits)
  have leads := same.get? order distinct
  exact ⟨ofSlots kind again line file, decodeMapping_eq_ok_iff.mpr
      ⟨kind, again, line, file, decodeKind_reordered (leads "kind") named, filledAgain,
        decodeLine_reordered (leads "line") ofLine, decodeFile_reordered (leads "file") ofFile,
        check_eq_ok_iff.mpr fitsAgain, rfl⟩,
    .mk kind line file (alike .first) (alike .second) (alike .third)⟩

theorem decodeMember_reordered {name : String} {side : Option Node}
    (settled : ∀ value, entries.get? name = some value → ∀ spelled, value.Spells spelled →
      spelled.Settles texts)
    (found : decodeMember name entries = .ok side) :
    ∃ again, decodeMember name others = .ok again ∧
      (Value.ofNode? side).Alike texts (.ofNode? again) := by
  rw [decodeMember_eq] at found ⊢
  have leads := same.get? order distinct name
  cases leadsToo : entries.get? name with
  | none =>
      rw [leadsToo] at found leads
      cases otherLeads : others.get? name with
      | none => exact ⟨none, rfl, by rw [← Except.ok.inj found]; exact .null⟩
      | some other => rw [otherLeads] at leads; cases leads
  | some value =>
      rw [leadsToo] at found
      obtain ⟨other, otherLeads, moved⟩ := same.exists_get? order distinct leadsToo
      rw [otherLeads]
      dsimp only at found ⊢
      unfold decodeSide at found ⊢
      rw [← moved.isNull_eq]
      split at found
      case isTrue absent =>
        exact ⟨none, if_pos absent, by rw [← Except.ok.inj found]; exact .null⟩
      case isFalse present =>
        obtain ⟨node, read, rfl⟩ := map_eq_ok.mp found
        obtain ⟨again, readAgain, alike⟩ := (members _ (Entries.mem_of_get? leadsToo)).node
          (settled value leadsToo) moved read
        exact ⟨some again, by rw [if_neg present, readAgain]; rfl, .node alike⟩

theorem decodeClosure_reordered {role : String} {payload : Value}
    (settled : ∀ value, Expected.closure.Spells (.map entries) value → value.Settles texts)
    (found : decodePayload .closure role (.map entries) = .ok payload) :
    ∃ again, decodePayload .closure role (.map others) = .ok again ∧
      payload.Alike texts again := by
  simp only [decodePayload] at found ⊢
  obtain ⟨_, known, found⟩ := bind_eq_ok.mp found
  obtain ⟨params, ofParams, found⟩ := bind_eq_ok.mp found
  obtain ⟨body, ofBody, found⟩ := bind_eq_ok.mp found
  obtain rfl := Except.ok.inj found
  have sideSettled {name : String} (isSide : name ∈ ["params", "body"]) :
      ∀ value, entries.get? name = some value → ∀ spelled, value.Spells spelled →
        spelled.Settles texts :=
    fun value leads spelled spells => settled spelled (.side rfl isSide leads spells)
  have knownAgain : checkClosureKeys others = .ok () :=
    checkClosureKeys_eq_ok_iff.mpr fun key isKey =>
      checkClosureKeys_eq_ok_iff.mp known key ((same.keys_perm order).mem_iff.mpr isKey)
  obtain ⟨otherParams, ofOtherParams, paramsAlike⟩ :=
    decodeMember_reordered distinct same order members (sideSettled (by simp)) ofParams
  obtain ⟨otherBody, ofOtherBody, bodyAlike⟩ :=
    decodeMember_reordered distinct same order members (sideSettled (by simp)) ofBody
  have ownerAlike := decodeOwner_reordered distinct same order
    fun owner leads => settled owner (.owner rfl leads)
  exact ⟨_, by rw [knownAgain, ofOtherParams, ofOtherBody]; rfl,
    .closure paramsAlike bodyAlike ownerAlike⟩

end

section

variable {texts : String → String → Prop}

theorem readsAlike_map {entries : Entries}
    (members : ∀ member ∈ entries, member.2.ReadsAlike texts) :
    (Data.map entries).ReadsAlike texts where
  node settled same found := by
    cases same with
    | map distinct same order =>
        rw [decode] at found ⊢
        exact decodeMapping_reordered distinct same order members settled found
  payload {other expected role payload} settled reordered found := by
    cases reordered with
    | @map _ arranged others distinct same order =>
        have asNode (forNode : expected = .node ∨ expected = .anything)
            (found : (decodeMapping entries fun kind => decodeSlots kind {} entries).map .node =
              .ok payload) :
            ∃ again, (decodeMapping others fun kind => decodeSlots kind {} others).map Value.node =
              .ok again ∧ payload.Alike texts again := by
          obtain ⟨node, read, rfl⟩ := map_eq_ok.mp found
          obtain ⟨again, readAgain, alike⟩ :=
            decodeMapping_reordered distinct same order members
              (fun value spells => settled value (.node forNode spells)) read
          exact ⟨.node again, by rw [readAgain]; rfl, .node alike⟩
        have flat (found : decodeFlat expected role (.map entries) = .ok payload) :=
          decodeFlat_reordered (.map distinct same order) settled found
        cases expected with
        | node =>
            simp only [decodePayload] at found ⊢
            exact asNode (.inl rfl) found
        | anything =>
            simp only [decodePayload] at found ⊢
            exact asNode (.inr rfl) found
        | closure => exact decodeClosure_reordered distinct same order members settled found
        | _ =>
            simp only [decodePayload] at found ⊢
            exact flat found

theorem decodeList_reordered : ∀ {items others : List Data}, Data.AllReordered items others →
    (∀ item ∈ items, item.ReadsAlike texts) →
    (∀ item ∈ items, ∀ spelled, item.Spells spelled → spelled.Settles texts) → ∀ {nodes},
    decodeList items = .ok nodes → ∃ again, decodeList others = .ok again ∧
      Value.AllAlike texts (nodes.map .node) (again.map .node)
  | _, _, .nil, _, _, nodes, found => by
      rw [decodeList] at found
      obtain rfl := Except.ok.inj found
      exact ⟨[], by rw [decodeList], .nil⟩
  | _, _, .cons first rest, readAlike, settled, nodes, found => by
      rw [List.forall_mem_cons] at readAlike settled
      rw [decodeList] at found
      obtain ⟨node, firstRead, found⟩ := bind_eq_ok.mp found
      obtain ⟨others, restRead, found⟩ := bind_eq_ok.mp found
      obtain rfl := Except.ok.inj found
      obtain ⟨again, firstAgain, firstAlike⟩ := readAlike.1.node settled.1 first firstRead
      obtain ⟨othersAgain, restAgain, restAlike⟩ :=
        decodeList_reordered rest readAlike.2 settled.2 restRead
      exact ⟨again :: othersAgain, by rw [decodeList, firstAgain, restAgain]; rfl,
        .cons (.node firstAlike) restAlike⟩

theorem readsAlike_list {items : List Data} (readAlike : ∀ item ∈ items, item.ReadsAlike texts) :
    (Data.list items).ReadsAlike texts where
  node _ _ found := by simp [decode] at found
  payload {other expected role payload} settled reordered found := by
    cases reordered with
    | @list _ others same =>
        have flat (found : decodeFlat expected role (.list items) = .ok payload) :=
          decodeFlat_reordered (.list same) settled found
        cases expected with
        | nodes =>
            simp only [decodePayload] at found ⊢
            obtain ⟨nodes, read, rfl⟩ := map_eq_ok.mp found
            obtain ⟨again, readAgain, alike⟩ := decodeList_reordered same readAlike
              (fun item isItem spelled spells => settled spelled (.nodes rfl isItem spells)) read
            exact ⟨.ofNodes again, by rw [readAgain]; rfl, .tuple alike⟩
        | _ =>
            simp only [decodePayload] at found ⊢
            exact flat found

theorem readsAlike_shared (label : Nat) {content : Data} (readsAlike : content.ReadsAlike texts) :
    (Data.shared label content).ReadsAlike texts where
  node settled reordered found := by
    cases reordered with
    | shared _ same =>
        rw [decode] at found ⊢
        exact readsAlike.node (fun value spells => settled value (.shared label spells)) same found
  payload settled reordered found := by
    cases reordered with
    | shared _ same =>
        rw [decodePayload] at found ⊢
        obtain ⟨payload, reads, rfl⟩ := map_eq_ok.mp found
        obtain ⟨again, readsAgain, alike⟩ :=
          readsAlike.payload (fun value spells => settled value (spells.shared label)) same reads
        exact ⟨labelled label again, by rw [readsAgain]; rfl, alike.labelled label⟩

theorem readsAlike_flat {content : Data} (noNode : ∀ node, decode content ≠ .ok node)
    (areFlat : ∀ other, other = content ∨ content.Reordered other → ∀ expected role,
      decodePayload expected role other = decodeFlat expected role other) :
    content.ReadsAlike texts where
  node _ _ found := absurd found (noNode _)
  payload settled reordered found := by
    rw [areFlat _ (.inl rfl)] at found
    rw [areFlat _ (.inr reordered)]
    exact decodeFlat_reordered reordered settled found

theorem readsAlike_enclosing (isList : Bool) : (Data.enclosing isList).ReadsAlike texts where
  node _ _ found := by simp [decode] at found
  payload {_ expected _ _} settled reordered found := by
    cases reordered
    rw [decodePayload] at found ⊢
    by_cases into : readsInto expected isList = true
    · rw [if_pos into] at found
      cases found
    · rw [if_neg into] at found ⊢
      exact decodeFlat_reordered (.enclosing isList) settled found

mutual
theorem readsAlike : (content : Data) → content.ReadsAlike texts
  | .map entries => readsAlike_map (entriesReadAlike entries)
  | .list items => readsAlike_list (allReadAlike items)
  | .shared label content => readsAlike_shared label (readsAlike content)
  | .enclosing isList => readsAlike_enclosing isList
  | .scalar _ | .set _ | .pair _ _ => by
      refine readsAlike_flat (by simp [decode]) fun other same expected role => ?_
      rcases same with rfl | reordered
      · simp only [decodePayload]
      · cases reordered
        simp only [decodePayload]
theorem allReadAlike : (items : List Data) → ∀ item ∈ items, item.ReadsAlike texts
  | [] => by simp
  | item :: items => by
      rw [List.forall_mem_cons]
      exact ⟨readsAlike item, allReadAlike items⟩
theorem entriesReadAlike : (entries : List (Scalar × Data)) →
    ∀ member ∈ entries, member.2.ReadsAlike texts
  | [] => by simp
  | (_, value) :: entries => by
      rw [List.forall_mem_cons]
      exact ⟨readsAlike value, entriesReadAlike entries⟩
end

end

end Node

/-- Texts of one value, in two orders, that stands for its text in a document. -/
def Data.Pairs (document : Data) (first second : String) : Prop :=
  ∃ value other, document.Spells value ∧ value.Reordered other ∧
    first = value.plainText ∧ second = other.plainText

namespace Node

/-- A document is read in one order of its members if and only if it is read in another. The nodes
are the same but for the order of members in plain data and in the texts of values that stand for
their texts. If none of these values holds a mapping with two members, nothing but the order in
plain data differs, and the nodes compare equal. -/
theorem decode_reordered {document other : Data} (same : document.Reordered other) :
    ((∃ node, decode document = .ok node) ↔ ∃ node, decode other = .ok node) ∧
      ∀ node again, decode document = .ok node → decode other = .ok again →
        node.Alike document.Pairs again ∧
        ((∀ value, document.Spells value → value.HasOneOrder) → node.Alike Eq again ∧
          (node.equals node = true → node.equals again = true)) := by
  have readAgain (texts : String → String → Prop) {first second : Data} {node : Node}
      (same : first.Reordered second)
      (settled : ∀ value, first.Spells value → value.Settles texts)
      (read : decode first = .ok node) :
      ∃ again, decode second = .ok again ∧ node.Alike texts again :=
    (readsAlike first).node settled same read
  have accepted {first second : Data} (same : first.Reordered second) :
      (∃ node, decode first = .ok node) → ∃ node, decode second = .ok node := by
    rintro ⟨node, read⟩
    obtain ⟨again, readSecond, -⟩ :=
      readAgain (fun _ _ => True) same (fun _ _ _ _ => trivial) read
    exact ⟨again, readSecond⟩
  refine ⟨⟨accepted same, accepted same.symm⟩, fun node again read readOther => ⟨?_, ?_⟩⟩
  · obtain ⟨_, readSecond, alike⟩ := readAgain document.Pairs same
      (fun value spells other moved => ⟨value, other, spells, moved, rfl, rfl⟩) read
    rwa [Except.ok.inj (readOther.symm.trans readSecond)]
  · intro oneOrder
    obtain ⟨_, readSecond, alike⟩ := readAgain Eq same
      (fun value spells other moved => by
        rw [moved.eq_of_hasOneOrder (oneOrder value spells)]) read
    rw [Except.ok.inj (readOther.symm.trans readSecond)]
    exact ⟨alike, alike.equals⟩

/-- A cfunc with a mapping in the list that one of its loose slots holds. -/
def looseDocument : Data :=
  .map [(.text "kind", .text "cfunc"),
    (.text "u1", .list [.map [(.int 1, .null), (.int 2, .null)]]), (.text "line", .int 3)]

/-- The same members the other way around. -/
def looseBackwards : Data :=
  .map [(.text "line", .int 3), (.text "u1", .list [.map [(.int 2, .null), (.int 1, .null)]]),
    (.text "kind", .text "cfunc")]

theorem reordered_looseBackwards : looseDocument.Reordered looseBackwards := by
  have inner : (Data.map [(.int 1, .null), (.int 2, .null)]).Reordered
      (.map [(.int 2, .null), (.int 1, .null)]) :=
    .map (by simp [Entries.Distinct, Scalar.equals, Scalar.asNumber?])
      (.cons _ (.scalar _) (.cons _ (.scalar _) .nil)) (.swap ..)
  exact .map (by simp [Entries.Distinct, Scalar.text_equals_text])
    (.cons _ (.scalar _) (.cons _ (.list (.cons inner .nil)) (.cons _ (.scalar _) .nil)))
    (List.reverse_perm _).symm

theorem not_spells_looseDocument (value : Data) : ¬looseDocument.Spells value := by
  intro spells
  cases spells with
  | @member _ kind role _ expected value _ named leads isMember spells =>
      have isCfunc : decodeKind (some (.text "cfunc")) = .ok (.known .cfunc) := rfl
      obtain rfl : Kind.known .cfunc = kind := Except.ok.inj (isCfunc.symm.trans named)
      have isOne : role = "kind" ∨ role = "line" ∨
          role = "u1" ∧ value = .list [.map [(.int 1, .null), (.int 2, .null)]] := by
        simp only [List.mem_cons, Prod.mk.injEq, Scalar.text.injEq, List.not_mem_nil,
          or_false] at isMember
        tauto
      rcases isOne with rfl | rfl | ⟨rfl, rfl⟩
      · cases leads
      · cases leads
      · cases leads
        cases spells with
        | node _ spells => cases spells

theorem decode_reordered_looseBackwards :
    looseDocument.Reordered looseBackwards ∧
      ∃ node again, decode looseDocument = .ok node ∧ decode looseBackwards = .ok again ∧
        node.Alike Eq again ∧ node.equals again = true := by
  obtain ⟨-, alike⟩ := decode_reordered reordered_looseBackwards
  obtain ⟨-, same⟩ := alike _ _ rfl rfl
  obtain ⟨alike, equal⟩ := same fun value spells => absurd spells (not_spells_looseDocument value)
  exact ⟨reordered_looseBackwards, _, _, rfl, rfl, alike, equal rfl⟩

def namedByMapping (name : Entries) : Data :=
  .map [(.text "kind", .text "lit"), (.text "lit", .map [(.text "sym", .map name)])]

/-- Not every document is read as the same node in every order. -/
theorem exists_reordered_not_alike : ¬∀ document other : Data, document.Reordered other →
    ((∃ node, decode document = .ok node) ↔ ∃ node, decode other = .ok node) ∧
      ∀ node again, decode document = .ok node → decode other = .ok again →
        node.Alike Eq again := by
  intro alike
  have inner : (Data.map [(.text "a", .int 1), (.text "b", .int 2)]).Reordered
      (.map [(.text "b", .int 2), (.text "a", .int 1)]) :=
    .map (by simp [Entries.Distinct, Scalar.text_equals_text])
      (.cons _ (.scalar _) (.cons _ (.scalar _) .nil)) (.swap ..)
  have same : (namedByMapping [(.text "a", .int 1), (.text "b", .int 2)]).Reordered
      (namedByMapping [(.text "b", .int 2), (.text "a", .int 1)]) :=
    .map (by simp [Entries.Distinct, Scalar.text_equals_text])
      (.cons _ (.scalar _) (.cons _ (.map (List.pairwise_singleton _ _)
        (.cons _ inner .nil) (.refl _)) .nil)) (.refl _)
  cases (alike _ _ same).2 _ _ rfl rfl with
  | mk _ _ _ first _ _ =>
      cases first with
      | symbol same => exact absurd same (by decide)

end Node

end NodeForms
