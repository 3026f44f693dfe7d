import NodeForms.Proofs.Document.Reordered
import NodeForms.Proofs.Node.Format

/-!
# Nodes that are alike

The order in which the members of mappings were written can be seen in a node in two places: in
mappings that the node keeps as plain data, and in the texts of values that stand where a name does
and are no texts themselves. Nodes that differ in nothing else are alike, and nodes that differ in
plain data only compare equal.
-/

namespace NodeForms

mutual
/-- Nodes that are the same, but for the order of members in plain data and for texts that a
relation pairs. -/
inductive Node.Alike (texts : String → String → Prop) : Node → Node → Prop
  | mk (kind : Kind) (line : Int) (file : Option String) {u1 u2 u3 v1 v2 v3 : Value}
      (first : Value.Alike texts u1 v1) (second : Value.Alike texts u2 v2)
      (third : Value.Alike texts u3 v3) :
      Node.Alike texts ⟨kind, u1, u2, u3, line, file⟩ ⟨kind, v1, v2, v3, line, file⟩
/-- Payloads that are the same, but for the order of members in plain data and for paired texts. -/
inductive Value.Alike (texts : String → String → Prop) : Value → Value → Prop
  | data {content other : Data} (same : content.Reordered other) :
      Value.Alike texts (.data content) (.data other)
  | tuple {items others : List Value} (alike : Value.AllAlike texts items others) :
      Value.Alike texts (.tuple items) (.tuple others)
  | node {child other : Node} (alike : Node.Alike texts child other) :
      Value.Alike texts (.node child) (.node other)
  | symbol {name other : String} (paired : texts name other) :
      Value.Alike texts (.symbol name) (.symbol other)
  | regex {source other : String} (paired : texts source other) :
      Value.Alike texts (.regex source) (.regex other)
  | selector {attr operator otherAttr otherOperator : String} (ofAttr : texts attr otherAttr)
      (ofOperator : texts operator otherOperator) :
      Value.Alike texts (.selector attr operator) (.selector otherAttr otherOperator)
  | table (names : LocalTable) : Value.Alike texts (.table names) (.table names)
  | closure {params body otherParams otherBody : Value} {owner otherOwner : Option String}
      (ofParams : Value.Alike texts params otherParams) (ofBody : Value.Alike texts body otherBody)
      (ofOwner : Option.Rel texts owner otherOwner) :
      Value.Alike texts (.closure params body owner) (.closure otherParams otherBody otherOwner)
inductive Value.AllAlike (texts : String → String → Prop) : List Value → List Value → Prop
  | nil : Value.AllAlike texts [] []
  | cons {item other : Value} {items others : List Value} (first : Value.Alike texts item other)
      (rest : Value.AllAlike texts items others) :
      Value.AllAlike texts (item :: items) (other :: others)
end

mutual
/-- A value in a document that stands for its text when the document is read as a node. -/
inductive Data.Spells : Data → Data → Prop
  | member {entries : Entries} {kind : Kind} {role : String} {position : SlotPosition}
      {expected : Expected} {value spelled : Data}
      (named : Node.decodeKind (entries.get? "kind") = .ok kind)
      (leads : kind.layout.find? role = some (position, expected))
      (isMember : (.text role, value) ∈ entries) (spells : Expected.Spells expected value spelled) :
      Data.Spells (.map entries) spelled
  | shared (label : Nat) {content spelled : Data} (spells : Data.Spells content spelled) :
      Data.Spells (.shared label content) spelled
/-- A value that stands for its text when a payload is read as its slot expects it: the name of a
symbol, the source of a regular expression, a part of a selector, the owner of a closure, and those
in the nodes of the payload. -/
inductive Expected.Spells : Expected → Data → Data → Prop
  | node {expected : Expected} {value spelled : Data}
      (forNode : expected = .node ∨ expected = .anything) (spells : Data.Spells value spelled) :
      Expected.Spells expected value spelled
  | nodes {value item spelled : Data} {items : List Data} (isList : value.bare = .list items)
      (isItem : item ∈ items) (spells : Data.Spells item spelled) :
      Expected.Spells .nodes value spelled
  | symbol {value name : Data} (only : value.bare = .map [(.text "sym", name)]) :
      Expected.Spells .literal value name
  | regex {value source : Data} (only : value.bare = .map [(.text "regex", source)]) :
      Expected.Spells .literal value source
  | selector {value spelled : Data} {entries : Entries} {name : String}
      (isMap : value.bare = .map entries) (isPart : name ∈ ["attr", "operator"])
      (leads : entries.get? name = some spelled) : Expected.Spells .selector value spelled
  | owner {value owner : Data} {entries : Entries} (isMap : value.bare = .map entries)
      (leads : entries.get? "owner" = some owner) : Expected.Spells .closure value owner
  | side {value side spelled : Data} {entries : Entries} {name : String}
      (isMap : value.bare = .map entries) (isSide : name ∈ ["params", "body"])
      (leads : entries.get? name = some side) (spells : Data.Spells side spelled) :
      Expected.Spells .closure value spelled
end

theorem Expected.Spells.shared {expected : Expected} {content spelled : Data} (label : Nat)
    (spells : expected.Spells content spelled) :
    expected.Spells (.shared label content) spelled := by
  cases spells with
  | node forNode spells => exact .node forNode (.shared label spells)
  | nodes isList isItem spells => exact .nodes isList isItem spells
  | symbol only => exact .symbol only
  | regex only => exact .regex only
  | selector isMap isPart leads => exact .selector isMap isPart leads
  | owner isMap leads => exact .owner isMap leads
  | side isMap isSide leads spells => exact .side isMap isSide leads spells

/-- A value the text of which is paired with its text in every other order. -/
def Data.Settles (texts : String → String → Prop) (value : Data) : Prop :=
  ∀ other, value.Reordered other → texts value.plainText other.plainText

section

variable {texts : String → String → Prop} {value other : Value}

theorem Value.Alike.null : Value.null.Alike texts .null := .data (.scalar .null)

theorem Value.Alike.labelled (label : Nat) (alike : value.Alike texts other) :
    (Node.labelled label value).Alike texts (Node.labelled label other) := by
  cases alike with
  | data same =>
      rw [Node.labelled, Node.labelled, same.isNull_eq]
      split
      · exact .null
      · exact .data (.shared label same)
  | tuple alike => exact .tuple alike
  | node alike => exact .node alike
  | symbol paired => exact .symbol paired
  | regex paired => exact .regex paired
  | selector ofAttr ofOperator => exact .selector ofAttr ofOperator
  | table names => exact .table names
  | closure ofParams ofBody ofOwner => exact .closure ofParams ofBody ofOwner

theorem Value.Alike.isNull_eq (alike : value.Alike texts other) : value.isNull = other.isNull := by
  cases alike with
  | data same => exact same.isNull_eq
  | _ => rfl

theorem Value.AllAlike.all_node? : ∀ {items others : List Value}, AllAlike texts items others →
    (items.all fun item => item.node?.isSome) = others.all fun item => item.node?.isSome
  | _, _, .nil => rfl
  | _, _, .cons first rest => by
      rw [List.all_cons, List.all_cons, rest.all_node?]
      congr 1
      cases first <;> rfl

theorem Value.Alike.admits_eq (expected : Expected) (alike : value.Alike texts other) :
    expected.admits value = expected.admits other := by
  unfold Expected.admits
  rw [alike.isNull_eq]
  congr 1
  cases alike with
  | data same => cases expected <;> cases same <;> rfl
  | tuple alike => cases expected <;> first | rfl | exact alike.all_node?
  | _ => cases expected <;> rfl

end

mutual
/-- A node that equals itself equals every node that differs in the order of plain data only. -/
theorem Node.Alike.equals : ∀ {node other : Node}, Node.Alike Eq node other →
    node.equals node = true → node.equals other = true
  | _, _, .mk _ _ _ first second third, equalsItself => by
      simp only [Node.equals, Bool.and_eq_true] at equalsItself ⊢
      obtain ⟨⟨⟨⟨⟨ofKind, ofFirst⟩, ofSecond⟩, ofThird⟩, ofLine⟩, ofFile⟩ := equalsItself
      exact ⟨⟨⟨⟨⟨ofKind, first.equals ofFirst⟩, second.equals ofSecond⟩, third.equals ofThird⟩,
        ofLine⟩, ofFile⟩
theorem Value.Alike.equals : ∀ {value other : Value}, Value.Alike Eq value other →
    value.equals value = true → value.equals other = true
  | _, _, .data same, equalsItself => by
      rw [Value.equals] at equalsItself ⊢
      exact same.equals equalsItself
  | _, _, .tuple alike, equalsItself => by
      rw [Value.equals] at equalsItself ⊢
      exact alike.equals equalsItself
  | _, _, .node alike, equalsItself => by
      rw [Value.equals] at equalsItself ⊢
      exact alike.equals equalsItself
  | _, _, .symbol rfl, equalsItself | _, _, .regex rfl, equalsItself
  | _, _, .selector rfl rfl, equalsItself | _, _, .table _, equalsItself => equalsItself
  | _, _, .closure ofParams ofBody ofOwner, equalsItself => by
      simp only [Value.equals, Bool.and_eq_true] at equalsItself ⊢
      refine ⟨⟨ofParams.equals equalsItself.1.1, ofBody.equals equalsItself.1.2⟩, ?_⟩
      cases ofOwner with
      | none => rfl
      | some same => simp [same]
theorem Value.AllAlike.equals : ∀ {items others : List Value}, Value.AllAlike Eq items others →
    Value.listEquals items items = true → Value.listEquals items others = true
  | _, _, .nil, _ => rfl
  | _, _, .cons first rest, equalThemselves => by
      rw [Value.listEquals, Bool.and_eq_true] at equalThemselves ⊢
      exact ⟨first.equals equalThemselves.1, rest.equals equalThemselves.2⟩
end

end NodeForms
