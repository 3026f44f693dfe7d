import NodeForms.Proofs.Document.Keys
import Mathlib.Data.List.Perm.Basic

/-!
# Documents in another order

Two documents can differ in nothing but the order in which the members of their mappings were
written, at any depth. A key then leads to the same value in both, but for the order in that value.
Comparison does not tell such documents apart, while the text of a mapping shows the order of its
members. Where no mapping has two members there is only one order.
-/

namespace NodeForms

mutual
/-- Values that are the same but for the order of the members in their mappings, each of which has
distinct keys. -/
inductive Data.Reordered : Data → Data → Prop
  | scalar (value : Scalar) : Data.Reordered (.scalar value) (.scalar value)
  | list {items others : List Data} (same : Data.AllReordered items others) :
      Data.Reordered (.list items) (.list others)
  | map {entries arranged others : Entries} (distinct : entries.Distinct)
      (same : Data.EntriesReordered entries arranged) (order : arranged.Perm others) :
      Data.Reordered (.map entries) (.map others)
  | set (members : List Scalar) : Data.Reordered (.set members) (.set members)
  | pair {key value otherKey otherValue : Data} (sameKey : key.Reordered otherKey)
      (sameValue : value.Reordered otherValue) :
      Data.Reordered (.pair key value) (.pair otherKey otherValue)
  | shared (label : Nat) {content other : Data} (same : content.Reordered other) :
      Data.Reordered (.shared label content) (.shared label other)
  | enclosing (isList : Bool) : Data.Reordered (.enclosing isList) (.enclosing isList)
/-- Elements that are the same but for the order of members in them. -/
inductive Data.AllReordered : List Data → List Data → Prop
  | nil : Data.AllReordered [] []
  | cons {item other : Data} {items others : List Data} (first : item.Reordered other)
      (rest : Data.AllReordered items others) : Data.AllReordered (item :: items) (other :: others)
/-- Members that are the same but for the order of members in their values. -/
inductive Data.EntriesReordered : Entries → Entries → Prop
  | nil : Data.EntriesReordered [] []
  | cons (key : Scalar) {value other : Data} {entries others : Entries}
      (first : value.Reordered other) (rest : Data.EntriesReordered entries others) :
      Data.EntriesReordered ((key, value) :: entries) ((key, other) :: others)
end

theorem Scalar.equals_comm (first second : Scalar) : first.equals second = second.equals first := by
  have sameScalar : (first == second) = (second == first) := BEq.comm
  unfold equals
  rw [sameScalar]
  rcases first.asNumber? with _ | number | number <;>
    rcases second.asNumber? with _ | other | other <;>
    first
    | simp [BEq.comm, Binary64.equals, Bool.and_comm]; done
    | cases first.instant? <;> cases second.instant? <;> simp [BEq.comm]

namespace Entries

variable {entries others : Entries}

theorem Distinct.perm (distinct : entries.Distinct) (order : entries.Perm others) :
    others.Distinct :=
  order.pairwise distinct fun unequal => by rwa [Scalar.equals_comm]

end Entries

namespace Data

theorem EntriesReordered.forall₂ : ∀ {entries arranged : Entries},
    EntriesReordered entries arranged →
      List.Forall₂ (fun entry other => entry.1 = other.1 ∧ entry.2.Reordered other.2)
        entries arranged
  | _, _, .nil => .nil
  | _, _, .cons _ first rest => .cons ⟨rfl, first⟩ rest.forall₂

theorem EntriesReordered.of_forall₂ {entries arranged : Entries}
    (same : List.Forall₂ (fun entry other => entry.1 = other.1 ∧ entry.2.Reordered other.2)
      entries arranged) : EntriesReordered entries arranged := by
  induction same with
  | nil => exact .nil
  | @cons entry other entries others first rest inductionHypothesis =>
      obtain ⟨key, value⟩ := entry
      obtain ⟨_, moved⟩ := other
      obtain ⟨rfl, first⟩ := first
      exact .cons key first inductionHypothesis

theorem EntriesReordered.keys_eq : ∀ {entries arranged : Entries},
    EntriesReordered entries arranged → entries.keys = arranged.keys
  | _, _, .nil => rfl
  | _, _, .cons key _ rest => congrArg (key :: ·) rest.keys_eq

theorem EntriesReordered.distinct {entries arranged : Entries}
    (same : EntriesReordered entries arranged) (distinct : entries.Distinct) :
    arranged.Distinct := by
  have ofKeys : entries.keys.Pairwise fun first second => first.equals second = false :=
    List.pairwise_map.mpr distinct
  rw [same.keys_eq] at ofKeys
  exact List.pairwise_map.mp ofKeys

mutual
theorem Reordered.symm : ∀ {content other : Data}, content.Reordered other →
    other.Reordered content
  | _, _, .scalar value => .scalar value
  | _, _, .list same => .list same.symm
  | _, _, .map distinct same order => by
      obtain ⟨entries, related, backInOrder⟩ :=
        List.perm_comp_forall₂ order.symm same.symm.forall₂
      exact .map ((same.distinct distinct).perm order) (.of_forall₂ related) backInOrder
  | _, _, .set members => .set members
  | _, _, .pair sameKey sameValue => .pair sameKey.symm sameValue.symm
  | _, _, .shared label same => .shared label same.symm
  | _, _, .enclosing isList => .enclosing isList
theorem AllReordered.symm : ∀ {items others : List Data}, AllReordered items others →
    AllReordered others items
  | _, _, .nil => .nil
  | _, _, .cons first rest => .cons first.symm rest.symm
theorem EntriesReordered.symm : ∀ {entries arranged : Entries},
    EntriesReordered entries arranged → EntriesReordered arranged entries
  | _, _, .nil => .nil
  | _, _, .cons key first rest => .cons key first.symm rest.symm
end

theorem EntriesReordered.exists_arranged : ∀ {entries arranged : Entries},
    EntriesReordered entries arranged → ∀ {key : Scalar} {value : Data}, (key, value) ∈ entries →
      ∃ other, (key, other) ∈ arranged ∧ value.Reordered other
  | _, _, .cons name first rest, key, value, isMember => by
      rcases List.mem_cons.mp isMember with same | later
      · cases same
        exact ⟨_, List.mem_cons_self, first⟩
      · obtain ⟨other, isOther, moved⟩ := rest.exists_arranged later
        exact ⟨other, List.mem_cons_of_mem _ isOther, moved⟩

section

variable {entries arranged others : Entries} (same : EntriesReordered entries arranged)
  (order : arranged.Perm others)

include same order

theorem EntriesReordered.keys_perm : entries.keys.Perm others.keys := by
  rw [same.keys_eq]
  exact order.map Prod.fst

theorem EntriesReordered.exists_other {key : Scalar} {value : Data}
    (isMember : (key, value) ∈ entries) :
    ∃ other, (key, other) ∈ others ∧ value.Reordered other := by
  obtain ⟨other, isArranged, moved⟩ := same.exists_arranged isMember
  exact ⟨other, order.mem_iff.mp isArranged, moved⟩

theorem EntriesReordered.exists_value {key : Scalar} {other : Data}
    (isMember : (key, other) ∈ others) :
    ∃ value, (key, value) ∈ entries ∧ value.Reordered other := by
  obtain ⟨value, isValue, moved⟩ := same.symm.exists_arranged (order.mem_iff.mpr isMember)
  exact ⟨value, isValue, moved.symm⟩

theorem EntriesReordered.exists_get? (distinct : entries.Distinct) {name : String} {value : Data}
    (found : entries.get? name = some value) :
    ∃ other, others.get? name = some other ∧ value.Reordered other := by
  obtain ⟨other, isMember, moved⟩ := same.exists_other order (Entries.mem_of_get? found)
  exact ⟨other, Entries.get?_of_mem ((same.distinct distinct).perm order) isMember, moved⟩

/-- A name leads to the same value in both orders, but for the order in that value. -/
theorem EntriesReordered.get? (distinct : entries.Distinct) (name : String) :
    Option.Rel Reordered (entries.get? name) (others.get? name) := by
  cases found : entries.get? name with
  | some value =>
      obtain ⟨other, otherFound, moved⟩ := same.exists_get? order distinct found
      rw [otherFound]
      exact .some moved
  | none =>
      cases otherFound : others.get? name with
      | none => exact .none
      | some other =>
          obtain ⟨value, isMember, -⟩ := same.exists_value order (Entries.mem_of_get? otherFound)
          rw [Entries.get?_of_mem distinct isMember] at found
          cases found

end

theorem Reordered.bare : ∀ {content other : Data}, content.Reordered other →
    content.bare.Reordered other.bare
  | _, _, .shared _ same => same.bare
  | _, _, .scalar value => .scalar value
  | _, _, .list same => .list same
  | _, _, .map distinct same order => .map distinct same order
  | _, _, .set members => .set members
  | _, _, .pair sameKey sameValue => .pair sameKey sameValue
  | _, _, .enclosing isList => .enclosing isList

theorem Reordered.isNull_eq : ∀ {content other : Data}, content.Reordered other →
    content.isNull = other.isNull
  | _, _, .shared _ same => same.isNull_eq
  | _, _, .scalar _ | _, _, .list _ | _, _, .map _ _ _ | _, _, .set _ | _, _, .pair _ _
  | _, _, .enclosing _ => rfl

theorem Reordered.exists_only {key : Scalar} {value other : Data}
    (same : (Data.map [(key, value)]).Reordered other) :
    ∃ moved, other = .map [(key, moved)] ∧ value.Reordered moved := by
  cases same with
  | map _ same order =>
      cases same with
      | @cons _ _ moved _ _ first rest =>
          cases rest
          exact ⟨moved, by rw [List.perm_singleton.mp order.symm], first⟩

mutual
/-- A value in which no mapping has two members, at any depth. -/
def HasOneOrder : Data → Prop
  | .scalar _ | .set _ | .enclosing _ => True
  | .list items => AllHaveOneOrder items
  | .map entries => entries.length ≤ 1 ∧ EntriesHaveOneOrder entries
  | .pair key value => key.HasOneOrder ∧ value.HasOneOrder
  | .shared _ content => content.HasOneOrder
def AllHaveOneOrder : List Data → Prop
  | [] => True
  | item :: items => item.HasOneOrder ∧ AllHaveOneOrder items
/-- Members in whose values no mapping has two members. -/
def EntriesHaveOneOrder : List (Scalar × Data) → Prop
  | [] => True
  | (_, value) :: entries => value.HasOneOrder ∧ EntriesHaveOneOrder entries
end

theorem eq_of_perm_of_length_le_one {entries others : Entries} (order : entries.Perm others)
    (few : entries.length ≤ 1) : entries = others := by
  match entries, few with
  | [], _ => exact order.nil_eq
  | [entry], _ => exact (List.perm_singleton.mp order.symm).symm

mutual
/-- A value in which no mapping has two members is only in its own order. -/
theorem Reordered.eq_of_hasOneOrder : ∀ {content other : Data}, content.Reordered other →
    content.HasOneOrder → content = other
  | _, _, .scalar _, _ | _, _, .set _, _ | _, _, .enclosing _, _ => rfl
  | _, _, .list same, oneOrder => by
      rw [HasOneOrder] at oneOrder
      rw [same.eq_of_haveOneOrder oneOrder]
  | _, _, .map distinct same order, oneOrder => by
      rw [HasOneOrder] at oneOrder
      obtain rfl := same.eq_of_haveOneOrder oneOrder.2
      rw [eq_of_perm_of_length_le_one order oneOrder.1]
  | _, _, .pair sameKey sameValue, oneOrder => by
      rw [HasOneOrder] at oneOrder
      rw [sameKey.eq_of_hasOneOrder oneOrder.1, sameValue.eq_of_hasOneOrder oneOrder.2]
  | _, _, .shared label same, oneOrder => by
      rw [HasOneOrder] at oneOrder
      rw [same.eq_of_hasOneOrder oneOrder]
theorem AllReordered.eq_of_haveOneOrder : ∀ {items others : List Data},
    AllReordered items others → AllHaveOneOrder items → items = others
  | _, _, .nil, _ => rfl
  | _, _, .cons first rest, oneOrder => by
      rw [AllHaveOneOrder] at oneOrder
      rw [first.eq_of_hasOneOrder oneOrder.1, rest.eq_of_haveOneOrder oneOrder.2]
theorem EntriesReordered.eq_of_haveOneOrder : ∀ {entries arranged : Entries},
    EntriesReordered entries arranged → EntriesHaveOneOrder entries → entries = arranged
  | _, _, .nil, _ => rfl
  | _, _, .cons key first rest, oneOrder => by
      rw [EntriesHaveOneOrder] at oneOrder
      rw [first.eq_of_hasOneOrder oneOrder.1, rest.eq_of_haveOneOrder oneOrder.2]
end

theorem hasOneOrder_texts (names : List String) : (Data.list (names.map .text)).HasOneOrder := by
  rw [HasOneOrder]
  induction names with
  | nil => trivial
  | cons name names inductionHypothesis => exact ⟨trivial, inductionHypothesis⟩

theorem equals_shared (label : Nat) (other : Data) : (content : Data) →
    content.equals (.shared label other) = content.equals other
  | .shared _ content => by simp only [equals, equals_shared label other content]
  | .scalar _ | .list _ | .map _ | .set _ | .pair _ _ | .enclosing _ => by
      simp only [equals, Data.bare]

theorem entriesEqual_iff {entries others : Entries} :
    entriesEqual entries others = true ↔
      ∀ entry ∈ entries, ∃ other, others.find? entry.1 = some other ∧
        entry.2.equals other = true := by
  induction entries with
  | nil => simp [entriesEqual]
  | cons entry entries inductionHypothesis =>
      obtain ⟨key, value⟩ := entry
      rw [entriesEqual, Bool.and_eq_true, inductionHypothesis, List.forall_mem_cons]
      refine and_congr_left fun _ => ?_
      cases others.find? key <;> simp

end Data

namespace Entries

variable {entries : Entries} {key : Scalar} {value : Data}

theorem exists_mem_of_find? (found : entries.find? key = some value) :
    ∃ name, (name, value) ∈ entries ∧ name.equals key = true := by
  induction entries with
  | nil => cases found
  | cons entry entries inductionHypothesis =>
      obtain ⟨name, old⟩ := entry
      rw [find?] at found
      split at found
      case isTrue same =>
        obtain rfl := Option.some.inj found
        exact ⟨name, List.mem_cons_self, same⟩
      case isFalse =>
        obtain ⟨name, isMember, same⟩ := inductionHypothesis found
        exact ⟨name, List.mem_cons_of_mem _ isMember, same⟩

theorem Distinct.eq_of_equals (distinct : entries.Distinct) {first second : Scalar × Data}
    (isFirst : first ∈ entries) (isSecond : second ∈ entries)
    (same : first.1.equals second.1 = true) : first = second := by
  by_contra different
  have symmetric : Std.Symm fun first second : Scalar × Data =>
      first.1.equals second.1 = false :=
    ⟨fun _ _ unequal => (Scalar.equals_comm _ _).trans unequal⟩
  have unequal := distinct.forall isFirst isSecond different
  rw [same] at unequal
  cases unequal

theorem Distinct.find?_of_mem (distinct : entries.Distinct) (isMember : (key, value) ∈ entries)
    (equalsItself : key.equals key = true) : entries.find? key = some value := by
  induction entries with
  | nil => cases isMember
  | cons entry entries inductionHypothesis =>
      obtain ⟨name, old⟩ := entry
      rw [find?]
      rcases List.mem_cons.mp isMember with same | later
      · cases same
        rw [if_pos equalsItself]
      · obtain ⟨differs, distinct⟩ := List.pairwise_cons.mp distinct
        rw [if_neg (by simp [differs _ later]), inductionHypothesis distinct later]

end Entries

namespace Data

theorem equals_of_entriesEqual {entries : Entries} (distinct : entries.Distinct)
    (equalThemselves : entriesEqual entries entries = true) {key : Scalar} {value : Data}
    (isMember : (key, value) ∈ entries) : key.equals key = true ∧ value.equals value = true := by
  obtain ⟨found, leads, equal⟩ := entriesEqual_iff.mp equalThemselves _ isMember
  obtain ⟨name, isFound, sameKey⟩ := Entries.exists_mem_of_find? leads
  have one := distinct.eq_of_equals isFound isMember sameKey
  cases one
  exact ⟨sameKey, equal⟩

mutual
/-- A value that equals itself equals what it is in another order. -/
theorem Reordered.equals : ∀ {content other : Data}, content.Reordered other →
    content.equals content = true → content.equals other = true
  | _, _, .scalar _, equalsItself | _, _, .set _, equalsItself
  | _, _, .enclosing _, equalsItself => equalsItself
  | _, _, .list same, equalsItself => by
      simp only [Data.equals, Data.bare] at equalsItself ⊢
      exact same.equals equalsItself
  | _, _, .map distinct same order, equalsItself => by
      simp only [Data.equals, Data.bare, Bool.and_eq_true, beq_iff_eq] at equalsItself ⊢
      have otherDistinct := (same.distinct distinct).perm order
      refine ⟨?_, entriesEqual_iff.mpr fun entry isMember => ?_⟩
      · simpa [Entries.keys] using (same.keys_perm order).length_eq
      · obtain ⟨sameKey, sameValue⟩ := equals_of_entriesEqual distinct equalsItself.2 isMember
        obtain ⟨other, isArranged, equal⟩ := same.exists_equal isMember sameValue
        exact ⟨other, otherDistinct.find?_of_mem (order.mem_iff.mp isArranged) sameKey, equal⟩
  | _, _, .pair sameKey sameValue, equalsItself => by
      simp only [Data.equals, Data.bare, Bool.and_eq_true] at equalsItself ⊢
      exact ⟨sameKey.equals equalsItself.1, sameValue.equals equalsItself.2⟩
  | _, _, .shared label same, equalsItself => by
      rw [Data.equals, equals_shared] at equalsItself ⊢
      exact same.equals equalsItself
theorem AllReordered.equals : ∀ {items others : List Data}, AllReordered items others →
    listEquals items items = true → listEquals items others = true
  | _, _, .nil, _ => rfl
  | _, _, .cons first rest, equalThemselves => by
      rw [listEquals, Bool.and_eq_true] at equalThemselves ⊢
      exact ⟨first.equals equalThemselves.1, rest.equals equalThemselves.2⟩
theorem EntriesReordered.exists_equal : ∀ {entries arranged : Entries},
    EntriesReordered entries arranged → ∀ {key : Scalar} {value : Data}, (key, value) ∈ entries →
      value.equals value = true → ∃ other, (key, other) ∈ arranged ∧ value.equals other = true
  | _, _, .cons name first rest, key, value, isMember, equalsItself => by
      rcases List.mem_cons.mp isMember with same | later
      · cases same
        exact ⟨_, List.mem_cons_self, first.equals equalsItself⟩
      · obtain ⟨other, isOther, equal⟩ := rest.exists_equal later equalsItself
        exact ⟨other, List.mem_cons_of_mem _ isOther, equal⟩
end

end Data

end NodeForms
