import NodeForms.Document.Fault
import NodeForms.Document.Order
import Mathlib.Data.List.Pairwise

/-!
# Keys of mappings

In a mapping that was read no two keys are equal, so each member is the one that its key leads to.
A text equals no other key but itself. Keys of one sort can be listed in order, keys of several
sorts cannot; unknown keys are refused with such a list, as far as there is one.
-/

namespace NodeForms

theorem Scalar.equals_text_iff {key : Scalar} {name : String} :
    key.equals (.text name) = true ↔ key = .text name := by
  cases key with
  | date year month day time =>
      cases time <;> simp [Scalar.equals, Scalar.asNumber?, Scalar.instant?]
  | _ => simp [Scalar.equals, Scalar.asNumber?, Scalar.instant?]

def Entries.Distinct (entries : Entries) : Prop :=
  entries.Pairwise fun first second => first.1.equals second.1 = false

mutual
/-- A value in which no mapping has two equal keys, at any depth. -/
def Data.HasDistinctKeys : Data → Prop
  | .scalar _ | .set _ | .enclosing _ => True
  | .list items => Data.AllHaveDistinctKeys items
  | .map entries => Entries.Distinct entries ∧ Data.EntriesHaveDistinctKeys entries
  | .pair key value => key.HasDistinctKeys ∧ value.HasDistinctKeys
  | .shared _ content => content.HasDistinctKeys
/-- Elements in which no mapping has two equal keys. -/
def Data.AllHaveDistinctKeys : List Data → Prop
  | [] => True
  | item :: items => item.HasDistinctKeys ∧ Data.AllHaveDistinctKeys items
/-- Members in whose values no mapping has two equal keys. -/
def Data.EntriesHaveDistinctKeys : List (Scalar × Data) → Prop
  | [] => True
  | (_, value) :: entries => value.HasDistinctKeys ∧ Data.EntriesHaveDistinctKeys entries
end

namespace Entries

variable {entries : Entries} {name : String} {value : Data}

theorem mem_of_get? (found : entries.get? name = some value) :
    (Scalar.text name, value) ∈ entries := by
  induction entries with
  | nil => cases found
  | cons member entries inductionHypothesis =>
      obtain ⟨key, content⟩ := member
      rw [get?, find?] at found
      split at found
      case isTrue same =>
        obtain rfl := Option.some.inj found
        obtain rfl := Scalar.equals_text_iff.mp same
        exact List.mem_cons_self
      case isFalse =>
        have later : (Scalar.text name, value) ∈ entries := inductionHypothesis found
        exact List.mem_cons_of_mem _ later

theorem exists_get?_of_mem (member : Scalar.text name ∈ entries.keys) :
    ∃ value, entries.get? name = some value := by
  induction entries with
  | nil => cases member
  | cons first entries inductionHypothesis =>
      obtain ⟨key, content⟩ := first
      rw [get?, find?]
      by_cases same : key.equals (.text name) = true
      · exact ⟨content, if_pos same⟩
      · rw [if_neg same]
        rcases List.mem_cons.mp member with rfl | later
        · exact absurd (Scalar.equals_text_iff.mpr rfl) same
        · exact inductionHypothesis later

theorem get?_of_mem (distinct : entries.Distinct) (member : (Scalar.text name, value) ∈ entries) :
    entries.get? name = some value := by
  induction entries with
  | nil => cases member
  | cons first entries inductionHypothesis =>
      obtain ⟨key, content⟩ := first
      obtain ⟨differs, distinct⟩ := List.pairwise_cons.mp distinct
      rw [get?, find?]
      rcases List.mem_cons.mp member with same | later
      · cases same
        rw [if_pos (Scalar.equals_text_iff.mpr rfl)]
      · rw [if_neg (by simp [differs _ later])]
        exact inductionHypothesis distinct later

theorem insert_eq_append {entries : Entries} {key : Scalar} {value : Data}
    (isNew : ∀ entry ∈ entries, entry.1.equals key = false) :
    insert entries key value = entries ++ [(key, value)] := by
  induction entries with
  | nil => rfl
  | cons entry entries inductionHypothesis =>
      rw [List.forall_mem_cons] at isNew
      rw [insert, if_neg (by simp [isNew.1]), inductionHypothesis isNew.2]
      rfl

theorem ofList_of_distinct {entries : Entries} (distinct : entries.Distinct) :
    ofList entries = entries := by
  have placed (before after : Entries) (distinct : Distinct (before ++ after)) :
      after.foldl (fun entries member => insert entries member.1 member.2) before =
        before ++ after := by
    induction after generalizing before with
    | nil => exact (List.append_nil _).symm
    | cons member after inductionHypothesis =>
        have isNew : ∀ earlier ∈ before, earlier.1.equals member.1 = false :=
          fun earlier isMember =>
            (List.pairwise_append.mp distinct).2.2 earlier isMember _ List.mem_cons_self
        have moved : before ++ member :: after = before ++ [member] ++ after := by simp
        rw [moved] at distinct ⊢
        rw [List.foldl_cons, insert_eq_append isNew]
        exact inductionHypothesis (before ++ [member]) distinct
  exact placed [] entries distinct

theorem mem_insert {entries : Entries} {key : Scalar} {value : Data} {entry : Scalar × Data}
    (isMember : entry ∈ insert entries key value) :
    entry ∈ entries ∨ entry.2 = value ∧ (entry.1 = key ∨ ∃ old ∈ entries, entry.1 = old.1) := by
  induction entries with
  | nil =>
      obtain rfl := List.mem_singleton.mp isMember
      exact .inr ⟨rfl, .inl rfl⟩
  | cons first entries inductionHypothesis =>
      obtain ⟨name, old⟩ := first
      rw [insert] at isMember
      split at isMember
      case isTrue =>
        rcases List.mem_cons.mp isMember with rfl | later
        · exact .inr ⟨rfl, .inr ⟨_, List.mem_cons_self, rfl⟩⟩
        · exact .inl (List.mem_cons_of_mem _ later)
      case isFalse =>
        rcases List.mem_cons.mp isMember with rfl | later
        · exact .inl List.mem_cons_self
        · rcases inductionHypothesis later with isOld | ⟨same, isKey | ⟨old, isOld, sameKey⟩⟩
          · exact .inl (List.mem_cons_of_mem _ isOld)
          · exact .inr ⟨same, .inl isKey⟩
          · exact .inr ⟨same, .inr ⟨old, List.mem_cons_of_mem _ isOld, sameKey⟩⟩

theorem Distinct.insert {entries : Entries} (distinct : entries.Distinct) (key : Scalar)
    (value : Data) : (entries.insert key value).Distinct := by
  induction entries with
  | nil => exact List.pairwise_singleton _ _
  | cons first entries inductionHypothesis =>
      obtain ⟨name, old⟩ := first
      obtain ⟨differs, distinct⟩ := List.pairwise_cons.mp distinct
      rw [Entries.insert]
      split
      case isTrue => exact List.pairwise_cons.mpr ⟨differs, distinct⟩
      case isFalse noKey =>
        refine List.pairwise_cons.mpr ⟨fun entry isMember => ?_, inductionHypothesis distinct⟩
        rcases mem_insert isMember with isOld | ⟨-, isKey | ⟨old, isOld, sameKey⟩⟩
        · exact differs entry isOld
        · rw [isKey]
          simpa using noKey
        · rw [sameKey]
          exact differs old isOld

theorem distinct_ofList (members : List (Scalar × Data)) : (ofList members).Distinct :=
  List.foldlRecOn members _ List.Pairwise.nil fun _ distinct member _ =>
    distinct.insert member.1 member.2

theorem forall_mem_ofList (ofKey : Scalar → Prop) (ofValue : Data → Prop)
    {members : List (Scalar × Data)} (all : ∀ member ∈ members, ofKey member.1 ∧ ofValue member.2) :
    ∀ entry ∈ ofList members, ofKey entry.1 ∧ ofValue entry.2 := by
  refine List.foldlRecOn (motive := fun entries : Entries =>
      ∀ entry ∈ entries, ofKey entry.1 ∧ ofValue entry.2) members _ (by simp)
    fun entries earlier member isMember entry isEntry => ?_
  obtain ⟨key, value⟩ := all member isMember
  rcases mem_insert isEntry with isOld | ⟨sameValue, isKey | ⟨old, isOld, sameKey⟩⟩
  · exact earlier entry isOld
  · exact ⟨isKey ▸ key, sameValue ▸ value⟩
  · exact ⟨sameKey ▸ (earlier old isOld).1, sameValue ▸ value⟩

end Entries

/-- Keys that cannot be listed in order: more than one, and either of several sorts or of the sort
that has no order. -/
def Scalar.Unsortable (keys : List Scalar) : Prop :=
  1 < keys.length ∧ ((∃ key ∈ keys, key.orderClass = .absent) ∨
    ∃ first ∈ keys, ∃ second ∈ keys, first.orderClass ≠ second.orderClass)

theorem Scalar.sorted?_eq_none_iff {keys : List Scalar} :
    sorted? keys = none ↔ Unsortable keys := by
  match keys with
  | [] => simp [sorted?, Unsortable]
  | [key] => simp [sorted?, Unsortable]
  | first :: second :: rest =>
      simp only [sorted?]
      constructor
      · intro unordered
        split at unordered
        case isTrue => cases unordered
        case isFalse noOrder =>
          refine ⟨by simp, ?_⟩
          by_cases isAbsent : first.orderClass = .absent
          · exact .inl ⟨first, by simp, isAbsent⟩
          · have differs : ∃ key ∈ second :: rest, key.orderClass ≠ first.orderClass := by
              by_contra alike
              refine noOrder ⟨isAbsent, List.all_eq_true.mpr fun key member => ?_⟩
              by_contra differs
              exact alike ⟨key, member, by simpa using differs⟩
            obtain ⟨key, member, differs⟩ := differs
            exact .inr ⟨key, List.mem_cons_of_mem _ member, first, by simp, differs⟩
      · rintro ⟨-, mixed⟩
        refine if_neg fun ⟨notAbsent, alike⟩ => ?_
        have same : ∀ key ∈ first :: second :: rest, key.orderClass = first.orderClass := by
          simpa using alike
        rcases mixed with ⟨key, member, isAbsent⟩ | ⟨one, isOne, other, isOther, differs⟩
        · exact notAbsent (same key member ▸ isAbsent)
        · exact differs ((same one isOne).trans (same other isOther).symm)

def Entries.unknownKeys (names : List String) (entries : Entries) : List Scalar :=
  entries.keys.filter fun key => !names.any fun name => key == .text name

theorem Entries.unknownKeys_eq_nil {names : List String} {entries : Entries} :
    entries.unknownKeys names = [] ↔ ∀ key ∈ entries.keys, ∃ name ∈ names, key = .text name := by
  simp [Entries.unknownKeys, List.filter_eq_nil_iff]

/-- Refuse keys, if there are any, with a fault that lists them in order. -/
def refuseKeys (fault : String → DocumentFault) (keys : List Scalar) : Except DecodeError Unit :=
  if keys.isEmpty then .ok ()
  else
    match listedKeys keys with
    | .error error => .error error
    | .ok shown => .error (.document (fault shown))

theorem listedKeys_eq_error_iff {keys : List Scalar} {error : DecodeError} :
    listedKeys keys = .error error ↔ error = .keysWithoutOrder ∧ Scalar.Unsortable keys := by
  rw [← Scalar.sorted?_eq_none_iff, listedKeys]
  cases Scalar.sorted? keys <;> simp [eq_comm]

theorem refuseKeys_eq_ok_iff {fault : String → DocumentFault} {keys : List Scalar} :
    refuseKeys fault keys = .ok () ↔ keys = [] := by
  unfold refuseKeys
  cases keys with
  | nil => simp
  | cons key keys =>
      simp only [List.isEmpty_cons, Bool.false_eq_true, if_false]
      split <;> simp

theorem refuseKeys_of_unsortable {fault : String → DocumentFault} {keys : List Scalar}
    (isUnsortable : Scalar.Unsortable keys) : refuseKeys fault keys = .error .keysWithoutOrder := by
  have nonempty : keys.isEmpty = false := by
    cases keys with
    | nil => simp [Scalar.Unsortable] at isUnsortable
    | cons key keys => rfl
  rw [refuseKeys, nonempty, listedKeys_eq_error_iff.mpr ⟨rfl, isUnsortable⟩]
  rfl

end NodeForms
