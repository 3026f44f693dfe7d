import NodeForms.Proofs.Node.Refusals
import NodeForms.Registry.Decode

/-!
# Refused runtime documents

A runtime document that cannot be read is refused with a fault of the document, as the method
bodies in it are. The way out is the same one: a message lists the unknown keys of a type.
-/

namespace NodeForms

theorem Data.bare_isFinite : (content : Data) → content.IsFinite → content.bare.IsFinite
  | .shared _ content, finite => bare_isFinite content finite
  | .scalar _, finite | .list _, finite | .map _, finite | .set _, finite | .pair _ _, finite
  | .enclosing _, finite => finite

theorem Data.isFinite_of_mem_entries {entries : Entries} {key : Scalar} {value : Data}
    (finite : EntriesAreFinite entries) (isMember : (key, value) ∈ entries) : value.IsFinite := by
  induction entries with
  | nil => cases isMember
  | cons first entries inductionHypothesis =>
      rcases List.mem_cons.mp isMember with rfl | later
      · exact finite.1
      · exact inductionHypothesis finite.2 later

namespace HostType

/-- A type entry whose unknown keys cannot be listed in order, or with a method body in which
a closure mapping has such keys. -/
inductive HoldsUnsortable : Data → Prop
  | keys {item : Data} {entries : Entries} (isMap : item.bare = .map entries)
      (unsortable : Scalar.Unsortable (entries.unknownKeys keyNames)) : HoldsUnsortable item
  | body {item value body : Data} {entries methods : Entries} {key : Scalar}
      (isMap : item.bare = .map entries) (leads : entries.get? "methods" = some value)
      (areMethods : value.bare = .map methods) (isMember : (key, body) ∈ methods)
      (holds : body.HoldsUnsortable) : HoldsUnsortable item

variable {unsortable : Prop}

theorem checkKeys_eq (position : Nat) (entries : Entries) :
    checkKeys position entries =
      refuseKeys (.typeKeys position) (entries.unknownKeys keyNames) := rfl

theorem decodeMethods_reports (type : HostType) (methods : Entries)
    (finite : Data.EntriesAreFinite methods) :
    Reports (∃ key body, (key, body) ∈ methods ∧ body.HoldsUnsortable)
      (decodeMethods type methods) := by
  induction methods generalizing type with
  | nil => exact .ok
  | cons method methods inductionHypothesis =>
      obtain ⟨key, body⟩ := method
      have ofBody := Node.decode_reports body finite.1
      rw [decodeMethods]
      cases read : Node.decode body with
      | error error =>
          rw [read] at ofBody
          cases error with
          | document fault => exact .document
          | keysWithoutOrder => exact .error ⟨key, body, List.mem_cons_self, ofBody⟩
          | value fault => exact ofBody.elim
      | ok node =>
          refine (inductionHypothesis _ finite.2).mono ?_
          rintro ⟨other, later, isMember, holds⟩
          exact ⟨other, later, List.mem_cons_of_mem _ isMember, holds⟩

theorem methodEntries_reports (name : String) (value : Option Data) :
    Reports unsortable (methodEntries name value) := by
  unfold methodEntries
  repeat' split
  all_goals trivial

theorem methodEntries_eq_ok {name : String} {value : Option Data} {methods : Entries}
    (found : methodEntries name value = .ok methods) :
    methods = [] ∨ ∃ content, value = some content ∧ content.bare = .map methods := by
  unfold methodEntries at found
  split at found
  · exact .inl (Except.ok.inj found).symm
  · rename_i content
    split at found
    · rename_i entries isMap
      obtain rfl := Except.ok.inj found
      exact .inr ⟨content, rfl, isMap⟩
    · split at found
      · cases found
      · exact .inl (Except.ok.inj found).symm

theorem decodeEntries_reports (position serial : Nat) {item : Data} {entries : Entries}
    (isMap : item.bare = .map entries) (finite : Data.EntriesAreFinite entries) :
    Reports (HoldsUnsortable item) (decodeEntries position serial entries) := by
  have ofName : Reports (HoldsUnsortable item) (decodeName position (entries.get? "name")) := by
    unfold decodeName
    repeat' split
    all_goals trivial
  have ofSuperclass (name : String) :
      Reports (HoldsUnsortable item) (decodeSuperclass name (entries.get? "superclass")) := by
    unfold decodeSuperclass
    repeat' split
    all_goals trivial
  have ofMethods (type : HostType) (methods : Entries) (name : String)
      (found : methodEntries name (entries.get? "methods") = .ok methods) :
      Reports (HoldsUnsortable item) (decodeMethods type methods) := by
    rcases methodEntries_eq_ok found with rfl | ⟨content, leads, areMethods⟩
    · exact .ok
    · have bareFinite := content.bare_isFinite
        (Data.isFinite_of_mem_entries finite (Entries.mem_of_get? leads))
      rw [areMethods] at bareFinite
      refine (decodeMethods_reports type methods bareFinite).mono ?_
      rintro ⟨key, body, isMember, holds⟩
      exact .body isMap leads areMethods isMember holds
  unfold decodeEntries
  refine ofName.bind fun name _ => (ofSuperclass name).bind fun superclass _ => ?_
  split
  · exact .document
  · exact (methodEntries_reports name _).bind fun methods found => ofMethods _ methods name found

theorem decode_reports (position serial : Nat) (item : Data) (finite : item.IsFinite) :
    Reports (HoldsUnsortable item) (decode position serial item) := by
  have bareFinite := item.bare_isFinite finite
  unfold decode
  split
  · rename_i entries isMap
    rw [isMap] at bareFinite
    rw [checkKeys_eq]
    exact ((refuseKeys_reports _ _).mono (.keys isMap)).bind fun _ _ =>
      decodeEntries_reports position serial isMap bareFinite
  · exact .document

end HostType

namespace Registry

/-- A runtime document with a type entry whose unknown keys cannot be listed in order, or in a
method of which a closure mapping has such keys. -/
def HoldsUnsortable (document : Data) : Prop :=
  ∃ items, listedTypes document = some items ∧ ∃ item ∈ items, HostType.HoldsUnsortable item

theorem decodeTypes_reports (given : List String) (registry : Registry) (position : Nat)
    (items : List Data) (finite : Data.AllAreFinite items) :
    Reports (∃ item ∈ items, HostType.HoldsUnsortable item)
      (decodeTypes given registry position items).result := by
  induction items generalizing registry position with
  | nil => exact .ok
  | cons item items inductionHypothesis =>
      have ofItem := HostType.decode_reports position (registry.nextSerial given) item finite.1
      rw [decodeTypes]
      cases read : HostType.decode position (registry.nextSerial given) item with
      | error error =>
          rw [read] at ofItem
          exact ofItem.mono fun holds => ⟨item, List.mem_cons_self, holds⟩
      | ok type =>
          refine (inductionHypothesis _ _ finite.2).mono ?_
          rintro ⟨other, isItem, holds⟩
          exact ⟨other, List.mem_cons_of_mem _ isItem, holds⟩

theorem listedTypes_isFinite {document : Data} {items : List Data} (finite : document.IsFinite)
    (listed : listedTypes document = some items) : Data.AllAreFinite items := by
  have bareFinite := document.bare_isFinite finite
  unfold listedTypes at listed
  split at listed
  · rename_i entries isMap
    rw [isMap] at bareFinite
    split at listed
    · rename_i types areTypes
      obtain rfl := Option.some.inj listed
      obtain ⟨content, leads, isList⟩ := Option.map_eq_some_iff.mp areTypes
      have contentFinite := content.bare_isFinite
        (Data.isFinite_of_mem_entries bareFinite (Entries.mem_of_get? leads))
      rwa [isList] at contentFinite
    · cases listed
  · cases listed

theorem decode_reports (document : Data) (finite : document.IsFinite) :
    Reports (HoldsUnsortable document) (decode document).result := by
  unfold decode
  split
  · rename_i items listed
    refine (decodeTypes_reports _ {} 0 items (listedTypes_isFinite finite listed)).mono ?_
    rintro ⟨item, isItem, holds⟩
    exact ⟨items, listed, item, isItem, holds⟩
  · exact .document

/-- A type entry whose unknown keys cannot be listed stops the reading of its document. -/
theorem decode_of_unsortable {entries : Entries}
    (unsortable : Scalar.Unsortable (entries.unknownKeys HostType.keyNames)) :
    (decode (.map [(.text "types", .list [.map entries])])).result = .error .keysWithoutOrder := by
  have listed : listedTypes (.map [(.text "types", .list [.map entries])]) = some [.map entries] :=
    rfl
  have refused (serial : Nat) :
      HostType.decode 0 serial (.map entries) = .error .keysWithoutOrder := by
    simp only [HostType.decode, Data.bare, HostType.checkKeys_eq,
      refuseKeys_of_unsortable unsortable, bind, Except.bind]
  simp only [decode, listed, decodeTypes, refused]

/-- Reading a finite document as a node, or as the types of a host, gives it or a fault of the
document. Only unknown keys that cannot be listed, of a closure or of a type, are in the way. -/
theorem decode_refusals (document : Data) (finite : document.IsFinite) :
    Reports document.HoldsUnsortable (Node.decode document) ∧
      Reports (HoldsUnsortable document) (decode document).result :=
  ⟨Node.decode_reports document finite, decode_reports document finite⟩

def mixedClosure : Data :=
  .map [(.text "kind", .text "bmethod"),
    (.text "closure", .map [(.int 1, .text "a"), (.text "x", .text "b")])]

/-- A type with this closure as the body of a method. -/
def mixedTypes : Data :=
  .map [(.text "types", .list [.map [(.text "name", .text "A"),
    (.text "methods", .map [(.text "f", mixedClosure)])]])]

theorem decode_refusals_mixedTypes :
    mixedTypes.IsFinite ∧ (decode mixedTypes).result = .error .keysWithoutOrder ∧
      HoldsUnsortable mixedTypes := by
  have finite : mixedTypes.IsFinite := by
    simp [mixedTypes, mixedClosure, Data.IsFinite, Data.EntriesAreFinite, Data.AllAreFinite,
      Data.text]
  have refused : (decode mixedTypes).result = .error .keysWithoutOrder := rfl
  have reports := (decode_refusals mixedTypes finite).2
  rw [refused] at reports
  exact ⟨finite, refused, reports⟩

/-- Not every finite document is read as a node or refused with a fault of the document. -/
theorem exists_decode_ne_document : ¬∀ document : Data, document.IsFinite →
    (∃ node, Node.decode document = .ok node) ∨
      ∃ fault, Node.decode document = .error (.document fault) := by
  intro reported
  have finite : mixedClosure.IsFinite := by
    simp [mixedClosure, Data.IsFinite, Data.EntriesAreFinite, Data.text]
  have refused : Node.decode mixedClosure = .error .keysWithoutOrder := rfl
  rcases reported mixedClosure finite with ⟨node, read⟩ | ⟨fault, fails⟩
  · rw [refused] at read
    cases read
  · rw [refused] at fails
    cases fails

end Registry

end NodeForms
