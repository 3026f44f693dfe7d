import NodeForms.Proofs.Registry.Refusals

/-!
# The format of runtime documents

A runtime document is a mapping with a list of types. A type is a mapping with a name, a superclass,
a mark for modules and a mapping of methods, each of them optional, where a module has no superclass
and every method body is read as a node. Reading accepts the documents of this format and, beyond
it, one thing: a name or methods of any kind that count as false are taken for absent ones. With
texts as keys, every other finite value is refused with a fault of the document.
-/

namespace NodeForms

mutual
/-- A value in which every key of a mapping is a text, at any depth. -/
def Data.HasTextKeys : Data → Prop
  | .scalar _ | .set _ | .enclosing _ => True
  | .list items => Data.AllHaveTextKeys items
  | .map entries => (∀ key ∈ entries.map Prod.fst, ∃ name, key = .text name) ∧
      Data.EntriesHaveTextKeys entries
  | .pair key value => key.HasTextKeys ∧ value.HasTextKeys
  | .shared _ content => content.HasTextKeys
def Data.AllHaveTextKeys : List Data → Prop
  | [] => True
  | item :: items => item.HasTextKeys ∧ Data.AllHaveTextKeys items
/-- Members in whose values every key of a mapping is a text. -/
def Data.EntriesHaveTextKeys : List (Scalar × Data) → Prop
  | [] => True
  | (_, value) :: entries => value.HasTextKeys ∧ Data.EntriesHaveTextKeys entries
end

namespace Data

theorem hasTextKeys_of_mem {items : List Data} (texts : AllHaveTextKeys items) {item : Data}
    (isItem : item ∈ items) : item.HasTextKeys := by
  induction items with
  | nil => cases isItem
  | cons first items inductionHypothesis =>
      rcases List.mem_cons.mp isItem with rfl | later
      · exact texts.1
      · exact inductionHypothesis texts.2 later

theorem hasTextKeys_of_mem_entries {entries : Entries} (texts : EntriesHaveTextKeys entries)
    {key : Scalar} {value : Data} (isMember : (key, value) ∈ entries) : value.HasTextKeys := by
  induction entries with
  | nil => cases isMember
  | cons first entries inductionHypothesis =>
      rcases List.mem_cons.mp isMember with rfl | later
      · exact texts.1
      · exact inductionHypothesis texts.2 later

theorem isTruthy_bare : (content : Data) → content.bare.isTruthy = content.isTruthy
  | .shared _ content => isTruthy_bare content
  | .scalar _ | .list _ | .map _ | .set _ | .pair _ _ | .enclosing _ => rfl

theorem eq_nil_of_isTruthy {content : Data} {entries : Entries} (isFalse : content.isTruthy = false)
    (isMap : content.bare = .map entries) : entries = [] := by
  rw [← isTruthy_bare, isMap] at isFalse
  simpa [isTruthy] using isFalse

theorem bare_hasTextKeys : (content : Data) → content.HasTextKeys → content.bare.HasTextKeys
  | .shared _ content, texts => bare_hasTextKeys content texts
  | .scalar _, texts | .list _, texts | .map _, texts | .set _, texts | .pair _ _, texts
  | .enclosing _, texts => texts

end Data

theorem Scalar.not_unsortable_of_texts {keys : List Scalar}
    (texts : ∀ key ∈ keys, ∃ name, key = .text name) : ¬Unsortable keys := by
  have alike : ∀ key ∈ keys, key.orderClass = .texts := by
    intro key isKey
    obtain ⟨name, rfl⟩ := texts key isKey
    rfl
  rintro ⟨-, ⟨key, isKey, isAbsent⟩ | ⟨first, isFirst, second, isSecond, differ⟩⟩
  · rw [alike key isKey] at isAbsent
    cases isAbsent
  · exact differ ((alike first isFirst).trans (alike second isSecond).symm)

theorem Entries.not_unsortable_unknownKeys {entries : Entries} (names : List String)
    (texts : ∀ key ∈ entries.keys, ∃ name, key = .text name) :
    ¬Scalar.Unsortable (entries.unknownKeys names) :=
  Scalar.not_unsortable_of_texts fun key isUnknown => texts key (List.mem_of_mem_filter isUnknown)

mutual
theorem Data.HoldsUnsortable.not_hasTextKeys : ∀ {content : Data},
    content.HoldsUnsortable → content.HasTextKeys → False
  | _, .member _ _ _ isMember holds, texts =>
      holds.not_hasTextKeys (Data.hasTextKeys_of_mem_entries texts.2 isMember)
  | _, .shared _ holds, texts => holds.not_hasTextKeys texts
theorem Expected.HoldsUnsortable.not_hasTextKeys : ∀ {expected : Expected} {content : Data},
    expected.HoldsUnsortable content → content.HasTextKeys → False
  | _, _, .closure unsortable, texts =>
      Entries.not_unsortable_unknownKeys Node.closureNames texts.1 unsortable
  | _, _, .side _ isMember holds, texts =>
      holds.not_hasTextKeys (Data.hasTextKeys_of_mem_entries texts.2 isMember)
  | _, _, .child _ holds, texts => holds.not_hasTextKeys texts
  | _, _, .item isItem holds, texts => holds.not_hasTextKeys (Data.hasTextKeys_of_mem texts isItem)
  | _, _, .shared _ holds, texts => holds.not_hasTextKeys texts
end

namespace HostType

/-- The members of a mapping in the format of a type, where certain values of a name or of methods
stand for none. -/
structure IsDescribedBy (standsForNone : Data → Prop) (entries : Entries) : Prop where
  known : ∀ key ∈ entries.keys, ∃ name ∈ keyNames, key = .text name
  name : ∀ value, entries.get? "name" = some value →
    standsForNone value ∨ ∃ name, value = .text name
  superclass : ∀ value, entries.get? "superclass" = some value →
    value = .null ∨ ∃ name, value = .text name
  rootModule : ∀ mark, entries.get? "module" = some mark → mark.isTruthy = true →
    ∀ value, entries.get? "superclass" = some value → value = .null
  methods : ∀ value, entries.get? "methods" = some value → standsForNone value ∨
    ∃ members, value.bare = .map members ∧
      ∀ member ∈ members, ∃ body, Node.decode member.2 = .ok body

/-- Members with a name that counts as false and is no text, or with methods that count as false
and are no mapping; neither is the absent value. -/
def HasFalseMember (entries : Entries) : Prop :=
  (∃ value, entries.get? "name" = some value ∧ value.isTruthy = false ∧ value ≠ .null ∧
    ∀ name, value ≠ .text name) ∨
  ∃ value, entries.get? "methods" = some value ∧ value.isTruthy = false ∧ value ≠ .null ∧
    ∀ members, value.bare ≠ .map members

/-- Without such a member, what counts as false is absent or in the format. -/
theorem isDescribedBy_null_iff {entries : Entries} :
    IsDescribedBy (· = .null) entries ↔
      IsDescribedBy (·.isTruthy = false) entries ∧ ¬HasFalseMember entries := by
  constructor
  · intro described
    have isFalse {value : Data} (isNull : value = .null) : value.isTruthy = false := by
      rw [isNull]
      rfl
    refine ⟨{ described with
      name := fun value found => (described.name value found).imp_left isFalse
      methods := fun value found => (described.methods value found).imp_left isFalse }, ?_⟩
    rintro (⟨value, found, -, present, noText⟩ | ⟨value, found, -, present, noMap⟩)
    · rcases described.name value found with isNull | ⟨name, isText⟩
      · exact present isNull
      · exact noText name isText
    · rcases described.methods value found with isNull | ⟨members, isMap, -⟩
      · exact present isNull
      · exact noMap members isMap
  · rintro ⟨described, noFalse⟩
    rw [HasFalseMember, not_or] at noFalse
    refine { described with
      name := fun value found => ?name
      methods := fun value found => ?methods }
    case name =>
      rcases described.name value found with isFalse | isText
      · by_contra neither
        rw [not_or, not_exists] at neither
        exact noFalse.1 ⟨value, found, isFalse, neither⟩
      · exact .inr isText
    case methods =>
      rcases described.methods value found with isFalse | areMethods
      · by_cases isMap : ∃ members, value.bare = .map members
        · -- A mapping that counts as false has no members.
          obtain ⟨members, isMap⟩ := isMap
          exact .inr ⟨members, isMap, by simp [Data.eq_nil_of_isTruthy isFalse isMap]⟩
        · by_contra neither
          rw [not_or] at neither
          exact noFalse.2 ⟨value, found, isFalse, neither.1, fun members areMembers =>
            isMap ⟨members, areMembers⟩⟩
      · exact .inr areMethods

section

variable {leads : Option Data}

theorem checkKeys_eq_ok_iff {position : Nat} {entries : Entries} :
    checkKeys position entries = .ok () ↔
      ∀ key ∈ entries.keys, ∃ name ∈ keyNames, key = .text name := by
  rw [checkKeys_eq, refuseKeys_eq_ok_iff, Entries.unknownKeys_eq_nil]

theorem exists_decodeName_iff {position : Nat} :
    (∃ name, decodeName position leads = .ok name) ↔
      ∀ value, leads = some value → value.isTruthy = false ∨ ∃ name, value = .text name := by
  unfold decodeName
  split
  case h_1 => simp
  case h_2 name =>
    exact ⟨fun _ _ same => .inr ⟨name, (Option.some.inj same).symm⟩, fun _ => ⟨name, rfl⟩⟩
  case h_3 value noText =>
    have noText : ∀ name, value ≠ .text name := fun name isText => noText name isText
    cases isTrue : value.isTruthy <;> simp [isTrue, noText]

theorem decodeSuperclass_eq_none_iff {name : String} :
    decodeSuperclass name leads = .ok none ↔ ∀ value, leads = some value → value = .null := by
  unfold decodeSuperclass
  split
  case h_1 => simp
  case h_2 => simp [Data.null]
  case h_3 => simp [Data.null]
  case h_4 value noNull _ => simpa [Data.null] using noNull

theorem decodeSuperclass_eq_some_iff {name superclass : String} :
    decodeSuperclass name leads = .ok (some superclass) ↔ leads = some (.text superclass) := by
  unfold decodeSuperclass
  split
  case h_1 => simp
  case h_2 => simp [Data.text]
  case h_3 => simp [Data.text]
  case h_4 value _ noText => simpa [Data.text] using noText superclass

end

theorem exists_methodEntries_iff {name : String} {leads : Option Data} {accepts : Entries → Prop}
    (acceptsNone : accepts []) :
    (∃ members, methodEntries name leads = .ok members ∧ accepts members) ↔
      ∀ value, leads = some value → value.isTruthy = false ∨
        ∃ members, value.bare = .map members ∧ accepts members := by
  unfold methodEntries
  split
  case h_1 => simpa using acceptsNone
  case h_2 value =>
    split
    case h_1 members isMap =>
      constructor
      · rintro ⟨found, areFound, accepted⟩ _ ⟨⟩
        obtain rfl := Except.ok.inj areFound
        exact .inr ⟨members, isMap, accepted⟩
      · intro described
        rcases described value rfl with isFalse | ⟨others, areMethods, accepted⟩
        · exact ⟨members, rfl, Data.eq_nil_of_isTruthy isFalse isMap ▸ acceptsNone⟩
        · obtain rfl := Data.map.inj (isMap.symm.trans areMethods)
          exact ⟨members, rfl, accepted⟩
    case h_2 noMap =>
      cases isTrue : value.isTruthy with
      | false => simpa [Data.isTruthy_bare, isTrue] using acceptsNone
      | true =>
          simpa [Data.isTruthy_bare, isTrue] using
            fun members isMap => absurd isMap (noMap members)

theorem exists_decodeMethods_iff {type : HostType} {members : Entries} :
    (∃ filled, decodeMethods type members = .ok filled) ↔
      ∀ member ∈ members, ∃ body, Node.decode member.2 = .ok body := by
  induction members generalizing type with
  | nil => simp [decodeMethods]
  | cons member members inductionHypothesis =>
      obtain ⟨key, content⟩ := member
      rw [decodeMethods, List.forall_mem_cons]
      cases read : Node.decode content with
      | error fault => simp
      | ok body => simp [inductionHypothesis]

/-- The members of a type entry are read exactly if they have the format of a type, where what
counts as false stands for no name and no methods. -/
theorem exists_decodeEntries_iff {position serial : Nat} {entries : Entries} :
    (∃ type, checkKeys position entries = .ok () ∧
        decodeEntries position serial entries = .ok type) ↔
      IsDescribedBy (·.isTruthy = false) entries := by
  constructor
  · rintro ⟨type, known, read⟩
    obtain ⟨name, isName, read⟩ := bind_eq_ok.mp read
    obtain ⟨superclass, isSuperclass, read⟩ := bind_eq_ok.mp read
    split at read
    case isTrue => cases read
    case isFalse allowed =>
      obtain ⟨members, areMembers, read⟩ := bind_eq_ok.mp read
      have bodies := exists_decodeMethods_iff.mp ⟨type, read⟩
      refine ⟨checkKeys_eq_ok_iff.mp known, exists_decodeName_iff.mp ⟨name, isName⟩, ?superclass,
        ?rootModule, (exists_methodEntries_iff (by simp)).mp ⟨members, areMembers, bodies⟩⟩
      case superclass =>
        intro value found
        cases superclass with
        | none => exact .inl (decodeSuperclass_eq_none_iff.mp isSuperclass value found)
        | some superclass =>
            rw [decodeSuperclass_eq_some_iff.mp isSuperclass] at found
            exact .inr ⟨superclass, (Option.some.inj found).symm⟩
      case rootModule =>
        intro mark isMark isTrue
        have noSuperclass : superclass = none := by
          cases superclass with
          | none => rfl
          | some superclass => exact absurd ⟨by simp [isMark, isTrue], rfl⟩ allowed
        exact decodeSuperclass_eq_none_iff.mp (noSuperclass ▸ isSuperclass)
  -- The other way round, each member is read as it is described, in the order of the reader.
  · intro described
    obtain ⟨name, isName⟩ : ∃ name, decodeName position (entries.get? "name") = .ok name :=
      exists_decodeName_iff.mpr described.name
    obtain ⟨superclass, isSuperclass, allowed⟩ : ∃ superclass,
        decodeSuperclass name (entries.get? "superclass") = .ok superclass ∧
          ¬((entries.get? "module").any Data.isTruthy = true ∧ superclass.isSome = true) := by
      cases found : entries.get? "superclass" with
      | none => exact ⟨none, rfl, by simp⟩
      | some value =>
          rcases described.superclass value found with rfl | ⟨superclass, rfl⟩
          · exact ⟨none, rfl, by simp⟩
          · refine ⟨some superclass, rfl, fun both => ?_⟩
            obtain ⟨isModule, -⟩ := both
            obtain ⟨mark, isMark, isTrue⟩ := (Option.any_eq_true _ _).mp isModule
            cases described.rootModule mark isMark isTrue _ found
    obtain ⟨members, areMembers, bodies⟩ : ∃ members,
        methodEntries name (entries.get? "methods") = .ok members ∧
          ∀ member ∈ members, ∃ body, Node.decode member.2 = .ok body :=
      (exists_methodEntries_iff (by simp)).mpr described.methods
    let empty : HostType :=
      { name, serial, superclass, isModule := (entries.get? "module").any Data.isTruthy }
    obtain ⟨filled, read⟩ : ∃ filled, decodeMethods empty members = .ok filled :=
      exists_decodeMethods_iff.mpr bodies
    refine ⟨filled, checkKeys_eq_ok_iff.mpr described.known, ?_⟩
    simp only [decodeEntries, isName, isSuperclass, areMembers, bind, Except.bind,
      if_neg allowed]
    exact read

theorem exists_decode_iff {position serial : Nat} {item : Data} :
    (∃ type, decode position serial item = .ok type) ↔
      ∃ entries, item.bare = .map entries ∧ IsDescribedBy (·.isTruthy = false) entries := by
  unfold decode
  split
  case h_1 entries isMap =>
    constructor
    · rintro ⟨type, read⟩
      obtain ⟨_, known, read⟩ := bind_eq_ok.mp read
      exact ⟨entries, isMap, exists_decodeEntries_iff.mp ⟨type, known, read⟩⟩
    · rintro ⟨members, areMembers, described⟩
      obtain rfl := Data.map.inj (isMap.symm.trans areMembers)
      obtain ⟨type, known, read⟩ : ∃ type, checkKeys position entries = .ok () ∧
          decodeEntries position serial entries = .ok type :=
        exists_decodeEntries_iff.mpr described
      exact ⟨type, bind_eq_ok.mpr ⟨(), known, read⟩⟩
  case h_2 noMap =>
    simpa using fun entries isMap => absurd isMap (noMap entries)

end HostType

namespace Registry

/-- A document in the format of a runtime document, where certain values of a name or of methods
stand for none. -/
def IsDescribedBy (standsForNone : Data → Prop) (document : Data) : Prop :=
  ∃ (entries : Entries) (types : Data) (items : List Data), document.bare = .map entries ∧
    entries.get? "types" = some types ∧ types.bare = .list items ∧
      ∀ item ∈ items, ∃ members, item.bare = .map members ∧
        HostType.IsDescribedBy standsForNone members

/-- A document with a type that has a false name or false methods. -/
def HasFalseMember (document : Data) : Prop :=
  ∃ items, listedTypes document = some items ∧ ∃ item ∈ items, ∃ members,
    item.bare = .map members ∧ HostType.HasFalseMember members

theorem listedTypes_eq_some_iff {document : Data} {items : List Data} :
    listedTypes document = some items ↔ ∃ (entries : Entries) (types : Data),
      document.bare = .map entries ∧ entries.get? "types" = some types ∧
        types.bare = .list items := by
  unfold listedTypes
  constructor
  · intro listed
    split at listed
    case h_1 entries isMap =>
      split at listed
      case h_1 found areTypes =>
        obtain rfl := Option.some.inj listed
        obtain ⟨types, leads, isList⟩ := Option.map_eq_some_iff.mp areTypes
        exact ⟨entries, types, isMap, leads, isList⟩
      case h_2 => cases listed
    case h_2 => cases listed
  · rintro ⟨entries, types, isMap, leads, isList⟩
    rw [isMap]
    simp only [leads, Option.map_some, isList]

theorem isDescribedBy_iff_listed {standsForNone : Data → Prop} {document : Data} :
    IsDescribedBy standsForNone document ↔ ∃ items, listedTypes document = some items ∧
      ∀ item ∈ items, ∃ members, item.bare = .map members ∧
        HostType.IsDescribedBy standsForNone members := by
  simp only [listedTypes_eq_some_iff]
  constructor
  · rintro ⟨entries, types, items, isMap, leads, isList, described⟩
    exact ⟨items, ⟨entries, types, isMap, leads, isList⟩, described⟩
  · rintro ⟨items, ⟨entries, types, isMap, leads, isList⟩, described⟩
    exact ⟨entries, types, items, isMap, leads, isList, described⟩

theorem isDescribedBy_null_iff {document : Data} :
    IsDescribedBy (· = .null) document ↔
      IsDescribedBy (·.isTruthy = false) document ∧ ¬HasFalseMember document := by
  rw [isDescribedBy_iff_listed, isDescribedBy_iff_listed]
  constructor
  · rintro ⟨items, listed, described⟩
    refine ⟨⟨items, listed, fun item isItem => ?_⟩, ?_⟩
    · obtain ⟨members, isMap, ofMembers⟩ := described item isItem
      exact ⟨members, isMap, (HostType.isDescribedBy_null_iff.mp ofMembers).1⟩
    · rintro ⟨others, areListed, item, isItem, members, isMap, isFalse⟩
      obtain rfl := Option.some.inj (listed.symm.trans areListed)
      obtain ⟨_, areMembers, ofMembers⟩ := described item isItem
      obtain rfl := Data.map.inj (isMap.symm.trans areMembers)
      exact (HostType.isDescribedBy_null_iff.mp ofMembers).2 isFalse
  · rintro ⟨⟨items, listed, described⟩, noFalse⟩
    refine ⟨items, listed, fun item isItem => ?_⟩
    obtain ⟨members, isMap, ofMembers⟩ := described item isItem
    exact ⟨members, isMap, HostType.isDescribedBy_null_iff.mpr ⟨ofMembers, fun isFalse =>
      noFalse ⟨items, listed, item, isItem, members, isMap, isFalse⟩⟩⟩

theorem exists_decodeTypes_iff {given : List String} {registry : Registry} {position : Nat}
    {items : List Data} :
    (∃ filled, (decodeTypes given registry position items).result = .ok filled) ↔
      ∀ item ∈ items, ∃ members, item.bare = .map members ∧
        HostType.IsDescribedBy (·.isTruthy = false) members := by
  induction items generalizing registry position with
  | nil => simp [decodeTypes]
  | cons item items inductionHypothesis =>
      have ofItem : (∃ type, HostType.decode position (registry.nextSerial given) item =
          .ok type) ↔ _ := HostType.exists_decode_iff
      rw [decodeTypes, List.forall_mem_cons, ← ofItem]
      cases read : HostType.decode position (registry.nextSerial given) item with
      | error fault => simp
      | ok type => simp [inductionHypothesis]

theorem exists_decode_iff {document : Data} :
    (∃ registry, (decode document).result = .ok registry) ↔
      IsDescribedBy (·.isTruthy = false) document := by
  rw [isDescribedBy_iff_listed, decode]
  cases listed : listedTypes document with
  | none => simp
  | some items => simp [exists_decodeTypes_iff]

theorem not_holdsUnsortable_of_hasTextKeys {document : Data} (texts : document.HasTextKeys) :
    ¬HoldsUnsortable document := by
  rintro ⟨items, listed, item, isItem, holds⟩
  obtain ⟨entries, types, isMap, leads, isList⟩ := listedTypes_eq_some_iff.mp listed
  have bareTexts := document.bare_hasTextKeys texts
  rw [isMap] at bareTexts
  have listTexts := types.bare_hasTextKeys
    (Data.hasTextKeys_of_mem_entries bareTexts.2 (Entries.mem_of_get? leads))
  rw [isList] at listTexts
  have itemTexts := item.bare_hasTextKeys (Data.hasTextKeys_of_mem listTexts isItem)
  cases holds with
  | keys areMembers unsortable =>
      rw [areMembers] at itemTexts
      exact Entries.not_unsortable_unknownKeys HostType.keyNames itemTexts.1 unsortable
  | @body value _ _ _ _ areMembers leadsMethods areMethods isMember holdsBody =>
      rw [areMembers] at itemTexts
      have methodTexts := value.bare_hasTextKeys
        (Data.hasTextKeys_of_mem_entries itemTexts.2 (Entries.mem_of_get? leadsMethods))
      rw [areMethods] at methodTexts
      exact holdsBody.not_hasTextKeys (Data.hasTextKeys_of_mem_entries methodTexts.2 isMember)

/-- A document is read exactly if it has the format of a runtime document, where whatever counts
as false stands for no name and for no methods. So the documents in which only the absent value
does are read, and of those that are read they are the ones without another false name or false
methods. Every other finite value with texts as keys is refused with a fault of the document. -/
theorem decode_accepts (document : Data) :
    ((∃ registry, (decode document).result = .ok registry) ↔
      IsDescribedBy (·.isTruthy = false) document) ∧
    (IsDescribedBy (· = .null) document ↔
      (∃ registry, (decode document).result = .ok registry) ∧ ¬HasFalseMember document) ∧
    (document.IsFinite → document.HasTextKeys → ∀ error,
      (decode document).result = .error error → ∃ fault, error = .document fault) := by
  refine ⟨exists_decode_iff, ?_, fun finite texts error refused => ?_⟩
  · rw [exists_decode_iff, isDescribedBy_null_iff]
  · have reported := decode_reports document finite
    rw [refused] at reported
    cases error with
    | document fault => exact ⟨fault, rfl⟩
    | keysWithoutOrder => exact absurd reported (not_holdsUnsortable_of_hasTextKeys texts)
    | value fault => exact reported.elim

/-- A class with an empty list for its methods, and a module with a superclass. -/
def moduleDocument : Data :=
  .map [(.text "types", .list [
    .map [(.text "name", .text "A"), (.text "methods", .list [])],
    .map [(.text "name", .text "M"), (.text "module", .int 1), (.text "superclass", .text "")]])]

theorem decode_accepts_moduleDocument :
    (moduleDocument.IsFinite ∧ moduleDocument.HasTextKeys) ∧
      (decode moduleDocument).result = .error (.document (.moduleSuperclass "M")) ∧
      ¬IsDescribedBy (·.isTruthy = false) moduleDocument ∧
      ∃ fault, DecodeError.document (.moduleSuperclass "M") = .document fault := by
  have finite : moduleDocument.IsFinite := by
    simp [moduleDocument, Data.IsFinite, Data.EntriesAreFinite, Data.AllAreFinite, Data.text,
      Data.int]
  have texts : moduleDocument.HasTextKeys := by
    simp [moduleDocument, Data.HasTextKeys, Data.EntriesHaveTextKeys, Data.AllHaveTextKeys,
      Data.text, Data.int]
  have refused : (decode moduleDocument).result =
      .error (.document (.moduleSuperclass "M")) := rfl
  obtain ⟨accepted, -, reported⟩ := decode_accepts moduleDocument
  refine ⟨⟨finite, texts⟩, refused, fun described => ?_, reported finite texts _ refused⟩
  obtain ⟨registry, read⟩ := accepted.mpr described
  rw [refused] at read
  cases read

def zeroDocument : Data := .map [(.text "types", .list [.map [(.text "name", .int 0)]])]

/-- Not every document that is read has the format in which only the absent value stands for no
name. -/
theorem exists_decode_zeroDocument : ¬∀ document : Data,
    (∃ registry, (decode document).result = .ok registry) ↔
      IsDescribedBy (· = .null) document := by
  intro exactly
  have read : ∃ registry, (decode zeroDocument).result = .ok registry := ⟨_, rfl⟩
  obtain ⟨_, _, _, ⟨⟩, ⟨⟩, ⟨⟩, described⟩ := (exactly zeroDocument).mp read
  obtain ⟨_, ⟨⟩, ofMembers⟩ := described _ List.mem_cons_self
  rcases ofMembers.name (.int 0) rfl with isNull | ⟨name, isText⟩
  · cases isNull
  · cases isText

end Registry

end NodeForms
