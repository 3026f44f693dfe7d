import NodeForms.Batch.Tree
import NodeForms.Proofs.Node.RoundTrip
import NodeForms.Proofs.Registry.Methods
import NodeForms.Registry.Decode
import NodeForms.Registry.Encode

/-!
# Writing types that were read

A registry that was read from a document can be written, and what is written reads back as a
registry with the same types in the same order. Only serial numbers can differ: they are chosen
anew, so that anonymous types stay anonymous and distinct.
-/

namespace NodeForms

namespace HostType

/-- A type apart from its serial number. -/
def unnumbered (type : HostType) : HostType := { type with serial := 0 }

/-- A type as it can be read from a document. -/
structure IsRead (type : HostType) : Prop where
  bodies : ∀ entry ∈ type.methods, ∃ body : Node, entry.2 = .node body ∧ body.ReadsBack
  rootModule : type.isModule = true → type.superclass = none

theorem isRead_define {type : HostType} {name : String} {body : Node} (isRead : type.IsRead)
    (readsBack : body.ReadsBack) : (type.define name (.node body)).IsRead where
  bodies := by
    intro entry member
    rcases mem_of_mem_placeBy member with rfl | found
    · exact ⟨body, rfl, readsBack⟩
    · exact isRead.bodies entry found
  rootModule := isRead.rootModule

theorem isRead_of_decodeMethods {entries : Entries} {type filled : HostType}
    (isRead : type.IsRead) (read : decodeMethods type entries = .ok filled) : filled.IsRead := by
  induction entries generalizing type with
  | nil =>
      obtain rfl := Except.ok.inj read
      exact isRead
  | cons entry entries inductionHypothesis =>
      rw [decodeMethods] at read
      cases body : Node.decode entry.2 with
      | error fault => rw [body] at read; cases read
      | ok node =>
          rw [body] at read
          exact inductionHypothesis
            (isRead_define isRead (Node.readsBack_of_decode entry.2 node body)) read

theorem encodeMethods_defines {methods : List (String × Value)}
    (bodies : ∀ entry ∈ methods, ∃ body : Node, entry.2 = .node body ∧ body.ReadsBack) :
    ∃ members, encodeMethods methods = .ok members ∧ List.Forall₂ Defines members methods := by
  induction methods with
  | nil => exact ⟨[], rfl, .nil⟩
  | cons entry methods inductionHypothesis =>
      obtain ⟨name, _⟩ := entry
      rw [List.forall_mem_cons] at bodies
      obtain ⟨⟨body, rfl, content, written, read⟩, others⟩ := bodies
      obtain ⟨members, rest, defined⟩ := inductionHypothesis others
      refine ⟨(.text name, content) :: members, ?_, .cons ⟨rfl, body, read, rfl⟩ defined⟩
      simp [encodeMethods, written, rest, encodeBoth, Except.map]

theorem encodeMethods_reads {type : HostType}
    (bodies : ∀ entry ∈ type.methods, ∃ body : Node, entry.2 = .node body ∧ body.ReadsBack) :
    ∃ members, encodeMethods type.methods = .ok members ∧
      ∀ empty : HostType, empty.methods = [] → decodeMethods empty members =
        .ok { empty with methods := type.methods, distinct := type.distinct } := by
  obtain ⟨members, written, defined⟩ := encodeMethods_defines bodies
  refine ⟨members, written, fun empty noMethods => ?_⟩
  refine decodeMethods_eq_ok_iff.mpr ⟨type.methods, defined, ?_⟩
  have distinct : (empty.methodNames ++ type.methods.map Prod.fst).Nodup := by
    rw [methodNames, noMethods]
    exact type.distinct
  have methods := methods_defineAll_of_nodup distinct
  rw [noMethods, List.nil_append] at methods
  rw [defineAll_eq]
  exact HostType.ext rfl rfl rfl rfl methods.symm

theorem isRead_of_decode {position serial : Nat} {item : Data} {type : HostType}
    (read : decode position serial item = .ok type) : type.IsRead := by
  unfold decode at read
  split at read
  · obtain ⟨-, -, read⟩ := bind_eq_ok.mp read
    unfold decodeEntries at read
    obtain ⟨name, -, read⟩ := bind_eq_ok.mp read
    obtain ⟨superclass, -, read⟩ := bind_eq_ok.mp read
    split at read
    · cases read
    · rename_i allowed
      obtain ⟨methods, -, read⟩ := bind_eq_ok.mp read
      have empty : IsRead ⟨name, serial, superclass, _, [], List.nodup_nil⟩ :=
        ⟨by simp, by simpa using not_and.mp allowed⟩
      exact isRead_of_decodeMethods empty read
  · cases read

def writtenEntries (type : HostType) (members : Entries) : Entries :=
  (.text "name", .text type.name) :: (type.encodeSort ++ [(.text "methods", .map members)])

theorem encode_eq {type : HostType} {members : Entries}
    (written : encodeMethods type.methods = .ok members) :
    type.encode = .ok (.map (type.writtenEntries members)) := by
  rw [encode, written]
  rfl

section

variable (type : HostType) (members : Entries)

theorem checkKeys_writtenEntries (position : Nat) :
    checkKeys position (type.writtenEntries members) = .ok () := by
  unfold writtenEntries encodeSort checkKeys
  split
  · simp [Entries.keys, keyNames]
  · split <;> simp [Entries.keys, keyNames]

theorem get?_name_writtenEntries :
    (type.writtenEntries members).get? "name" = some (.text type.name) :=
  Entries.get?_cons ..

theorem get?_module_writtenEntries :
    (type.writtenEntries members).get? "module" =
      if type.isModule then some (.scalar (.bool true)) else none := by
  unfold writtenEntries encodeSort
  split
  · simp [Entries.get?_cons]
  · split <;> simp [Entries.get?_cons, Entries.get?_nil]

theorem get?_superclass_writtenEntries :
    (type.writtenEntries members).get? "superclass" =
      if type.isModule then none else type.superclass.map .text := by
  unfold writtenEntries encodeSort
  split
  · simp [Entries.get?_cons, Entries.get?_nil]
  · split <;> simp [Entries.get?_cons, Entries.get?_nil, *]

theorem get?_methods_writtenEntries :
    (type.writtenEntries members).get? "methods" = some (.map members) := by
  unfold writtenEntries encodeSort
  split
  · simp [Entries.get?_cons]
  · split <;> simp [Entries.get?_cons]

end

/-- An entry of a document from which a type is read again, with a serial number of its own. -/
structure IsWrittenAs (type : HostType) (item : Data) : Prop where
  encoded : type.encode = .ok item
  given : Registry.givenName? item = some type.name
  decoded : ∀ position serial, decode position serial item = .ok { type with serial := serial }

theorem exists_isWrittenAs {type : HostType} (isRead : type.IsRead) :
    ∃ item, type.IsWrittenAs item := by
  obtain ⟨members, written, reads⟩ := encodeMethods_reads isRead.bodies
  refine ⟨_, encode_eq written, ?given, fun position serial => ?decoded⟩
  case given =>
    simp [Registry.givenName?, Data.bare, get?_name_writtenEntries, Data.text]
  case decoded =>
    have name : decodeName position ((type.writtenEntries members).get? "name") =
        .ok type.name := by
      rw [get?_name_writtenEntries]
      rfl
    have isModule : ((type.writtenEntries members).get? "module").any Data.isTruthy =
        type.isModule := by
      rw [get?_module_writtenEntries]
      cases type.isModule <;> rfl
    have superclass : decodeSuperclass type.name
        ((type.writtenEntries members).get? "superclass") = .ok type.superclass := by
      rw [get?_superclass_writtenEntries]
      cases sort : type.isModule with
      | true => simp [decodeSuperclass, isRead.rootModule sort]
      | false => cases type.superclass <;> rfl
    have methods : methodEntries type.name ((type.writtenEntries members).get? "methods") =
        .ok members := by
      rw [get?_methods_writtenEntries]
      rfl
    have allowed : ¬(type.isModule = true ∧ type.superclass.isSome = true) := by
      rintro ⟨sort, filled⟩
      simp [isRead.rootModule sort] at filled
    calc
      decode position serial (.map (type.writtenEntries members)) =
          decodeEntries position serial (type.writtenEntries members) := by
        simp only [decode, Data.bare, checkKeys_writtenEntries, bind, Except.bind]
      _ = decodeMethods { type with serial, methods := [], distinct := List.nodup_nil }
          members := by
        simp only [decodeEntries, name, isModule, superclass, methods, bind, Except.bind,
          if_neg allowed]
      _ = .ok { type with serial := serial } := reads _ rfl

section

variable {type : HostType} (named : type.name ≠ "")

include named

theorem displayName_of_named : type.displayName = type.name := if_neg named

theorem displayName_unnumbered : type.unnumbered.displayName = type.displayName := by
  have sameName : type.unnumbered.name ≠ "" := named
  rw [displayName_of_named named, displayName_of_named sameName]
  rfl

theorem methodForm_unnumbered (options : SerializeOptions) (name : String) :
    type.unnumbered.methodForm options name = type.methodForm options name := by
  unfold methodForm bodyForms methodOptions missingRecord
  rw [displayName_unnumbered named]
  rfl

theorem form_unnumbered (options : SerializeOptions) :
    type.unnumbered.form options = type.form options := by
  unfold form header turnRecord
  simp only [displayName_unnumbered named, methodForm_unnumbered named]
  rfl

end

end HostType

theorem typeForms_unnumbered (options : SerializeOptions) {types : List HostType}
    (named : ∀ type ∈ types, type.name ≠ "") :
    typeForms options (types.map HostType.unnumbered) = typeForms options types := by
  induction types with
  | nil => rfl
  | cons type types inductionHypothesis =>
      rw [List.forall_mem_cons] at named
      have rest := inductionHypothesis named.2
      unfold typeForms at rest ⊢
      rw [List.map_cons, Run.each, Run.each, HostType.form_unnumbered named.1, rest]

namespace Registry

/-- A registry as it can be read from a document. -/
structure IsRead (registry : Registry) : Prop where
  types : ∀ type ∈ registry.types, type.IsRead

theorem isRead_add {registry : Registry} {type : HostType} (isRead : registry.IsRead)
    (typeIsRead : type.IsRead) : (registry.add type).IsRead where
  types := by
    intro other member
    rcases mem_of_mem_placeBy member with rfl | found
    · exact typeIsRead
    · exact isRead.types other found

theorem isRead_of_decodeTypes {given : List String} {registry filled : Registry}
    {position : Nat} {items : List Data} (isRead : registry.IsRead)
    (read : (decodeTypes given registry position items).result = .ok filled) :
    filled.IsRead := by
  induction items generalizing registry position with
  | nil =>
      obtain rfl := Except.ok.inj read
      exact isRead
  | cons item items inductionHypothesis =>
      rw [decodeTypes] at read
      cases typeRead : HostType.decode position (registry.nextSerial given) item with
      | error fault => rw [typeRead] at read; cases read
      | ok type =>
          rw [typeRead] at read
          exact inductionHypothesis (isRead_add isRead (HostType.isRead_of_decode typeRead)) read

theorem isRead_of_decode {document : Data} {registry : Registry}
    (read : (decode document).result = .ok registry) : registry.IsRead := by
  unfold decode at read
  split at read
  · have empty : IsRead {} := ⟨by simp⟩
    exact isRead_of_decodeTypes empty read
  · cases read

def namedTypes (types : List HostType) : List HostType :=
  types.filter fun type => type.name ≠ ""

/-- The names that types to come give themselves: each is given once, and none is taken. -/
structure Awaits (registry : Registry) (given : List String) (types : List HostType) : Prop where
  distinct : ((namedTypes types).map HostType.name).Nodup
  given : ∀ type ∈ namedTypes types, type.name ∈ given
  free : ∀ type ∈ namedTypes types, type.name ∉ registry.names

section

variable {registry : Registry} {given : List String} {type : HostType} {types : List HostType}

/-- A type to come as it is read, with a new serial number. -/
def numbered (registry : Registry) (given : List String) (type : HostType) : HostType :=
  { type with serial := registry.nextSerial given }

theorem displayName_numbered (registry : Registry) (given : List String) (type : HostType) :
    (type ∈ namedTypes [type] ∧ (registry.numbered given type).displayName = type.name) ∨
      (namedTypes [type] = [] ∧
        (registry.numbered given type).displayName =
          anonymousName (registry.nextSerial given)) := by
  by_cases anonymous : type.name = ""
  · exact .inr ⟨by simp [namedTypes, anonymous], if_pos anonymous⟩
  · exact .inl ⟨by simp [namedTypes, anonymous], if_neg anonymous⟩

theorem namedTypes_cons (type : HostType) (types : List HostType) :
    namedTypes (type :: types) = namedTypes [type] ++ namedTypes types :=
  List.filter_append [type] types

theorem Awaits.displayName_not_mem (awaits : registry.Awaits given (type :: types)) :
    (registry.numbered given type).displayName ∉ registry.names := by
  rcases displayName_numbered registry given type with ⟨isNamed, shown⟩ | ⟨-, shown⟩
  · rw [shown]
    refine awaits.free type ?_
    rw [namedTypes_cons]
    exact List.mem_append_left _ isNamed
  · rw [shown]
    exact (registry.anonymousName_nextSerial_not_mem given).1

theorem Awaits.types_add (awaits : registry.Awaits given (type :: types)) :
    (registry.add (registry.numbered given type)).types =
      registry.types ++ [registry.numbered given type] :=
  placeBy_of_not_mem awaits.displayName_not_mem

/-- Once a type is registered, the names of the others to come are still not taken. -/
theorem Awaits.tail (awaits : registry.Awaits given (type :: types)) :
    (registry.add (registry.numbered given type)).Awaits given types := by
  have distinct := awaits.distinct
  have isGiven := awaits.given
  have free := awaits.free
  rw [namedTypes_cons] at distinct isGiven free
  rw [List.map_append, List.nodup_append] at distinct
  rw [List.forall_mem_append] at isGiven free
  refine ⟨distinct.2.1, isGiven.2, fun other member taken => ?_⟩
  rw [names, awaits.types_add, List.map_append, List.mem_append] at taken
  rcases taken with earlier | last
  · exact free.2 other member earlier
  · -- A given name is used once, and a name made from a serial number is not given.
    have same : other.name = (registry.numbered given type).displayName := by simpa using last
    rcases displayName_numbered registry given type with ⟨isNamed, shown⟩ | ⟨-, shown⟩
    · exact distinct.2.2 type.name (List.mem_map_of_mem isNamed) other.name
        (List.mem_map_of_mem member) (same.trans shown).symm
    · apply (registry.anonymousName_nextSerial_not_mem given).2
      rw [← shown, ← same]
      exact isGiven.2 other member

end

theorem decodeTypes_written {given : List String} {types : List HostType} {items : List Data}
    (written : List.Forall₂ (fun type item => HostType.IsWrittenAs type item) types items)
    (registry : Registry) (position : Nat) (awaits : registry.Awaits given types) :
    ∃ filled added, (decodeTypes given registry position items).result = .ok filled ∧
      filled.types = registry.types ++ added ∧
        added.map HostType.unnumbered = types.map HostType.unnumbered := by
  induction written generalizing registry position with
  | nil => exact ⟨registry, [], rfl, (List.append_nil _).symm, rfl⟩
  | @cons type item types items written _ inductionHypothesis =>
      obtain ⟨filled, added, read, isFilled, same⟩ :=
        inductionHypothesis _ (position + 1) awaits.tail
      refine ⟨filled, registry.numbered given type :: added, ?_, ?_, ?_⟩
      · rw [decodeTypes, written.decoded]
        change (decodeTypes given (registry.add (registry.numbered given type)) (position + 1)
          items).result = _
        rw [read]
      · rw [isFilled, awaits.types_add, List.append_assoc]
        rfl
      · rw [List.map_cons, List.map_cons, same]
        rfl

theorem encodeTypes_written {types : List HostType} {items : List Data}
    (written : List.Forall₂ (fun type item => HostType.IsWrittenAs type item) types items) :
    encodeTypes types = .ok items := by
  induction written with
  | nil => rfl
  | cons written _ inductionHypothesis =>
      rw [encodeTypes, written.encoded, inductionHypothesis]
      rfl

theorem givenNames_written {types : List HostType} {items : List Data}
    (written : List.Forall₂ (fun type item => HostType.IsWrittenAs type item) types items) :
    items.filterMap givenName? = types.map HostType.name := by
  induction written with
  | nil => rfl
  | cons written _ inductionHypothesis =>
      rw [List.filterMap_cons, written.given, inductionHypothesis, List.map_cons]

theorem awaits_own_types (registry : Registry) :
    Registry.Awaits {} (registry.types.map HostType.name) registry.types where
  distinct := by
    have shown : (namedTypes registry.types).map HostType.name =
        (namedTypes registry.types).map HostType.displayName :=
      List.map_congr_left fun type member =>
        (HostType.displayName_of_named (by simpa using (List.mem_filter.mp member).2)).symm
    rw [shown]
    exact registry.distinct.sublist (List.filter_sublist.map HostType.displayName)
  given := fun type member => List.mem_map_of_mem (List.mem_filter.mp member).1
  free := fun type _ => List.not_mem_nil

theorem typeForms_namedTypes_congr {types others : List HostType}
    (same : types.map HostType.unnumbered = others.map HostType.unnumbered)
    (options : SerializeOptions) :
    typeForms options (namedTypes types) = typeForms options (namedTypes others) := by
  have unnumbered (types : List HostType) : typeForms options (namedTypes types) =
      typeForms options (namedTypes (types.map HostType.unnumbered)) := by
    have named : ∀ type ∈ namedTypes types, type.name ≠ "" := fun type member => by
      simpa using (List.mem_filter.mp member).2
    rw [← typeForms_unnumbered options named, namedTypes, namedTypes, List.filter_map]
    rfl
  rw [unnumbered types, unnumbered others, same]

/-- A registry that was read can be written, and what is written reads back as a registry with
the same types in the same order, each with the same name, superclass, sort and methods. All names
are distinct in both, those of anonymous types too, and the types with names have the same forms,
with the same diagnostics and the same errors. -/
theorem decode_encode (document : Data) (registry : Registry)
    (read : (decode document).result = .ok registry) :
    ∃ written again, registry.encode = .ok written ∧ (decode written).result = .ok again ∧
      again.types.map HostType.unnumbered = registry.types.map HostType.unnumbered ∧
      registry.names.Nodup ∧ again.names.Nodup ∧
      ∀ options, typeForms options (namedTypes again.types) =
        typeForms options (namedTypes registry.types) := by
  have isRead := isRead_of_decode read
  choose! entry isWritten using fun type (member : type ∈ registry.types) =>
    HostType.exists_isWrittenAs (isRead.types type member)
  have written : List.Forall₂ (fun type item => HostType.IsWrittenAs type item) registry.types
      (registry.types.map entry) := by
    rw [List.forall₂_map_right_iff, List.forall₂_same]
    exact isWritten
  have encoded : registry.encode =
      .ok (.map [(.text "types", .list (registry.types.map entry))]) := by
    rw [encode, encodeTypes_written written]
    rfl
  obtain ⟨again, added, reads, isAdded, same⟩ :=
    decodeTypes_written written {} 0 registry.awaits_own_types
  have isAgain : (decode (.map [(.text "types", .list (registry.types.map entry))])).result =
      .ok again := by
    rw [← givenNames_written written] at reads
    simpa [decode, listedTypes, Data.bare, Entries.get?_cons] using reads
  rw [← isAdded.trans (List.nil_append _)] at same
  exact ⟨_, again, encoded, isAgain, same, registry.nodup_names, again.nodup_names, 
    typeForms_namedTypes_congr same⟩

/-- A module and an anonymous class with a superclass and a method. -/
def unnamedDocument : Data :=
  .map [(.text "types", .list [
    .map [(.text "name", .text "Plain"), (.text "module", .scalar (.bool true))],
    .map [(.text "superclass", .text "Object"),
      (.text "methods", .map [(.text "me", .map [(.text "kind", .int 90)])])]])]

theorem decode_encode_unnamedDocument :
    let body : Node := ⟨.known .selfRef, .null, .null, .null, 0, none⟩
    let registry : Registry :=
      { types := [{ name := "Plain", serial := 140000000000000, isModule := true },
          { name := ""
            serial := 140000000000001
            superclass := some "Object"
            methods := [("me", .node body)] }]
        distinct := by decide +kernel }
    (decode unnamedDocument).result = .ok registry ∧
      ∃ written again, registry.encode = .ok written ∧ (decode written).result = .ok again ∧
        again.types.map HostType.unnumbered = registry.types.map HostType.unnumbered := by
  have read : (decode unnamedDocument).result = .ok
      { types := [{ name := "Plain", serial := 140000000000000, isModule := true },
          { name := ""
            serial := 140000000000001
            superclass := some "Object"
            methods := [("me", .node ⟨.known .selfRef, .null, .null, .null, 0, none⟩)] }]
        distinct := by decide +kernel } := by
    cbv
  intro body registry
  obtain ⟨written, again, encoded, decoded, same, -⟩ :=
    decode_encode unnamedDocument registry read
  exact ⟨read, written, again, encoded, decoded, same⟩

end Registry

end NodeForms
