import NodeForms.Proofs.Registry.Definitions
import NodeForms.Proofs.Registry.Refusals
import Mathlib.Data.List.Dedup

/-!
# Methods of types that were read

Each member of the methods mapping of a type entry defines a method: the text of its key is the
name, and the node that its value is read as is the body. So a type that was read has as many
methods as its entry has members, in their order, exactly if the keys have different texts. Keys
that are not equal can have one text, as the number `1` and the text `1` do. The later one then
takes the place of the earlier one.
-/

namespace NodeForms

/-- Names without repetition, each where it comes first. -/
def firstNames (names : List String) : List String := names.reverse.dedup.reverse

theorem firstNames_concat (names : List String) (name : String) :
    firstNames (names ++ [name]) =
      if name ∈ names then firstNames names else firstNames names ++ [name] := by
  unfold firstNames
  rw [List.reverse_concat, List.dedup_cons]
  by_cases isOld : name ∈ names
  · rw [if_pos isOld, if_pos (List.mem_reverse.mpr isOld)]
  · rw [if_neg isOld, if_neg (mt List.mem_reverse.mp isOld), List.reverse_cons]

theorem mem_firstNames {names : List String} {name : String} :
    name ∈ firstNames names ↔ name ∈ names := by
  rw [firstNames, List.mem_reverse, List.mem_dedup, List.mem_reverse]

theorem firstNames_of_nodup {names : List String} (distinct : names.Nodup) :
    firstNames names = names := by
  rw [firstNames, (List.nodup_reverse.mpr distinct).dedup, List.reverse_reverse]

/-- Names are lost exactly if some come more than once. -/
theorem length_firstNames_eq_iff {names : List String} :
    (firstNames names).length = names.length ↔ names.Nodup := by
  constructor
  · intro same
    have backwards : names.reverse.length = names.length := List.length_reverse
    rw [firstNames, List.length_reverse, ← backwards] at same
    have all : names.reverse.dedup = names.reverse :=
      (List.dedup_sublist names.reverse).eq_of_length same
    exact List.nodup_reverse.mp (List.dedup_eq_self.mp all)
  · intro distinct
    rw [firstNames_of_nodup distinct]

namespace HostType

theorem methodNames_define (type : HostType) (name : String) (body : Value) :
    (type.define name body).methodNames =
      if name ∈ type.methodNames then type.methodNames else type.methodNames ++ [name] := by
  split
  case isTrue isTaken =>
    exact map_placeBy_of_mem isTaken
  case isFalse isNew =>
    rw [methodNames, methods_define_of_not_mem isNew, List.map_append]
    rfl

theorem methodNames_defineAll (type : HostType) (definitions : List (String × Value)) :
    (type.defineAll definitions).methodNames =
      firstNames (type.methodNames ++ definitions.map Prod.fst) := by
  induction definitions using List.reverseRecOn with
  | nil => rw [List.map_nil, List.append_nil, firstNames_of_nodup type.nodup_methodNames]; rfl
  | append_singleton definitions definition inductionHypothesis =>
      have defined : (type.defineAll (definitions ++ [definition])).methodNames =
          ((type.defineAll definitions).define definition.1 definition.2).methodNames := by
        rw [defineAll_append]
        rfl
      rw [defined, methodNames_define, inductionHypothesis, List.map_append, ← List.append_assoc,
        List.map_singleton, firstNames_concat]
      simp only [mem_firstNames]

/-- The definition that a member of a methods mapping makes. -/
def Defines (member : Scalar × Data) (definition : String × Value) : Prop :=
  definition.1 = member.1.plainText ∧
    ∃ body : Node, Node.decode member.2 = .ok body ∧ definition.2 = .node body

/-- The members of the methods mapping of a type entry, none if there is no such mapping. -/
def methodMembers (item : Data) : Entries :=
  match item.bare with
  | .map entries =>
      match Entries.get? entries "methods" with
      | none => []
      | some value =>
          match value.bare with
          | .map members => members
          | _ => []
  | _ => []

theorem decodeMethods_eq_ok_iff {type filled : HostType} {members : Entries} :
    decodeMethods type members = .ok filled ↔
      ∃ definitions, List.Forall₂ Defines members definitions ∧
        filled = type.defineAll definitions := by
  induction members generalizing type with
  | nil => simp [decodeMethods, defineAll, eq_comm]
  | cons member members inductionHypothesis =>
      obtain ⟨key, content⟩ := member
      rw [decodeMethods]
      constructor
      · intro found
        cases read : Node.decode content with
        | error fault => rw [read] at found; cases found
        | ok body =>
            rw [read] at found
            obtain ⟨definitions, defined, rfl⟩ := inductionHypothesis.mp found
            exact ⟨(key.plainText, .node body) :: definitions,
              .cons ⟨rfl, body, read, rfl⟩ defined, rfl⟩
      · rintro ⟨_, defined, rfl⟩
        cases defined with
        | @cons _ definition _ definitions first defined =>
            obtain ⟨name, _⟩ := definition
            obtain ⟨rfl, body, read, rfl⟩ := first
            rw [read]
            exact inductionHypothesis.mpr ⟨definitions, defined, rfl⟩

theorem methodEntries_eq_methodMembers {item : Data} {entries members : Entries} {name : String}
    (isMap : item.bare = .map entries)
    (found : methodEntries name (entries.get? "methods") = .ok members) :
    members = methodMembers item := by
  unfold methodMembers
  unfold methodEntries at found
  rw [isMap]
  dsimp only
  cases leads : entries.get? "methods" with
  | none =>
      rw [leads] at found
      exact (Except.ok.inj found).symm
  | some value =>
      rw [leads] at found
      dsimp only at found ⊢
      cases isBare : value.bare with
      | map listed =>
          rw [isBare] at found
          exact (Except.ok.inj found).symm
      | _ =>
          rw [isBare] at found
          dsimp only at found
          split at found
          · cases found
          · exact (Except.ok.inj found).symm

theorem exists_defineAll_of_decode {position serial : Nat} {item : Data} {type : HostType}
    (read : decode position serial item = .ok type) :
    ∃ (empty : HostType) (definitions : List (String × Value)), empty.methods = [] ∧
      List.Forall₂ Defines (methodMembers item) definitions ∧
        type = empty.defineAll definitions := by
  unfold decode at read
  split at read
  case h_1 entries isMap =>
    obtain ⟨-, -, read⟩ := bind_eq_ok.mp read
    unfold decodeEntries at read
    obtain ⟨name, -, read⟩ := bind_eq_ok.mp read
    obtain ⟨superclass, -, read⟩ := bind_eq_ok.mp read
    split at read
    · cases read
    · obtain ⟨members, areMembers, read⟩ := bind_eq_ok.mp read
      obtain rfl := methodEntries_eq_methodMembers isMap areMembers
      obtain ⟨definitions, defined, filled⟩ := decodeMethods_eq_ok_iff.mp read
      exact ⟨_, definitions, rfl, defined, filled⟩
  case h_2 => cases read

theorem names_of_defines {members : Entries} {definitions : List (String × Value)}
    (defined : List.Forall₂ Defines members definitions) :
    definitions.map Prod.fst = members.keys.map Scalar.plainText := by
  induction defined with
  | nil => rfl
  | cons first _ inductionHypothesis =>
      rw [List.map_cons, first.1, inductionHypothesis]
      rfl

theorem nodup_texts_of_distinct {members : Entries} (distinct : members.Distinct)
    (areTexts : ∀ key ∈ members.keys, ∃ name, key = .text name) :
    (members.keys.map Scalar.plainText).Nodup := by
  have differ : members.Pairwise fun first second => first.1.plainText ≠ second.1.plainText := by
    refine distinct.imp_of_mem fun {first second} isFirst isSecond unequal same => ?_
    obtain ⟨firstName, firstIsText⟩ := areTexts first.1 (List.mem_map_of_mem isFirst)
    obtain ⟨secondName, secondIsText⟩ := areTexts second.1 (List.mem_map_of_mem isSecond)
    rw [firstIsText, secondIsText] at same unequal
    obtain rfl : firstName = secondName := same
    rw [Scalar.equals_text_iff.mpr rfl] at unequal
    cases unequal
  exact List.pairwise_map.mpr (List.pairwise_map.mpr differ)

/-- A type with the methods that the members of a mapping define. -/
structure HasMethodsOf (type : HostType) (members : Entries)
    (definitions : List (String × Value)) : Prop where
  defined : List.Forall₂ Defines members definitions
  names : type.methodNames = firstNames (members.keys.map Scalar.plainText)
  bodies : ∀ name, type.methods.lookup name = lastBody? definitions name
  kept : type.methods = definitions ↔ (members.keys.map Scalar.plainText).Nodup
  /-- There are as many methods as members exactly if the keys have different texts. -/
  counted : type.methods.length = members.length ↔ (members.keys.map Scalar.plainText).Nodup

theorem hasMethodsOf_of_decode {position serial : Nat} {item : Data} {type : HostType}
    (read : decode position serial item = .ok type) :
    ∃ definitions, type.HasMethodsOf (methodMembers item) definitions := by
  obtain ⟨empty, definitions, noMethods, defined, rfl⟩ := exists_defineAll_of_decode read
  have noNames : empty.methodNames = [] := by rw [methodNames, noMethods]; rfl
  have definedNames := names_of_defines defined
  have names : (empty.defineAll definitions).methodNames =
      firstNames ((methodMembers item).keys.map Scalar.plainText) := by
    rw [methodNames_defineAll, noNames, List.nil_append, definedNames]
  refine ⟨definitions, defined, names, fun name => ?bodies, ⟨?lost, ?kept⟩, ?counted⟩
  case bodies => rw [lookup_defineAll, noMethods, List.nil_append]
  case lost =>
    intro same
    have stillDistinct := (empty.defineAll definitions).distinct
    rwa [same, definedNames] at stillDistinct
  case kept =>
    intro different
    rw [methods_defineAll_of_nodup (by rwa [noNames, List.nil_append, definedNames]), noMethods,
      List.nil_append]
  case counted =>
    have lengths : ((methodMembers item).keys.map Scalar.plainText).length =
        (methodMembers item).length := by
      rw [List.length_map, Entries.keys, List.length_map]
    rw [← length_firstNames_eq_iff, ← names, lengths, methodNames, List.length_map]

end HostType

namespace Registry

theorem exists_types_of_decodeTypes {given : List String} {registry filled : Registry}
    {position : Nat} {items : List Data}
    (read : (decodeTypes given registry position items).result = .ok filled) :
    ∃ types, List.Forall₂ (fun item type => ∃ position serial,
        HostType.decode position serial item = .ok type) items types ∧
      filled = types.foldl add registry := by
  induction items generalizing registry position with
  | nil => exact ⟨[], .nil, (Except.ok.inj read).symm⟩
  | cons item items inductionHypothesis =>
      rw [decodeTypes] at read
      cases typeRead : HostType.decode position (registry.nextSerial given) item with
      | error fault => rw [typeRead] at read; cases read
      | ok type =>
          rw [typeRead] at read
          obtain ⟨types, areRead, rfl⟩ := inductionHypothesis read
          exact ⟨type :: types, .cons ⟨_, _, typeRead⟩ areRead, rfl⟩

/-- A registry that was read has the types of the entries, registered one after the other. Each
member of a methods mapping defines a method of the type: the text of its key is the name, and the
node that its value is read as is the body. A name has one method, in the place of its first member
and with the body of its last. So the methods are those of the members, as many and in their order,
exactly if no two keys have the same text. Distinct keys that are texts never have. -/
theorem decode_defines_methods {document : Data} {registry : Registry}
    (read : (decode document).result = .ok registry) :
    ∃ (items : List Data) (types : List HostType), listedTypes document = some items ∧
      registry = types.foldl add {} ∧
      List.Forall₂ (fun item type =>
        let members := HostType.methodMembers item
        (∃ definitions, type.HasMethodsOf members definitions) ∧
          (members.Distinct → (∀ key ∈ members.keys, ∃ name, key = .text name) →
            (members.keys.map Scalar.plainText).Nodup)) items types := by
  unfold decode at read
  split at read
  case h_2 => cases read
  case h_1 items listed =>
    obtain ⟨types, areRead, filled⟩ := exists_types_of_decodeTypes read
    refine ⟨items, types, listed, filled, areRead.imp fun item type isRead => ?_⟩
    obtain ⟨_, _, typeRead⟩ := isRead
    exact ⟨HostType.hasMethodsOf_of_decode typeRead, HostType.nodup_texts_of_distinct⟩

/-- A class with a number and a text that reads the same among the keys of its methods. -/
def mergedTypes : Data :=
  .map [(.text "types", .list [.map [(.text "name", .text "A"),
    (.text "methods", .map [(.int 1, .map [(.text "kind", .text "nil")]),
      (.text "1", .map [(.text "kind", .text "true")])])]])]

/-- The class has one method, with the body of the last member. -/
def mergedRegistry : Registry :=
  { types := [{ name := "A"
                serial := firstSerial
                methods := [("1", .node ⟨.known .trueRef, .null, .null, .null, 0, none⟩)] }] }

theorem decode_defines_methods_mergedTypes :
    (decode mergedTypes).result = .ok mergedRegistry ∧
      ∃ (items : List Data) (types : List HostType), listedTypes mergedTypes = some items ∧
        mergedRegistry = types.foldl add {} ∧
        List.Forall₂ (fun item type => type.methodNames =
            firstNames ((HostType.methodMembers item).keys.map Scalar.plainText) ∧
          (type.methods.length = (HostType.methodMembers item).length ↔
            ((HostType.methodMembers item).keys.map Scalar.plainText).Nodup)) items types := by
  have read : (decode mergedTypes).result = .ok mergedRegistry := rfl
  obtain ⟨items, types, listed, filled, related⟩ := decode_defines_methods read
  exact ⟨read, items, types, listed, filled, related.imp
    fun _ _ ⟨⟨_, hasMethods⟩, _⟩ => ⟨hasMethods.names, hasMethods.counted⟩⟩

/-- Not every type that was read has as many methods as its entry has members. -/
theorem exists_decode_merges : ¬∀ (document : Data) (registry : Registry),
    (decode document).result = .ok registry →
      ∃ (items : List Data) (types : List HostType), listedTypes document = some items ∧
        registry = types.foldl add {} ∧
        List.Forall₂ (fun item type =>
            List.Forall₂ HostType.Defines (HostType.methodMembers item) type.methods)
          items types := by
  intro kept
  have read : (decode mergedTypes).result = .ok mergedRegistry := rfl
  obtain ⟨items, types, listed, filled, related⟩ := kept mergedTypes mergedRegistry read
  obtain rfl := Option.some.inj listed
  cases related with
  | @cons _ type _ _ defined rest =>
      cases rest
      have same : mergedRegistry.types = [type] := by rw [filled]; rfl
      obtain rfl := List.singleton_inj.mp same
      cases defined.length_eq

end Registry

end NodeForms
