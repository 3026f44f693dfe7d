import NodeForms.Proofs.Registry.Methods
import Mathlib.Data.Finset.Dedup
import Mathlib.Data.Finset.Card

/-!
# Histories of registrations

The types of a registry are what is left of the types that were registered in it: for each name they
are shown under the one registered last, in the place of the first. New anonymous types never take
the place of another. So a registry that is read from a document has all the anonymous types of the
document, and one that is filled by calls has all that were registered in it, as long as no two of
them are one and no given name is made from a serial number.
-/

namespace NodeForms

def lastNamed? (history : List HostType) (name : String) : Option HostType :=
  history.reverse.find? fun type => type.displayName == name

theorem lastNamed?_concat (history : List HostType) (type : HostType) (name : String) :
    lastNamed? (history ++ [type]) name =
      if type.displayName = name then some type else lastNamed? history name := by
  rw [lastNamed?, List.reverse_concat, List.find?_cons]
  by_cases same : type.displayName = name
  · rw [if_pos same, beq_iff_eq.mpr same]
  · rw [if_neg same, beq_eq_false_iff_ne.mpr same]
    rfl

theorem of_lastNamed? {history : List HostType} {name : String} {type : HostType}
    (last : lastNamed? history name = some type) : type ∈ history ∧ type.displayName = name :=
  ⟨List.mem_reverse.mp (List.mem_of_find?_eq_some last), by simpa using List.find?_some last⟩

theorem length_firstNames (names : List String) :
    (firstNames names).length = names.toFinset.card := by
  rw [firstNames, List.length_reverse, ← List.card_toFinset, List.toFinset_reverse]

section

variable {α : Type} {name : α → String} {item : α} {items : List α}

theorem mem_placeBy_self : item ∈ placeBy name item items := by
  induction items with
  | nil => exact List.mem_singleton_self item
  | cons other items inductionHypothesis =>
      rw [placeBy]
      split
      · exact List.mem_cons_self
      · exact List.mem_cons_of_mem _ inductionHypothesis

theorem mem_placeBy_of_nodup {other : α} (distinct : (items.map name).Nodup)
    (member : other ∈ placeBy name item items) :
    other = item ∨ other ∈ items ∧ name other ≠ name item := by
  by_cases same : name other = name item
  · exact .inl (List.inj_on_of_nodup_map (nodup_placeBy distinct) member mem_placeBy_self same)
  · refine .inr ⟨(mem_of_mem_placeBy member).resolve_left fun isItem => ?_, same⟩
    exact same (congrArg name isItem)

/-- Elements that are told by something other than the name stay if an element that is not among
them takes the place of one that is not. -/
theorem filter_placeBy {isTold : α → Bool} (notItem : isTold item = false)
    (notReplaced : ∀ other ∈ items, name other = name item → isTold other = false) :
    (placeBy name item items).filter isTold = items.filter isTold := by
  induction items with
  | nil => simp [placeBy, notItem]
  | cons other items inductionHypothesis =>
      rw [List.forall_mem_cons] at notReplaced
      rw [placeBy]
      split
      case isTrue same =>
        simp [notItem, notReplaced.1 same]
      case isFalse =>
        rw [List.filter_cons, List.filter_cons, inductionHypothesis notReplaced.2]

end

namespace Registry

/-- A registry in which, of the types of a history, those are left that were registered last under
their names. -/
structure Keeps (registry : Registry) (history : List HostType) : Prop where
  /-- The types stand in the order in which their names came first, one for each name. -/
  types : List.Forall₂ (fun name type => lastNamed? history name = some type)
    (firstNames (history.map HostType.displayName)) registry.types
  size : registry.size = (history.map HostType.displayName).toFinset.card
  /-- Under the names of the history, and no others, a type is registered. -/
  contains : ∀ name, registry.contains name = true ↔ name ∈ history.map HostType.displayName
  found : ∀ name, registry.contains name = true →
    ∃ type, lastNamed? history name = some type ∧ registry.get name = .ok type
  /-- Under any other name nothing is found, and the complaint lists the names that there are. -/
  missing : ∀ name, registry.contains name = false →
    registry.get name = .error ⟨name, registry.names⟩

variable {registry : Registry} {history : List HostType} {type : HostType}

theorem names_add (names : registry.names = firstNames (history.map HostType.displayName)) :
    (registry.add type).names = firstNames ((history ++ [type]).map HostType.displayName) := by
  rw [List.map_append, List.map_singleton, firstNames_concat, ← names, Registry.names,
    Registry.names, types_add]
  have isTaken_iff : type.displayName ∈ registry.types.map HostType.displayName ↔
      type.displayName ∈ history.map HostType.displayName := by
    have same : registry.types.map HostType.displayName =
        firstNames (history.map HostType.displayName) := names
    rw [same, mem_firstNames]
  split
  case isTrue isTaken => exact map_placeBy_of_mem (isTaken_iff.mpr isTaken)
  case isFalse isNew =>
    rw [placeBy_of_not_mem (mt isTaken_iff.mp isNew), List.map_append, List.map_singleton]

theorem lastNamed?_add
    (last : ∀ type ∈ registry.types, lastNamed? history type.displayName = some type) :
    ∀ other ∈ (registry.add type).types,
      lastNamed? (history ++ [type]) other.displayName = some other := by
  intro other member
  rw [lastNamed?_concat]
  rcases mem_placeBy_of_nodup registry.distinct member with rfl | ⟨isOld, different⟩
  · exact if_pos rfl
  · rw [if_neg (Ne.symm different), last other isOld]

theorem names_last_foldl (history : List HostType) :
    (history.foldl add {}).names = firstNames (history.map HostType.displayName) ∧
      ∀ type ∈ (history.foldl add {}).types,
        lastNamed? history type.displayName = some type := by
  induction history using List.reverseRecOn with
  | nil => exact ⟨rfl, by simp⟩
  | append_singleton history type inductionHypothesis =>
      obtain ⟨names, last⟩ := inductionHypothesis
      rw [List.foldl_concat]
      exact ⟨names_add names, lastNamed?_add last⟩

theorem contains_iff (name : String) : registry.contains name = true ↔ name ∈ registry.names := by
  simp [contains, names]

theorem get_of_contains {name : String} (isTaken : registry.contains name = true) :
    ∃ type ∈ registry.types, type.displayName = name ∧ registry.get name = .ok type := by
  obtain ⟨other, isType, shown⟩ := List.any_eq_true.mp isTaken
  have isFound : (registry.find? name).isSome = true := List.find?_isSome.mpr ⟨other, isType, shown⟩
  obtain ⟨type, found⟩ := Option.isSome_iff_exists.mp isFound
  exact ⟨type, List.mem_of_find?_eq_some found, by simpa using List.find?_some found,
    by rw [get, found]⟩

theorem get_of_not_contains {name : String} (isFree : registry.contains name = false) :
    registry.get name = .error ⟨name, registry.names⟩ := by
  have missing : registry.find? name = none := by
    rw [find?, List.find?_eq_none]
    exact List.any_eq_false.mp isFree
  rw [get, missing]

theorem keeps_foldl (history : List HostType) : Keeps (history.foldl add {}) history := by
  obtain ⟨names, last⟩ := names_last_foldl history
  have contained (name : String) : (history.foldl add {}).contains name = true ↔
      name ∈ history.map HostType.displayName := by
    rw [contains_iff, names, mem_firstNames]
  refine ⟨?types, ?size, contained, fun name isTaken => ?found, fun _ => get_of_not_contains⟩
  case types =>
    rw [← names, Registry.names, List.forall₂_map_left_iff, List.forall₂_same]
    exact last
  case size =>
    rw [← length_firstNames, ← names, Registry.names, List.length_map, Registry.size]
  case found =>
    obtain ⟨type, isType, rfl, found⟩ := get_of_contains isTaken
    exact ⟨type, last type isType, found⟩

/-- A call that registers a type: one that is given, or a new one without methods. -/
inductive Registration where
  | add (type : HostType)
  | define (name : String) (superclass : Option String) (isModule : Bool)

/-- The type that a call registers and gives back. -/
def Registration.result (registry : Registry) : Registration → HostType
  | .add type => type
  | .define name superclass isModule => registry.newType name superclass isModule

/-- A registry after calls, one after the other. -/
def registerAll (registry : Registry) (calls : List Registration) : Registry :=
  calls.foldl (fun registry call => registry.add (call.result registry)) registry

/-- The types that calls register, one after the other. -/
def registered (registry : Registry) : List Registration → List HostType
  | [] => []
  | call :: calls =>
      call.result registry :: registered (registry.add (call.result registry)) calls

theorem registerAll_eq_foldl (registry : Registry) (calls : List Registration) :
    registry.registerAll calls = (registry.registered calls).foldl add registry := by
  induction calls generalizing registry with
  | nil => rfl
  | cons call calls inductionHypothesis => exact inductionHypothesis _

theorem types_add_of_not_mem (isNew : type.displayName ∉ registry.names) :
    (registry.add type).types = registry.types ++ [type] :=
  placeBy_of_not_mem isNew

theorem displayName_of_anonymous (anonymous : type.name = "") :
    type.displayName = anonymousName type.serial := if_pos anonymous

theorem types_add_newType (registry : Registry) (superclass : Option String) (isModule : Bool) :
    (registry.add (registry.newType "" superclass isModule)).types =
      registry.types ++ [registry.newType "" superclass isModule] := by
  have shown : (registry.newType "" superclass isModule).displayName =
      anonymousName (registry.nextSerial []) := rfl
  exact types_add_of_not_mem (shown ▸ (registry.anonymousName_nextSerial_not_mem []).1)

/-- A history in which anonymous types are told apart by their serial numbers, and no name that
is given is made from one of these. -/
structure TellsApart (history : List HostType) : Prop where
  serials : ∀ first ∈ history, ∀ second ∈ history, first.name = "" → second.name = "" →
    first.serial = second.serial → first = second
  given : ∀ anonymous ∈ history, anonymous.name = "" → ∀ named ∈ history, named.name ≠ "" →
    named.name ≠ anonymous.displayName

theorem Keeps.mem_of_anonymous (keeps : registry.Keeps history) (apart : TellsApart history)
    (isMember : type ∈ history) (anonymous : type.name = "") : type ∈ registry.types := by
  have isTaken : registry.contains type.displayName = true :=
    (keeps.contains _).mpr (List.mem_map_of_mem isMember)
  obtain ⟨found, isType, -, isFound⟩ := get_of_contains isTaken
  obtain ⟨other, last, isOther⟩ := keeps.found _ isTaken
  obtain rfl := Except.ok.inj (isFound.symm.trans isOther)
  obtain ⟨isOld, shown⟩ := of_lastNamed? last
  suffices found = type from this ▸ isType
  by_cases alsoAnonymous : found.name = ""
  · refine apart.serials found isOld type isMember alsoAnonymous anonymous ?_
    rw [displayName_of_anonymous anonymous, displayName_of_anonymous alsoAnonymous] at shown
    exact anonymousName_injective shown
  · refine absurd ?_ (apart.given type isMember anonymous found isOld alsoAnonymous)
    rw [← shown]
    exact (if_neg alsoAnonymous).symm

/-- The anonymous types among some. -/
def anonymousTypes (types : List HostType) : List HostType :=
  types.filter fun type => type.name == ""

end Registry

theorem HostType.serial_name_of_decode {position serial : Nat} {item : Data} {type : HostType}
    (read : decode position serial item = .ok type) : type.serial = serial ∧
      (type.name ≠ "" → Registry.givenName? item = some type.name) := by
  unfold decode at read
  split at read
  case h_1 entries isMap =>
    obtain ⟨-, -, read⟩ := bind_eq_ok.mp read
    unfold decodeEntries at read
    obtain ⟨name, isName, read⟩ := bind_eq_ok.mp read
    obtain ⟨superclass, -, read⟩ := bind_eq_ok.mp read
    split at read
    · cases read
    · obtain ⟨members, -, read⟩ := bind_eq_ok.mp read
      obtain ⟨definitions, -, filled⟩ := decodeMethods_eq_ok_iff.mp read
      rw [defineAll_eq] at filled
      subst filled
      refine ⟨rfl, fun isGiven => ?_⟩
      have isText : Entries.get? entries "name" = some (.text name) := by
        unfold decodeName at isName
        split at isName
        case h_1 => exact absurd (Except.ok.inj isName).symm isGiven
        case h_2 found =>
          obtain rfl := Except.ok.inj isName
          exact found
        case h_3 =>
          split at isName
          · cases isName
          · exact absurd (Except.ok.inj isName).symm isGiven
      simp [Registry.givenName?, isMap, isText, Data.text]
  case h_2 => cases read

namespace Registry

variable {registry : Registry} {type : HostType}

theorem anonymousTypes_add {given : List String} (serial : type.serial = registry.nextSerial given)
    (named : type.name ≠ "" → type.name ∈ given)
    (apart : ∀ type ∈ anonymousTypes registry.types, type.displayName ∉ given) :
    anonymousTypes (registry.add type).types =
      anonymousTypes registry.types ++ anonymousTypes [type] := by
  by_cases anonymous : type.name = ""
  · have isNew : type.displayName ∉ registry.names := by
      rw [displayName_of_anonymous anonymous, serial]
      exact (registry.anonymousName_nextSerial_not_mem given).1
    rw [types_add_of_not_mem isNew]
    exact List.filter_append registry.types [type]
  · have noneAdded : anonymousTypes [type] = [] := by simp [anonymousTypes, anonymous]
    have shown : type.displayName = type.name := if_neg anonymous
    rw [noneAdded, List.append_nil, types_add]
    refine filter_placeBy (by simpa using anonymous) fun other isType same => ?_
    by_contra isAnonymous
    have isOld : other ∈ anonymousTypes registry.types :=
      List.mem_filter.mpr ⟨isType, by simpa using isAnonymous⟩
    exact apart other isOld (same ▸ shown ▸ named anonymous)

/-- What is read from entries is registered one by one. An anonymous type has a name of its own,
which no entry gives, so no type takes its place. -/
theorem anonymousTypes_of_decodeTypes {given : List String} {registry filled : Registry}
    {position : Nat} {items : List Data}
    (isGiven : ∀ item ∈ items, ∀ name, givenName? item = some name → name ∈ given)
    (apart : ∀ type ∈ anonymousTypes registry.types, type.displayName ∉ given)
    (read : (decodeTypes given registry position items).result = .ok filled) :
    ∃ types, List.Forall₂ (fun item type => ∃ position serial,
        HostType.decode position serial item = .ok type) items types ∧
      filled = types.foldl add registry ∧
        anonymousTypes filled.types = anonymousTypes registry.types ++ anonymousTypes types := by
  induction items generalizing registry position with
  | nil =>
      obtain rfl := Except.ok.inj read
      exact ⟨[], .nil, rfl, (List.append_nil _).symm⟩
  | cons item items inductionHypothesis =>
      rw [List.forall_mem_cons] at isGiven
      rw [decodeTypes] at read
      cases typeRead : HostType.decode position (registry.nextSerial given) item with
      | error fault => rw [typeRead] at read; cases read
      | ok type =>
          rw [typeRead] at read
          obtain ⟨serial, named⟩ := HostType.serial_name_of_decode typeRead
          have added := anonymousTypes_add serial (fun isNamed => isGiven.1 _ (named isNamed)) apart
          have stillApart : ∀ other ∈ anonymousTypes (registry.add type).types,
              other.displayName ∉ given := by
            rw [added, List.forall_mem_append]
            refine ⟨apart, fun other isMember => ?_⟩
            obtain ⟨isNew, isAnonymous⟩ := List.mem_filter.mp isMember
            obtain rfl := List.mem_singleton.mp isNew
            rw [displayName_of_anonymous (by simpa using isAnonymous), serial]
            exact (registry.anonymousName_nextSerial_not_mem given).2
          obtain ⟨types, areRead, rfl, anonymous⟩ := inductionHypothesis isGiven.2 stillApart read
          refine ⟨type :: types, .cons ⟨_, _, typeRead⟩ areRead, rfl, ?_⟩
          rw [anonymous, added, List.append_assoc]
          exact congrArg _ (List.filter_append [type] types).symm

/-- Of the types that calls register, and of those that the entries of a document give, a registry
keeps for each name the one registered last, in the place of the first. A new anonymous type is
added to all that are there. So every anonymous type that is registered stays, if serial numbers
tell them apart and no given name is made from one, and those of a document always do. -/
theorem registrations_kept :
    (∀ calls : List Registration,
      Keeps (registerAll {} calls) (registered {} calls) ∧
      (∀ superclass isModule, (registerAll {} (calls ++ [.define "" superclass isModule])).types =
        (registerAll {} calls).types ++ [(registerAll {} calls).newType "" superclass isModule]) ∧
      (TellsApart (registered {} calls) → ∀ type ∈ registered {} calls, type.name = "" →
        type ∈ (registerAll {} calls).types)) ∧
    ∀ (document : Data) (registry : Registry), (decode document).result = .ok registry →
      ∃ items types, listedTypes document = some items ∧
        List.Forall₂ (fun item type => ∃ position serial,
          HostType.decode position serial item = .ok type) items types ∧
        registry.Keeps types ∧
          anonymousTypes registry.types = anonymousTypes types := by
  constructor
  · intro calls
    have keeps : Keeps (registerAll {} calls) (registered {} calls) :=
      registerAll_eq_foldl {} calls ▸ keeps_foldl _
    refine ⟨keeps, fun superclass isModule => ?_, fun apart type isMember anonymous =>
      keeps.mem_of_anonymous apart isMember anonymous⟩
    have last : registerAll {} (calls ++ [.define "" superclass isModule]) =
        (registerAll {} calls).add ((registerAll {} calls).newType "" superclass isModule) :=
      List.foldl_concat ..
    rw [last, types_add_newType]
  · intro document registry read
    unfold decode at read
    split at read
    case h_1 items listed =>
      have isGiven : ∀ item ∈ items, ∀ name, givenName? item = some name →
          name ∈ items.filterMap givenName? := fun item isItem name gives =>
        List.mem_filterMap.mpr ⟨item, isItem, gives⟩
      obtain ⟨types, areRead, rfl, anonymous⟩ :=
        anonymousTypes_of_decodeTypes isGiven (by simp [anonymousTypes]) read
      exact ⟨items, types, listed, areRead, keeps_foldl types,
        by simpa [anonymousTypes] using anonymous⟩
    case h_2 => cases read

/-- A class, an anonymous class, a module in the place of the first one, and another anonymous
class. -/
def mixedCalls : List Registration :=
  [.define "A" (some "Object") false, .define "" none false,
    .add { name := "A", serial := 7, isModule := true }, .define "" (some "A") false]

/-- The same types as a document gives them. -/
def mixedDocument : Data :=
  .map [(.text "types", .list [
    .map [(.text "name", .text "A"), (.text "superclass", .text "Object")],
    .map [],
    .map [(.text "name", .text "A"), (.text "module", .scalar (.bool true))],
    .map [(.text "superclass", .text "A")]])]

theorem registrations_kept_mixed :
    TellsApart (registered {} mixedCalls) ∧
      (∀ type ∈ registered {} mixedCalls, type.name = "" →
        type ∈ (registerAll {} mixedCalls).types) ∧
      (∃ registry types, (decode mixedDocument).result = .ok registry ∧
        registry.Keeps types ∧ anonymousTypes registry.types = anonymousTypes types) := by
  have history : registered {} mixedCalls =
      [{ name := "A", serial := 140000000000000, superclass := some "Object" },
        { name := "", serial := 140000000000001 }, { name := "A", serial := 7, isModule := true },
        { name := "", serial := 140000000000002, superclass := some "A" }] := rfl
  have apart : TellsApart (registered {} mixedCalls) := by
    rw [history]
    constructor
    · simp
    · have different (serial : Nat) : "A" ≠ anonymousName serial := by
        intro same
        have heads : "A".toList.head? = (anonymousName serial).toList.head? := by rw [← same]
        simp [anonymousName] at heads
      simp [HostType.displayName, different]
  obtain ⟨ofCalls, ofDocuments⟩ := registrations_kept
  have read : (decode mixedDocument).result = .ok
      { types := [{ name := "A", serial := 140000000000002, isModule := true },
          { name := "", serial := 140000000000001 },
          { name := "", serial := 140000000000002, superclass := some "A" }]
        distinct := by decide +kernel } := rfl
  obtain ⟨_, types, -, -, keeps, anonymous⟩ := ofDocuments mixedDocument _ read
  exact ⟨apart, (ofCalls mixedCalls).2.2 apart, _, types, read, keeps, anonymous⟩

end Registry

end NodeForms
