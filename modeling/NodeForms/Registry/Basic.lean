import NodeForms.Registry.HostType
import NodeForms.Serialize.Log

/-!
# The registry of types

Types are registered under the names they are shown by, in the order of first
registration. Registering another type of the same name replaces the first one in its
place. Anonymous types have names of their own, so they never replace each other.
-/

namespace NodeForms

/-- The types of a host, in the order of first registration. -/
@[ext]
structure Registry where
  types : List HostType := []
  distinct : (types.map HostType.displayName).Nodup := by first | exact List.nodup_nil | simp

instance : Inhabited Registry := ⟨{}⟩

structure UnknownType where
  name : String
  known : List String
deriving DecidableEq, Repr

def UnknownType.message (unknown : UnknownType) : String :=
  "No type named " ++ quoted unknown.name ++ ". Known types: "
    ++ quotedList (sortedTexts unknown.known)

namespace Registry

def names (registry : Registry) : List String := registry.types.map HostType.displayName

theorem nodup_names (registry : Registry) : registry.names.Nodup := registry.distinct

def size (registry : Registry) : Nat := registry.types.length

def contains (registry : Registry) (name : String) : Bool :=
  registry.types.any fun type => type.displayName == name

def find? (registry : Registry) (name : String) : Option HostType :=
  registry.types.find? fun type => type.displayName == name

def get (registry : Registry) (name : String) : Except UnknownType HostType :=
  match registry.find? name with
  | some type => .ok type
  | none => .error ⟨name, registry.names⟩

/-- Register a type, in the place of the one that has its name if there is one. -/
def add (registry : Registry) (type : HostType) : Registry :=
  ⟨placeBy HostType.displayName type registry.types, nodup_placeBy registry.distinct⟩

@[simp] theorem types_add (registry : Registry) (type : HostType) :
    (registry.add type).types = placeBy HostType.displayName type registry.types := rfl

def addRecords (registry : Registry) (type : HostType) : List LogRecord :=
  if registry.contains type.displayName then
    [⟨.debug, .registry, "Replacing type " ++ quoted type.displayName⟩]
  else []

/-- The serial number of the first type. Serial numbers are large, so that names made from
them do not look like given ones. -/
def firstSerial : Nat := 140000000000000

/-- The first serial number from a given one on that stands for none of the names taken, if
one of so many in a row does not. -/
def freeSerial (taken : List String) : Nat → Nat → Nat
  | 0, serial => serial
  | count + 1, serial =>
      if anonymousName serial ∈ taken then freeSerial taken count (serial + 1) else serial

/-- A serial number that stands for no registered type and for none of the names that are still
to be given. -/
def nextSerial (registry : Registry) (given : List String) : Nat :=
  let taken := registry.names ++ given
  freeSerial taken taken.length (firstSerial + registry.size)

def newType (registry : Registry) (name : String) (superclass : Option String)
    (isModule : Bool) : HostType :=
  { name, serial := registry.nextSerial [], superclass, isModule }

def display (registry : Registry) : String :=
  "Runtime(types=" ++ quotedList (sortedTexts registry.names) ++ ")"

end Registry

end NodeForms
