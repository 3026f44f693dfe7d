import NodeForms.Node.Decode
import NodeForms.Registry.Basic

/-!
# Reading types from documents

A runtime document is a mapping with a list of types. A type is a mapping with a name, a
superclass, a mark for modules, and its methods by name; an absent or empty name makes an
anonymous type. Types are registered one by one, and the first fault is reported.
-/

namespace NodeForms

namespace HostType

def keyNames : List String := ["name", "superclass", "module", "methods"]

def checkKeys (position : Nat) (entries : Entries) : Except DecodeError Unit :=
  let unknown := entries.keys.filter fun key => !keyNames.any fun name => key == .text name
  if unknown.isEmpty then .ok ()
  else
    match listedKeys unknown with
    | .error error => .error error
    | .ok shown => .error (.document (.typeKeys position shown))

def decodeName (position : Nat) : Option Data → Except DecodeError String
  | none => .ok ""
  | some (.scalar (.text name)) => .ok name
  | some other =>
      if other.isTruthy then .error (.document (.typeNameMistyped position)) else .ok ""

def decodeSuperclass (name : String) : Option Data → Except DecodeError (Option String)
  | none => .ok none
  | some (.scalar .null) => .ok none
  | some (.scalar (.text superclass)) => .ok (some superclass)
  | some _ => .error (.document (.superclassMistyped name))

def methodEntries (name : String) : Option Data → Except DecodeError Entries
  | none => .ok []
  | some value =>
      match value.bare with
      | .map entries => .ok entries
      | other => if other.isTruthy then .error (.document (.methodsMistyped name)) else .ok []

def methodError (typeName methodName : String) : DecodeError → DecodeError
  | .document fault => .document (.method typeName methodName fault)
  | other => other

/-- Read methods in the order written and define them on a type. -/
def decodeMethods (type : HostType) : Entries → Except DecodeError HostType
  | [] => .ok type
  | (key, body) :: rest =>
      match Node.decode body with
      | .error error => .error (methodError type.name key.plainText error)
      | .ok node => decodeMethods (type.define key.plainText (.node node)) rest

def decodeEntries (position serial : Nat) (entries : Entries) : Except DecodeError HostType := do
  let name ← decodeName position (entries.get? "name")
  let isModule := (entries.get? "module").any Data.isTruthy
  let superclass ← decodeSuperclass name (entries.get? "superclass")
  if isModule ∧ superclass.isSome then
    .error (.document (.moduleSuperclass name))
  let methods ← methodEntries name (entries.get? "methods")
  decodeMethods { name, serial, superclass, isModule } methods

/-- Read the type at a position of a document. -/
def decode (position serial : Nat) (item : Data) : Except DecodeError HostType :=
  match item.bare with
  | .map entries => do
      checkKeys position entries
      decodeEntries position serial entries
  | _ => .error (.document (.typeExpected position))

end HostType

/-- What reading a runtime document comes to. -/
structure RegistryReading where
  records : List LogRecord := []
  result : Except DecodeError Registry

namespace Registry

def givenName? (item : Data) : Option String :=
  match item.bare with
  | .map entries =>
      match Entries.get? entries "name" with
      | some (.scalar (.text name)) => some name
      | _ => none
  | _ => none

/-- Read types from a position of a document on and register them. An anonymous type has a
serial number that stands for none of the names given in the document. -/
def decodeTypes (given : List String) (registry : Registry) (position : Nat) :
    List Data → RegistryReading
  | [] => ⟨[], .ok registry⟩
  | item :: items =>
      match HostType.decode position (registry.nextSerial given) item with
      | .error error => ⟨[], .error error⟩
      | .ok type =>
          let reading := decodeTypes given (registry.add type) (position + 1) items
          ⟨registry.addRecords type ++ reading.records, reading.result⟩

/-- The types a runtime document lists. -/
def listedTypes (document : Data) : Option (List Data) :=
  match document.bare with
  | .map entries =>
      match (Entries.get? entries "types").map Data.bare with
      | some (.list items) => some items
      | _ => none
  | _ => none

/-- Read a runtime document. -/
def decode (document : Data) : RegistryReading :=
  match listedTypes document with
  | some items => decodeTypes (items.filterMap givenName?) {} 0 items
  | none => ⟨[], .error (.document .typesExpected)⟩

end Registry

end NodeForms
