import NodeForms.Document.Order
import NodeForms.Document.Display
import NodeForms.Document.Yaml.Fault
import NodeForms.Node.Check

/-!
# Faults of documents

Why a document cannot be given a meaning. A fault is either one this library describes,
with its own wording, or a comparison of keys that have no common order.
-/

namespace NodeForms

/-- What is wrong with a document. -/
inductive DocumentFault where
  | nodeExpected (typeName : String)
  | kindMissing (shown : String)
  | kindUnknown (shown : String)
  | kindMistyped (shown : String)
  | roleUnknown (tag shown : String) (known : List String)
  | nodeListExpected (role : String)
  | literalKeys (role : String)
  | tableKeys (role : String)
  | namesExpected (role : String)
  | selectorKeys (role : String)
  | closureExpected (role : String)
  | closureKeys (shown : String)
  | lineMistyped (shown : String)
  | fileMistyped (shown : String)
  | slot (fault : SlotFault)
  | typesExpected
  | typeExpected (position : Nat)
  | typeKeys (position : Nat) (shown : String)
  | typeNameMistyped (position : Nat)
  | superclassMistyped (name : String)
  | moduleSuperclass (name : String)
  | methodsMistyped (name : String)
  | method (typeName methodName : String) (fault : DocumentFault)
  | invalidJson
  | invalidYaml
  | unreadable (reason : String)
deriving DecidableEq, Repr

namespace DocumentFault

def message : DocumentFault → String
  | .nodeExpected typeName => "Expected a node mapping, got " ++ typeName
  | .kindMissing shown => "Node mapping needs a 'kind', got " ++ shown
  | .kindUnknown shown => "Unknown node kind " ++ shown
  | .kindMistyped shown => "Node kind must be a name or an integer, got " ++ shown
  | .roleUnknown tag shown known =>
      quoted tag ++ " node has no slot named " ++ shown ++ "; expected one of "
        ++ quotedList (sortedTexts known)
  | .nodeListExpected role => "Slot " ++ quoted role ++ " expects a list of nodes"
  | .literalKeys role => "Slot " ++ quoted role ++ " literal must be 'sym' or 'regex'"
  | .tableKeys role => "Slot " ++ quoted role ++ " table mapping expects only 'names'"
  | .namesExpected role => "Slot " ++ quoted role ++ " expects a list of names"
  | .selectorKeys role => "Slot " ++ quoted role ++ " expects 'attr' and 'operator'"
  | .closureExpected role => "Slot " ++ quoted role ++ " expects a closure mapping"
  | .closureKeys shown => "Unknown closure keys: " ++ shown
  | .lineMistyped shown => "'line' must be an integer, got " ++ shown
  | .fileMistyped shown => "'file' must be a string, got " ++ shown
  | .slot fault => fault.message
  | .typesExpected => "Runtime document must be a mapping with a 'types' list"
  | .typeExpected position => "Type entry #" ++ naturalText position ++ " must be a mapping"
  | .typeKeys position shown =>
      "Type entry #" ++ naturalText position ++ " has unknown keys: " ++ shown
  | .typeNameMistyped position =>
      "Type entry #" ++ naturalText position ++ ": 'name' must be a string"
  | .superclassMistyped name => "Type " ++ quoted name ++ ": 'superclass' must be a string"
  | .moduleSuperclass name => "Module " ++ quoted name ++ " cannot have a superclass"
  | .methodsMistyped name => "Type " ++ quoted name ++ ": 'methods' must be a mapping"
  | .method typeName methodName fault =>
      (if typeName = "" then "<anonymous>" else typeName) ++ "#" ++ methodName ++ ": "
        ++ fault.message
  | .invalidJson => "Invalid JSON"
  | .invalidYaml => "Invalid YAML"
  | .unreadable reason => "Cannot read document: " ++ reason

end DocumentFault

/-- Why decoding stops. -/
inductive DecodeError where
  | document (fault : DocumentFault)
  | keysWithoutOrder
  | value (fault : Yaml.Fault)
deriving DecidableEq, Repr

def DecodeError.ofYaml : Yaml.Fault → DecodeError
  | .malformed => .document .invalidYaml
  | fault => .value fault

def listedKeys (keys : List Scalar) : Except DecodeError String :=
  match Scalar.sorted? keys with
  | some ordered => .ok ("[" ++ ", ".intercalate (ordered.map Scalar.display) ++ "]")
  | none => .error .keysWithoutOrder

end NodeForms
