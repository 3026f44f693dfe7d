import NodeForms.Document.Error
import NodeForms.Document.Yaml.Fault
import NodeForms.Registry.Decode
import NodeForms.Source.Files

/-!
# Loading types from files

A runtime document in a file is written as YAML; a JSON document is one too. How YAML is read is a
parameter. Errors name the file.
-/

namespace NodeForms

/-- Why a file is not loaded. -/
inductive LoadFault where
  | document (error : DocumentError)
  | keysWithoutOrder
  | value (fault : Yaml.Fault)
  | noText
deriving DecidableEq, Repr

def LoadFault.ofDecode (path : String) : DecodeError → LoadFault
  | .document fault => .document ⟨fault, some (plainPath path)⟩
  | .keysWithoutOrder => .keysWithoutOrder
  | .value fault => .value fault

def LoadFault.ofRead (path : String) : ReadFault → LoadFault
  | .file fault => .document ⟨.unreadable fault.reason, some (plainPath path)⟩
  | .noText => .noText

/-- What loading a file comes to. -/
structure RegistryLoad where
  records : List LogRecord := []
  result : Except LoadFault Registry

namespace Registry

def loadRecord (registry : Registry) (path : String) : LogRecord :=
  ⟨.debug, .registry,
    "Loaded " ++ naturalText registry.size ++ " type(s) from " ++ plainPath path⟩

def ofYaml (readYaml : String → Except Yaml.Fault Data) (path text : String) : RegistryLoad :=
  match readYaml text with
  | .error fault => ⟨[], .error (.ofDecode path (.ofYaml fault))⟩
  | .ok content =>
      let reading := decode content
      match reading.result with
      | .error error => ⟨reading.records, .error (.ofDecode path error)⟩
      | .ok registry => ⟨reading.records ++ [registry.loadRecord path], .ok registry⟩

def load (readYaml : String → Except Yaml.Fault Data) (files : Files) (path : String) :
    RegistryLoad :=
  match files.readText path with
  | .error fault => ⟨[], .error (.ofRead path fault)⟩
  | .ok text => ofYaml readYaml path text

end Registry

end NodeForms
