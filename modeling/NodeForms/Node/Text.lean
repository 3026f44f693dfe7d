import NodeForms.Document.Json.Reader
import NodeForms.Document.Json.Writer
import NodeForms.Document.Yaml.Fault
import NodeForms.Node.Decode
import NodeForms.Node.Encode

/-!
# Nodes as texts

A node document can be written as JSON or as YAML. Reading a text first gives document data, which
is then read as a node; writing goes the other way. How YAML is read and written is a parameter.
-/

namespace NodeForms

def EncodeFault.ofWrite : Json.WriteFault → EncodeFault
  | .noForm => .noForm
  | .selfContaining => .selfContaining

namespace Node

/-- Read a node from a JSON text. -/
def ofJson (text : String) : Except DecodeError Node :=
  match Json.read text with
  | none => .error (.document .invalidJson)
  | some content => decode content

def ofYaml (readYaml : String → Except Yaml.Fault Data) (text : String) : Except DecodeError Node :=
  match readYaml text with
  | .error fault => .error (.ofYaml fault)
  | .ok content => decode content

def toJson (node : Node) (style : Json.Style) : Except EncodeFault String := do
  let content ← node.encode
  (Json.write style content).mapError .ofWrite

def toYaml (writeYaml : Data → String) (node : Node) : Except EncodeFault String :=
  node.encode.map writeYaml

end Node

end NodeForms
