import NodeForms.Document.Yaml.Fault
import NodeForms.Settings.Basic
import NodeForms.Source.Files

/-!
# Loading settings

Settings come from a file that is named, or from the default file if there is one. The environment
is asked last. A named file has to exist. How its YAML is read is a parameter.
-/

namespace NodeForms

abbrev Environment := List (String × String)

def Environment.get? (environment : Environment) (name : String) : Option String :=
  (environment.find? fun entry => entry.1 == name).map Prod.snd

inductive SettingsFailure where
  | error (error : SettingsError)
  | unreadable (fault : ReadFault)
  /-- A name that is no setting is no text, so that the names cannot be listed. -/
  | nameMistyped
  | value (fault : Yaml.Fault)
deriving DecidableEq, Repr

def SettingsFailure.ofYaml (path : String) : Yaml.Fault → SettingsFailure
  | .malformed => .error ⟨.invalidYaml, some (plainPath path)⟩
  | fault => .value fault

def SettingsFailure.ofDecode (path : String) : Settings.DecodeFault → SettingsFailure
  | .settings fault => .error ⟨fault, some (plainPath path)⟩
  | .nameMistyped => .nameMistyped

namespace Settings

def configure (path : String) (environment : Environment) (content : Data) :
    Except SettingsFailure Settings :=
  match ofData content with
  | .error fault => .error (.ofDecode path fault)
  | .ok settings =>
      match settings.withFlag (environment.get? flagName) with
      | .error fault => .error (.error ⟨fault, none⟩)
      | .ok settings => .ok settings

/-- The document in a file. -/
def readContent (readYaml : String → Except Yaml.Fault Data) (files : Files) (path : String) :
    Except SettingsFailure Data :=
  match files.readText path with
  | .error fault => .error (.unreadable fault)
  | .ok text =>
      match readYaml text with
      | .error fault => .error (.ofYaml path fault)
      | .ok content => .ok content

/-- Load settings from a named file, or from the default file if there is one. -/
def load (readYaml : String → Except Yaml.Fault Data) (files : Files) (environment : Environment)
    (path : Option String) : Except SettingsFailure Settings :=
  let place := path.getD defaultFile
  if files.contains place then do
    let content ← readContent readYaml files place
    configure place environment content
  else if path.isSome then .error (.error ⟨.fileMissing, some (plainPath place)⟩)
  else configure place environment .null

end Settings

end NodeForms
