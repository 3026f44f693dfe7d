import NodeForms.Document.Display
import NodeForms.Document.Error
import NodeForms.Serialize.Log
import NodeForms.Text.Blank
import NodeForms.Text.Case

/-!
# Settings

Settings are a mapping of three names, each of which may be absent: whether line markers
are written, how many nodes a method may have, and from which level on log records are
shown. A variable of the environment can override the first of them. A document without
content leaves every setting at its default.
-/

namespace NodeForms

/-- The settings of a run. -/
structure Settings where
  markers : Bool := false
  limit : Option Int := none
  level : LogLevel := .warning
deriving DecidableEq, Repr, Inhabited

/-- What is wrong with settings. -/
inductive SettingsFault where
  | invalidYaml
  | fileMissing
  | mappingExpected
  | unknownNames (names : List String)
  | markersMistyped
  | limitMistyped
  | levelUnknown
  | flagUnknown (shown : String)
deriving DecidableEq, Repr

namespace Settings

def markersName : String := "include_line_markers"

def limitName : String := "node_limit"

def levelName : String := "log_level"

def names : List String := [markersName, limitName, levelName]

/-- The variable of the environment that overrides the switch for line markers. -/
def flagName : String := "PARSETREE_NEWLINES"

def defaultFile : String := "parsetree.yaml"

end Settings

def SettingsFault.message : SettingsFault → String
  | .invalidYaml => "Invalid YAML"
  | .fileMissing => "Config file not found"
  | .mappingExpected => "Config must be a YAML mapping"
  | .unknownNames names => "Unknown settings: " ++ ", ".intercalate (sortedTexts names)
  | .markersMistyped => quoted Settings.markersName ++ " must be true or false"
  | .limitMistyped => quoted Settings.limitName ++ " must be a positive integer"
  | .levelUnknown =>
      quoted Settings.levelName ++ " must be one of "
        ++ ", ".intercalate (LogLevel.all.map LogLevel.word)
  | .flagUnknown shown => Settings.flagName ++ " must be a boolean flag, got " ++ shown

structure SettingsError where
  fault : SettingsFault
  path : Option String := none
deriving DecidableEq, Repr

namespace SettingsError

def heading : String := "Config error"

def message (error : SettingsError) : String :=
  messageIn heading error.path error.fault.message

end SettingsError

namespace Settings

inductive DecodeFault where
  | settings (fault : SettingsFault)
  /-- A name that is no setting is no text, so that the names cannot be listed. -/
  | nameMistyped
deriving DecidableEq, Repr

def keyText? : Scalar → Option String
  | .text name => some name
  | _ => none

def checkNames (entries : Entries) : Except DecodeFault Unit :=
  let unknown := entries.keys.filter fun key => !names.any fun name => key == .text name
  if unknown.isEmpty then .ok ()
  else
    match unknown.mapM keyText? with
    | some unknownNames => .error (.settings (.unknownNames unknownNames))
    | none => .error .nameMistyped

def decodeMarkers : Option Data → Except DecodeFault Bool
  | none => .ok false
  | some (.scalar (.bool value)) => .ok value
  | some _ => .error (.settings .markersMistyped)

/-- The limit; the absent value is none. -/
def decodeLimit : Option Data → Except DecodeFault (Option Int)
  | none => .ok none
  | some (.scalar .null) => .ok none
  | some (.scalar (.int value)) =>
      if 0 < value then .ok (some value) else .error (.settings .limitMistyped)
  | some _ => .error (.settings .limitMistyped)

def decodeLevel : Option Data → Except DecodeFault LogLevel
  | none => .ok .warning
  | some value =>
      match LogLevel.ofWord? (capitals value.plainText) with
      | some level => .ok level
      | none => .error (.settings .levelUnknown)

def ofEntries (entries : Entries) : Except DecodeFault Settings := do
  checkNames entries
  let markers ← decodeMarkers (entries.get? markersName)
  let limit ← decodeLimit (entries.get? limitName)
  let level ← decodeLevel (entries.get? levelName)
  .ok ⟨markers, limit, level⟩

def ofData (content : Data) : Except DecodeFault Settings :=
  if content.isTruthy then
    match content.bare with
    | .map entries => ofEntries entries
    | _ => .error (.settings .mappingExpected)
  else .ok {}

def flagOf? (value : String) : Option Bool :=
  match String.ofList (smallLetters (trimBlanks value.toList)) with
  | "1" | "true" | "yes" | "on" => some true
  | "0" | "false" | "no" | "off" | "" => some false
  | _ => none

/-- Let a variable of the environment override the switch for line markers. -/
def withFlag (settings : Settings) : Option String → Except SettingsFault Settings
  | none => .ok settings
  | some value =>
      match flagOf? value with
      | some markers => .ok { settings with markers }
      | none => .error (.flagUnknown (quoted value))

end Settings

end NodeForms
