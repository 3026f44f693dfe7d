import NodeForms.Batch.Dump
import NodeForms.CommandLine.Exit

/-!
# Dumping types from the command line

The settings are loaded first, then the document, then the types are selected. What comes before
the work ends the run with a message. The tree is delivered even when some types fail: their
errors and a summary follow it, and the status tells of them.
-/

namespace NodeForms

def Severity.style : Severity → String
  | .error => "red"
  | .warning => "yellow"
  | .information => "blue"
  | .hint => "dim"

def diagnosticTable (file : String) (findings : List Diagnostic) : Table where
  title := "Diagnostics: " ++ file
  columns :=
    [{ heading := "Severity", least := 10 }, { heading := "Code", least := 8 },
      { heading := "Method", least := 10 }, { heading := "Node", least := 10 },
      { heading := "Message" }]
  rows := findings.map fun finding =>
    [styled finding.severity.style finding.severity.word, finding.code, finding.place,
      finding.kindTag ++ " (" ++ integerText finding.kindNumber ++ ")\n"
        ++ styled "dim" finding.slotSummary,
      finding.message]
  ruled := true

/-- What the work of a dump comes to. -/
structure Product where
  tree : Sexp
  failures : List SerializationError := []
  namesSurrogate : Bool := false

def Registry.selection (registry : Registry) : List String → Except UnknownType (List HostType)
  | [] => .ok registry.types
  | names => names.mapM registry.get

def HostType.formNamesSurrogate (options : SerializeOptions) (type : HostType) : Bool :=
  (type.form options).result.isOk && type.methodNames.any (type.namesSurrogate options)

/-- A run that ends with a message about what it was given. -/
def Surroundings.refused (surroundings : Surroundings) (message : String) : Exit :=
  .failed (surroundings.print (styled "red" "Error:" ++ " " ++ message))

namespace DumpRequest

def settingsFile (request : DumpRequest) : Option String :=
  request.config.filter (· != "")

def outputFile (request : DumpRequest) : Option String :=
  request.output.filter (· != "")

def paths (request : DumpRequest) : List String :=
  request.settingsFile.getD Settings.defaultFile :: request.file :: request.outputFile.toList

def level (request : DumpRequest) (settings : Settings) : LogLevel :=
  if request.verbose then .debug else settings.level

def options (request : DumpRequest) (settings : Settings) : SerializeOptions :=
  { markers := request.markers.getD settings.markers, limit := settings.limit }

def layout (request : DumpRequest) : Option Sexp.LayoutOptions :=
  if request.pretty then some ⟨2, 78⟩ else none

/-- The work on the selected types: all of them, or one method of a single one. -/
def work? (request : DumpRequest) (settings : Settings) (types : List HostType) :
    Option (Run Product) :=
  let options := request.options settings
  match request.method, types with
  | none, types =>
      some ((dumpTypes options types).map fun dump =>
        ⟨dump.tree, dump.failures, types.any (HostType.formNamesSurrogate options)⟩)
  | some method, [type] =>
      some ((type.methodForm options method).map fun form =>
        ⟨form, [], type.namesSurrogate options method⟩)
  | some _, _ => none

def failureMessage (request : DumpRequest) (error : SerializationError) : String :=
  styled "red" "Serialization error" ++ " in " ++ request.file ++ ": " ++ error.message

def summary (failures : List SerializationError) : String :=
  "\n" ++ styled "bold" "Summary:" ++ " " ++ naturalText failures.length ++ " type(s) skipped"

section

variable (request : DumpRequest) (surroundings : Surroundings) (files : Files)

/-- Deliver the text of a tree: to a file if one is named, or else to the screen. The file is
opened before the text is encoded, which cannot be done if the text has a surrogate in it. -/
def deliver (text : String) (namesSurrogate : Bool) : Exit :=
  match request.outputFile with
  | none =>
      if namesSurrogate then .crashed (.output .encoding)
      else { : Exit }.showing (surroundings.echo text)
  | some path =>
      match files.target path with
      | .error fault => .crashed (.file fault)
      | .ok _ =>
          if namesSurrogate then
            { Exit.crashed (.output .encoding) with written := some (path, "") }
          else
            { written := some (path, text ++ "\n") : Exit }.showing
              (surroundings.print (writtenNotice path))

def reportFindings (findings : List Diagnostic) (left : Exit) : Exit :=
  if findings.isEmpty then left
  else left.reporting (surroundings.printTable (diagnosticTable request.file findings))

def reportFailures (failures : List SerializationError) (left : Exit) : Exit :=
  if failures.isEmpty then left
  else
    let listed := failures.foldl
      (fun left error => left.reporting (surroundings.print (request.failureMessage error))) left
    { listed.reporting (surroundings.print (summary failures)) with code := 1 }

/-- Deliver what the work comes to and report what happened. -/
def finish (run : Run Product) : Exit :=
  match run.result with
  | .error (.error error) => .failed (surroundings.print (request.failureMessage error))
  | .error reason => .crashed (.work reason)
  | .ok product =>
      match product.tree.writeWithin surroundings.digitLimit request.layout with
      | .error fault => .crashed (.form fault)
      | .ok text =>
          request.reportFailures surroundings product.failures
            (request.reportFindings surroundings run.findings
              (request.deliver surroundings files text product.namesSurrogate))

def runOn (settings : Settings) (registry : Registry) : Exit :=
  match registry.selection request.types with
  | .error unknown => surroundings.refused unknown.message
  | .ok types =>
      match request.work? settings types with
      | none => surroundings.refused "--method needs exactly one --type"
      | some run => (request.finish surroundings files run).noting run.records

def runWith (settings : Settings) : Exit :=
  let load := Registry.load surroundings.readYaml files request.file
  let left : Exit :=
    match load.result with
    | .error (.document error) => surroundings.refused error.message
    | .error fault => .crashed (.load fault)
    | .ok registry => request.runOn surroundings files settings registry
  (left.noting load.records).recordedFrom (request.level settings)

def run (environment : Environment) : Exit :=
  match Settings.load surroundings.readYaml files environment request.settingsFile with
  | .error (.error error) => surroundings.refused error.message
  | .error failure => .crashed (.settings failure)
  | .ok settings => request.runWith surroundings files settings

end

end DumpRequest

end NodeForms
