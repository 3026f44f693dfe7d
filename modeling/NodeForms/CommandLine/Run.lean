import NodeForms.CommandLine.Dump

/-!
# Running the program

A run reads the command line and does what it asks for. It sees files and variables as they were at
its start.
-/

namespace NodeForms

def kindTable : Table where
  title := "Node kinds"
  columns :=
    [{ heading := "Id", alignment := .right }, { heading := "Kind" }, { heading := "u1" },
      { heading := "u2" }, { heading := "u3" }]
  rows := KnownKind.all.map fun kind =>
    naturalText kind.id :: (if kind.isRuntimeOnly then styled "dim" kind.tag else kind.tag)
      :: SlotPosition.all.map fun position =>
        ((kind.layout.slotAt position).map SlotRole.role).getD ""

def HelpTopic.purpose : HelpTopic → String
  | .program =>
      "Serialize host syntax trees into S-expressions.\n\n  Commands: dump, kinds, version"
  | .dump => "Serialize the methods of a runtime document."
  | .kinds => "List every node kind with its id and slot roles."
  | .version => "Show the version."

def HelpTopic.switches : HelpTopic → List String
  | .program => programSwitches.map Switch.long
  | .dump => dumpSwitches.map Switch.long
  | .kinds => helpSwitches.map Switch.long
  | .version => helpSwitches.map Switch.long

/-- How a command is used, what it is for, and its switches. -/
def HelpTopic.text (topic : HelpTopic) : String :=
  topic.usage ++ "\n\n  " ++ topic.purpose ++ "\n\n  Options: "
    ++ ", ".intercalate topic.switches ++ "\n"

def Refusal.text : Refusal → String
  | .nothing => HelpTopic.program.text
  | .fault topic reason => faultText topic reason

section

variable (surroundings : Surroundings) (files : Files) (environment : Environment)

/-- Do what a command line asks for. -/
def Command.run : Command → Exit
  | .dump request => request.run surroundings files environment
  | .kinds => { : Exit }.showing (surroundings.printTable kindTable)
  | .version => { stdout := programName ++ ", version " ++ programVersion ++ "\n" }
  | .help topic => { stdout := topic.text }

def runProgram (arguments : List String) : Exit :=
  match surroundings.readArguments arguments with
  | .error refusal => { code := 2, stderr := refusal.text }
  | .ok command => command.run surroundings files environment

end

end NodeForms
