import NodeForms.CommandLine.Switch

/-!
# Commands

What a command line asks for. A command line that cannot be read is refused; a refusal
says how the command is used, except where a switch and its value do not fit together.
-/

namespace NodeForms

def programName : String := "cli"

def programVersion : String := "1.3.0"

/-- What `dump` is asked to do. -/
structure DumpRequest where
  file : String := ""
  types : List String := []
  method : Option String := none
  /-- Whether line markers are written, if this is not left to the settings. -/
  markers : Option Bool := none
  pretty : Bool := false
  output : Option String := none
  config : Option String := none
  verbose : Bool := false
deriving DecidableEq, Repr, Inhabited

/-- The levels of a command line at which help is given. -/
inductive HelpTopic where
  | program
  | dump
  | kinds
  | version
deriving DecidableEq, Repr, Inhabited

/-- What a command line asks for. -/
inductive Command where
  | dump (request : DumpRequest)
  | kinds
  | version
  | help (topic : HelpTopic)
deriving DecidableEq, Repr, Inhabited

namespace HelpTopic

def call : HelpTopic → String
  | .program => programName
  | .dump => programName ++ " dump"
  | .kinds => programName ++ " kinds"
  | .version => programName ++ " version"

def parameters : HelpTopic → String
  | .program => "[OPTIONS] COMMAND [ARGS]..."
  | .dump => "[OPTIONS] FILE"
  | .kinds => "[OPTIONS]"
  | .version => "[OPTIONS]"

def usage (topic : HelpTopic) : String := "Usage: " ++ topic.call ++ " " ++ topic.parameters

end HelpTopic

/-- Why a command line is refused. -/
inductive UsageFault where
  | switch (fault : SwitchFault)
  | commandMissing
  | commandUnknown (name : String)
  | operandMissing (name : String)
  | operandsUnexpected (operands : List String)
deriving DecidableEq, Repr

def UsageFault.message : UsageFault → String
  | .switch fault => fault.message
  | .commandMissing => "Missing command."
  | .commandUnknown name => "No such command " ++ quoted name ++ "."
  | .operandMissing name => "Missing argument " ++ quoted name ++ "."
  | .operandsUnexpected operands =>
      "Got unexpected extra argument" ++ (if operands.length = 1 then "" else "s") ++ " ("
        ++ " ".intercalate operands ++ ")"

def UsageFault.showsUsage : UsageFault → Bool
  | .switch (.valueMissing _) => false
  | .switch (.valueUnexpected _) => false
  | _ => true

inductive Refusal where
  | fault (topic : HelpTopic) (fault : UsageFault)
  | nothing
deriving DecidableEq, Repr

def faultText (topic : HelpTopic) (fault : UsageFault) : String :=
  (if fault.showsUsage then
    topic.usage ++ "\nTry '" ++ topic.call ++ " --help' for help.\n\n" else "")
    ++ "Error: " ++ fault.message ++ "\n"

inductive ProgramSwitch where
  | version
  | help
deriving DecidableEq, Repr

inductive DumpSwitch where
  | help
  | change (change : DumpRequest → DumpRequest)

def programSwitches : List (Switch ProgramSwitch) :=
  [⟨"--version", none, .plain .version⟩, ⟨"--help", none, .plain .help⟩]

def helpSwitches : List (Switch Unit) := [⟨"--help", none, .plain ()⟩]

def dumpSwitches : List (Switch DumpSwitch) :=
  [⟨"--type", some 't', .valued fun name => .change fun request =>
      { request with types := request.types ++ [name] }⟩,
    ⟨"--method", some 'm', .valued fun name => .change fun request =>
      { request with method := some name }⟩,
    ⟨"--newlines", none, .plain (.change fun request =>
      { request with markers := some true })⟩,
    ⟨"--no-newlines", none, .plain (.change fun request =>
      { request with markers := some false })⟩,
    ⟨"--pretty", none, .plain (.change fun request => { request with pretty := true })⟩,
    ⟨"--output", some 'o', .valued fun path => .change fun request =>
      { request with output := some path }⟩,
    ⟨"--config", none, .valued fun path => .change fun request =>
      { request with config := some path }⟩,
    ⟨"--verbose", some 'v', .plain (.change fun request =>
      { request with verbose := true })⟩,
    ⟨"--help", none, .plain .help⟩]

namespace Command

def dumpChanges (request : DumpRequest) : List DumpSwitch → Option DumpRequest
  | [] => some request
  | .help :: _ => none
  | .change change :: rest => dumpChanges (change request) rest

def readDump (arguments : List String) : Except Refusal Command :=
  match Switch.readAll dumpSwitches true arguments with
  | .error fault => .error (.fault .dump (.switch fault))
  | .ok ⟨given, operands⟩ =>
      match dumpChanges {} given, operands with
      | none, _ => .ok (.help .dump)
      | some _, [] => .error (.fault .dump (.operandMissing "FILE"))
      | some request, [file] => .ok (.dump { request with file })
      | some _, _ :: others => .error (.fault .dump (.operandsUnexpected others))

def readAlone (topic : HelpTopic) (command : Command) (arguments : List String) :
    Except Refusal Command :=
  match Switch.readAll helpSwitches true arguments with
  | .error fault => .error (.fault topic (.switch fault))
  | .ok ⟨_ :: _, _⟩ => .ok (.help topic)
  | .ok ⟨[], []⟩ => .ok command
  | .ok ⟨[], operands⟩ => .error (.fault topic (.operandsUnexpected operands))

def ofProgramSwitch : ProgramSwitch → Command
  | .version => .version
  | .help => .help .program

/-- The command of an unknown name. A name that looks like a switch, as it can only after
two dashes, is read as one first. -/
def readUnknown (name : String) (arguments : List String) : Except Refusal Command :=
  match Switch.readAll programSwitches false (name :: arguments) with
  | .error fault => .error (.fault .program (.switch fault))
  | .ok ⟨given :: _, _⟩ => .ok (ofProgramSwitch given)
  | .ok ⟨[], _⟩ => .error (.fault .program (.commandUnknown name))

def readNamed (name : String) (arguments : List String) : Except Refusal Command :=
  match name with
  | "dump" => readDump arguments
  | "kinds" => readAlone .kinds .kinds arguments
  | "version" => readAlone .version .version arguments
  | _ => readUnknown name arguments

def read (arguments : List String) : Except Refusal Command :=
  if arguments.isEmpty then .error .nothing
  else
    match Switch.readAll programSwitches false arguments with
    | .error fault => .error (.fault .program (.switch fault))
    | .ok ⟨given :: _, _⟩ => .ok (ofProgramSwitch given)
    | .ok ⟨[], []⟩ => .error (.fault .program .commandMissing)
    | .ok ⟨[], name :: arguments⟩ => readNamed name arguments

end Command

end NodeForms
