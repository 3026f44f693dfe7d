import NodeForms.CommandLine.Surroundings
import NodeForms.Registry.Load
import NodeForms.Serialize.Log
import NodeForms.Settings.Load
import NodeForms.Sexp.Printer

/-!
# Ends of runs

What a run of the program leaves: its texts on the two screens, log records, a file, and
a status. A run that meets something it has no message for crashes: what it has written
so far stays, and nothing more is written.
-/

namespace NodeForms

/-- Why a run crashes. -/
inductive Crash where
  | settings (failure : SettingsFailure)
  | load (fault : LoadFault)
  | work (reason : Failure)
  | form (fault : Sexp.WriteFault)
  | file (fault : FileFault)
  | output (fault : OutputFault)
deriving DecidableEq, Repr

/-- What a run of the program leaves. -/
structure Exit where
  code : Nat := 0
  stdout : String := ""
  stderr : String := ""
  records : List LogRecord := []
  written : Option (String × String) := none
  crash : Option Crash := none
deriving Inhabited

namespace Exit

def crashed (crash : Crash) : Exit := { code := 1, crash := some crash }

/-- Add to what a run leaves, unless it has crashed; putting a text out may crash it. -/
def adding (left : Exit) (text : Except OutputFault String) (add : Exit → String → Exit) : Exit :=
  match left.crash, text with
  | some _, _ => left
  | none, .ok text => add left text
  | none, .error fault => { left with code := 1, crash := some (.output fault) }

def showing (left : Exit) (text : Except OutputFault String) : Exit :=
  left.adding text fun left text => { left with stdout := left.stdout ++ text }

def reporting (left : Exit) (text : Except OutputFault String) : Exit :=
  left.adding text fun left text => { left with stderr := left.stderr ++ text }

def failed (message : Except OutputFault String) : Exit := { code := 1 : Exit }.reporting message

def noting (left : Exit) (records : List LogRecord) : Exit :=
  { left with records := records ++ left.records }

def recordedFrom (left : Exit) (level : LogLevel) : Exit :=
  { left with records := recordsFrom level left.records }

end Exit

end NodeForms
