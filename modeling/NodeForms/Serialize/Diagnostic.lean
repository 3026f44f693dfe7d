import NodeForms.Serialize.Error

/-!
# Diagnostics

A diagnostic is a finding that does not stop serialization, such as a node of a kind
without a rule. A report lists the diagnostics of a run in the order they were made.
-/

namespace NodeForms

inductive Severity where
  | error
  | warning
  | information
  | hint
deriving DecidableEq, Repr, Inhabited

def Severity.word : Severity → String
  | .error => "ERROR"
  | .warning => "WARNING"
  | .information => "INFORMATION"
  | .hint => "HINT"

/-- A finding about a node. -/
structure Diagnostic where
  severity : Severity
  code : String
  message : String
  kindTag : String
  kindNumber : Int
  slotsPresent : List Bool := [false, false, false]
  typeName : Option String := none
  methodName : Option String := none
deriving DecidableEq, Repr, Inhabited

namespace Diagnostic

def unhandledCode : String := "PT001"

def unhandledMessage (number : Int) (tag : String) : String :=
  "Unhandled node #" ++ integerText number ++ " type " ++ quoted tag

def unhandled (context : ErrorContext) (node : Node) : Diagnostic where
  severity := .warning
  code := unhandledCode
  message := unhandledMessage node.kind.id node.tag
  kindTag := node.tag
  kindNumber := node.kind.id
  slotsPresent := node.slotsPresent
  typeName := context.typeName
  methodName := context.methodName

def place (diagnostic : Diagnostic) : String :=
  nameOrUnknown diagnostic.typeName ++ "#" ++ nameOrUnknown diagnostic.methodName

/-- A finding on one line. -/
def text (diagnostic : Diagnostic) : String :=
  let place :=
    if diagnostic.typeName.isSome || diagnostic.methodName.isSome then
      " in " ++ diagnostic.place else ""
  "[" ++ diagnostic.code ++ "] " ++ diagnostic.severity.word ++ place ++ ": "
    ++ diagnostic.message

def slotMarks (position : Nat) : List Bool → List String
  | [] => []
  | present :: rest =>
      (if present then "u" ++ naturalText position else "  ") :: slotMarks (position + 1) rest

def slotSummary (diagnostic : Diagnostic) : String :=
  " ".intercalate (slotMarks 1 diagnostic.slotsPresent)

end Diagnostic

/-- The diagnostics of a run, in the order they were made. -/
structure DiagnosticReport where
  findings : List Diagnostic := []
deriving Repr, Inhabited

namespace DiagnosticReport

def add (report : DiagnosticReport) (diagnostic : Diagnostic) : DiagnosticReport :=
  ⟨report.findings ++ [diagnostic]⟩

def size (report : DiagnosticReport) : Nat := report.findings.length

def hasFindings (report : DiagnosticReport) : Bool := !report.findings.isEmpty

/-- The findings, one a line, under a heading. -/
def text (report : DiagnosticReport) : String :=
  if report.findings.isEmpty then "DiagnosticCollection (no diagnostics)"
  else
    "\n".intercalate
      (("DiagnosticCollection (" ++ naturalText report.size ++ " diagnostic(s)):")
        :: report.findings.map fun finding => "  " ++ finding.text)

end DiagnosticReport

end NodeForms
