import NodeForms.Serialize.Diagnostic

/-!
# Log records

Runs leave records at five levels of importance. A record names the part of the program
it comes from.
-/

namespace NodeForms

/-- The levels of log records. -/
inductive LogLevel where
  | debug
  | info
  | warning
  | error
  | critical
deriving DecidableEq, Repr, Inhabited

namespace LogLevel

def all : List LogLevel := [.debug, .info, .warning, .error, .critical]

def word : LogLevel → String
  | .debug => "DEBUG"
  | .info => "INFO"
  | .warning => "WARNING"
  | .error => "ERROR"
  | .critical => "CRITICAL"

/-- The number of a level; more important levels have greater ones. -/
def number : LogLevel → Nat
  | .debug => 10
  | .info => 20
  | .warning => 30
  | .error => 40
  | .critical => 50

def ofWord? (word : String) : Option LogLevel := all.find? fun level => level.word == word

end LogLevel

/-- The parts of the program that leave records. -/
inductive LogSource where
  | serializer
  | registry
  | batch
deriving DecidableEq, Repr, Inhabited

def LogSource.name : LogSource → String
  | .serializer => "parsetree.serializer.serializer"
  | .registry => "parsetree.driver.runtime"
  | .batch => "parsetree.driver.driver"

structure LogRecord where
  level : LogLevel
  source : LogSource
  message : String
deriving DecidableEq, Repr, Inhabited

def recordsFrom (level : LogLevel) (records : List LogRecord) : List LogRecord :=
  records.filter fun record => level.number ≤ record.level.number

namespace LogRecord

def rightAligned (width : Nat) (text : String) : String :=
  String.ofList (List.replicate (width - text.length) ' ') ++ text

def visit (node : Node) : LogRecord :=
  let mark (label : String) (present : Bool) : String := if present then label else "   "
  ⟨.debug, .serializer,
    rightAligned 15 node.tag ++ ": " ++ mark "u1 " (!node.u1.isNull)
      ++ mark "u2 " (!node.u2.isNull) ++ mark "u3 " (!node.u3.isNull)⟩

def unhandled (node : Node) : LogRecord :=
  let mark (present : Bool) : String := if present then "set" else "empty"
  ⟨.warning, .serializer,
    Diagnostic.unhandledMessage node.kind.id node.tag ++ " (u1=" ++ mark (!node.u1.isNull)
      ++ " u2=" ++ mark (!node.u2.isNull) ++ " u3=" ++ mark (!node.u3.isNull) ++ ")"⟩

end LogRecord

end NodeForms
