import NodeForms.Batch.Tree

/-!
# Dumping types

A dump leaves out the types that fail and keeps their errors, so that a failure in one
type does not affect the others. Only an error of serialization is such a failure; a
payload that no rule can use stops the dump.
-/

namespace NodeForms

structure Dump where
  forms : List Sexp := []
  failures : List SerializationError := []
deriving Inhabited

namespace Dump

def isClean (dump : Dump) : Bool := dump.failures.isEmpty

def tree (dump : Dump) : Sexp := .seq dump.forms

def withForm (form : Sexp) (dump : Dump) : Dump := { dump with forms := form :: dump.forms }

def withFailure (error : SerializationError) (dump : Dump) : Dump :=
  { dump with failures := error :: dump.failures }

def skipRecord (type : HostType) (error : SerializationError) : LogRecord :=
  ⟨.error, .batch, "Skipping " ++ type.displayName ++ ": " ++ error.message⟩

end Dump

def dumpTypes (options : SerializeOptions) : List HostType → Run Dump
  | [] => Run.done {}
  | type :: types =>
      let run := type.form options
      let rest := dumpTypes options types
      match run.result with
      | .ok form => run.after (rest.map (Dump.withForm form))
      | .error (.error error) =>
          run.after ((rest.map (Dump.withFailure error)).noting (Dump.skipRecord type error))
      | .error reason => ⟨run.records, run.findings, .error reason⟩

/-- Something given where a type is called for. -/
inductive TypeArgument where
  | type (type : HostType)
  | other (value : Data)
deriving Inhabited

namespace TypeArgument

def display : TypeArgument → String
  | .type given => given.display
  | .other value => value.display

end TypeArgument

/-- Why given values are no types. -/
inductive TypeArgumentFault where
  | methodName (first shown : String)
  | noType (typeName : String)
deriving DecidableEq, Repr

def TypeArgumentFault.message : TypeArgumentFault → String
  | .methodName first shown =>
      "Call tree_for_method(" ++ first ++ ", " ++ shown
        ++ ") instead of tree_for_types to serialize a single method"
  | .noType typeName => "Expected a TypeInfo, got " ++ typeName

def typesAmong (first : String) : List TypeArgument → Except TypeArgumentFault (List HostType)
  | [] => .ok []
  | .type type :: rest => (typesAmong first rest).map fun types => type :: types
  | .other (.scalar (.text name)) :: _ => .error (.methodName first (quoted name))
  | .other value :: _ => .error (.noType value.typeName)

def givenTypes (arguments : List TypeArgument) : Except TypeArgumentFault (List HostType) :=
  typesAmong ((arguments.head?.map TypeArgument.display).getD "") arguments

/-- Dump given values. Nothing is done unless every one is a type. -/
def dumpGiven (options : SerializeOptions) (arguments : List TypeArgument) :
    Except TypeArgumentFault (Run Dump) :=
  (givenTypes arguments).map (dumpTypes options)

/-- The forms of given values. Nothing is done unless every one is a type. -/
def givenForms (options : SerializeOptions) (arguments : List TypeArgument) :
    Except TypeArgumentFault (Run (List Sexp)) :=
  (givenTypes arguments).map (typeForms options)

end NodeForms
