import NodeForms.Text.Quoted
import NodeForms.Node.Basic

/-!
# Errors of serialization

An error says what is wrong with the tree of one method and, as far as it is known,
where: the kind of the node, the type and the method. Context that is still missing can
be filled in later; context that is set stays.
-/

namespace NodeForms

inductive ErrorClass where
  | base | serialization | structural | outOfRange | closureUnavailable | nodeLimit
  | document | settings | reading
deriving DecidableEq, Repr, Inhabited

namespace ErrorClass

def all : List ErrorClass :=
  [.base, .serialization, .structural, .outOfRange, .closureUnavailable, .nodeLimit, .document,
    .settings, .reading]

def name : ErrorClass → String
  | .base => "ParseTreeError"
  | .serialization => "SerializationError"
  | .structural => "StructuralInconsistencyError"
  | .outOfRange => "OutOfRangeError"
  | .closureUnavailable => "CapturedValueUnavailableError"
  | .nodeLimit => "NodeLimitExceededError"
  | .document => "DocumentError"
  | .settings => "ConfigError"
  | .reading => "SexpSyntaxError"

def ofName? (name : String) : Option ErrorClass := all.find? fun other => other.name == name

/-- A class and those above it: whoever handles one of them handles the class. -/
def lineage : ErrorClass → List ErrorClass
  | .base => [.base]
  | .serialization => [.serialization, .base]
  | .structural => [.structural, .serialization, .base]
  | .outOfRange => [.outOfRange, .structural, .serialization, .base]
  | .closureUnavailable => [.closureUnavailable, .serialization, .base]
  | .nodeLimit => [.nodeLimit, .serialization, .base]
  | .document => [.document, .base]
  | .settings => [.settings, .base]
  | .reading => [.reading, .base]

theorem lineage_suffix {first second : ErrorClass} (above : first ∈ second.lineage) :
    first.lineage <:+ second.lineage := by
  cases first <;> cases second <;> revert above <;> decide

end ErrorClass

/-- The family an error belongs to, with the fields of that family. -/
inductive ErrorFamily where
  | general
  | structural
  | outOfRange (index size : Int)
  /-- A number that need not be an integer lies outside a local table. -/
  | beyondTable (index : Binary64) (size : Int)
  | closureUnavailable
  | nodeLimit (limit : Int)
deriving DecidableEq, Repr, Inhabited

def ErrorFamily.errorClass : ErrorFamily → ErrorClass
  | .general => .serialization
  | .structural => .structural
  | .outOfRange .. | .beyondTable .. => .outOfRange
  | .closureUnavailable => .closureUnavailable
  | .nodeLimit _ => .nodeLimit

theorem ErrorFamily.serialization_mem_lineage (family : ErrorFamily) :
    ErrorClass.serialization ∈ family.errorClass.lineage := by
  cases family <;> simp [errorClass, ErrorClass.lineage]

/-- Where an error happened, as far as it is known. -/
structure ErrorContext where
  kind : Option String := none
  typeName : Option String := none
  methodName : Option String := none
deriving DecidableEq, Repr, Inhabited

/-- An error of serialization. -/
structure SerializationError where
  family : ErrorFamily
  bare : String
  context : ErrorContext := {}
deriving DecidableEq, Repr, Inhabited

def nameOrUnknown : Option String → String
  | none => "?"
  | some name => if name = "" then "?" else name

namespace ErrorContext

def places (context : ErrorContext) : List String :=
  (if context.typeName.isSome || context.methodName.isSome then
    [nameOrUnknown context.typeName ++ "#" ++ nameOrUnknown context.methodName] else [])
  ++ match context.kind with
    | some kind => ["node " ++ quoted kind]
    | none => []

def fill (context more : ErrorContext) : ErrorContext :=
  ⟨context.kind.or more.kind, context.typeName.or more.typeName,
    context.methodName.or more.methodName⟩

end ErrorContext

namespace SerializationError

def message (error : SerializationError) : String :=
  match error.context.places with
  | [] => error.bare
  | places => error.bare ++ " (in " ++ ", ".intercalate places ++ ")"

def withContext (error : SerializationError) (more : ErrorContext) : SerializationError :=
  { error with context := error.context.fill more }

end SerializationError

/-- Why the payload of a slot cannot be used at all. -/
inductive PayloadFault where
  | noNode
  /-- A node stands where a captured closure is called for, which would have the role. -/
  | noClosure (tag role : String)
  | noTable
  | noHandle
  | noSequence
  | noInteger
  | noCodePoint
  /-- The integer is too large to be looked at as a code point. -/
  | codePointTooLarge
deriving DecidableEq, Repr

def PayloadFault.message? : PayloadFault → Option String
  | .noClosure tag role => some (quoted tag ++ " node has no slot named " ++ quoted role)
  | _ => none

/-- Why serialization stops. -/
inductive Failure where
  | error (error : SerializationError)
  | payload (fault : PayloadFault)
  /-- The visits allowed to an unlimited walk are used up: some closure contains itself. -/
  | endless
deriving DecidableEq, Repr

end NodeForms
