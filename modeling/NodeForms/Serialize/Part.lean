import NodeForms.Document.Order
import NodeForms.Node.Form
import NodeForms.Serialize.Error

/-!
# Parts of a form

A rule turns a node into the parts that follow the tag of its form: ready values, nodes
still to be visited, nodes to be visited under another local table, and groups that
become lists of their own.
-/

namespace NodeForms

/-- The local table that a scope puts in force. -/
inductive Locals where
  | absent
  | table (names : LocalTable)
  | unusable
deriving DecidableEq, Repr, Inhabited

def Locals.ofPayload : Value → Locals
  | .table names => .table names
  | other => if other.isNull then .absent else .unusable

inductive Part where
  | value (form : Sexp)
  | node (child : Node)
  /-- A node to visit under another table; an empty slot stands for the nil atom. -/
  | scoped (child : Value) (locals : Locals)
  | group (tag : String) (members : List Part)

namespace Part

def element : Value → Part
  | .node child => .node child
  | other => .value other.misplaced

def child (payload : Value) : Part :=
  if payload.isNull then .value .nil else element payload

def present (payload : Value) : List Part :=
  if payload.isNull then [] else [child payload]

end Part

/-- Why a rule gives no parts. -/
inductive RuleFault where
  | identifierExpected (role : String) (shown : String)
  | unsupportedLiteral (shown : String)
  | oddEntries (count : Nat)
  | indexExpected
  | selectorExpected
  | pathExpected
  /-- The rest argument is neither a position nor one of the marks for none. -/
  | restUnrecognized (shown : String)
  | outOfTable (index : Int) (size : Nat)
  /-- A number in the place of a position lies outside the local table. -/
  | beyondTable (index : Binary64) (size : Nat)
  | closureUnavailable (tag : String)
  | payload (fault : PayloadFault)
deriving DecidableEq, Repr

namespace RuleFault

def outOfTableMessage (shown : String) (size : Nat) : String :=
  "local table index " ++ shown ++ " out of range (size " ++ naturalText size ++ ")"

/-- The failure a fault becomes, before its context is known. -/
def toFailure : RuleFault → Failure
  | .identifierExpected role shown =>
      .error ⟨.structural,
        "slot " ++ quoted role ++ " must hold an identifier, got " ++ shown, {}⟩
  | .unsupportedLiteral shown =>
      .error ⟨.structural, "unsupported literal payload " ++ shown, {}⟩
  | .oddEntries count =>
      .error ⟨.structural,
        "odd number list for hash (" ++ naturalText count ++ " entries)", {}⟩
  | .indexExpected =>
      .error ⟨.structural,
        "indexed compound assignment needs an array of value and index", {}⟩
  | .selectorExpected =>
      .error ⟨.structural,
        "attribute compound assignment needs an attribute/operator selector", {}⟩
  | .pathExpected =>
      .error ⟨.structural, "class path must be a colon2 or colon3 node", {}⟩
  | .restUnrecognized shown =>
      .error ⟨.structural, "unrecognized rest argument value " ++ shown, {}⟩
  | .outOfTable index size =>
      .error ⟨.outOfRange index size, outOfTableMessage (integerText index) size, {}⟩
  | .beyondTable index size =>
      .error ⟨.beyondTable index size,
        outOfTableMessage (FloatNotation.plain.text index) size, {}⟩
  | .closureUnavailable tag =>
      .error ⟨.closureUnavailable,
        "cannot resolve the captured closure of a " ++ quoted tag ++ " node", {}⟩
  | .payload fault => .payload fault

end RuleFault

def LocalTable.resolve (table : LocalTable) (position : Int) : Except RuleFault String :=
  match table.get? position with
  | some name => .ok name
  | none => .error (.outOfTable position table.size)

def LocalTable.refuseNumber (table : LocalTable) (number : Binary64) : RuleFault :=
  if number.belowInt 0 || !number.belowInt table.size then .beyondTable number table.size
  else .payload .noInteger

/-- What comes of a number in the place of a position of the table in force. -/
def Locals.refuseNumber (locals : Locals) (number : Binary64) : RuleFault :=
  match locals with
  | .table names => names.refuseNumber number
  | _ => .payload .noTable

/-- The name at a position of the table in force. -/
def Locals.resolve (locals : Locals) (position : Int) : Except RuleFault String :=
  match locals with
  | .table names => names.resolve position
  | _ => .error (.payload .noTable)

end NodeForms
