import NodeForms.Sexp.Builder
import NodeForms.Serialize.Log
import NodeForms.Serialize.Rule

/-!
# Serialization

A tree becomes forms: each node one list, headed by the tag of its kind and followed by
the parts its rule names. The work is kept on a stack, so neither deep nesting nor long
sequences are bounded by the depth of a recursion, and each entry of the stack says which
of the lists under construction it writes into. A visit to a node opens a list, puts the
node's parts on the stack, the last one first, and below them the entry that closes the
list into the one around it. A line marker opens no list: the marker, when wanted, and the
statement it marks go straight into the list around it. A kind without a rule becomes
`(unhandled NUMBER)`.
-/

namespace NodeForms

/-- How captured closures are resolved. -/
structure ClosureAccess where
  /-- What is behind the handle that a captured-closure node holds; nothing if the handle is
  unknown. -/
  resolve : Value → Except PayloadFault Value
  /-- How many visits a walk may take that starts at a tree of so many nodes. -/
  visitBound : Nat → Nat

namespace ClosureAccess

def ownClosure : Value → Value
  | .closure params body owner => .closure params body owner
  | _ => .null

def held : ClosureAccess := ⟨fun payload => .ok (ownClosure payload), fun size => size⟩

def lookup (handles : List (String × Value)) (payload : Value) : Except PayloadFault Value :=
  match payload.text? with
  | some handle =>
      .ok (((handles.find? fun entry => entry.1 == handle).map Prod.snd).getD .null)
  | none => if payload.isFixed then .ok .null else .error .noHandle

def tableSize (handles : List (String × Value)) : Nat :=
  handles.foldr (fun entry total => entry.2.size + total) 0

/-- Nodes that hold handles into a table. Along a path that enters no closure twice each
handle multiplies the visits by at most the nodes of the table. -/
def ofTable (handles : List (String × Value)) : ClosureAccess :=
  ⟨lookup handles, fun size => size * Nat.pow (tableSize handles + 1) handles.length⟩

end ClosureAccess

/-- What a run of the serializer is told. -/
structure SerializeOptions where
  markers : Bool := false
  closures : ClosureAccess := .held
  limit : Option Int := none
  typeName : Option String := none
  methodName : Option String := none

namespace SerializeOptions

/-- The names that errors and diagnostics carry. -/
def context (options : SerializeOptions) : ErrorContext :=
  ⟨none, options.typeName, options.methodName⟩

def contextAt (options : SerializeOptions) (node : Node) : ErrorContext :=
  ⟨some node.tag, options.typeName, options.methodName⟩

/-- How many nodes a walk over a tree may visit. -/
def allowance (options : SerializeOptions) (root : Value) : Nat :=
  match options.limit with
  | some limit => limit.toNat
  | none => options.closures.visitBound root.size

def exhausted (options : SerializeOptions) (node : Node) : Failure :=
  match options.limit with
  | some limit =>
      .error ⟨.nodeLimit limit, "node limit of " ++ integerText limit ++ " exceeded",
        options.contextAt node⟩
  | none => .endless

def ruleFailure (options : SerializeOptions) (node : Node) (fault : RuleFault) : Failure :=
  match fault.toFailure with
  | .error error => .error (error.withContext (options.contextAt node))
  | other => other

def scope (options : SerializeOptions) (locals : Locals) : RuleScope :=
  ⟨locals, options.closures.resolve⟩

end SerializeOptions

def lineMarker (node : Node) : Sexp :=
  .seq [.atom "newline", .int node.line, .text (node.file.getD "")]

/-- The lists under construction, each known by its number. None of them is ever taken away. -/
structure Frames where
  builders : Array SeqBuilder := #[]

namespace Frames

def size (frames : Frames) : Nat := frames.builders.size

/-- What has been written into a list so far. -/
def items (frames : Frames) (frame : Nat) : List Sexp :=
  match frames.builders[frame]? with
  | some builder => builder.items.toList
  | none => []

def push (frames : Frames) (frame : Nat) (form : Sexp) : Frames :=
  ⟨frames.builders.modify frame fun builder => builder.push form⟩

def openList (frames : Frames) (first : Sexp) : Frames :=
  ⟨frames.builders.push ⟨#[first]⟩⟩

def build (frames : Frames) (frame : Nat) : Sexp := .seq (frames.items frame)

def top : Nat := 0

/-- Nothing but the list of the whole tree. -/
def start : Frames := ⟨#[{}]⟩

end Frames

/-- What an entry of the work stack asks for. -/
inductive Work where
  | visit (payload : Value)
  | emit (form : Sexp)
  | close (frame : Nat)

/-- An entry of the work stack: something to do, the list it writes into, and the local table. -/
structure Entry where
  work : Work
  target : Nat
  locals : Locals

/-- The lists under construction and the work stack, its top first. -/
structure Pending where
  frames : Frames
  stack : List Entry

mutual
/-- Put a part that goes into a list on the stack. -/
def schedulePart (frame : Nat) (locals : Locals) : Part → Pending → Pending
  | .value form, pending => { pending with stack := ⟨.emit form, frame, locals⟩ :: pending.stack }
  | .node child, pending =>
      { pending with stack := ⟨.visit (.node child), frame, locals⟩ :: pending.stack }
  | .scoped child inner, pending =>
      let entry : Entry :=
        if child.isNull then ⟨.emit .nil, frame, locals⟩ else ⟨.visit child, frame, inner⟩
      { pending with stack := entry :: pending.stack }
  | .group tag members, pending =>
      -- The list of a group is opened at once, long before its turn comes.
      let group := pending.frames.size
      schedule group locals members
        ⟨pending.frames.openList (.atom tag), ⟨.close group, frame, locals⟩ :: pending.stack⟩
def schedule (frame : Nat) (locals : Locals) : List Part → Pending → Pending
  | [], pending => pending
  | part :: parts, pending => schedulePart frame locals part (schedule frame locals parts pending)
end

namespace SerializeOptions

def openNode (options : SerializeOptions) (locals : Locals) (node : Node) :
    Except Failure (Sexp × List Part) :=
  match node.kind.rule? with
  | none => .ok (.atom "unhandled", [.value (.int node.kind.id)])
  | some rule =>
      match rule (options.scope locals) node with
      | .error fault => .error (options.ruleFailure node fault)
      | .ok parts => .ok (.atom node.tag, parts)

/-- Visit a node whose forms go into a list. -/
def visit (options : SerializeOptions) (node : Node) (target : Nat) (locals : Locals)
    (pending : Pending) : Except Failure Pending :=
  if node.kind = .known .newline then
    let frames :=
      if options.markers then pending.frames.push target (lineMarker node) else pending.frames
    .ok ⟨frames, ⟨.visit node.u3, target, locals⟩ :: pending.stack⟩
  else
    match options.openNode locals node with
    | .error reason => .error reason
    | .ok (first, parts) =>
        -- The entry that closes the list lies below those of its parts.
        let frame := pending.frames.size
        .ok (schedule frame locals parts
          ⟨pending.frames.openList first, ⟨.close frame, target, locals⟩ :: pending.stack⟩)

end SerializeOptions

/-- What a run comes to: the nodes it visited, in order, and the forms or the failure. -/
structure Outcome where
  visited : List Node
  result : Except Failure (List Sexp)

namespace Outcome

def diagnostics (outcome : Outcome) (context : ErrorContext) : List Diagnostic :=
  (outcome.visited.filter fun node =>
    node.kind != .known .newline && node.kind.rule?.isNone).map (Diagnostic.unhandled context)

def records (outcome : Outcome) : List LogRecord :=
  outcome.visited.flatMap fun node =>
    if node.kind != .known .newline && node.kind.rule?.isNone then
      [LogRecord.visit node, LogRecord.unhandled node]
    else [LogRecord.visit node]

end Outcome

/-- Work off a stack, its top first. Each visit to a node uses up one of the allowed ones, and
every other entry leaves the stack shorter. -/
def runStack (options : SerializeOptions) (allowed : Nat) (visited : List Node)
    (frames : Frames) : List Entry → Outcome
  | [] => ⟨visited.reverse, .ok (frames.items Frames.top)⟩
  | ⟨.emit form, target, _⟩ :: rest =>
      runStack options allowed visited (frames.push target form) rest
  | ⟨.close frame, target, _⟩ :: rest =>
      runStack options allowed visited (frames.push target (frames.build frame)) rest
  | ⟨.visit (.node node), target, locals⟩ :: rest =>
      match allowed with
      | 0 => ⟨visited.reverse, .error (options.exhausted node)⟩
      | allowed + 1 =>
          match options.visit node target locals ⟨frames, rest⟩ with
          | .error reason => ⟨(node :: visited).reverse, .error reason⟩
          | .ok pending => runStack options allowed (node :: visited) pending.frames pending.stack
  | ⟨.visit payload, _, _⟩ :: rest =>
      if payload.isNull then runStack options allowed visited frames rest
      else ⟨visited.reverse, .error (.payload .noNode)⟩
termination_by stack => (allowed, stack.length)

def Entry.ofRoot (root : Value) : Entry := ⟨.visit root, Frames.top, .absent⟩

def serializePayload (options : SerializeOptions) (root : Value) : Outcome :=
  runStack options (options.allowance root) [] .start [.ofRoot root]

/-- Serialize a tree into its forms; an absent tree has none. -/
def serialize (options : SerializeOptions) (root : Option Node) : Outcome :=
  serializePayload options (.ofNode? root)

end NodeForms
