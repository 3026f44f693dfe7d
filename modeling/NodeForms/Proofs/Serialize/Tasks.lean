import NodeForms.Serialize.Machine

/-!
# Tasks

The work of the serializer without numbers for its lists. The tasks that are left follow each
other in the order in which they are done, those that open and close a list among them, so the
open lists are nested in each other, and each form goes into the innermost one.
-/

namespace NodeForms

def unhandledForm (node : Node) : Sexp := .seq [.atom "unhandled", .int node.kind.id]

/-- Something left to do. -/
inductive Task where
  | visit (node : Node) (locals : Locals)
  | emit (form : Sexp)
  | enter (tag : String)
  | leave
  | refuse

namespace Task

def ofVisit (locals : Locals) : Value → List Task
  | .node child => [.visit child locals]
  | other => if other.isNull then [] else [.refuse]

mutual
def ofPart (locals : Locals) : Part → List Task
  | .value form => [.emit form]
  | .node child => [.visit child locals]
  | .scoped child inner => if child.isNull then [.emit .nil] else ofVisit inner child
  | .group tag members => .enter tag :: (ofParts locals members ++ [.leave])
def ofParts (locals : Locals) : List Part → List Task
  | [] => []
  | part :: parts => ofPart locals part ++ ofParts locals parts
end

end Task

/-- The open lists, each with its latest element first. -/
structure OpenLists where
  inner : List Sexp := []
  outer : List (List Sexp) := []

namespace OpenLists

def push (lists : OpenLists) (form : Sexp) : OpenLists :=
  { lists with inner := form :: lists.inner }

def enter (lists : OpenLists) (tag : String) : OpenLists :=
  ⟨[.atom tag], lists.inner :: lists.outer⟩

/-- Close the innermost list and put it into the one around it. -/
def leave (lists : OpenLists) : OpenLists :=
  match lists.outer with
  | [] => lists
  | around :: others => ⟨.seq lists.inner.reverse :: around, others⟩

end OpenLists

/-- Do the tasks of a stack, the first one first. Each visit uses up one of the allowed
ones, and every other task leaves the stack shorter. -/
def runTasks (options : SerializeOptions) (allowed : Nat) (visited : List Node)
    (lists : OpenLists) : List Task → Outcome
  | [] => ⟨visited.reverse, .ok lists.inner.reverse⟩
  | .emit form :: rest => runTasks options allowed visited (lists.push form) rest
  | .enter tag :: rest => runTasks options allowed visited (lists.enter tag) rest
  | .leave :: rest => runTasks options allowed visited lists.leave rest
  | .refuse :: _ => ⟨visited.reverse, .error (.payload .noNode)⟩
  | .visit node locals :: rest =>
      match allowed with
      | 0 => ⟨visited.reverse, .error (options.exhausted node)⟩
      | allowed + 1 =>
          let visited := node :: visited
          if node.kind = .known .newline then
            let lists := if options.markers then lists.push (lineMarker node) else lists
            runTasks options allowed visited lists (Task.ofVisit locals node.u3 ++ rest)
          else
            match node.kind.rule? with
            | none => runTasks options allowed visited (lists.push (unhandledForm node)) rest
            | some rule =>
                match rule (options.scope locals) node with
                | .error fault =>
                    ⟨visited.reverse, .error (options.ruleFailure node fault)⟩
                | .ok parts =>
                    runTasks options allowed visited (lists.enter node.tag)
                      (Task.ofParts locals parts ++ .leave :: rest)
termination_by tasks => (allowed, tasks.length)

end NodeForms
