import NodeForms.Proofs.Serialize.Steps

/-!
# One place at a time

What a run does with a node does not depend on the place of the node: on what was visited before,
on the lists that are open around it, and on what is left to do. It comes to what the run comes to
that has this node as its only task, under the same local table and with as many visits left.
-/

namespace NodeForms

namespace OpenLists

/-- Open lists on top of others: the outermost one goes on with the innermost one below. -/
def atop (base : OpenLists) (inner : List Sexp) : List (List Sexp) → OpenLists
  | [] => ⟨inner ++ base.inner, base.outer⟩
  | around :: others => ⟨inner, (base.atop around others).inner :: (base.atop around others).outer⟩

def above (lists base : OpenLists) : OpenLists := base.atop lists.inner lists.outer

variable (lists base : OpenLists)

theorem push_above (form : Sexp) : (lists.push form).above base = (lists.above base).push form := by
  obtain ⟨inner, outer⟩ := lists
  cases outer <;> rfl

theorem enter_above (tag : String) : (lists.enter tag).above base = (lists.above base).enter tag := rfl

theorem leave_above (isOpen : lists.outer ≠ []) :
    lists.leave.above base = (lists.above base).leave := by
  obtain ⟨inner, outer⟩ := lists
  obtain ⟨around, others, rfl⟩ := List.exists_cons_of_ne_nil isOpen
  exact push_above ⟨around, others⟩ base (.seq inner.reverse)

end OpenLists

namespace Task

/-- Tasks that close each of so many open lists and each list of their own, and no other. -/
inductive Balanced : Nat → List Task → Prop
  | nil : Balanced 0 []
  | visit {depth : Nat} {rest : List Task} (node : Node) (locals : Locals)
      (balanced : Balanced depth rest) : Balanced depth (.visit node locals :: rest)
  | emit {depth : Nat} {rest : List Task} (form : Sexp) (balanced : Balanced depth rest) :
      Balanced depth (.emit form :: rest)
  | enter {depth : Nat} {rest : List Task} (tag : String) (balanced : Balanced (depth + 1) rest) :
      Balanced depth (.enter tag :: rest)
  | leave {depth : Nat} {rest : List Task} (balanced : Balanced depth rest) :
      Balanced (depth + 1) (.leave :: rest)
  | refuse {depth : Nat} {rest : List Task} (balanced : Balanced depth rest) :
      Balanced depth (.refuse :: rest)

theorem Balanced.ofVisit {depth : Nat} {rest : List Task} (balanced : Balanced depth rest)
    (locals : Locals) (payload : Value) : Balanced depth (ofVisit locals payload ++ rest) := by
  unfold Task.ofVisit
  split
  · exact .visit _ _ balanced
  · split
    · exact balanced
    · exact .refuse balanced

mutual
theorem Balanced.ofPart {depth : Nat} {rest : List Task} (balanced : Balanced depth rest)
    (locals : Locals) : (part : Part) → Balanced depth (ofPart locals part ++ rest)
  | .value form => by
      rw [Task.ofPart]
      exact .emit form balanced
  | .node child => by
      rw [Task.ofPart]
      exact .visit child locals balanced
  | .scoped child inner => by
      rw [Task.ofPart]
      split
      · exact .emit .nil balanced
      · exact balanced.ofVisit inner child
  | .group tag members => by
      have closed := Balanced.ofParts (Balanced.leave balanced) locals members
      rw [Task.ofPart, List.cons_append, List.append_assoc]
      exact .enter tag closed
theorem Balanced.ofParts {depth : Nat} {rest : List Task} (balanced : Balanced depth rest)
    (locals : Locals) : (parts : List Part) → Balanced depth (ofParts locals parts ++ rest)
  | [] => balanced
  | part :: parts => by
      have others := Balanced.ofParts balanced locals parts
      rw [Task.ofParts, List.append_assoc]
      exact others.ofPart locals part
end

end Task

namespace SerializeOptions

variable {options : SerializeOptions} {lists opened : OpenLists} {locals : Locals} {node : Node}

theorem visitStep_above (base : OpenLists) :
    options.visitStep (lists.above base) locals node =
      (options.visitStep lists locals node).map fun (opened, tasks) => (opened.above base, tasks) := by
  unfold visitStep
  by_cases isMarker : node.kind = .known .newline
  · simp only [if_pos isMarker, Except.map, Except.ok.injEq, Prod.mk.injEq, and_true]
    cases options.markers
    · rfl
    · exact (lists.push_above base _).symm
  · simp only [if_neg isMarker]
    cases node.kind.rule? with
    | none => simp only [Except.map, lists.push_above base]
    | some rule =>
        dsimp only
        cases rule (options.scope locals) node <;> rfl

theorem visitStep_balanced {tasks rest : List Task}
    (step : options.visitStep lists locals node = .ok (opened, tasks))
    (balanced : Task.Balanced lists.outer.length rest) :
    Task.Balanced opened.outer.length (tasks ++ rest) := by
  unfold visitStep at step
  split at step
  · obtain ⟨rfl, rfl⟩ := Prod.mk.inj (Except.ok.inj step)
    refine Task.Balanced.ofVisit ?_ locals node.u3
    split <;> exact balanced
  · split at step
    · obtain ⟨rfl, rfl⟩ := Prod.mk.inj (Except.ok.inj step)
      exact balanced
    · split at step
      · cases step
      · obtain ⟨rfl, rfl⟩ := Prod.mk.inj (Except.ok.inj step)
        rw [List.append_assoc]
        exact .ofParts (.leave balanced) locals _

end SerializeOptions

/-- What a run comes to that has come to an outcome at some place and still has the rest of its
tasks to do. -/
def Outcome.resume (options : SerializeOptions) (outcome : Outcome) (allowed : Nat)
    (visited : List Node) (lists : OpenLists) (rest : List Task) : Outcome :=
  match outcome.result with
  | .error reason => ⟨visited.reverse ++ outcome.visited, .error reason⟩
  | .ok forms =>
      runTasks options (allowed - outcome.visited.length) (outcome.visited.reverse ++ visited)
        ⟨forms.reverse ++ lists.inner, lists.outer⟩ rest

/-- Tasks that close what they open come to the same on top of others, which then go on. -/
theorem runTasks_append (options : SerializeOptions) (visited : List Node) (base : OpenLists)
    (rest : List Task) (allowed : Nat) (seen : List Node) (lists : OpenLists) (tasks : List Task)
    {depth : Nat} (isDepth : lists.outer.length = depth) (balanced : Task.Balanced depth tasks) :
    runTasks options allowed (seen ++ visited) (lists.above base) (tasks ++ rest) =
      (runTasks options allowed seen lists tasks).resume options (allowed + seen.length) visited
        base rest := by
  -- One case for each task on top, and the rest by induction: every task leaves fewer tasks or
  -- fewer visits.
  cases balanced with
  | nil =>
      obtain ⟨inner, outer⟩ := lists
      obtain rfl := List.eq_nil_of_length_eq_zero isDepth
      simp [runTasks, Outcome.resume, OpenLists.above, OpenLists.atop]
  | @emit _ tasks form balanced =>
      have further := runTasks_append options visited base rest allowed seen (lists.push form)
        tasks isDepth balanced
      rw [List.cons_append, runTasks, runTasks, ← further, OpenLists.push_above]
  | @enter _ tasks tag balanced =>
      have further := runTasks_append options visited base rest allowed seen (lists.enter tag)
        tasks (congrArg (· + 1) isDepth) balanced
      rw [List.cons_append, runTasks, runTasks, ← further, OpenLists.enter_above]
  | @leave depth tasks balanced =>
      obtain ⟨inner, outer⟩ := lists
      obtain ⟨around, others, rfl⟩ := List.exists_cons_of_length_eq_add_one isDepth
      have further := runTasks_append options visited base rest allowed seen
        (OpenLists.leave ⟨inner, around :: others⟩) tasks (Nat.succ.inj isDepth) balanced
      rw [List.cons_append, runTasks, runTasks, ← further,
        OpenLists.leave_above _ base (List.cons_ne_nil _ _)]
  | refuse => simp [runTasks, Outcome.resume]
  | @visit _ tasks node locals balanced =>
      cases allowed with
      | zero => simp [runTasks, Outcome.resume]
      | succ allowed =>
          rw [List.cons_append, runTasks_visit, runTasks_visit, options.visitStep_above base]
          cases step : options.visitStep lists locals node with
          | error reason => simp [Except.map, Outcome.resume]
          | ok next =>
              obtain ⟨opened, inner⟩ := next
              -- The tasks of the visit close what it opened before the others go on.
              have inside := SerializeOptions.visitStep_balanced step (isDepth ▸ balanced)
              have further := runTasks_append options visited base rest allowed (node :: seen)
                opened (inner ++ tasks) rfl inside
              rw [List.length_cons, Nat.add_comm seen.length, ← Nat.add_assoc] at further
              simpa [Except.map] using further
termination_by (allowed, tasks.length)

/-- What a run comes to that has only a node to visit, under a local table. -/
def Node.outcome (options : SerializeOptions) (allowed : Nat) (locals : Locals) (node : Node) :
    Outcome :=
  runStack options allowed [] .start [⟨.visit (.node node), Frames.top, locals⟩]

theorem Node.outcome_eq_runTasks (options : SerializeOptions) (allowed : Nat) (locals : Locals)
    (node : Node) :
    node.outcome options allowed locals = runTasks options allowed [] {} [.visit node locals] :=
  runStack_eq_runTasks (Pending.does_start.visitPayload (.node node) locals) allowed []

theorem runTasks_eq_resume (options : SerializeOptions) (allowed : Nat) (visited : List Node)
    (lists : OpenLists) (node : Node) (locals : Locals) (rest : List Task) :
    runTasks options allowed visited lists (.visit node locals :: rest) =
      (node.outcome options allowed locals).resume options allowed visited lists rest := by
  rw [node.outcome_eq_runTasks]
  exact runTasks_append options visited lists rest allowed [] {} [.visit node locals] rfl
    (.visit node locals .nil)

theorem runStack_eq_resume (options : SerializeOptions) (allowed : Nat) (visited : List Node)
    {pending : Pending} {lists : OpenLists} {target : Nat} {around : List Nat} {rest : List Task}
    (does : pending.Does lists target around rest) (node : Node) (locals : Locals) :
    runStack options allowed visited pending.frames
        (⟨.visit (.node node), target, locals⟩ :: pending.stack) =
      (node.outcome options allowed locals).resume options allowed visited lists rest :=
  (runStack_eq_runTasks (does.visitPayload (.node node) locals) allowed visited).trans
    (runTasks_eq_resume options allowed visited lists node locals rest)

end NodeForms
