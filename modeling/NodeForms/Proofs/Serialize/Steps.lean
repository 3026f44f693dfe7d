import NodeForms.Proofs.Serialize.Stack
import Mathlib.Data.List.Infix

/-!
# Runs step by step

A run without a limit as a relation: which outcome the tasks of a stack come to, one task after
the other. A run that is allowed only so many visits takes the same steps, so it comes to the
same outcome or stops at the first visit beyond them.
-/

namespace NodeForms

namespace SerializeOptions

/-- What a visit to a node leads to: the open lists and the tasks that come next, or the failure
of its rule. -/
def visitStep (options : SerializeOptions) (lists : OpenLists) (locals : Locals) (node : Node) :
    Except Failure (OpenLists × List Task) :=
  if node.kind = .known .newline then
    .ok (if options.markers then lists.push (lineMarker node) else lists,
      Task.ofVisit locals node.u3)
  else
    match node.kind.rule? with
    | none => .ok (lists.push (unhandledForm node), [])
    | some rule =>
        match rule (options.scope locals) node with
        | .error fault => .error (options.ruleFailure node fault)
        | .ok parts => .ok (lists.enter node.tag, Task.ofParts locals parts ++ [.leave])

end SerializeOptions

theorem runTasks_visit (options : SerializeOptions) (allowed : Nat) (visited : List Node)
    (lists : OpenLists) (node : Node) (locals : Locals) (rest : List Task) :
    runTasks options (allowed + 1) visited lists (.visit node locals :: rest) =
      match options.visitStep lists locals node with
      | .error reason => ⟨(node :: visited).reverse, .error reason⟩
      | .ok (opened, tasks) =>
          runTasks options allowed (node :: visited) opened (tasks ++ rest) := by
  rw [runTasks, SerializeOptions.visitStep]
  by_cases isMarker : node.kind = .known .newline
  · simp only [if_pos isMarker]
  · simp only [if_neg isMarker]
    cases hasRule : node.kind.rule? with
    | none => rfl
    | some rule =>
        cases applied : rule (options.scope locals) node with
        | error fault => simp only [applied]
        | ok parts => simp only [applied, List.append_assoc, List.singleton_append]

/-- The outcome that the tasks of a stack come to if any number of visits is allowed. -/
inductive Runs (options : SerializeOptions) :
    List Node → OpenLists → List Task → Outcome → Prop
  | done (visited : List Node) (lists : OpenLists) :
      Runs options visited lists [] ⟨visited.reverse, .ok lists.inner.reverse⟩
  | emit {visited : List Node} {lists : OpenLists} {form : Sexp} {rest : List Task}
      {outcome : Outcome} :
      Runs options visited (lists.push form) rest outcome →
        Runs options visited lists (.emit form :: rest) outcome
  | enter {visited : List Node} {lists : OpenLists} {tag : String} {rest : List Task}
      {outcome : Outcome} :
      Runs options visited (lists.enter tag) rest outcome →
        Runs options visited lists (.enter tag :: rest) outcome
  | leave {visited : List Node} {lists : OpenLists} {rest : List Task} {outcome : Outcome} :
      Runs options visited lists.leave rest outcome →
        Runs options visited lists (.leave :: rest) outcome
  | refuse (visited : List Node) (lists : OpenLists) (rest : List Task) :
      Runs options visited lists (.refuse :: rest)
        ⟨visited.reverse, .error (.payload .noNode)⟩
  | fail {lists : OpenLists} {locals : Locals} {node : Node} {reason : Failure}
      (visited : List Node) (rest : List Task) :
      options.visitStep lists locals node = .error reason →
        Runs options visited lists (.visit node locals :: rest)
          ⟨(node :: visited).reverse, .error reason⟩
  | visit {visited : List Node} {lists opened : OpenLists} {locals : Locals} {node : Node}
      {tasks rest : List Task} {outcome : Outcome} :
      options.visitStep lists locals node = .ok (opened, tasks) →
        Runs options (node :: visited) opened (tasks ++ rest) outcome →
          Runs options visited lists (.visit node locals :: rest) outcome

/-- What is left of an outcome when only so many visits are allowed: all of it if they are
enough, and else the visits up to there and the failure of the next one. -/
def Outcome.within (options : SerializeOptions) (visits : Nat) (outcome : Outcome) : Outcome :=
  match outcome.visited[visits]? with
  | none => outcome
  | some node => ⟨outcome.visited.take visits, .error (options.exhausted node)⟩

namespace Outcome

variable {options : SerializeOptions} {visits : Nat} {outcome : Outcome}

theorem within_of_length_le (enough : outcome.visited.length ≤ visits) :
    outcome.within options visits = outcome := by
  rw [within, List.getElem?_eq_none enough]

theorem within_of_getElem? {node : Node} (next : outcome.visited[visits]? = some node) :
    outcome.within options visits =
      ⟨outcome.visited.take visits, .error (options.exhausted node)⟩ := by
  rw [within, next]

theorem within_of_prefix {node : Node} {visited : List Node}
    (next : (node :: visited).reverse <+: outcome.visited) :
    outcome.within options visited.length =
      ⟨visited.reverse, .error (options.exhausted node)⟩ := by
  obtain ⟨later, same⟩ := next
  have split : outcome.visited = visited.reverse ++ node :: later := by
    rw [← same, List.reverse_cons, List.append_assoc, List.singleton_append]
  have beyond : outcome.visited[visited.length]? = some node := by simp [split]
  rw [within_of_getElem? beyond, split]
  simp

end Outcome

namespace Runs

variable {options : SerializeOptions} {visited : List Node} {lists : OpenLists}
  {tasks : List Task} {outcome : Outcome}

theorem visited_prefix (runs : Runs options visited lists tasks outcome) :
    visited.reverse <+: outcome.visited := by
  induction runs with
  | done | refuse => exact List.prefix_rfl
  | emit _ inductionHypothesis | enter _ inductionHypothesis | leave _ inductionHypothesis =>
      exact inductionHypothesis
  | fail =>
      rw [List.reverse_cons]
      exact List.prefix_append _ _
  | visit _ _ inductionHypothesis =>
      rw [List.reverse_cons] at inductionHypothesis
      exact (List.prefix_append _ _).trans inductionHypothesis

theorem withLimit (runs : Runs options visited lists tasks outcome) (limit : Option Int) :
    Runs { options with limit := limit } visited lists tasks outcome := by
  induction runs with
  | done => exact .done _ _
  | emit _ inductionHypothesis => exact .emit inductionHypothesis
  | enter _ inductionHypothesis => exact .enter inductionHypothesis
  | leave _ inductionHypothesis => exact .leave inductionHypothesis
  | refuse => exact .refuse _ _ _
  | fail _ _ step => exact .fail _ _ step
  | visit step _ inductionHypothesis => exact .visit step inductionHypothesis

/-- A run that is allowed so many visits comes to what is left of the outcome within them. -/
theorem runTasks_eq (runs : Runs options visited lists tasks outcome) (allowed : Nat) :
    runTasks options allowed visited lists tasks =
      outcome.within options (visited.length + allowed) := by
  induction runs generalizing allowed with
  | done visited lists | refuse visited lists rest =>
      rw [runTasks, Outcome.within_of_length_le (by simp)]
  | emit _ inductionHypothesis | enter _ inductionHypothesis | leave _ inductionHypothesis =>
      rw [runTasks, inductionHypothesis]
  | fail visited rest step =>
      cases allowed with
      | zero => rw [runTasks, Nat.add_zero, Outcome.within_of_prefix List.prefix_rfl]
      | succ allowed =>
          rw [runTasks_visit, step, Outcome.within_of_length_le]
          simp
  | @visit visited lists opened locals node tasks rest outcome step runs inductionHypothesis =>
      cases allowed with
      | zero => rw [runTasks, Nat.add_zero, Outcome.within_of_prefix runs.visited_prefix]
      | succ allowed =>
          rw [runTasks_visit, step]
          simp only [inductionHypothesis, List.length_cons]
          rw [Nat.add_assoc, Nat.add_comm 1]

theorem exists_last_of_error (runs : Runs options visited lists tasks outcome) {reason : Failure}
    (failed : outcome.result = .error reason) :
    reason = .payload .noNode ∨ ∃ before node lists locals,
      outcome.visited = before ++ [node] ∧ options.visitStep lists locals node = .error reason := by
  induction runs with
  | done => cases failed
  | emit _ inductionHypothesis | enter _ inductionHypothesis | leave _ inductionHypothesis
  | visit _ _ inductionHypothesis => exact inductionHypothesis failed
  | refuse => exact .inl (Except.error.inj failed).symm
  | fail visited rest step =>
      obtain rfl := Except.error.inj failed
      exact .inr ⟨_, _, _, _, List.reverse_cons, step⟩

end Runs

/-- A run that is never out of visits comes to the outcome of its tasks. -/
theorem runs_runTasks_of_not_exhausted {options : SerializeOptions} (allowed : Nat)
    (visited : List Node) (lists : OpenLists) (tasks : List Task)
    (enough : ∀ node,
      (runTasks options allowed visited lists tasks).result ≠ .error (options.exhausted node)) :
    Runs options visited lists tasks (runTasks options allowed visited lists tasks) := by
  fun_induction runTasks options allowed visited lists tasks with
  | case1 => exact .done _ _
  | case2 _ _ _ _ _ further => exact .emit (further enough)
  | case3 _ _ _ _ _ further => exact .enter (further enough)
  | case4 _ _ _ _ further => exact .leave (further enough)
  | case5 => exact .refuse _ _ _
  | case6 visited lists node => exact absurd rfl (enough node)
  | case7 visited lists node locals rest allowed visitedNow isMarker marked further =>
      have step : options.visitStep lists locals node =
          .ok (marked, Task.ofVisit locals node.u3) := by
        rw [SerializeOptions.visitStep, if_pos isMarker]
        rfl
      exact .visit step (further enough)
  | case8 visited lists node locals rest allowed visitedNow noMarker noRule further =>
      have step : options.visitStep lists locals node =
          .ok (lists.push (unhandledForm node), []) := by
        rw [SerializeOptions.visitStep, if_neg noMarker, noRule]
      exact .visit step (further enough)
  | case9 visited lists node locals rest allowed visitedNow noMarker rule hasRule fault applied =>
      have step : options.visitStep lists locals node =
          .error (options.ruleFailure node fault) := by
        simp only [SerializeOptions.visitStep, if_neg noMarker, hasRule, applied]
      exact .fail _ _ step
  | case10 visited lists node locals rest allowed visitedNow noMarker rule hasRule parts applied
      further =>
      have step : options.visitStep lists locals node =
          .ok (lists.enter node.tag, Task.ofParts locals parts ++ [.leave]) := by
        simp only [SerializeOptions.visitStep, if_neg noMarker, hasRule, applied]
      refine .visit step ?_
      rw [List.append_assoc]
      exact further enough

/-- A run without a limit that does not go on for ever comes to the outcome of its tasks. -/
theorem runs_runTasks {options : SerializeOptions} (noLimit : options.limit = none)
    (allowed : Nat) (visited : List Node) (lists : OpenLists) (tasks : List Task)
    (settles : (runTasks options allowed visited lists tasks).result ≠ .error .endless) :
    Runs options visited lists tasks (runTasks options allowed visited lists tasks) := by
  refine runs_runTasks_of_not_exhausted allowed visited lists tasks fun node => ?_
  rwa [SerializeOptions.exhausted, noLimit]

end NodeForms
