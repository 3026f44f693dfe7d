import Mathlib
import NodeForms.Proofs.Serialize.Stack
import NodeForms.Proofs.Serialize.Visits

/-!
# Serialization does the walk

The tasks of a place, on top of whatever is left to do, come to the same as the walk over
that place and then the rest: its visits are used up, its nodes are visited, and its forms
stand in the innermost open list. This is one statement for every stack of tasks and every
stack of open lists, so the places of a tree can be taken one by one.
-/

namespace NodeForms

/-- What a run comes to that has done a walk and still has the rest of its tasks to do. -/
def Walk.resume (options : SerializeOptions) (walk : Walk) (allowed : Nat) (visited : List Node)
    (lists : OpenLists) (rest : List Task) : Outcome :=
  match walk.result with
  | .error reason => ⟨visited.reverse ++ walk.visited, .error reason⟩
  | .ok forms =>
      runTasks options (allowed - walk.visited.length) (walk.visited.reverse ++ visited)
        ⟨forms.reverse ++ lists.inner, lists.outer⟩ rest

namespace Walk

variable {options : SerializeOptions} {allowed : Nat} {visited : List Node} {lists : OpenLists}
  {rest : List Task}

theorem resume_failed (reason : Failure) :
    (failed reason).resume options allowed visited lists rest =
      ⟨visited.reverse, .error reason⟩ := by
  simp [resume, failed]

theorem resume_done (forms : List Sexp) :
    (done forms).resume options allowed visited lists rest =
      runTasks options allowed visited ⟨forms.reverse ++ lists.inner, lists.outer⟩ rest := by
  simp [resume, done]

theorem resume_after (node : Node) (walk : Walk) :
    (walk.after node).resume options (allowed + 1) visited lists rest =
      walk.resume options allowed (node :: visited) lists rest := by
  unfold resume after
  cases walk.result with
  | error reason => simp
  | ok forms => simp [Nat.add_sub_add_right]

theorem resume_enclosed (tag : String) (walk : Walk) :
    (walk.enclosed tag).resume options allowed visited lists rest =
      walk.resume options allowed visited (lists.enter tag) (.leave :: rest) := by
  unfold resume enclosed
  cases walk.result with
  | error reason => rfl
  | ok forms =>
      simp only [Except.map, runTasks, OpenLists.enter, OpenLists.leave, List.reverse_append,
        List.reverse_cons, List.reverse_nil, List.nil_append, List.reverse_reverse,
        List.cons_append]

theorem resume_andThen {first second : Walk} {tasks : List Task}
    (next : ∀ forms, first.result = .ok forms →
      runTasks options (allowed - first.visited.length) (first.visited.reverse ++ visited)
          ⟨forms.reverse ++ lists.inner, lists.outer⟩ tasks =
        second.resume options (allowed - first.visited.length)
          (first.visited.reverse ++ visited) ⟨forms.reverse ++ lists.inner, lists.outer⟩ rest) :
    (first.andThen second).resume options allowed visited lists rest =
      first.resume options allowed visited lists tasks := by
  cases result : first.result with
  | error reason =>
      rw [andThen_of_error result]
      simp only [resume, result]
  | ok forms =>
      rw [andThen_of_ok result]
      simp only [resume, result, next forms result]
      cases second.result with
      | error reason => simp [Except.map]
      | ok later => simp [Except.map, Nat.sub_sub]

end Walk

/-- How many visits are left after so many, for a place that leads to at most `load`: what
remains of the limit or, without one, enough for the place. -/
def SerializeOptions.Allows (options : SerializeOptions) (allowed seen load : Nat) : Prop :=
  match options.limit with
  | some limit => allowed = limit.toNat - seen
  | none => load ≤ allowed

namespace SerializeOptions

variable {options : SerializeOptions} {allowed seen load : Nat}

theorem Allows.mono {less : Nat} (enough : options.Allows allowed seen load) (le : less ≤ load) :
    options.Allows allowed seen less := by
  unfold Allows at *
  split at enough
  · exact enough
  · exact Nat.le_trans le enough

theorem Allows.advance {visits first : Nat} (enough : options.Allows allowed seen (first + load))
    (le : visits ≤ first) : options.Allows (allowed - visits) (seen + visits) load := by
  unfold Allows at *
  split at enough <;> omega

theorem allows_zero_of_isSpent (enough : options.Allows allowed seen load)
    (spent : options.isSpent seen = true) : allowed = 0 := by
  unfold Allows at enough
  unfold isSpent at spent
  split at enough
  · rename_i limit isLimit
    rw [isLimit, Option.any_some, decide_eq_true_eq] at spent
    omega
  · rename_i noLimit
    rw [noLimit] at spent
    cases spent

/-- Before the limit is reached a visit is left, and after it enough for the rest. -/
theorem Allows.step {less : Nat} (enough : options.Allows allowed seen load)
    (notSpent : ¬options.isSpent seen = true) (less_lt : less < load) :
    ∃ left, allowed = left + 1 ∧ options.Allows left (seen + 1) less := by
  unfold Allows at *
  unfold isSpent at notSpent
  split at enough
  · rename_i limit isLimit
    rw [isLimit, Option.any_some, decide_eq_true_eq] at notSpent
    exact ⟨allowed - 1, by omega, by omega⟩
  · exact ⟨allowed - 1, by omega, by omega⟩

end SerializeOptions

/-- The tasks do the walk: whatever is allowed, visited and open before, and whatever is left
to do, they come to the walk and then the rest. -/
def Walk.IsDoneBy (options : SerializeOptions) (seen load : Nat) (tasks : List Task)
    (walk : Walk) : Prop :=
  ∀ (allowed : Nat) (visited : List Node) (lists : OpenLists) (rest : List Task),
    options.Allows allowed seen load →
      runTasks options allowed visited lists (tasks ++ rest) =
        walk.resume options allowed visited lists rest

namespace Walk.IsDoneBy

variable {options : SerializeOptions} {seen : Nat} {locals : Locals} {node : Node}

theorem nothing {load : Nat} : IsDoneBy options seen load [] (.done []) := by
  intro allowed visited lists rest _
  rw [resume_done]
  rfl

theorem emit {load : Nat} (form : Sexp) :
    IsDoneBy options seen load [.emit form] (.done [form]) := by
  intro allowed visited lists rest _
  rw [resume_done, List.singleton_append, runTasks]
  rfl

theorem refuse {load : Nat} :
    IsDoneBy options seen load [.refuse] (.failed (.payload .noNode)) := by
  intro allowed visited lists rest _
  rw [resume_failed, List.singleton_append, runTasks]

theorem spent (isSpent : options.isSpent seen = true) :
    IsDoneBy options seen node.load [.visit node locals]
      (.failed (options.exhausted node)) := by
  intro allowed visited lists rest enough
  obtain rfl := SerializeOptions.allows_zero_of_isSpent enough isSpent
  rw [List.singleton_append, runTasks, resume_failed]

theorem marker {slot : Walk} (notSpent : ¬options.isSpent seen = true)
    (isMarker : node.kind = .known .newline)
    (marked : slot.IsDoneBy options (seen + 1) node.u3.load (Task.ofVisit locals node.u3)) :
    IsDoneBy options seen node.load [.visit node locals]
      (.after node ((done (if options.markers then [lineMarker node] else [])).andThen slot)) := by
  intro allowed visited lists rest enough
  obtain ⟨left, rfl, enoughAfter⟩ := enough.step notSpent (node.load_marked isMarker)
  calc
    runTasks options (left + 1) visited lists ([.visit node locals] ++ rest) =
        (done (if options.markers then [lineMarker node] else [])).resume options left
          (node :: visited) lists (Task.ofVisit locals node.u3 ++ rest) := by
      rw [resume_done, List.singleton_append, runTasks, if_pos isMarker]
      cases options.markers <;> rfl
    _ = ((done (if options.markers then [lineMarker node] else [])).andThen slot).resume options
          left (node :: visited) lists rest := by
      refine (resume_andThen fun forms _ => ?_).symm
      exact marked left (node :: visited) _ rest enoughAfter
    _ = _ := (resume_after node _).symm

theorem unhandled (notSpent : ¬options.isSpent seen = true)
    (noMarker : ¬node.kind = .known .newline) (noRule : node.parts? locals = none) :
    IsDoneBy options seen node.load [.visit node locals]
      ⟨[node], [Diagnostic.unhandled options.context node], .ok [unhandledForm node]⟩ := by
  intro allowed visited lists rest enough
  obtain ⟨left, rfl, -⟩ := enough.step notSpent node.load_pos
  rw [List.singleton_append, runTasks, if_neg noMarker, Option.map_eq_none_iff.mp noRule]
  rfl

theorem fault {fault : RuleFault} (held : options.closures = .held)
    (notSpent : ¬options.isSpent seen = true) (noMarker : ¬node.kind = .known .newline)
    (refused : node.parts? locals = some (.error fault)) :
    IsDoneBy options seen node.load [.visit node locals]
      (.after node (.failed (options.ruleFailure node fault))) := by
  intro allowed visited lists rest enough
  obtain ⟨left, rfl, -⟩ := enough.step notSpent node.load_pos
  obtain ⟨rule, hasRule, applied⟩ := Option.map_eq_some_iff.mp refused
  rw [List.singleton_append, runTasks, if_neg noMarker, hasRule, resume_after, resume_failed]
  simp only [SerializeOptions.scope, held, applied]

theorem parts {parts : List Part} {inner : Walk} (held : options.closures = .held)
    (notSpent : ¬options.isSpent seen = true) (noMarker : ¬node.kind = .known .newline)
    (found : node.parts? locals = some (.ok parts))
    (done : inner.IsDoneBy options (seen + 1) (Part.listLoad parts)
      (Task.ofParts locals parts)) :
    IsDoneBy options seen node.load [.visit node locals]
      (.after node (.enclosed node.tag inner)) := by
  intro allowed visited lists rest enough
  obtain ⟨left, rfl, enoughAfter⟩ := enough.step notSpent (node.parts?_load found)
  obtain ⟨rule, hasRule, applied⟩ := Option.map_eq_some_iff.mp found
  rw [List.singleton_append, runTasks, if_neg noMarker, hasRule, resume_after, resume_enclosed,
    ← done left (node :: visited) (lists.enter node.tag) (.leave :: rest) enoughAfter]
  simp only [SerializeOptions.scope, held, applied]

theorem andThen {first second : Walk} {firstLoad secondLoad : Nat}
    {firstTasks secondTasks : List Task}
    (ofFirst : first.IsDoneBy options seen firstLoad firstTasks)
    (visits : first.visited.length ≤ firstLoad)
    (ofSecond : second.IsDoneBy options (seen + first.visited.length) secondLoad secondTasks) :
    (first.andThen second).IsDoneBy options seen (firstLoad + secondLoad)
      (firstTasks ++ secondTasks) := by
  intro allowed visited lists rest enough
  have enoughFirst := enough.mono (Nat.le_add_right firstLoad secondLoad)
  rw [List.append_assoc, ofFirst allowed visited lists (secondTasks ++ rest) enoughFirst,
    resume_andThen]
  intro forms _
  exact ofSecond _ _ _ _ (enough.advance visits)

theorem group {inner : Walk} {load : Nat} {tasks : List Task} (tag : String)
    (done : inner.IsDoneBy options seen load tasks) :
    (inner.enclosed tag).IsDoneBy options seen load (.enter tag :: (tasks ++ [.leave])) := by
  intro allowed visited lists rest enough
  rw [resume_enclosed, ← done allowed visited (lists.enter tag) (.leave :: rest) enough,
    List.cons_append, runTasks, List.append_assoc, List.singleton_append]

end Walk.IsDoneBy

theorem walk_isDoneBy (options : SerializeOptions) (held : options.closures = .held) :
    (∀ seen locals node, (walkNode options seen locals node).IsDoneBy options seen node.load
        [.visit node locals]) ∧
      (∀ seen inside parts, ∀ around : Locals,
        (∀ part ∈ parts, part.IsDrawn (fun _ => True) around inside) →
          (walkParts options seen inside parts).IsDoneBy options seen (Part.listLoad parts)
            (Task.ofParts around parts)) ∧
      (∀ seen inside part, ∀ around : Locals, part.IsDrawn (fun _ => True) around inside →
        (walkPart options seen inside part).IsDoneBy options seen part.load
          (Task.ofPart around part)) ∧
      ∀ seen locals payload, (walkSlot options seen locals payload).IsDoneBy options seen
        payload.load (Task.ofVisit locals payload) := by
  apply walk_induction options
  case spent =>
    intro seen locals node spent
    rw [walkNode_spent spent]
    exact .spent spent
  case marker =>
    intro seen locals node notSpent isMarker inductionHypothesis
    rw [walkNode_marker notSpent isMarker]
    exact .marker notSpent isMarker inductionHypothesis
  case unhandled =>
    intro seen locals node notSpent noMarker noRule
    rw [walkNode_unhandled notSpent noMarker noRule]
    exact .unhandled notSpent noMarker noRule
  case fault =>
    intro seen locals node notSpent noMarker fault refused
    rw [walkNode_fault notSpent noMarker refused]
    exact .fault held notSpent noMarker refused
  case parts =>
    intro seen locals node notSpent noMarker parts found inductionHypothesis
    rw [walkNode_parts notSpent noMarker found]
    -- The parts are under the table inside the node, as the walk takes it.
    have drawn := (node.parts?_draws found).isDrawn .true fun _ _ => trivial
    exact .parts held notSpent noMarker found (inductionHypothesis locals drawn)
  case nil =>
    intro seen inside around _
    rw [walkParts_nil, Task.ofParts]
    exact .nothing
  case cons =>
    intro seen inside part rest ofPart ofRest around drawn
    rw [List.forall_mem_cons] at drawn
    rw [walkParts_cons, Part.listLoad, Task.ofParts]
    have visits := (visited_length_le options).2.2.1 seen inside part
    exact .andThen (ofPart around drawn.1) visits (ofRest around drawn.2)
  case value =>
    intro seen inside form around _
    rw [walkPart_value, Task.ofPart]
    exact .emit form
  case node =>
    intro seen inside child inductionHypothesis around drawn
    rcases drawn with _ | ⟨rfl, -⟩
    rw [walkPart_node, Task.ofPart, Part.load]
    exact inductionHypothesis
  case absent =>
    intro seen inside child inner isEmpty around _
    rw [walkPart_absent inner isEmpty, Task.ofPart, if_pos isEmpty]
    exact .emit .nil
  case under =>
    intro seen inside child inner isFilled inductionHypothesis around drawn
    rcases drawn with _ | _ | ⟨-⟩
    rw [walkPart_scoped _ isFilled, Task.ofPart, if_neg isFilled, Part.load]
    exact inductionHypothesis
  case group =>
    intro seen inside tag members inductionHypothesis around drawn
    rcases drawn with _ | _ | _ | members
    rw [walkPart_group, Task.ofPart, Part.load]
    exact .group _ (inductionHypothesis around members)
  case held =>
    intro seen locals child inductionHypothesis
    rw [walkSlot_node]
    exact inductionHypothesis
  case empty =>
    intro seen locals payload noNode isEmpty
    rw [walkSlot_empty noNode isEmpty]
    have tasks : Task.ofVisit locals payload = [] := by
      unfold Task.ofVisit
      split
      · exact absurd rfl (noNode _)
      · rw [if_pos isEmpty]
    rw [tasks]
    exact .nothing
  case misplaced =>
    intro seen locals payload noNode isFilled
    rw [walkSlot_misplaced noNode isFilled]
    have tasks : Task.ofVisit locals payload = [.refuse] := by
      unfold Task.ofVisit
      split
      · exact absurd rfl (noNode _)
      · rw [if_neg isFilled]
    rw [tasks]
    exact .refuse

/-- What serialization means: nothing for an absent tree, else the walk from the root, without
a local table. -/
def walkTree (options : SerializeOptions) : Option Node → Walk
  | none => .done []
  | some root => walkNode options 0 .absent root

theorem Walk.resume_nothing (options : SerializeOptions) (walk : Walk) (allowed : Nat) :
    walk.resume options allowed [] {} [] = walk.outcome := by
  unfold resume outcome
  cases walk.result with
  | error reason => rfl
  | ok forms => simp [runTasks]

theorem SerializeOptions.allows_allowance (options : SerializeOptions)
    (held : options.closures = .held) (root : Node) :
    options.Allows (options.allowance (.node root)) 0 root.load := by
  unfold Allows allowance
  cases options.limit with
  | some limit => exact (Nat.sub_zero _).symm
  | none =>
      rw [held]
      exact root.load_le_size

theorem serialize_eq_outcome (options : SerializeOptions) (held : options.closures = .held)
    (root : Option Node) : serialize options root = (walkTree options root).outcome := by
  cases root with
  | none => exact serialize_none options
  | some root =>
      have done := (walk_isDoneBy options held).1 0 .absent root
      have enough := options.allows_allowance held root
      calc
        serialize options (some root) =
            runTasks options (options.allowance (.node root)) [] {} [.visit root .absent] :=
          serialize_some options root
        _ = (walkNode options 0 .absent root).resume options (options.allowance (.node root)) []
              {} [] :=
          done _ [] {} [] enough
        _ = (walkTree options (some root)).outcome := Walk.resume_nothing _ _ _

theorem walkTree_isReported (options : SerializeOptions) (root : Option Node) :
    (walkTree options root).IsReported options.context := by
  cases root with
  | none => rfl
  | some root => exact (walk_isReported options).1 0 .absent root

/-- Serialization does the walk: it visits the same nodes, leaves the same diagnostics, and
comes to the same forms or the same failure. -/
theorem serialize_eq_walkTree (options : SerializeOptions) (root : Option Node) :
    let heldOptions : SerializeOptions := { options with closures := .held }
    let run := serialize heldOptions root
    let walk := walkTree heldOptions root
    run.visited = walk.visited ∧ run.diagnostics heldOptions.context = walk.findings ∧
      run.result = walk.result := by
  intro heldOptions run walk
  have same : run = walk.outcome := serialize_eq_outcome heldOptions rfl root
  refine ⟨congrArg Outcome.visited same, ?_, congrArg Outcome.result same⟩
  rw [same]
  exact (walkTree_isReported heldOptions root).symm

/-- A scope with a table: an `args` node, a line with a scope that has a table of its own, another
`args` node after it, an indexed assignment, a node without a rule, and a method made from a
block. Each `args` node declares one parameter. -/
def nestedScopes : Node :=
  let args : Node := ⟨.known .args, .null, .null, .data (.int 1), 1, none⟩
  let inner : Node :=
    ⟨.known .scope, .table (.ofDeclared ["b"]), .null, .node args, 2, some "a.rb"⟩
  let line : Node := ⟨.known .newline, .null, .null, .node inner, 2, some "a.rb"⟩
  let receiver : Node := ⟨.known .selfRef, .null, .null, .null, 3, none⟩
  let index : Node := ⟨.known .nilRef, .null, .null, .null, 3, none⟩
  let items : Node := ⟨.known .array, .ofNodes [receiver, index], .null, .null, 3, none⟩
  let assigned : Node :=
    ⟨.known .opAsgn1, .node receiver, .data (.text "+"), .node items, 3, none⟩
  let runtime : Node := ⟨.known .cref, .null, .null, .null, 4, none⟩
  let made : Node :=
    ⟨.known .bmethod, .null, .null, .closure .null (.node args) none, 5, none⟩
  let block : Node :=
    ⟨.known .block, .ofNodes [args, line, args, assigned, runtime, made], .null, .null, 1, none⟩
  ⟨.known .scope, .table (.ofDeclared ["a"]), .null, .node block, 1, none⟩

/-- Every `args` node has the parameter of the nearest scope around it, also after a scope beside
it is done, and none inside the method made from a block. -/
theorem serialize_eq_walkTree_nestedScopes :
    let options : SerializeOptions := { markers := true }
    let walk := walkTree options (some nestedScopes)
    walk.visited.map Node.tag = ["scope", "block", "args", "newline", "scope", "args", "args",
      "op_asgn1", "self", "nil", "self", "cref", "bmethod", "args"] ∧
    walk.findings.map Diagnostic.kindTag = ["cref"] ∧
    walk.result = .ok [.seq [.atom "scope", .seq [.atom "block",
      .seq [.atom "args", .atom "a"],
      .seq [.atom "newline", .int 2, .text "a.rb"],
      .seq [.atom "scope", .seq [.atom "args", .atom "b"]],
      .seq [.atom "args", .atom "a"],
      .seq [.atom "op_asgn1", .seq [.atom "self"], .seq [.atom "array", .seq [.atom "nil"]],
        .atom "+", .seq [.atom "self"]],
      .seq [.atom "unhandled", .int 84],
      .seq [.atom "bmethod", .nil, .seq [.atom "args"]]]]] := by
  have same := serialize_eq_walkTree { markers := true } (some nestedScopes)
  dsimp only at same ⊢
  rw [← same.1, ← same.2.1, ← same.2.2, Outcome.diagnostics, List.map_map]
  refine ⟨by cbv, ?findings, by cbv⟩
  -- Of a diagnostic only the tag is looked at, so its message need not be evaluated.
  change List.map Node.tag _ = _
  cbv

end NodeForms
