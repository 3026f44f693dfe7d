import NodeForms.Proofs.Serialize.Contributions

/-!
# The clauses of a case

The clauses of a case are linked: each leads to the next, and the last one to what is done
otherwise, or to nothing. The case goes through the chain and has all clauses in its own list, one
after the other, while each clause leaves out what comes after it. So no clause is lost, and none
is written in another.
-/

namespace NodeForms

/-- The clauses that are linked from a slot on, and the slot where the chain ends: it is empty, or
its node is no clause. -/
inductive Value.Chains : Value → List Node → Value → Prop
  | absent {payload : Value} (isEmpty : payload.isNull = true) : Chains payload [] payload
  | otherwise {child : Node} (noClause : ¬child.kind = .known .whenClause) :
      Chains (.node child) [] (.node child)
  | clause {clause : Node} {clauses : List Node} {last : Value}
      (isClause : clause.kind = .known .whenClause) (further : clause.u3.Chains clauses last) :
      Chains (.node clause) (clause :: clauses) last

/-- What comes of a clause: a list of what its matches and its body contribute. -/
def Node.clauseOutcome (options : SerializeOptions) (locals : Locals) (clause : Node) :
    Nat → Outcome
  | 0 => ⟨[], .error (options.exhausted clause)⟩
  | allowed + 1 =>
      .listOf clause
        (.inOrder [clause.u1.outcome options locals, clause.u2.outcome options locals] allowed)

/-- A list with what the matches and the body of a clause contribute, and nothing else. -/
def Node.IsClauseForm (options : SerializeOptions) (locals : Locals) (clause : Node)
    (form : Sexp) : Prop :=
  ∃ choices body, form = .seq (.atom "when" :: (choices ++ body)) ∧
    clause.u1.Contributes options locals choices ∧ clause.u2.Contributes options locals body

section

variable {options : SerializeOptions} {locals : Locals}

theorem Node.outcome_clause {clause : Node} (isClause : clause.kind = .known .whenClause)
    (allowed : Nat) :
    clause.outcome options allowed locals = clause.clauseOutcome options locals allowed := by
  cases allowed with
  | zero =>
      rw [outcome_eq_runTasks, runTasks]
      rfl
  | succ allowed =>
      have noMarker : ¬clause.kind = .known .newline := by simp [isClause]
      have hasRule : clause.kind.rule? = some Rule.twoChildren := by rw [isClause]; rfl
      rw [outcome_of_parts noMarker hasRule rfl, clauseOutcome]
      simp only [List.map_cons, List.map_nil, Part.outcome_child]

theorem Node.isClauseForm_of_ok {clause : Node} (isClause : clause.kind = .known .whenClause)
    {allowed : Nat} {forms : List Sexp}
    (ok : (clause.clauseOutcome options locals allowed).result = .ok forms) :
    ∃ form, forms = [form] ∧ clause.IsClauseForm options locals form := by
  cases allowed with
  | zero => cases ok
  | succ allowed =>
      obtain ⟨items, inside, rfl⟩ := Outcome.listOf_eq_ok ok
      obtain ⟨shares, rfl, each⟩ := Outcome.inOrder_eq_ok inside
      rcases each with _ | ⟨choices, _ | ⟨body, ⟨⟩⟩⟩
      have isTag : clause.tag = "when" := by rw [Node.tag, isClause]; rfl
      rw [isTag]
      exact ⟨_, rfl, _, _, by simp, choices, body⟩

theorem Rule.clauses_of_chains {payload last : Value} {clauses : List Node}
    (chains : payload.Chains clauses last) :
    Rule.clauses payload = .ok (clauses.map .node ++ [.child last]) := by
  induction chains with
  | @absent payload isEmpty =>
      have isPart : Part.child payload = .value .nil := by rw [Part.child, if_pos isEmpty]
      rw [isPart]
      cases payload with
      | node child => cases isEmpty
      | _ =>
          rw [Rule.clauses, if_pos isEmpty]
          · rfl
          all_goals simp
  | @otherwise child noClause =>
      obtain ⟨kind, u1, u2, u3, line, file⟩ := child
      rw [Rule.clauses]
      · rfl
      · rintro head body next line file ⟨⟩
        exact noClause rfl
  | @clause clause clauses last isClause _ ih =>
      obtain ⟨kind, u1, u2, u3, line, file⟩ := clause
      obtain rfl : kind = _ := isClause
      rw [Rule.clauses, ih]
      rfl

theorem Value.Chains.isClause {payload last : Value} {clauses : List Node}
    (chains : payload.Chains clauses last) :
    ∀ clause ∈ clauses, clause.kind = .known .whenClause := by
  induction chains with
  | absent | otherwise => simp
  | clause isClause _ ih => exact List.forall_mem_cons.mpr ⟨isClause, ih⟩

theorem exists_clauseForms {clauses : List Node} {last : Value}
    (areClauses : ∀ clause ∈ clauses, clause.kind = .known .whenClause) {shares : List (List Sexp)}
    (each : List.Forall₂ (fun place share => ∃ left, (place left).result = .ok share)
      (clauses.map (Node.clauseOutcome options locals) ++ [last.outcome options locals]) shares) :
    ∃ clauseForms terminal, shares.flatten = clauseForms ++ terminal ∧
      List.Forall₂ (Node.IsClauseForm options locals) clauses clauseForms ∧
      last.Contributes options locals terminal := by
  induction clauses generalizing shares with
  | nil =>
      rcases each with _ | ⟨terminal, ⟨⟩⟩
      exact ⟨[], _, by simp, .nil, terminal⟩
  | cons clause clauses ih =>
      rw [List.forall_mem_cons] at areClauses
      rcases each with _ | ⟨⟨left, ok⟩, further⟩
      obtain ⟨form, rfl, isForm⟩ := Node.isClauseForm_of_ok areClauses.1 ok
      obtain ⟨forms, terminal, split, others, ends⟩ := ih areClauses.2 further
      exact ⟨form :: forms, terminal, by simp [split], .cons isForm others, ends⟩

end

/-- What comes of a case whose body is a chain of clauses, wherever it is visited: one list of what
the head contributes, of each clause of the chain in order, and of what the end of the chain
contributes. If there are forms, each clause has one list of its own, next to the others, with what
its matches and its body contribute. -/
theorem outcome_case (options : SerializeOptions) (allowed : Nat) (locals : Locals) (node : Node)
    {clauses : List Node} {last : Value} (isCase : node.kind = .known .caseOf)
    (chains : node.u2.Chains clauses last) :
    let outcome := node.outcome options (allowed + 1) locals
    (∀ pending lists target around rest, Pending.Does pending lists target around rest →
      ∀ visited,
        runStack options (allowed + 1) visited pending.frames
            (⟨.visit (.node node), target, locals⟩ :: pending.stack) =
          outcome.resume options (allowed + 1) visited lists rest) ∧
    (∀ visited lists rest,
      runTasks options (allowed + 1) visited lists (.visit node locals :: rest) =
        outcome.resume options (allowed + 1) visited lists rest) ∧
    outcome = .listOf node (.inOrder
      (node.u1.outcome options locals ::
        (clauses.map (Node.clauseOutcome options locals) ++ [last.outcome options locals]))
      allowed) ∧
    ∀ forms, outcome.result = .ok forms →
      ∃ head clauseForms terminal,
        forms = [.seq (.atom "case" :: (head ++ (clauseForms ++ terminal)))] ∧
          node.u1.Contributes options locals head ∧
          List.Forall₂ (Node.IsClauseForm options locals) clauses clauseForms ∧
          last.Contributes options locals terminal := by
  intro outcome
  have noMarker : ¬node.kind = .known .newline := by simp [isCase]
  have hasRule : node.kind.rule? = some Rule.caseOf := by rw [isCase]; rfl
  have applied : Rule.caseOf (options.scope locals) node =
      .ok (.child node.u1 :: (clauses.map .node ++ [.child last])) := by
    rw [Rule.caseOf, Rule.clauses_of_chains chains]
    rfl
  -- A clause is a part like any other, and it comes to what its node comes to.
  have clausePlaces : (clauses.map Part.node).map (Part.outcome options locals) =
      clauses.map (Node.clauseOutcome options locals) := by
    rw [List.map_map]
    refine List.map_congr_left fun clause member => ?_
    rw [Function.comp_apply, Part.outcome_node]
    exact funext (Node.outcome_clause (chains.isClause clause member))
  have equation := Node.outcome_of_parts noMarker hasRule applied allowed
  rw [List.map_cons, List.map_append, clausePlaces, List.map_singleton, Part.outcome_child,
    Part.outcome_child] at equation
  refine ⟨fun pending lists target around rest does visited =>
      runStack_eq_resume options _ visited does node locals,
    fun visited lists rest => runTasks_eq_resume options _ visited lists node locals rest,
    equation, fun forms ok => ?_⟩
  rw [show outcome = _ from equation] at ok
  obtain ⟨items, inside, rfl⟩ := Outcome.listOf_eq_ok ok
  obtain ⟨shares, rfl, each⟩ := Outcome.inOrder_eq_ok inside
  rcases each with _ | ⟨head, further⟩
  obtain ⟨clauseForms, terminal, split, areForms, ends⟩ :=
    exists_clauseForms chains.isClause further
  have isTag : node.tag = "case" := by rw [Node.tag, isCase]; rfl
  rw [List.flatten_cons, split, isTag]
  exact ⟨_, clauseForms, terminal, rfl, head, areForms, ends⟩

/-- Two clauses, of which the second has no body, and what is done otherwise: the second clause
stands after the first one, and not in it. -/
theorem outcome_case_otherwise :
    let literal (number : Int) : Node := ⟨.known .lit, .data (.int number), .null, .null, 1, none⟩
    let second : Node := ⟨.known .whenClause, .node (literal 3), .null, .node (literal 4), 1, none⟩
    let first : Node :=
      ⟨.known .whenClause, .node (literal 1), .node (literal 2), .node second, 1, none⟩
    let node : Node := ⟨.known .caseOf, .null, .node first, .null, 1, none⟩
    let form (number : Int) : Sexp := .seq [.atom "lit", .int number]
    node.check = .ok () ∧ node.u2.Chains [first, second] (.node (literal 4)) ∧
      (node.outcome {} 7 .absent).result = .ok [.seq [.atom "case", .nil,
        .seq [.atom "when", form 1, form 2], .seq [.atom "when", form 3, .nil], form 4]] := by
  intro literal second first node form
  have chains : node.u2.Chains [first, second] (.node (literal 4)) :=
    .clause rfl (.clause rfl (.otherwise (by decide)))
  have equation := (outcome_case {} 6 .absent node rfl chains).2.2.1
  refine ⟨rfl, chains, ?_⟩
  rw [equation]
  cbv

end NodeForms
