import NodeForms.Proofs.Computation
import NodeForms.Proofs.Serialize.Frames

/-!
# What parts contribute

What comes of a node is one list: its tag, and then what each of its parts contributes, in order.
A part contributes what would come of it alone, with the visits that the parts before it left. A
part may contribute no form at all or more than one, as a line marker does.
-/

namespace NodeForms

namespace Outcome

/-- What comes of some places in order, each with the visits that those before it left, up to the
first that fails. -/
def inOrder : List (Nat → Outcome) → Nat → Outcome
  | [], _ => ⟨[], .ok []⟩
  | place :: places, allowed =>
      let first := place allowed
      match first.result with
      | .error _ => first
      | .ok forms =>
          let further := inOrder places (allowed - first.visited.length)
          ⟨first.visited ++ further.visited, further.result.map (forms ++ ·)⟩

/-- A visit to a node, and the list with its tag and all forms that come of its parts. -/
def listOf (node : Node) (inner : Outcome) : Outcome :=
  ⟨node :: inner.visited, inner.result.map fun forms => [.seq (.atom node.tag :: forms)]⟩

theorem inOrder_eq_ok {places : List (Nat → Outcome)} {allowed : Nat} {forms : List Sexp}
    (ok : (inOrder places allowed).result = .ok forms) :
    ∃ shares : List (List Sexp), forms = shares.flatten ∧
      List.Forall₂ (fun place share => ∃ left, (place left).result = .ok share) places shares := by
  induction places generalizing allowed forms with
  | nil =>
      obtain rfl := Except.ok.inj ok
      exact ⟨[], rfl, .nil⟩
  | cons place places ih =>
      rw [inOrder] at ok
      cases first : (place allowed).result with
      | error reason =>
          simp only [first] at ok
          cases ok
      | ok share =>
          simp only [first] at ok
          obtain ⟨others, further, rfl⟩ := map_eq_ok.mp ok
          obtain ⟨shares, rfl, each⟩ := ih further
          exact ⟨share :: shares, rfl, .cons ⟨allowed, first⟩ each⟩

theorem listOf_eq_ok {node : Node} {inner : Outcome} {forms : List Sexp}
    (ok : (inner.listOf node).result = .ok forms) :
    ∃ items, inner.result = .ok items ∧ forms = [.seq (.atom node.tag :: items)] := by
  obtain ⟨items, found, rfl⟩ := map_eq_ok.mp ok
  exact ⟨items, found, rfl⟩

end Outcome

section

variable {options : SerializeOptions} {locals : Locals}

/-- What a run comes to that has only a part to do, under a local table. -/
def Part.outcome (options : SerializeOptions) (locals : Locals) (part : Part) (allowed : Nat) :
    Outcome :=
  runTasks options allowed [] {} (Task.ofPart locals part)

/-- What a slot contributes: what comes of its node, or the nil atom if it is empty. -/
def Value.outcome (options : SerializeOptions) (locals : Locals) : Value → Nat → Outcome
  | .node child, allowed => child.outcome options allowed locals
  | other, _ => ⟨[], .ok [if other.isNull then .nil else other.misplaced]⟩

theorem Part.outcome_node (child : Node) :
    (Part.node child).outcome options locals = fun allowed =>
      child.outcome options allowed locals := by
  funext allowed
  rw [Part.outcome, Task.ofPart, child.outcome_eq_runTasks]

theorem Part.outcome_value (form : Sexp) :
    (Part.value form).outcome options locals = fun _ => ⟨[], .ok [form]⟩ := by
  funext allowed
  rw [Part.outcome, Task.ofPart, runTasks, runTasks]
  rfl

theorem Part.outcome_child (payload : Value) :
    (Part.child payload).outcome options locals = payload.outcome options locals := by
  cases payload with
  | node child => exact Part.outcome_node child
  | _ =>
      rw [Part.child]
      split
      · rename_i isEmpty
        funext allowed
        rw [Part.outcome_value, Value.outcome, if_pos isEmpty]
        simp
      · rename_i isFilled
        funext allowed
        rw [Part.element, Part.outcome_value, Value.outcome, if_neg isFilled] <;> simp

theorem runTasks_ofParts (allowed : Nat) (visited : List Node) (lists : OpenLists)
    (parts : List Part) (rest : List Task) :
    runTasks options allowed visited lists (Task.ofParts locals parts ++ rest) =
      (Outcome.inOrder (parts.map (Part.outcome options locals)) allowed).resume options allowed
        visited lists rest := by
  induction parts generalizing allowed visited lists with
  | nil => simp [Task.ofParts, Outcome.inOrder, Outcome.resume]
  | cons part parts ih =>
      have balanced : Task.Balanced 0 (Task.ofPart locals part) := by
        simpa using Task.Balanced.ofPart .nil locals part
      have first := runTasks_append options visited lists (Task.ofParts locals parts ++ rest)
        allowed [] {} (Task.ofPart locals part) rfl balanced
      rw [Task.ofParts, List.append_assoc]
      refine first.trans ?_
      rw [← Part.outcome, List.map_cons, Outcome.inOrder]
      generalize part.outcome options locals allowed = outcome
      obtain ⟨seen, result⟩ := outcome
      cases result with
      | error reason => rfl
      | ok forms =>
          -- The other parts go on from there, by induction.
          simp only [Outcome.resume, List.length_nil, Nat.add_zero, ih]
          cases (Outcome.inOrder (parts.map (Part.outcome options locals))
            (allowed - seen.length)).result with
          | error reason => simp [Except.map]
          | ok others => simp [Except.map, Nat.sub_sub]

theorem Node.outcome_of_parts {node : Node} {rule : Rule} {parts : List Part}
    (noMarker : ¬node.kind = .known .newline) (hasRule : node.kind.rule? = some rule)
    (applied : rule (options.scope locals) node = .ok parts) (allowed : Nat) :
    node.outcome options (allowed + 1) locals =
      .listOf node (Outcome.inOrder (parts.map (Part.outcome options locals)) allowed) := by
  have step : options.visitStep {} locals node =
      .ok (OpenLists.enter {} node.tag, Task.ofParts locals parts ++ [.leave]) := by
    simp only [SerializeOptions.visitStep, if_neg noMarker, hasRule, applied]
  rw [Node.outcome_eq_runTasks, runTasks_visit, step]
  simp only [List.append_nil, runTasks_ofParts, Outcome.resume, Outcome.listOf]
  cases (Outcome.inOrder (parts.map (Part.outcome options locals)) allowed).result with
  | error reason => simp [Except.map]
  | ok forms => simp [Except.map, runTasks, OpenLists.enter, OpenLists.leave]

/-- What a slot contributes to the list around it, if that many visits are allowed as it takes. -/
def Value.Contributes (options : SerializeOptions) (locals : Locals) (payload : Value)
    (forms : List Sexp) : Prop :=
  ∃ allowed, (payload.outcome options locals allowed).result = .ok forms

theorem runTasks_ok_unique {visited : List Node} {lists : OpenLists} {tasks : List Task}
    {first second : Nat} {forms others : List Sexp}
    (ofFirst : (runTasks options first visited lists tasks).result = .ok forms)
    (ofSecond : (runTasks options second visited lists tasks).result = .ok others) :
    forms = others := by
  have runs := runs_runTasks_of_not_exhausted first visited lists tasks fun node exhausted => by
    rw [ofFirst] at exhausted
    cases exhausted
  rw [runs.runTasks_eq second, Outcome.within] at ofSecond
  split at ofSecond
  · rw [ofFirst] at ofSecond
    exact Except.ok.inj ofSecond
  · cases ofSecond

theorem Value.Contributes.unique {payload : Value} {forms others : List Sexp}
    (first : payload.Contributes options locals forms)
    (second : payload.Contributes options locals others) : forms = others := by
  obtain ⟨allowed, ofFirst⟩ := first
  obtain ⟨more, ofSecond⟩ := second
  rw [← Part.outcome_child] at ofFirst ofSecond
  exact runTasks_ok_unique ofFirst ofSecond

end

end NodeForms
