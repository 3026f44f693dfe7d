import NodeForms.Proofs.Serialize.Walk

/-!
# Visits and diagnostics of a walk

A walk visits no more nodes than its place leads to, so the nodes of a tree bound the visits
to it; and its diagnostics are those of the nodes it visits.
-/

namespace NodeForms

namespace Walk

theorem andThen_of_error {first second : Walk} {reason : Failure}
    (failed : first.result = .error reason) : first.andThen second = first := by
  rw [andThen, failed]

theorem andThen_of_ok {first second : Walk} {forms : List Sexp} (ok : first.result = .ok forms) :
    first.andThen second =
      ⟨first.visited ++ second.visited, first.findings ++ second.findings,
        second.result.map (forms ++ ·)⟩ := by
  rw [andThen, ok]

theorem done_andThen (forms : List Sexp) (second : Walk) :
    (done forms).andThen second =
      { second with result := second.result.map (forms ++ ·) } := by
  exact andThen_of_ok rfl

theorem length_andThen_le (first second : Walk) :
    (first.andThen second).visited.length ≤ first.visited.length + second.visited.length := by
  cases result : first.result with
  | error reason =>
      rw [andThen_of_error result]
      exact Nat.le_add_right _ _
  | ok forms =>
      rw [andThen_of_ok result]
      exact Nat.le_of_eq List.length_append

end Walk

/-- A walk visits no more nodes than its place leads to. -/
theorem visited_length_le (options : SerializeOptions) :
    (∀ seen locals node, (walkNode options seen locals node).visited.length ≤ node.load) ∧
      (∀ seen locals parts,
        (walkParts options seen locals parts).visited.length ≤ Part.listLoad parts) ∧
      (∀ seen locals part, (walkPart options seen locals part).visited.length ≤ part.load) ∧
      ∀ seen locals payload,
        (walkSlot options seen locals payload).visited.length ≤ payload.load := by
  -- The load of a place counts the nodes it leads to; a walk that fails visits only some of them.
  apply walk_induction options
  case spent =>
    intro seen locals node spent
    simp [walkNode_spent spent, Walk.failed]
  case marker =>
    intro seen locals node allowed isMarker inductionHypothesis
    have := node.load_marked isMarker
    simp only [walkNode_marker allowed isMarker, Walk.after, Walk.done_andThen, List.length_cons]
    omega
  case unhandled =>
    intro seen locals node allowed noMarker noRule
    have := node.load_pos
    simp only [walkNode_unhandled allowed noMarker noRule, List.length_singleton]
    omega
  case fault =>
    intro seen locals node allowed noMarker fault refused
    have := node.load_pos
    simp only [walkNode_fault allowed noMarker refused, Walk.after, Walk.failed,
      List.length_singleton]
    omega
  case parts =>
    intro seen locals node allowed noMarker parts found inductionHypothesis
    have := node.parts?_load found
    simp only [walkNode_parts allowed noMarker found, Walk.after, Walk.enclosed, List.length_cons]
    omega
  case nil =>
    intro seen locals
    simp [walkParts_nil, Walk.done]
  case cons =>
    intro seen locals part rest ofPart ofRest
    have := Walk.length_andThen_le (walkPart options seen locals part) (walkParts options
      (seen + (walkPart options seen locals part).visited.length) locals rest)
    rw [walkParts_cons, Part.listLoad]
    omega
  case value =>
    intro seen locals form
    simp [walkPart_value, Walk.done]
  case node =>
    intro seen locals child inductionHypothesis
    rwa [walkPart_node, Part.load]
  case absent =>
    intro seen locals child inner isEmpty
    simp [walkPart_absent inner isEmpty, Walk.done]
  case under =>
    intro seen locals child inner isFilled inductionHypothesis
    rwa [walkPart_scoped inner isFilled, Part.load]
  case group =>
    intro seen locals tag members inductionHypothesis
    rwa [walkPart_group, Part.load]
  case held =>
    intro seen locals child inductionHypothesis
    rwa [walkSlot_node, Value.load]
  case empty =>
    intro seen locals payload noNode isEmpty
    simp [walkSlot_empty noNode isEmpty, Walk.done]
  case misplaced =>
    intro seen locals payload noNode isFilled
    simp [walkSlot_misplaced noNode isFilled, Walk.failed]

def Walk.IsReported (context : ErrorContext) (walk : Walk) : Prop :=
  walk.findings = walk.outcome.diagnostics context

namespace Walk.IsReported

variable {context : ErrorContext} {node : Node} {first second : Walk}

theorem andThen (ofFirst : first.IsReported context) (ofSecond : second.IsReported context) :
    (first.andThen second).IsReported context := by
  cases result : first.result with
  | error reason => rwa [Walk.andThen_of_error result]
  | ok forms =>
      rw [Walk.andThen_of_ok result, IsReported, ofFirst, ofSecond]
      simp only [Outcome.diagnostics, outcome, List.filter_append, List.map_append]

theorem after_marker (isMarker : node.kind = .known .newline) (of : first.IsReported context) :
    (first.after node).IsReported context := by
  rw [IsReported] at of ⊢
  simp only [Walk.after, Outcome.diagnostics, outcome] at of ⊢
  rw [of, List.filter_cons_of_neg (by simp [isMarker])]

theorem after_parts {locals : Locals} {found : Except RuleFault (List Part)}
    (hasRule : node.parts? locals = some found) (of : first.IsReported context) :
    (first.after node).IsReported context := by
  obtain ⟨rule, hasRule, -⟩ := Option.map_eq_some_iff.mp hasRule
  rw [IsReported] at of ⊢
  simp only [Walk.after, Outcome.diagnostics, outcome] at of ⊢
  rw [of, List.filter_cons_of_neg (by simp [hasRule])]

theorem unhandled {locals : Locals} {result : Except Failure (List Sexp)}
    (noMarker : ¬node.kind = .known .newline) (noRule : node.parts? locals = none) :
    Walk.IsReported context ⟨[node], [Diagnostic.unhandled context node], result⟩ := by
  have noRule := Option.map_eq_none_iff.mp noRule
  simp [IsReported, Outcome.diagnostics, outcome, noMarker, noRule]

end Walk.IsReported

/-- A walk leaves one diagnostic for each node visited that has no rule. -/
theorem walk_isReported (options : SerializeOptions) :
    (∀ seen locals node, (walkNode options seen locals node).IsReported options.context) ∧
      (∀ seen locals parts, (walkParts options seen locals parts).IsReported options.context) ∧
      (∀ seen locals part, (walkPart options seen locals part).IsReported options.context) ∧
      ∀ seen locals payload,
        (walkSlot options seen locals payload).IsReported options.context := by
  apply walk_all options (Walk.IsReported options.context)
  case done | misplaced | spent =>
    intros
    rfl
  case marker =>
    intro node walk isMarker of
    exact .after_marker isMarker of
  case unhandled =>
    intro node locals noMarker noRule
    exact .unhandled noMarker noRule
  case fault =>
    intro node locals fault noMarker refused
    exact .after_parts refused rfl
  case parts =>
    intro node locals parts walk noMarker found of
    exact .after_parts found of
  case group =>
    intro tag walk of
    exact of
  case andThen =>
    intro first second ofFirst ofSecond
    exact .andThen ofFirst ofSecond

end NodeForms
