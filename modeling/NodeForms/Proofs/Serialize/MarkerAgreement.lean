import NodeForms.Proofs.Serialize.Simulation
import NodeForms.Proofs.Sexp.Markers

/-!
# Runs with and without line markers

Two walks that differ only in whether markers are written agree up to the markers: they
visit the same nodes, leave the same diagnostics, fail alike, and come to the same forms once
the marker lists are left out of both. Each way to put walks together keeps this.
-/

namespace NodeForms

structure Walk.AgreesUpToMarkers (marked plain : Walk) : Prop where
  visited : marked.visited = plain.visited
  findings : marked.findings = plain.findings
  result : marked.result.map Sexp.itemsWithoutMarkers = plain.result.map Sexp.itemsWithoutMarkers

namespace Walk.AgreesUpToMarkers

variable {marked plain nextMarked nextPlain : Walk}

theorem refl (walk : Walk) : walk.AgreesUpToMarkers walk := ⟨rfl, rfl, rfl⟩

/-- Either both walks fail, for the same reason, or none does. -/
theorem cases_result (agree : marked.AgreesUpToMarkers plain) :
    (∃ reason, marked.result = .error reason ∧ plain.result = .error reason) ∨
      ∃ markedForms plainForms, marked.result = .ok markedForms ∧ plain.result = .ok plainForms ∧
        Sexp.itemsWithoutMarkers markedForms = Sexp.itemsWithoutMarkers plainForms := by
  have result := agree.result
  cases markedEq : marked.result with
  | error reason =>
      cases plainEq : plain.result with
      | error other =>
          rw [markedEq, plainEq] at result
          exact .inl ⟨reason, rfl, (Except.error.inj result) ▸ rfl⟩
      | ok forms => rw [markedEq, plainEq] at result; cases result
  | ok forms =>
      cases plainEq : plain.result with
      | error other => rw [markedEq, plainEq] at result; cases result
      | ok others =>
          rw [markedEq, plainEq] at result
          exact .inr ⟨forms, others, rfl, rfl, Except.ok.inj result⟩

theorem after (node : Node) (agree : marked.AgreesUpToMarkers plain) :
    (marked.after node).AgreesUpToMarkers (plain.after node) :=
  ⟨congrArg (node :: ·) agree.visited, agree.findings, agree.result⟩

theorem enclosed (tag : String) (agree : marked.AgreesUpToMarkers plain) :
    (marked.enclosed tag).AgreesUpToMarkers (plain.enclosed tag) := by
  refine ⟨agree.visited, agree.findings, ?_⟩
  rcases agree.cases_result with
    ⟨reason, markedEq, plainEq⟩ | ⟨forms, others, markedEq, plainEq, same⟩
  · simp [Walk.enclosed, markedEq, plainEq]
  · simp [Walk.enclosed, markedEq, plainEq, Except.map, Sexp.itemsWithoutMarkers_enclosed, same]

theorem andThen (agree : marked.AgreesUpToMarkers plain)
    (next : nextMarked.AgreesUpToMarkers nextPlain) :
    (marked.andThen nextMarked).AgreesUpToMarkers (plain.andThen nextPlain) := by
  rcases agree.cases_result with
    ⟨reason, markedEq, plainEq⟩ | ⟨forms, others, markedEq, plainEq, same⟩
  · rwa [Walk.andThen_of_error markedEq, Walk.andThen_of_error plainEq]
  · rw [Walk.andThen_of_ok markedEq, Walk.andThen_of_ok plainEq]
    refine ⟨by rw [agree.visited, next.visited], by rw [agree.findings, next.findings], ?_⟩
    rcases next.cases_result with ⟨reason, markedNext, plainNext⟩ |
      ⟨laterForms, laterOthers, markedNext, plainNext, sameLater⟩
    · rw [markedNext, plainNext]
      rfl
    · simp [markedNext, plainNext, Except.map, Sexp.itemsWithoutMarkers_append, same, sameLater]

theorem markersFirst (node : Node) (agree : marked.AgreesUpToMarkers plain) :
    ((Walk.done [lineMarker node]).andThen marked).AgreesUpToMarkers
      ((Walk.done []).andThen plain) := by
  refine .andThen ⟨rfl, rfl, rfl⟩ agree

end Walk.AgreesUpToMarkers

/-- A run that writes line markers. -/
def SerializeOptions.marking (options : SerializeOptions) : SerializeOptions :=
  { options with markers := true, closures := .held }

/-- A run that writes none. -/
def SerializeOptions.plain (options : SerializeOptions) : SerializeOptions :=
  { options with markers := false, closures := .held }

theorem walk_agreesUpToMarkers (options : SerializeOptions) :
    (∀ seen locals node, (walkNode options.marking seen locals node).AgreesUpToMarkers
        (walkNode options.plain seen locals node)) ∧
      (∀ seen locals parts, (walkParts options.marking seen locals parts).AgreesUpToMarkers
        (walkParts options.plain seen locals parts)) ∧
      (∀ seen locals part, (walkPart options.marking seen locals part).AgreesUpToMarkers
        (walkPart options.plain seen locals part)) ∧
      ∀ seen locals payload, (walkSlot options.marking seen locals payload).AgreesUpToMarkers
        (walkSlot options.plain seen locals payload) := by
  apply walk_induction options.marking
  case spent =>
    intro seen locals node spent
    have plainSpent : options.plain.isSpent seen = true := spent
    rw [walkNode_spent spent, walkNode_spent plainSpent]
    exact .refl _
  case marker =>
    intro seen locals node notSpent isMarker inductionHypothesis
    have plainNotSpent : ¬options.plain.isSpent seen = true := notSpent
    rw [walkNode_marker notSpent isMarker, walkNode_marker plainNotSpent isMarker]
    exact .after node (.markersFirst node inductionHypothesis)
  case unhandled =>
    intro seen locals node notSpent noMarker noRule
    have plainNotSpent : ¬options.plain.isSpent seen = true := notSpent
    rw [walkNode_unhandled notSpent noMarker noRule,
      walkNode_unhandled plainNotSpent noMarker noRule]
    exact .refl _
  case fault =>
    intro seen locals node notSpent noMarker fault refused
    have plainNotSpent : ¬options.plain.isSpent seen = true := notSpent
    rw [walkNode_fault notSpent noMarker refused, walkNode_fault plainNotSpent noMarker refused]
    exact .refl _
  case parts =>
    intro seen locals node notSpent noMarker parts found inductionHypothesis
    have plainNotSpent : ¬options.plain.isSpent seen = true := notSpent
    rw [walkNode_parts notSpent noMarker found, walkNode_parts plainNotSpent noMarker found]
    exact .after node (.enclosed node.tag inductionHypothesis)
  case nil =>
    intro seen locals
    rw [walkParts_nil, walkParts_nil]
    exact .refl _
  case cons =>
    intro seen locals part rest ofPart ofRest
    -- Equal visits keep the two counts of visits in step, so both reach the limit together.
    rw [ofPart.visited] at ofRest
    rw [walkParts_cons, walkParts_cons, ofPart.visited]
    exact .andThen ofPart ofRest
  case value =>
    intro seen locals form
    rw [walkPart_value, walkPart_value]
    exact .refl _
  case node =>
    intro seen locals child inductionHypothesis
    rwa [walkPart_node, walkPart_node]
  case absent =>
    intro seen locals child inner isEmpty
    rw [walkPart_absent inner isEmpty, walkPart_absent inner isEmpty]
    exact .refl _
  case under =>
    intro seen locals child inner isFilled inductionHypothesis
    rwa [walkPart_scoped inner isFilled, walkPart_scoped inner isFilled]
  case group =>
    intro seen locals tag members inductionHypothesis
    rw [walkPart_group, walkPart_group]
    exact .enclosed tag inductionHypothesis
  case held =>
    intro seen locals child inductionHypothesis
    rwa [walkSlot_node, walkSlot_node]
  case empty =>
    intro seen locals payload noNode isEmpty
    rw [walkSlot_empty noNode isEmpty, walkSlot_empty noNode isEmpty]
    exact .refl _
  case misplaced =>
    intro seen locals payload noNode isFilled
    rw [walkSlot_misplaced noNode isFilled, walkSlot_misplaced noNode isFilled]
    exact .refl _

theorem walkTree_agreesUpToMarkers (options : SerializeOptions) (root : Option Node) :
    (walkTree options.marking root).AgreesUpToMarkers (walkTree options.plain root) := by
  cases root with
  | none => exact .refl _
  | some root => exact (walk_agreesUpToMarkers options).1 0 .absent root

end NodeForms
