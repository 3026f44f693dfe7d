import NodeForms.Proofs.Serialize.Rules
import NodeForms.Proofs.Serialize.Tasks

/-!
# The walk over a tree

What serialization means, without tasks and open lists. A node stands for one list, its tag
followed by what its parts stand for, in order; a ready value for itself; a group for a list
of its own; an empty place under another table for the nil atom; a node without a rule for
`(unhandled NUMBER)`; and a line marker for its marker, when wanted, and for what it marks.
Each rule sees the table of the nearest scope around its node. The first failure ends the
walk.
-/

namespace NodeForms

/-- What a walk over some places of a tree comes to: the nodes visited, the diagnostics, and
the forms that the places stand for, or the failure that ended it. -/
structure Walk where
  visited : List Node
  findings : List Diagnostic
  result : Except Failure (List Sexp)

namespace Walk

def done (forms : List Sexp) : Walk := ⟨[], [], .ok forms⟩

def failed (reason : Failure) : Walk := ⟨[], [], .error reason⟩

def andThen (first second : Walk) : Walk :=
  match first.result with
  | .error _ => first
  | .ok forms =>
      ⟨first.visited ++ second.visited, first.findings ++ second.findings,
        second.result.map (forms ++ ·)⟩

def enclosed (tag : String) (inner : Walk) : Walk :=
  { inner with result := inner.result.map fun forms => [.seq (.atom tag :: forms)] }

def after (node : Node) (walk : Walk) : Walk := { walk with visited := node :: walk.visited }

/-- What a run comes to that does the walk. -/
def outcome (walk : Walk) : Outcome := ⟨walk.visited, walk.result⟩

end Walk

/-- Whether no further visit is allowed after so many. -/
def SerializeOptions.isSpent (options : SerializeOptions) (seen : Nat) : Bool :=
  options.limit.any fun limit : Int => decide (limit ≤ (seen : Int))

mutual
/-- The walk over a node under a local table, after so many visits. -/
def walkNode (options : SerializeOptions) (seen : Nat) (locals : Locals) (node : Node) : Walk :=
  if options.isSpent seen then .failed (options.exhausted node)
  else if _isMarker : node.kind = .known .newline then
    let marker : Sexp := .seq [.atom "newline", .int node.line, .text (node.file.getD "")]
    .after node ((Walk.done (if options.markers then [marker] else [])).andThen
      (walkSlot options (seen + 1) locals node.u3))
  else
    match _found : node.parts? locals with
    | none =>
        ⟨[node], [Diagnostic.unhandled options.context node],
          .ok [.seq [.atom "unhandled", .int node.kind.id]]⟩
    | some (.error fault) => .after node (.failed (options.ruleFailure node fault))
    | some (.ok parts) =>
        .after node (.enclosed node.tag
          (walkParts options (seen + 1) (node.tableInside locals) parts))
termination_by (node.load, 0)
decreasing_by
  · exact .left _ _ (node.load_marked _isMarker)
  · exact .left _ _ (node.parts?_load _found)
/-- The walk over what a place holds: a node, or nothing. -/
def walkSlot (options : SerializeOptions) (seen : Nat) (locals : Locals) (payload : Value) : Walk :=
  match payload with
  | .node child => walkNode options seen locals child
  | other => if other.isNull then .done [] else .failed (.payload .noNode)
termination_by (payload.load, 1)
decreasing_by
  rw [Value.load]
  exact .right _ (by decide)
/-- The walk over one part under the table inside its node. -/
def walkPart (options : SerializeOptions) (seen : Nat) (locals : Locals) (part : Part) : Walk :=
  match part with
  | .value form => .done [form]
  | .node child => walkNode options seen locals child
  | .scoped child _ => if child.isNull then .done [.nil] else walkSlot options seen locals child
  | .group tag members => .enclosed tag (walkParts options seen locals members)
termination_by (part.load, 1 + sizeOf part)
decreasing_by
  · rw [Part.load]
    exact .right _ (by omega)
  · rw [Part.load, Part.scoped.sizeOf_spec]
    exact .right _ (by omega)
  · rw [Part.load, Part.group.sizeOf_spec]
    exact .right _ (by omega)
def walkParts (options : SerializeOptions) (seen : Nat) (locals : Locals) (parts : List Part) :
    Walk :=
  match parts with
  | [] => .done []
  | part :: rest =>
      let first := walkPart options seen locals part
      first.andThen (walkParts options (seen + first.visited.length) locals rest)
termination_by (Part.listLoad parts, 1 + sizeOf parts)
decreasing_by
  · rw [Part.listLoad, List.cons.sizeOf_spec]
    rcases Nat.eq_or_lt_of_le (Nat.le_add_right part.load (Part.listLoad rest)) with same | less
    · rw [← same]
      exact .right _ (by omega)
    · exact .left _ _ less
  · rw [Part.listLoad, List.cons.sizeOf_spec]
    rcases Nat.eq_or_lt_of_le (Nat.le_add_left (Part.listLoad rest) part.load) with same | less
    · rw [← same]
      exact .right _ (by omega)
    · exact .left _ _ less
end

section

variable {options : SerializeOptions} {seen : Nat} {locals : Locals} {node : Node}

theorem walkNode_spent (spent : options.isSpent seen = true) :
    walkNode options seen locals node = .failed (options.exhausted node) := by
  rw [walkNode, if_pos spent]

theorem walkNode_marker (allowed : ¬options.isSpent seen = true)
    (isMarker : node.kind = .known .newline) :
    walkNode options seen locals node =
      .after node ((Walk.done (if options.markers then [lineMarker node] else [])).andThen
        (walkSlot options (seen + 1) locals node.u3)) := by
  rw [walkNode, if_neg allowed, dif_pos isMarker]
  rfl

theorem walkNode_unhandled (allowed : ¬options.isSpent seen = true)
    (noMarker : ¬node.kind = .known .newline) (noRule : node.parts? locals = none) :
    walkNode options seen locals node =
      ⟨[node], [Diagnostic.unhandled options.context node], .ok [unhandledForm node]⟩ := by
  rw [walkNode, if_neg allowed, dif_neg noMarker]
  split <;> simp_all [unhandledForm]

theorem walkNode_fault {fault : RuleFault} (allowed : ¬options.isSpent seen = true)
    (noMarker : ¬node.kind = .known .newline)
    (refused : node.parts? locals = some (.error fault)) :
    walkNode options seen locals node =
      .after node (.failed (options.ruleFailure node fault)) := by
  rw [walkNode, if_neg allowed, dif_neg noMarker]
  split <;> simp_all

theorem walkNode_parts {parts : List Part} (allowed : ¬options.isSpent seen = true)
    (noMarker : ¬node.kind = .known .newline)
    (found : node.parts? locals = some (.ok parts)) :
    walkNode options seen locals node =
      .after node (.enclosed node.tag
        (walkParts options (seen + 1) (node.tableInside locals) parts)) := by
  rw [walkNode, if_neg allowed, dif_neg noMarker]
  split <;> simp_all

theorem walkSlot_node (child : Node) :
    walkSlot options seen locals (.node child) = walkNode options seen locals child := by
  rw [walkSlot]

theorem walkSlot_empty {payload : Value} (noNode : ∀ child, payload = .node child → False)
    (isEmpty : payload.isNull = true) : walkSlot options seen locals payload = .done [] := by
  rw [walkSlot, if_pos isEmpty]
  exact noNode

theorem walkSlot_misplaced {payload : Value} (noNode : ∀ child, payload = .node child → False)
    (isFilled : ¬payload.isNull = true) :
    walkSlot options seen locals payload = .failed (.payload .noNode) := by
  rw [walkSlot, if_neg isFilled]
  exact noNode

theorem walkPart_value (form : Sexp) :
    walkPart options seen locals (.value form) = .done [form] := by
  rw [walkPart]

theorem walkPart_node (child : Node) :
    walkPart options seen locals (.node child) = walkNode options seen locals child := by
  rw [walkPart]

theorem walkPart_absent {child : Value} (inner : Locals) (isEmpty : child.isNull = true) :
    walkPart options seen locals (.scoped child inner) = .done [.nil] := by
  rw [walkPart, if_pos isEmpty]

theorem walkPart_scoped {child : Value} (inner : Locals) (isFilled : ¬child.isNull = true) :
    walkPart options seen locals (.scoped child inner) = walkSlot options seen locals child := by
  rw [walkPart, if_neg isFilled]

theorem walkPart_group (tag : String) (members : List Part) :
    walkPart options seen locals (.group tag members) =
      .enclosed tag (walkParts options seen locals members) := by
  rw [walkPart]

theorem walkParts_nil : walkParts options seen locals [] = .done [] := by
  rw [walkParts]

theorem walkParts_cons (part : Part) (rest : List Part) :
    walkParts options seen locals (part :: rest) =
      (walkPart options seen locals part).andThen (walkParts options
        (seen + (walkPart options seen locals part).visited.length) locals rest) := by
  rw [walkParts]

end

theorem walk_induction (options : SerializeOptions) (OfNode : Nat → Locals → Node → Prop)
    (OfParts : Nat → Locals → List Part → Prop) (OfPart : Nat → Locals → Part → Prop)
    (OfSlot : Nat → Locals → Value → Prop)
    (spent : ∀ seen locals node, options.isSpent seen = true → OfNode seen locals node)
    (marker : ∀ seen locals node, ¬options.isSpent seen = true → node.kind = .known .newline →
      OfSlot (seen + 1) locals node.u3 → OfNode seen locals node)
    (unhandled : ∀ seen locals node, ¬options.isSpent seen = true →
      ¬node.kind = .known .newline → node.parts? locals = none → OfNode seen locals node)
    (fault : ∀ seen locals node, ¬options.isSpent seen = true → ¬node.kind = .known .newline →
      ∀ fault, node.parts? locals = some (.error fault) → OfNode seen locals node)
    (parts : ∀ seen locals node, ¬options.isSpent seen = true → ¬node.kind = .known .newline →
      ∀ parts, node.parts? locals = some (.ok parts) →
        OfParts (seen + 1) (node.tableInside locals) parts → OfNode seen locals node)
    (nil : ∀ seen locals, OfParts seen locals [])
    (cons : ∀ seen locals part rest, OfPart seen locals part →
      OfParts (seen + (walkPart options seen locals part).visited.length) locals rest →
        OfParts seen locals (part :: rest))
    (value : ∀ seen locals form, OfPart seen locals (.value form))
    (node : ∀ seen locals child, OfNode seen locals child → OfPart seen locals (.node child))
    (absent : ∀ seen locals child inner, child.isNull = true →
      OfPart seen locals (.scoped child inner))
    (under : ∀ seen locals child inner, ¬child.isNull = true → OfSlot seen locals child →
      OfPart seen locals (.scoped child inner))
    (group : ∀ seen locals tag members, OfParts seen locals members →
      OfPart seen locals (.group tag members))
    (held : ∀ seen locals child, OfNode seen locals child → OfSlot seen locals (.node child))
    (empty : ∀ seen locals payload, (∀ child, payload = .node child → False) →
      payload.isNull = true → OfSlot seen locals payload)
    (misplaced : ∀ seen locals payload, (∀ child, payload = .node child → False) →
      ¬payload.isNull = true → OfSlot seen locals payload) :
    (∀ seen locals node, OfNode seen locals node) ∧
      (∀ seen locals parts, OfParts seen locals parts) ∧
      (∀ seen locals part, OfPart seen locals part) ∧
      ∀ seen locals payload, OfSlot seen locals payload :=
  walkNode.mutual_induct options OfNode OfParts OfPart OfSlot spent marker unhandled fault parts
    nil cons value node absent under group held empty misplaced

/-- What holds of walks without a visit and passes to the walks put together of others holds of
every walk, whatever its place. -/
theorem walk_all (options : SerializeOptions) (Holds : Walk → Prop)
    (done : ∀ forms, Holds (.done forms))
    (misplaced : Holds (.failed (.payload .noNode)))
    (spent : ∀ seen node, options.isSpent seen = true →
      Holds (.failed (options.exhausted node)))
    (marker : ∀ node walk, node.kind = .known .newline → Holds walk → Holds (.after node walk))
    (unhandled : ∀ node locals, ¬node.kind = .known .newline → node.parts? locals = none →
      Holds ⟨[node], [Diagnostic.unhandled options.context node], .ok [unhandledForm node]⟩)
    (fault : ∀ node locals fault, ¬node.kind = .known .newline →
      node.parts? locals = some (.error fault) →
        Holds (.after node (.failed (options.ruleFailure node fault))))
    (parts : ∀ node locals parts walk, ¬node.kind = .known .newline →
      node.parts? locals = some (.ok parts) → Holds walk →
        Holds (.after node (.enclosed node.tag walk)))
    (group : ∀ tag walk, Holds walk → Holds (.enclosed tag walk))
    (andThen : ∀ first second, Holds first → Holds second → Holds (first.andThen second)) :
    (∀ seen locals node, Holds (walkNode options seen locals node)) ∧
      (∀ seen locals parts, Holds (walkParts options seen locals parts)) ∧
      (∀ seen locals part, Holds (walkPart options seen locals part)) ∧
      ∀ seen locals payload, Holds (walkSlot options seen locals payload) := by
  apply walk_induction options
  case spent =>
    intro seen locals node isSpent
    rw [walkNode_spent isSpent]
    exact spent seen node isSpent
  case marker =>
    intro seen locals node notSpent isMarker inductionHypothesis
    rw [walkNode_marker notSpent isMarker]
    exact marker node _ isMarker (andThen _ _ (done _) inductionHypothesis)
  case unhandled =>
    intro seen locals node notSpent noMarker noRule
    rw [walkNode_unhandled notSpent noMarker noRule]
    exact unhandled node locals noMarker noRule
  case fault =>
    intro seen locals node notSpent noMarker reason refused
    rw [walkNode_fault notSpent noMarker refused]
    exact fault node locals reason noMarker refused
  case parts =>
    intro seen locals node notSpent noMarker found applied inductionHypothesis
    rw [walkNode_parts notSpent noMarker applied]
    exact parts node locals found _ noMarker applied inductionHypothesis
  case nil =>
    intro seen locals
    rw [walkParts_nil]
    exact done _
  case cons =>
    intro seen locals part rest ofPart ofRest
    rw [walkParts_cons]
    exact andThen _ _ ofPart ofRest
  case value =>
    intro seen locals form
    rw [walkPart_value]
    exact done _
  case node =>
    intro seen locals child inductionHypothesis
    rwa [walkPart_node]
  case absent =>
    intro seen locals child inner isEmpty
    rw [walkPart_absent inner isEmpty]
    exact done _
  case under =>
    intro seen locals child inner isFilled inductionHypothesis
    rwa [walkPart_scoped inner isFilled]
  case group =>
    intro seen locals tag members inductionHypothesis
    rw [walkPart_group]
    exact group tag _ inductionHypothesis
  case held =>
    intro seen locals child inductionHypothesis
    rwa [walkSlot_node]
  case empty =>
    intro seen locals payload noNode isEmpty
    rw [walkSlot_empty noNode isEmpty]
    exact done _
  case misplaced =>
    intro seen locals payload noNode isFilled
    rw [walkSlot_misplaced noNode isFilled]
    exact misplaced

/-- What holds of walks without a visit and passes to the walks put together of others holds of
the walk over any place whose slots have an inherited property. A ready form comes from such a
slot, or else it is no list. -/
theorem walk_all_drawn (options : SerializeOptions) {Holds : Value → Prop}
    (inherits : Value.IsInherited Holds) (Of : Walk → Prop)
    (nothing : Of (.done []))
    (value : ∀ form : Sexp, form.isSeq = false ∨ Holds (.form form) → Of (.done [form]))
    (failed : ∀ reason, Of (.failed reason))
    (marker : ∀ node walk, node.kind = .known .newline → Of walk →
      Of (.after node ((Walk.done (if options.markers then [lineMarker node] else [])).andThen
        walk)))
    (unhandled : ∀ node locals, ¬node.kind = .known .newline → node.parts? locals = none →
      Of ⟨[node], [Diagnostic.unhandled options.context node], .ok [unhandledForm node]⟩)
    (visit : ∀ (node : Node) locals found walk, ¬node.kind = .known .newline →
      node.parts? locals = some found → Of walk → Of (.after node walk))
    (parts : ∀ (node : Node) locals found walk, ¬node.kind = .known .newline →
      node.parts? locals = some found → Of walk → Of (.enclosed node.tag walk))
    (group : ∀ walk, Of walk → Of (.enclosed KnownKind.array.tag walk))
    (andThen : ∀ first second, Of first → Of second → Of (first.andThen second)) :
    (∀ seen locals node, Holds (.node node) → Of (walkNode options seen locals node)) ∧
      (∀ seen inside parts, ∀ around : Locals,
        (∀ part ∈ parts, part.IsDrawn Holds around inside) →
          Of (walkParts options seen inside parts)) ∧
      (∀ seen inside part, ∀ around : Locals, part.IsDrawn Holds around inside →
        Of (walkPart options seen inside part)) ∧
      ∀ seen locals payload, Holds payload → Of (walkSlot options seen locals payload) := by
  apply walk_induction options
  case spent =>
    intro seen locals node isSpent _
    rw [walkNode_spent isSpent]
    exact failed _
  case marker =>
    intro seen locals node notSpent isMarker inductionHypothesis holds
    rw [walkNode_marker notSpent isMarker]
    exact marker node _ isMarker (inductionHypothesis (inherits.slots holds).2.2)
  case unhandled =>
    intro seen locals node notSpent noMarker noRule _
    rw [walkNode_unhandled notSpent noMarker noRule]
    exact unhandled node locals noMarker noRule
  case fault =>
    intro seen locals node notSpent noMarker reason refused _
    rw [walkNode_fault notSpent noMarker refused]
    exact visit node locals _ _ noMarker refused (failed _)
  case parts =>
    intro seen locals node notSpent noMarker found applied inductionHypothesis holds
    rw [walkNode_parts notSpent noMarker applied]
    -- The parts are drawn from the slots of the node, which inherit the property.
    have slots : ∀ payload ∈ node.slotValues, Holds payload := by
      simpa [Node.slotValues] using inherits.slots holds
    have drawn := (node.parts?_draws applied).isDrawn inherits slots
    have inner := inductionHypothesis locals drawn
    exact visit node locals _ _ noMarker applied (parts node locals _ _ noMarker applied inner)
  case nil =>
    intro seen inside around _
    rw [walkParts_nil]
    exact nothing
  case cons =>
    intro seen inside part rest ofPart ofRest around drawn
    rw [List.forall_mem_cons] at drawn
    rw [walkParts_cons]
    exact andThen _ _ (ofPart around drawn.1) (ofRest around drawn.2)
  case value =>
    intro seen inside form around drawn
    obtain ⟨origin⟩ := drawn
    rw [walkPart_value]
    exact value form origin
  case node =>
    intro seen inside child inductionHypothesis around drawn
    rcases drawn with _ | ⟨-, holds⟩
    rw [walkPart_node]
    exact inductionHypothesis holds
  case absent =>
    intro seen inside child inner isEmpty around _
    rw [walkPart_absent inner isEmpty]
    exact value .nil (.inl rfl)
  case under =>
    intro seen inside child inner isFilled inductionHypothesis around drawn
    rcases drawn with _ | _ | ⟨holds⟩
    rw [walkPart_scoped _ isFilled]
    exact inductionHypothesis holds
  case group =>
    intro seen inside tag members inductionHypothesis around drawn
    rcases drawn with _ | _ | _ | members
    rw [walkPart_group]
    exact group _ (inductionHypothesis around members)
  case held =>
    intro seen locals child inductionHypothesis holds
    rw [walkSlot_node]
    exact inductionHypothesis holds
  case empty =>
    intro seen locals payload noNode isEmpty _
    rw [walkSlot_empty noNode isEmpty]
    exact nothing
  case misplaced =>
    intro seen locals payload noNode isFilled _
    rw [walkSlot_misplaced noNode isFilled]
    exact failed _

end NodeForms
