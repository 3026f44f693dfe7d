import NodeForms.Proofs.Serialize.Simulation

/-!
# One form for each place

What it means that a place of a tree stands for one form: a node for a list of its tag and of
one form for each of its parts, a line marker for the form of the statement it marks. Without
line markers in the output a walk leaves at most one form for each place; it leaves exactly
that one if and only if every line marker visited marks a statement.
-/

namespace NodeForms

mutual
/-- The one form that a node stands for under a local table. -/
inductive Node.HasForm : Locals → Node → Sexp → Prop
  | marked {locals : Locals} {node next : Node} {form : Sexp}
      (isMarker : node.kind = .known .newline) (marks : node.u3 = .node next)
      (stands : next.HasForm locals form) : node.HasForm locals form
  | unhandled {locals : Locals} {node : Node} (noMarker : ¬node.kind = .known .newline)
      (noRule : node.parts? locals = none) : node.HasForm locals (unhandledForm node)
  | parts {locals : Locals} {node : Node} {parts : List Part} {forms : List Sexp}
      (noMarker : ¬node.kind = .known .newline) (found : node.parts? locals = some (.ok parts))
      (stand : Part.HaveForms (node.tableInside locals) parts forms) :
      node.HasForm locals (.seq (.atom node.tag :: forms))
/-- The one form that a part stands for under the table inside its node. -/
inductive Part.HasForm : Locals → Part → Sexp → Prop
  | value {locals : Locals} (form : Sexp) : (Part.value form).HasForm locals form
  | node {locals : Locals} {child : Node} {form : Sexp} (stands : child.HasForm locals form) :
      (Part.node child).HasForm locals form
  | absent {locals : Locals} {child : Value} (isEmpty : child.isNull = true) (inner : Locals) :
      (Part.scoped child inner).HasForm locals .nil
  | under {locals : Locals} {child : Node} {form : Sexp} (stands : child.HasForm locals form)
      (inner : Locals) : (Part.scoped (.node child) inner).HasForm locals form
  | group {locals : Locals} {members : List Part} {forms : List Sexp} (tag : String)
      (stand : Part.HaveForms locals members forms) :
      (Part.group tag members).HasForm locals (.seq (.atom tag :: forms))
inductive Part.HaveForms : Locals → List Part → List Sexp → Prop
  | nil {locals : Locals} : Part.HaveForms locals [] []
  | cons {locals : Locals} {part : Part} {form : Sexp} {parts : List Part} {forms : List Sexp}
      (first : part.HasForm locals form) (rest : Part.HaveForms locals parts forms) :
      Part.HaveForms locals (part :: parts) (form :: forms)
end

def Node.MarksStatement (node : Node) : Prop :=
  node.kind = .known .newline → node.u3.isNull = false

namespace Walk

/-- A walk over so many places leaves at most one form for each, and forms as they should
stand exactly if every line marker visited marks a statement. -/
def Fills (walk : Walk) (places : Nat) (Stand : List Sexp → Prop) : Prop :=
  ∀ forms, walk.result = .ok forms → forms.length ≤ places ∧
    ((∀ node ∈ walk.visited, node.MarksStatement) ↔ Stand forms)

def FillsOne (walk : Walk) (HasForm : Sexp → Prop) : Prop :=
  walk.Fills 1 fun forms => ∃ form, forms = [form] ∧ HasForm form

namespace Fills

variable {node : Node} {first second walk : Walk} {places : Nat} {Stand : List Sexp → Prop}

theorem failed (reason : Failure) : (Walk.failed reason).Fills places Stand := by
  rintro _ ⟨⟩

theorem done {forms : List Sexp} (few : forms.length ≤ places) (stand : Stand forms) :
    (Walk.done forms).Fills places Stand := by
  rintro _ ⟨⟩
  simpa [Walk.done, stand] using few

theorem after (marks : node.MarksStatement) (fills : walk.Fills places Stand) :
    (Walk.after node walk).Fills places Stand := by
  intro forms ok
  obtain ⟨few, stand⟩ := fills forms ok
  refine ⟨few, Iff.trans ?_ stand⟩
  simp [Walk.after, marks]

theorem enclosed {tag : String} {HasForm : Sexp → Prop} (fills : walk.Fills places Stand)
    (stand_iff : ∀ forms, HasForm (.seq (.atom tag :: forms)) ↔ Stand forms) :
    (Walk.enclosed tag walk).FillsOne HasForm := by
  intro forms found
  obtain ⟨inner, ok, rfl⟩ := map_eq_ok.mp found
  refine ⟨by simp, Iff.trans (fills inner ok).2 ?_⟩
  simp [stand_iff]

theorem congr {HasForm HasForm' : Sexp → Prop} (fills : walk.FillsOne HasForm)
    (same : ∀ form, HasForm' form ↔ HasForm form) : walk.FillsOne HasForm' := by
  intro forms ok
  obtain ⟨few, stand⟩ := fills forms ok
  exact ⟨few, by simpa only [same] using stand⟩

/-- The places of two walks are filled side by side: neither can make up for a form that the
other does not leave. -/
theorem andThen {Both : List Sexp → Prop} {HasForm : Sexp → Prop}
    (ofFirst : first.FillsOne HasForm) (ofSecond : second.Fills places Stand)
    (both_iff : ∀ forms, Both forms ↔
      ∃ form rest, forms = form :: rest ∧ HasForm form ∧ Stand rest)
    (exact_of : ∀ forms, Stand forms → forms.length = places) :
    (first.andThen second).Fills (places + 1) Both := by
  intro all found
  cases result : first.result with
  | error reason =>
      rw [Walk.andThen_of_error result, result] at found
      cases found
  | ok front =>
      rw [Walk.andThen_of_ok result] at found ⊢
      obtain ⟨back, ok, rfl⟩ := map_eq_ok.mp found
      obtain ⟨fewFront, standFront⟩ := ofFirst front result
      obtain ⟨fewBack, standBack⟩ := ofSecond back ok
      refine ⟨by rw [List.length_append]; omega, ?_⟩
      simp only [List.forall_mem_append]
      rw [standFront, standBack, both_iff]
      constructor
      · rintro ⟨⟨form, rfl, stands⟩, stand⟩
        exact ⟨form, back, rfl, stands, stand⟩
      · rintro ⟨form, rest, split, stands, stand⟩
        have count := congrArg List.length split
        rw [List.length_append, List.length_cons, exact_of rest stand] at count
        obtain ⟨only, rfl⟩ := List.length_eq_one_iff.mp (show front.length = 1 by omega)
        obtain ⟨rfl, rfl⟩ := List.cons.inj split
        exact ⟨⟨only, rfl, stands⟩, stand⟩

end Fills

end Walk

section

variable {locals : Locals} {node : Node} {form : Sexp}

theorem Node.hasForm_marker_iff (isMarker : node.kind = .known .newline) :
    node.HasForm locals form ↔ ∃ next, node.u3 = .node next ∧ next.HasForm locals form := by
  constructor
  · intro stands
    cases stands with
    | marked _ marks stands => exact ⟨_, marks, stands⟩
    | unhandled noMarker => exact absurd isMarker noMarker
    | parts noMarker => exact absurd isMarker noMarker
  · rintro ⟨next, marks, stands⟩
    exact .marked isMarker marks stands

theorem Node.hasForm_parts_iff {parts : List Part} (noMarker : ¬node.kind = .known .newline)
    (found : node.parts? locals = some (.ok parts)) :
    node.HasForm locals form ↔ ∃ forms, form = .seq (.atom node.tag :: forms) ∧
      Part.HaveForms (node.tableInside locals) parts forms := by
  constructor
  · intro stands
    cases stands with
    | marked isMarker => exact absurd isMarker noMarker
    | unhandled _ noRule => rw [found] at noRule; cases noRule
    | parts _ found' stand =>
        cases found.symm.trans found'
        exact ⟨_, rfl, stand⟩
  · rintro ⟨forms, rfl, stand⟩
    exact .parts noMarker found stand

theorem Part.hasForm_node_iff {child : Node} :
    (Part.node child).HasForm locals form ↔ child.HasForm locals form := by
  constructor
  · rintro ⟨⟩
    assumption
  · exact .node

theorem Part.hasForm_scoped_iff {child : Value} {inner : Locals} (isFilled : ¬child.isNull = true) :
    (Part.scoped child inner).HasForm locals form ↔
      ∃ held, child = .node held ∧ held.HasForm locals form := by
  constructor
  · intro stands
    cases stands with
    | absent isEmpty => exact absurd isEmpty isFilled
    | under stands => exact ⟨_, rfl, stands⟩
  · rintro ⟨held, rfl, stands⟩
    exact .under stands inner

theorem Part.hasForm_group_iff {tag : String} {members : List Part} {forms : List Sexp} :
    (Part.group tag members).HasForm locals (.seq (.atom tag :: forms)) ↔
      HaveForms locals members forms := by
  constructor
  · rintro ⟨⟩
    assumption
  · exact .group tag

theorem Part.haveForms_cons_iff {part : Part} {parts : List Part} {forms : List Sexp} :
    HaveForms locals (part :: parts) forms ↔
      ∃ form rest, forms = form :: rest ∧ part.HasForm locals form ∧
        HaveForms locals parts rest := by
  constructor
  · rintro ⟨⟩
    exact ⟨_, _, rfl, ‹_›, ‹_›⟩
  · rintro ⟨form, rest, rfl, first, others⟩
    exact .cons first others

theorem Part.HaveForms.length_eq {parts : List Part} {forms : List Sexp}
    (stand : HaveForms locals parts forms) : forms.length = parts.length := by
  induction parts generalizing forms with
  | nil =>
      cases stand
      rfl
  | cons part parts ih =>
      obtain ⟨form, rest, rfl, -, others⟩ := haveForms_cons_iff.mp stand
      rw [List.length_cons, List.length_cons, ih others]

end

/-- Without line markers in the output, a walk fills its places exactly if every line marker
visited marks a statement. A slot behind a line marker is one place if it holds anything. -/
theorem walk_fills (options : SerializeOptions) (plain : options.markers = false) :
    (∀ seen locals node,
      (walkNode options seen locals node).FillsOne (node.HasForm locals)) ∧
    (∀ seen locals parts,
      (walkParts options seen locals parts).Fills parts.length (Part.HaveForms locals parts)) ∧
    (∀ seen locals part,
      (walkPart options seen locals part).FillsOne (part.HasForm locals)) ∧
    ∀ seen locals payload, payload.isNull = false →
      (walkSlot options seen locals payload).FillsOne fun form =>
        ∃ child, payload = .node child ∧ child.HasForm locals form := by
  apply walk_induction options
  case spent =>
    intro seen locals node spent
    rw [walkNode_spent spent]
    exact .failed _
  case marker =>
    intro seen locals node allowed isMarker ih
    rw [walkNode_marker allowed isMarker, plain, if_neg (by decide), Walk.done_andThen]
    intro forms found
    obtain ⟨inner, ok, rfl⟩ := map_eq_ok.mp found
    rw [List.nil_append]
    -- Without a statement the marker leaves its place empty, so the form it should have is missing.
    cases isEmpty : node.u3.isNull with
    | true =>
        have noNode : ∀ child, node.u3 = .node child → False := by
          intro child held
          rw [held] at isEmpty
          cases isEmpty
        rw [walkSlot_empty noNode isEmpty] at ok ⊢
        obtain rfl : inner = [] := (Except.ok.inj ok).symm
        simp [Walk.after, Walk.done, Node.MarksStatement, isMarker, isEmpty]
    | false =>
        obtain ⟨few, stand⟩ := ih isEmpty inner ok
        refine ⟨few, ?_⟩
        have marks : node.MarksStatement := fun _ => isEmpty
        simp only [Walk.after, List.forall_mem_cons, Node.hasForm_marker_iff isMarker]
        rw [and_iff_right marks]
        exact stand
  case unhandled =>
    intro seen locals node allowed noMarker noRule
    have visit : (Walk.after node (.done [unhandledForm node])).FillsOne (node.HasForm locals) :=
      .after (fun isMarker => absurd isMarker noMarker)
        (.done (by simp) ⟨_, rfl, .unhandled noMarker noRule⟩)
    rw [walkNode_unhandled allowed noMarker noRule]
    exact visit
  case fault =>
    intro seen locals node allowed noMarker fault refused
    rw [walkNode_fault allowed noMarker refused]
    rintro _ ⟨⟩
  case parts =>
    intro seen locals node allowed noMarker parts found ih
    rw [walkNode_parts allowed noMarker found]
    refine .after (fun isMarker => absurd isMarker noMarker) (.enclosed ih fun forms => ?_)
    simp [Node.hasForm_parts_iff noMarker found]
  case nil =>
    intro seen locals
    rw [walkParts_nil]
    exact .done (by simp) .nil
  case cons =>
    intro seen locals part rest ofPart ofRest
    rw [walkParts_cons]
    exact .andThen ofPart ofRest (fun _ => Part.haveForms_cons_iff)
      fun _ => Part.HaveForms.length_eq
  case value =>
    intro seen locals form
    rw [walkPart_value]
    exact .done (by simp) ⟨form, rfl, .value form⟩
  case node =>
    intro seen locals child ih
    rw [walkPart_node]
    exact .congr ih fun form => Part.hasForm_node_iff
  case absent =>
    intro seen locals child inner isEmpty
    rw [walkPart_absent inner isEmpty]
    exact .done (by simp) ⟨.nil, rfl, .absent isEmpty inner⟩
  case under =>
    intro seen locals child inner isFilled ih
    rw [walkPart_scoped inner isFilled]
    exact .congr (ih (by simpa using isFilled)) fun form => Part.hasForm_scoped_iff isFilled
  case group =>
    intro seen locals tag members ih
    rw [walkPart_group]
    exact .enclosed ih fun forms => Part.hasForm_group_iff
  case held =>
    intro seen locals child ih _
    rw [walkSlot_node]
    exact .congr ih fun form => by simp
  case empty =>
    intro seen locals payload noNode isEmpty isFilled
    rw [isEmpty] at isFilled
    cases isFilled
  case misplaced =>
    intro seen locals payload noNode isFilled _
    rw [walkSlot_misplaced noNode isFilled]
    exact .failed _

end NodeForms
