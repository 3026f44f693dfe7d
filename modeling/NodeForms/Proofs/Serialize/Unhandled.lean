import NodeForms.Proofs.Serialize.Failures
import NodeForms.Proofs.Serialize.UnhandledLists
import NodeForms.Proofs.Serialize.VisitTree

/-!
# Nodes without a rule

A node of a kind without a rule does not stop a run. It leaves a diagnostic with its number and
is written as a list with that number, whatever its slots hold: nothing in them is visited. The
diagnostics of a run are those of the nodes without a rule that it visited, also when it fails,
and no other node leaves one.
-/

namespace NodeForms

theorem SerializeOptions.FailsAt.filter_isUnhandled {options : SerializeOptions}
    {before visited : List Node} {reason : Failure}
    (fails : options.FailsAt before visited reason) :
    visited.filter Node.isUnhandled = before.filter Node.isUnhandled := by
  cases fails with
  | spent _ => rfl
  | misplaced => rfl
  | rule _ refused => simp [Node.isUnhandled_of_hasRule refused]

structure Diagnostic.IsOf (options : SerializeOptions) (node : Node) (finding : Diagnostic) :
    Prop where
  noRule : node.kind.rule? = none
  number : finding.kindNumber = node.kind.id
  slots : finding.slotsPresent = node.slotsPresent
  typeName : finding.typeName = options.typeName
  methodName : finding.methodName = options.methodName

theorem Diagnostic.isOf_unhandled {node : Node} (options : SerializeOptions)
    (unhandled : node.isUnhandled = true) :
    (Diagnostic.unhandled options.context node).IsOf options node where
  noRule := by simpa [Node.isUnhandled] using (Bool.and_eq_true_iff.mp unhandled).2
  number := rfl
  slots := rfl
  typeName := rfl
  methodName := rfl

theorem Outcome.forall₂_diagnostics (run : Outcome) (options : SerializeOptions) :
    List.Forall₂ (fun node finding => finding.IsOf options node)
      (run.visited.filter Node.isUnhandled) (run.diagnostics options.context) := by
  change List.Forall₂ _ _
    ((run.visited.filter Node.isUnhandled).map (Diagnostic.unhandled options.context))
  rw [List.forall₂_map_right_iff, List.forall₂_same]
  intro node member
  exact Diagnostic.isOf_unhandled options (List.mem_filter.mp member).2

/-- A run leaves one diagnostic for each node without a rule that it visits, in order, and none
for another node; if it fails, for those visited before the failing one. The visits are a tree in
which a node without a rule leads to no other visit. And where no slot holds a ready form with an
unhandled list in it, the numbers in the unhandled lists of the forms are those of the
diagnostics. -/
theorem serialize_unhandled (options : SerializeOptions) (root : Option Node) :
    let heldOptions : SerializeOptions := { options with closures := .held }
    let run := serialize heldOptions root
    let findings := run.diagnostics heldOptions.context
    List.Forall₂ (fun node finding => finding.IsOf heldOptions node)
        (run.visited.filter Node.isUnhandled) findings ∧
      (∀ reason, run.result = .error reason →
        ∃ before, heldOptions.FailsAt before run.visited reason ∧
          List.Forall₂ (fun node finding => finding.IsOf heldOptions node)
            (before.filter Node.isUnhandled) findings) ∧
      (∃ trees : List VisitTree, trees.map VisitTree.root <+: root.toList ∧
        (VisitTree.allVisits trees).map VisitTree.root = run.visited ∧
        ∀ visit ∈ VisitTree.allVisits trees, visit.Leads ∧
          (visit.root.isUnhandled = true → visit.inner = [])) ∧
      ((∀ node ∈ root, ∀ form ∈ node.readyForms, form.unhandledNumbers = []) →
        ∀ forms, run.result = .ok forms →
          Sexp.itemsUnhandledNumbers forms = findings.map Diagnostic.kindNumber) := by
  intro heldOptions run findings
  obtain ⟨visited, reported, result⟩ := serialize_eq_walkTree options root
  have accounted := run.forall₂_diagnostics heldOptions
  refine ⟨accounted, ?failure, ?tree, ?numbers⟩
  case failure =>
    intro reason failed
    obtain ⟨before, fails⟩ :=
      walkTree_endsAtFailure heldOptions root reason (result.symm.trans failed)
    rw [← visited] at fails
    exact ⟨before, fails, fails.filter_isUnhandled ▸ accounted⟩
  case tree =>
    obtain ⟨trees, lead, visits, roots, -⟩ := walkTree_growsFrom heldOptions root
    exact ⟨trees, roots, visits.trans visited.symm, fun visit member =>
      ⟨lead visit member, (lead visit member).inner_eq_nil⟩⟩
  case numbers =>
    intro free forms ok
    rw [show findings = _ from reported]
    exact walkTree_listsUnhandled heldOptions root free forms (result.symm.trans ok)

/-- A block with an array of a node without a rule, whose own slot holds a node, and with another
statement after it. -/
def unhandledBlock (last : Node) : Node :=
  let statement : Node := ⟨.known .selfRef, .null, .null, .null, 0, none⟩
  let stack : Node := ⟨.known .cref, .node statement, .null, .null, 0, none⟩
  let items : Node := ⟨.known .array, .tuple [.node stack], .null, .null, 0, none⟩
  ⟨.known .block, .tuple [.node items, .node last], .null, .null, 0, none⟩

/-- With a number beyond the table at the end, the block has two diagnostics. With a mapping of
one entry there, it fails with one. -/
theorem serialize_unhandled_unhandledBlock :
    let numbered := unhandledBlock ⟨.numbered 250, .null, .null, .null, 0, none⟩
    let failing := unhandledBlock
      ⟨.known .hash, .tuple [.data (.text "a")], .null, .null, 0, none⟩
    let numberedRun := serialize {} (some numbered)
    let failingRun := serialize {} (some failing)
    numberedRun.result =
        .ok [.seq [.atom "block", .seq [.atom "array", .seq [.atom "unhandled", .int 84]],
          .seq [.atom "unhandled", .int 250]]] ∧
      [84, 250] = (numberedRun.diagnostics (SerializeOptions.context {})).map
        Diagnostic.kindNumber ∧
      failingRun.visited.map Node.tag = ["block", "array", "cref", "hash"] ∧
      ∃ reason before, failingRun.result = .error reason ∧
        SerializeOptions.FailsAt {} before failingRun.visited reason ∧
          List.Forall₂ (fun node finding => finding.IsOf {} node)
            (before.filter Node.isUnhandled)
            (failingRun.diagnostics (SerializeOptions.context {})) := by
  intro numbered failing numberedRun failingRun
  have forms : numberedRun.result =
      .ok [.seq [.atom "block", .seq [.atom "array", .seq [.atom "unhandled", .int 84]],
        .seq [.atom "unhandled", .int 250]]] := by
    unfold numberedRun numbered
    cbv
  have noReady : numbered.readyForms = [] := by
    unfold numbered
    cbv
  have tags : failingRun.visited.map Node.tag = ["block", "array", "cref", "hash"] := by
    unfold failingRun failing
    cbv
  have fails : failingRun.result = .error (.error
      ⟨.structural, "odd number list for hash (1 entries)", ⟨some "hash", none, none⟩⟩) := by
    unfold failingRun failing
    cbv
  obtain ⟨-, -, -, numbers⟩ := serialize_unhandled {} (some numbered)
  obtain ⟨-, accounted, -, -⟩ := serialize_unhandled {} (some failing)
  obtain ⟨before, failsAt, findings⟩ := accounted _ fails
  exact ⟨forms, numbers (by rintro _ ⟨⟩; simp [noReady]) _ forms, tags, _, before, fails, failsAt,
    findings⟩

def readyUnhandled : Node :=
  ⟨.known .splat, .form (.seq [.atom "unhandled", .int 2]), .null, .null, 0, none⟩

/-- A ready form is written as it is and leaves no diagnostic, so the number in it is in the
forms only. -/
theorem readyUnhandled_ne :
    let run := serialize {} (some readyUnhandled)
    run.result = .ok [.seq [.atom "splat", .seq [.atom "unhandled", .int 2]]] ∧
      Sexp.itemsUnhandledNumbers [.seq [.atom "splat", .seq [.atom "unhandled", .int 2]]] ≠
        (run.diagnostics (SerializeOptions.context {})).map Diagnostic.kindNumber := by
  have run : serialize {} (some readyUnhandled) =
      ⟨[readyUnhandled], .ok [.seq [.atom "splat", .seq [.atom "unhandled", .int 2]]]⟩ := by cbv
  rw [run]
  exact ⟨rfl, by decide⟩

end NodeForms
