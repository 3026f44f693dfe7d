import NodeForms.Proofs.Serialize.Simulation
import Mathlib.Data.List.Infix

/-!
# Visits as trees

Every visit of a walk but the first is made for the sake of another: a line marker leads to what
it marks, and a node with a rule to the nodes in its parts. So the visits form a tree, which is
gone through from the top down and from left to right. A node without a rule leads to nothing: it
is a leaf of the tree, whatever its slots hold.
-/

namespace NodeForms

/-- Whether a node is of a kind without a rule and no line marker. -/
def Node.isUnhandled (node : Node) : Bool :=
  node.kind != .known .newline && node.kind.rule?.isNone

theorem Node.isUnhandled_of_parts? {node : Node} {locals : Locals}
    (noMarker : ¬node.kind = .known .newline) (noRule : node.parts? locals = none) :
    node.isUnhandled = true := by
  simp [isUnhandled, noMarker, Option.map_eq_none_iff.mp noRule]

theorem Node.isUnhandled_of_hasRule {node : Node} {locals : Locals}
    {found : Except RuleFault (List Part)} (hasRule : node.parts? locals = some found) :
    node.isUnhandled = false := by
  obtain ⟨rule, hasRule, -⟩ := Option.map_eq_some_iff.mp hasRule
  simp [isUnhandled, hasRule]

theorem Value.node?_of_isNull {payload : Value} (isEmpty : payload.isNull = true) :
    payload.node? = none := by
  cases payload with
  | node child => cases isEmpty
  | _ => rfl

mutual
/-- The nodes that a part leads to, in order. -/
def Part.nodes : Part → List Node
  | .value _ => []
  | .node child => [child]
  | .scoped child _ => child.node?.toList
  | .group _ members => Part.listNodes members
def Part.listNodes : List Part → List Node
  | [] => []
  | part :: parts => part.nodes ++ Part.listNodes parts
end

inductive VisitTree where
  | visit (node : Node) (inner : List VisitTree)

namespace VisitTree

/-- The node visited first. -/
def root : VisitTree → Node
  | .visit node _ => node

/-- The visits that the first one leads to. -/
def inner : VisitTree → List VisitTree
  | .visit _ inner => inner

mutual
def visits : VisitTree → List VisitTree
  | .visit node inner => .visit node inner :: allVisits inner
def allVisits : List VisitTree → List VisitTree
  | [] => []
  | tree :: trees => tree.visits ++ allVisits trees
end

theorem allVisits_append (first second : List VisitTree) :
    allVisits (first ++ second) = allVisits first ++ allVisits second := by
  induction first with
  | nil => rfl
  | cons tree trees inductionHypothesis =>
      simp only [List.cons_append, allVisits, inductionHypothesis, List.append_assoc]

theorem allVisits_singleton (node : Node) (inner : List VisitTree) :
    allVisits [.visit node inner] = .visit node inner :: allVisits inner := by
  rw [allVisits, allVisits, visits, List.append_nil]

/-- A visit leads to what its node leads to, in order, up to where the walk ends. -/
inductive Leads : VisitTree → Prop
  | unhandled {node : Node} : node.isUnhandled = true → Leads (.visit node [])
  | refused {node : Node} {locals : Locals} {fault : RuleFault} :
      node.parts? locals = some (.error fault) → Leads (.visit node [])
  | marker {node : Node} {inner : List VisitTree} :
      node.kind = .known .newline → inner.map root <+: node.u3.node?.toList →
        Leads (.visit node inner)
  | parts {node : Node} {locals : Locals} {parts : List Part} {inner : List VisitTree} :
      node.parts? locals = some (.ok parts) → inner.map root <+: Part.listNodes parts →
        Leads (.visit node inner)

theorem Leads.inner_eq_nil {tree : VisitTree} (leads : tree.Leads)
    (unhandled : tree.root.isUnhandled = true) : tree.inner = [] := by
  cases leads with
  | unhandled _ => rfl
  | refused _ => rfl
  | marker isMarker _ => simp [root, Node.isUnhandled, isMarker] at unhandled
  | parts found _ => simp [root, Node.isUnhandled_of_hasRule found] at unhandled

end VisitTree

/-- The visits of a walk are trees from the given nodes on, in order: from all of them, unless
the walk failed on the way. -/
def Walk.GrowsFrom (nodes : List Node) (walk : Walk) : Prop :=
  ∃ trees : List VisitTree, (∀ visit ∈ VisitTree.allVisits trees, visit.Leads) ∧
    (VisitTree.allVisits trees).map VisitTree.root = walk.visited ∧
      trees.map VisitTree.root <+: nodes ∧
        ∀ forms, walk.result = .ok forms → trees.map VisitTree.root = nodes

namespace Walk.GrowsFrom

variable {nodes others : List Node} {first second : Walk} {node : Node}

theorem done (forms : List Sexp) : (Walk.done forms).GrowsFrom [] :=
  ⟨[], by simp [VisitTree.allVisits], rfl, List.prefix_rfl, fun _ _ => rfl⟩

theorem failed (nodes : List Node) (reason : Failure) : (Walk.failed reason).GrowsFrom nodes :=
  ⟨[], by simp [VisitTree.allVisits], rfl, List.nil_prefix, fun _ ok => by cases ok⟩

theorem enclosed (tag : String) (grows : first.GrowsFrom nodes) :
    (first.enclosed tag).GrowsFrom nodes := by
  obtain ⟨trees, lead, visits, roots, all⟩ := grows
  refine ⟨trees, lead, visits, roots, fun forms ok => ?_⟩
  obtain ⟨inner, ok, -⟩ := map_eq_ok.mp ok
  exact all inner ok

theorem andThen (ofFirst : first.GrowsFrom nodes) (ofSecond : second.GrowsFrom others) :
    (first.andThen second).GrowsFrom (nodes ++ others) := by
  obtain ⟨trees, lead, visits, roots, all⟩ := ofFirst
  cases result : first.result with
  | error reason =>
      rw [Walk.andThen_of_error result]
      refine ⟨trees, lead, visits, roots.trans (List.prefix_append _ _), fun forms ok => ?_⟩
      rw [result] at ok
      cases ok
  | ok forms =>
      obtain ⟨later, laterLead, laterVisits, laterRoots, laterAll⟩ := ofSecond
      -- The second walk only starts when the first one went through all of its nodes.
      have complete := all forms result
      rw [Walk.andThen_of_ok result]
      refine ⟨trees ++ later, ?_, ?_, ?_, fun forms ok => ?_⟩
      · rw [VisitTree.allVisits_append, List.forall_mem_append]
        exact ⟨lead, laterLead⟩
      · rw [VisitTree.allVisits_append, List.map_append, visits, laterVisits]
      · rw [List.map_append, complete]
        exact (List.prefix_append_right_inj nodes).mpr laterRoots
      · obtain ⟨forms, ok, -⟩ := map_eq_ok.mp ok
        rw [List.map_append, complete, laterAll forms ok]

theorem after (grows : first.GrowsFrom nodes)
    (leads : ∀ inner : List VisitTree, inner.map VisitTree.root <+: nodes →
      (VisitTree.visit node inner).Leads) :
    (first.after node).GrowsFrom [node] := by
  obtain ⟨trees, lead, visits, roots, -⟩ := grows
  refine ⟨[.visit node trees], ?_, ?_, List.prefix_rfl, fun _ _ => rfl⟩
  · rw [VisitTree.allVisits_singleton, List.forall_mem_cons]
    exact ⟨leads trees roots, lead⟩
  · rw [VisitTree.allVisits_singleton, List.map_cons, visits]
    rfl

end Walk.GrowsFrom

theorem walk_growsFrom (options : SerializeOptions) :
    (∀ seen locals node, (walkNode options seen locals node).GrowsFrom [node]) ∧
      (∀ seen locals parts,
        (walkParts options seen locals parts).GrowsFrom (Part.listNodes parts)) ∧
      (∀ seen locals part, (walkPart options seen locals part).GrowsFrom part.nodes) ∧
      ∀ seen locals payload,
        (walkSlot options seen locals payload).GrowsFrom payload.node?.toList := by
  apply walk_induction options
  case spent =>
    intro seen locals node spent
    rw [walkNode_spent spent]
    exact .failed _ _
  case marker =>
    intro seen locals node notSpent isMarker inductionHypothesis
    rw [walkNode_marker notSpent isMarker]
    exact .after (.andThen (.done _) inductionHypothesis) fun _ roots => .marker isMarker roots
  case unhandled =>
    intro seen locals node notSpent noMarker noRule
    rw [walkNode_unhandled notSpent noMarker noRule]
    -- No child of such a node is visited.
    have leaf := VisitTree.Leads.unhandled (Node.isUnhandled_of_parts? noMarker noRule)
    refine ⟨[.visit node []], ?_, rfl, List.prefix_rfl, fun _ _ => rfl⟩
    rw [VisitTree.allVisits_singleton, VisitTree.allVisits, List.forall_mem_singleton]
    exact leaf
  case fault =>
    intro seen locals node notSpent noMarker fault refused
    rw [walkNode_fault notSpent noMarker refused]
    refine .after (.failed [] _) fun inner roots => ?_
    obtain rfl : inner = [] := by simpa using roots
    exact .refused refused
  case parts =>
    intro seen locals node notSpent noMarker parts found inductionHypothesis
    rw [walkNode_parts notSpent noMarker found]
    exact .after (.enclosed _ inductionHypothesis) fun _ roots => .parts found roots
  case nil =>
    intro seen locals
    rw [walkParts_nil, Part.listNodes]
    exact .done _
  case cons =>
    intro seen locals part rest ofPart ofRest
    rw [walkParts_cons, Part.listNodes]
    exact .andThen ofPart ofRest
  case value =>
    intro seen locals form
    rw [walkPart_value, Part.nodes]
    exact .done _
  case node =>
    intro seen locals child inductionHypothesis
    rwa [walkPart_node, Part.nodes]
  case absent =>
    intro seen locals child inner isEmpty
    rw [walkPart_absent inner isEmpty, Part.nodes, Value.node?_of_isNull isEmpty]
    exact .done _
  case under =>
    intro seen locals child inner isFilled inductionHypothesis
    rwa [walkPart_scoped inner isFilled, Part.nodes]
  case group =>
    intro seen locals tag members inductionHypothesis
    rw [walkPart_group, Part.nodes]
    exact .enclosed tag inductionHypothesis
  case held =>
    intro seen locals child inductionHypothesis
    rwa [walkSlot_node]
  case empty =>
    intro seen locals payload noNode isEmpty
    rw [walkSlot_empty noNode isEmpty, Value.node?_of_isNull isEmpty]
    exact .done _
  case misplaced =>
    intro seen locals payload noNode isFilled
    rw [walkSlot_misplaced noNode isFilled]
    exact .failed _ _

theorem walkTree_growsFrom (options : SerializeOptions) (root : Option Node) :
    (walkTree options root).GrowsFrom root.toList := by
  cases root with
  | none => exact .done _
  | some root => exact (walk_growsFrom options).1 0 .absent root

end NodeForms
