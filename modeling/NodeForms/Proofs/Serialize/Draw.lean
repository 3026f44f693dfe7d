import NodeForms.Proofs.Computation
import NodeForms.Proofs.Node.Graph
import NodeForms.Serialize.Machine
import Mathlib.Data.List.Perm.Subperm

/-!
# What a rule draws from its node

The parts of a form are made out of what the three slots hold, and nothing in a slot is used
twice. This is shown once for each rule. From it follows, for all rules together, that the nodes
to visit are among the nodes of the tree, each at most as often as it occurs there, so that their
number is bounded by the size of the tree; and that whatever holds of the slots and of all they
hold also holds of every part.
-/

namespace NodeForms

/-- How many visits a node can lead to: a clause of a case is followed to its own head and
body only, since the case itself goes through the chain. -/
def Node.load (node : Node) : Nat :=
  if node.kind = .known .whenClause then 1 + node.u1.size + node.u2.size else node.size

/-- How many visits a slot can lead to. -/
def Value.load : Value → Nat
  | .node child => child.load
  | _ => 0

mutual
/-- How many visits a part can lead to. -/
def Part.load : Part → Nat
  | .value _ => 0
  | .node child => child.load
  | .scoped child _ => child.load
  | .group _ members => Part.listLoad members
def Part.listLoad : List Part → Nat
  | [] => 0
  | part :: parts => part.load + Part.listLoad parts
end

/-- The nodes that a visit can reach, its own one included: from a clause of a case only those in
its own head and body, since the case itself goes through the chain. -/
def Node.reach (node : Node) : List Node :=
  if node.kind = .known .whenClause then node :: (node.u1.nodes ++ node.u2.nodes) else node.nodes

/-- The nodes that a visit to what a slot holds can reach. -/
def Value.reach : Value → List Node
  | .node child => child.reach
  | _ => []

mutual
def Part.reach : Part → List Node
  | .value _ => []
  | .node child => child.reach
  | .scoped child _ => child.reach
  | .group _ members => Part.listReach members
def Part.listReach : List Part → List Node
  | [] => []
  | part :: parts => part.reach ++ Part.listReach parts
end

theorem Node.nodes_eq (node : Node) :
    node.nodes = node :: (node.u1.nodes ++ (node.u2.nodes ++ node.u3.nodes)) := by
  cases node
  rw [Node.nodes]

theorem Node.reach_sublist (node : Node) : node.reach.Sublist node.nodes := by
  unfold Node.reach
  split
  · rw [node.nodes_eq, ← List.append_assoc]
    exact .cons_cons node (List.sublist_append_left _ _)
  · exact List.Sublist.refl _

theorem Value.reach_sublist (payload : Value) : payload.reach.Sublist payload.nodes := by
  cases payload with
  | node child => exact child.reach_sublist
  | _ => exact List.nil_sublist _

theorem Node.nodes_eq_reach_append {node : Node} (isClause : node.kind = .known .whenClause) :
    node.nodes = node.reach ++ node.u3.nodes := by
  rw [node.nodes_eq, Node.reach, if_pos isClause, List.cons_append, List.append_assoc]

theorem Value.listNodes_append (first second : List Value) :
    Value.listNodes (first ++ second) = Value.listNodes first ++ Value.listNodes second := by
  induction first with
  | nil => rfl
  | cons value values ih => simp only [List.cons_append, Value.listNodes, ih, List.append_assoc]

theorem Value.listNodes_perm {first second : List Value} (same : first.Perm second) :
    (Value.listNodes first).Perm (Value.listNodes second) := by
  induction same with
  | nil => exact .refl _
  | cons value _ ih => exact ih.append_left _
  | swap value other values =>
      simp only [Value.listNodes, ← List.append_assoc]
      exact List.perm_append_comm.append_right _
  | trans _ _ first second => exact first.trans second

theorem Part.listReach_append (first second : List Part) :
    Part.listReach (first ++ second) = Part.listReach first ++ Part.listReach second := by
  induction first with
  | nil => rfl
  | cons part parts ih => simp only [List.cons_append, Part.listReach, ih, List.append_assoc]

theorem Part.reach_element (value : Value) : (Part.element value).reach = value.reach := by
  cases value <;> rfl

theorem Value.listNodes_elements {payload : Value} {items : List Value}
    (found : payload.elements? = some items) :
    (Value.listNodes items).Sublist payload.nodes := by
  have holdNothing {Content : Type} (contents : List Content) (wrap : Content → Value)
      (empty : ∀ content, (wrap content).nodes = []) :
      (Value.listNodes (contents.map wrap)).Sublist payload.nodes := by
    induction contents with
    | nil => exact List.nil_sublist _
    | cons content contents ih => rwa [List.map_cons, Value.listNodes, empty, List.nil_append]
  cases payload with
  | tuple members | list members =>
      obtain rfl : members = items := by simpa [Value.elements?] using found
      exact List.Sublist.refl _
  | data content =>
      obtain ⟨contents, -, rfl⟩ := Option.map_eq_some_iff.mp found
      exact holdNothing contents .data fun _ => rfl
  | table names =>
      obtain rfl := Option.some.inj found
      exact holdNothing names.declared (fun name => .data (.text name)) fun _ => rfl
  | form value =>
      cases value with
      | seq forms =>
          obtain rfl := Option.some.inj found
          exact holdNothing forms .form fun _ => rfl
      | _ => simp [Value.elements?] at found
  | _ => simp [Value.elements?] at found

mutual
theorem Node.length_nodes : (node : Node) → node.nodes.length = node.size
  | ⟨_, u1, u2, u3, _, _⟩ => by
      rw [Node.nodes, Node.size, List.length_cons, List.length_append, List.length_append,
        u1.length_nodes, u2.length_nodes, u3.length_nodes]
      omega
theorem Value.length_nodes : (payload : Value) → payload.nodes.length = payload.size
  | .tuple items | .list items => by rw [Value.nodes, Value.size, Value.length_listNodes items]
  | .node child => by rw [Value.nodes, Value.size, child.length_nodes]
  | .closure params body _ => by
      rw [Value.nodes, Value.size, List.length_append, params.length_nodes, body.length_nodes]
  | .data _ | .symbol _ | .regex _ | .selector .. | .table _ | .form _ => by
      simp [Value.nodes, Value.size]
theorem Value.length_listNodes :
    (items : List Value) → (Value.listNodes items).length = Value.listSize items
  | [] => rfl
  | item :: items => by
      rw [Value.listNodes, Value.listSize, List.length_append, item.length_nodes,
        Value.length_listNodes items]
end

theorem Node.length_reach (node : Node) : node.reach.length = node.load := by
  unfold Node.reach Node.load
  split
  · rw [List.length_cons, List.length_append, node.u1.length_nodes, node.u2.length_nodes]
    omega
  · exact node.length_nodes

theorem Value.length_reach (payload : Value) : payload.reach.length = payload.load := by
  cases payload with
  | node child => exact child.length_reach
  | _ => rfl

mutual
theorem Part.length_reach : (part : Part) → part.reach.length = part.load
  | .value _ => rfl
  | .node child => by rw [Part.reach, Part.load, child.length_reach]
  | .scoped child _ => by rw [Part.reach, Part.load, child.length_reach]
  | .group _ members => by rw [Part.reach, Part.load, Part.length_listReach members]
theorem Part.length_listReach :
    (parts : List Part) → (Part.listReach parts).length = Part.listLoad parts
  | [] => rfl
  | part :: parts => by
      rw [Part.listReach, Part.listLoad, List.length_append, part.length_reach,
        Part.length_listReach parts]
end

theorem Value.load_le_size (payload : Value) : payload.load ≤ payload.size := by
  rw [← payload.length_reach, ← payload.length_nodes]
  exact payload.reach_sublist.length_le

theorem Node.load_le_size (node : Node) : node.load ≤ node.size := (Value.node node).load_le_size

/-- Parts made out of values. The values can be used in any order, each at most once; a
sequence, a node or a closure can be opened, and what it holds takes its place. Nodes are
visited under the table `around` the node at hand, unless they are put under the one `inside`
it. -/
inductive Draws (around inside : Locals) : List Value → List Part → Prop
  | done (values : List Value) : Draws around inside values []
  | reorder {values others : List Value} {parts : List Part} :
      values.Perm others → Draws around inside values parts → Draws around inside others parts
  | skip (value : Value) {values : List Value} {parts : List Part} :
      Draws around inside values parts → Draws around inside (value :: values) parts
  | ready {form : Sexp} {values : List Value} {parts : List Part} :
      form.isSeq = false → Draws around inside values parts →
        Draws around inside values (.value form :: parts)
  | element (value : Value) {values : List Value} {parts : List Part} :
      inside = around → Draws around inside values parts →
        Draws around inside (value :: values) (.element value :: parts)
  | under (value : Value) {values : List Value} {parts : List Part} :
      Draws around inside values parts →
        Draws around inside (value :: values) (.scoped value inside :: parts)
  | group {members : List Part} {values : List Value} {parts : List Part} :
      Draws around inside values (members ++ parts) →
        Draws around inside values (.group KnownKind.array.tag members :: parts)
  | elements {value : Value} {items values : List Value} {parts : List Part} :
      value.elements? = some items → Draws around inside (items ++ values) parts →
        Draws around inside (value :: values) parts
  | slots (child : Node) {values : List Value} {parts : List Part} :
      Draws around inside (child.u1 :: child.u2 :: child.u3 :: values) parts →
        Draws around inside (.node child :: values) parts
  | closure (params body : Value) (owner : Option String) {values : List Value}
      {parts : List Part} :
      Draws around inside (params :: body :: values) parts →
        Draws around inside (.closure params body owner :: values) parts
  | clause {child : Node} {values : List Value} {parts : List Part} :
      child.kind = .known .whenClause → inside = around →
        Draws around inside (child.u3 :: values) parts →
        Draws around inside (.node child :: values) (.node child :: parts)

/-- What parts can reach is among the nodes in the values they are drawn from, and nothing is
reached more often than it occurs there. -/
theorem Draws.listReach_subperm {around inside : Locals} {values : List Value}
    {parts : List Part} (draws : Draws around inside values parts) :
    (Part.listReach parts).Subperm (Value.listNodes values) := by
  induction draws with
  | done values => exact List.nil_subperm
  | reorder same _ ih => exact ih.trans (Value.listNodes_perm same).subperm
  | skip value _ ih => exact ih.trans (List.sublist_append_right _ _).subperm
  | ready _ _ ih => exact ih
  | element value _ _ ih =>
      rw [Part.listReach, Part.reach_element]
      exact value.reach_sublist.subperm.append ih
  | under value _ ih => exact value.reach_sublist.subperm.append ih
  | group _ ih => rwa [Part.listReach_append] at ih
  | elements found _ ih =>
      rw [Value.listNodes_append] at ih
      exact ih.trans ((Value.listNodes_elements found).append_right _).subperm
  | slots child _ ih =>
      simp only [Value.listNodes] at ih ⊢
      rw [Value.nodes, child.nodes_eq, List.cons_append]
      simpa only [List.append_assoc] using ih.cons_right child
  | closure params body owner _ ih =>
      simp only [Value.listNodes, Value.nodes, List.append_assoc] at ih ⊢
      exact ih
  | @clause child values parts isClause _ _ ih =>
      -- The reach of a clause leaves out what comes after it, which is drawn in its own right.
      rw [Part.listReach, Part.reach, Value.listNodes, Value.nodes,
        Node.nodes_eq_reach_append isClause, List.append_assoc]
      exact (List.subperm_append_left _).mpr ih

def Part.IsFlat (part : Part) : Prop := ∃ form : Sexp, form.isSeq = false ∧ part = .value form

namespace Draws

variable {around inside : Locals} {values : List Value} {parts : List Part}

theorem child (value : Value) (draws : Draws around around values parts) :
    Draws around around (value :: values) (.child value :: parts) := by
  unfold Part.child
  split
  · exact .skip value (.ready rfl draws)
  · exact .element value rfl draws

theorem present (value : Value) (draws : Draws around around values parts) :
    Draws around around (value :: values) (Part.present value ++ parts) := by
  unfold Part.present
  split
  · exact .skip value draws
  · exact .child value draws

theorem presentLast (value : Value) :
    Draws around around (value :: values) (Part.present value) := by
  simpa using present value (.done values)

theorem elementsThen (items : List Value) (draws : Draws around around values parts) :
    Draws around around (items ++ values) (items.map .element ++ parts) := by
  induction items with
  | nil => exact draws
  | cons item _ inductionHypothesis => exact .element item rfl inductionHypothesis

theorem elementsOnly (items : List Value) :
    Draws around around (items ++ values) (items.map .element) := by
  simpa using elementsThen items (.done values)

theorem flat {part : Part} (isFlat : part.IsFlat) (draws : Draws around inside values parts) :
    Draws around inside values (part :: parts) := by
  obtain ⟨form, noSeq, rfl⟩ := isFlat
  exact .ready noSeq draws

theorem flatAll {first : List Part} (flat : ∀ part ∈ first, part.IsFlat)
    (draws : Draws around inside values parts) : Draws around inside values (first ++ parts) := by
  induction first with
  | nil => exact draws
  | cons part first inductionHypothesis =>
      rw [List.forall_mem_cons] at flat
      exact .flat flat.1 (inductionHypothesis flat.2)

end Draws

/-- A property that passes from a value to all that a rule can draw from it. -/
structure Value.IsInherited (Holds : Value → Prop) : Prop where
  elements {value : Value} {items : List Value} :
    Holds value → value.elements? = some items → ∀ item ∈ items, Holds item
  slots {child : Node} :
    Holds (.node child) → Holds child.u1 ∧ Holds child.u2 ∧ Holds child.u3
  closure {params body : Value} {owner : Option String} :
    Holds (.closure params body owner) → Holds params ∧ Holds body

theorem Value.IsInherited.true : Value.IsInherited fun _ => True :=
  ⟨fun _ _ _ _ => trivial, fun _ => ⟨trivial, trivial, trivial⟩, fun _ => ⟨trivial, trivial⟩⟩

/-- A part whose forms and nodes have a property, with its nodes under the table `inside`. -/
inductive Part.IsDrawn (Holds : Value → Prop) (around inside : Locals) : Part → Prop
  | value {form : Sexp} :
      form.isSeq = false ∨ Holds (.form form) → IsDrawn Holds around inside (.value form)
  | node {child : Node} :
      inside = around → Holds (.node child) → IsDrawn Holds around inside (.node child)
  | under {child : Value} : Holds child → IsDrawn Holds around inside (.scoped child inside)
  | group {members : List Part} :
      (∀ member ∈ members, IsDrawn Holds around inside member) →
        IsDrawn Holds around inside (.group KnownKind.array.tag members)

section

variable {Holds : Value → Prop} {around inside : Locals}

theorem Part.isDrawn_element {value : Value} (same : inside = around) (holds : Holds value) :
    (Part.element value).IsDrawn Holds around inside := by
  cases value with
  | node child => exact .node same holds
  | form form => exact .value (.inr holds)
  | data content =>
      refine .value (.inl ?_)
      unfold Value.misplaced
      split <;> first | rfl | contradiction
  | _ => exact .value (.inl rfl)

theorem Draws.isDrawn {values : List Value} {parts : List Part}
    (inherited : Value.IsInherited Holds) (draws : Draws around inside values parts)
    (hold : ∀ value ∈ values, Holds value) :
    ∀ part ∈ parts, part.IsDrawn Holds around inside := by
  -- Along the way the parts are drawn, the values that are left keep the property.
  induction draws with
  | done values => simp
  | reorder same _ inductionHypothesis =>
      exact inductionHypothesis fun value member => hold value (same.mem_iff.mp member)
  | skip value _ inductionHypothesis =>
      exact inductionHypothesis fun value member => hold value (List.mem_cons_of_mem _ member)
  | ready isFlat _ inductionHypothesis =>
      simp only [List.forall_mem_cons]
      exact ⟨.value (.inl isFlat), inductionHypothesis hold⟩
  | element value same _ inductionHypothesis =>
      simp only [List.forall_mem_cons] at hold ⊢
      exact ⟨Part.isDrawn_element same hold.1, inductionHypothesis hold.2⟩
  | under value _ inductionHypothesis =>
      simp only [List.forall_mem_cons] at hold ⊢
      exact ⟨.under hold.1, inductionHypothesis hold.2⟩
  | group _ inductionHypothesis =>
      have drawn := inductionHypothesis hold
      simp only [List.forall_mem_append] at drawn
      simp only [List.forall_mem_cons]
      exact ⟨.group drawn.1, drawn.2⟩
  | elements found _ inductionHypothesis =>
      simp only [List.forall_mem_cons] at hold
      refine inductionHypothesis (List.forall_mem_append.mpr ⟨?_, hold.2⟩)
      exact inherited.elements hold.1 found
  | slots child _ inductionHypothesis =>
      simp only [List.forall_mem_cons] at hold inductionHypothesis
      obtain ⟨first, second, third⟩ := inherited.slots hold.1
      exact inductionHypothesis ⟨first, second, third, hold.2⟩
  | closure params body owner _ inductionHypothesis =>
      simp only [List.forall_mem_cons] at hold inductionHypothesis
      obtain ⟨ofParams, ofBody⟩ := inherited.closure hold.1
      exact inductionHypothesis ⟨ofParams, ofBody, hold.2⟩
  | @clause child values parts _ same _ inductionHypothesis =>
      simp only [List.forall_mem_cons] at hold inductionHypothesis ⊢
      obtain ⟨-, -, next⟩ := inherited.slots hold.1
      exact ⟨.node same hold.1, inductionHypothesis ⟨next, hold.2⟩⟩

end

end NodeForms
