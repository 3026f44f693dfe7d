import NodeForms.Proofs.Serialize.Draw

/-!
# Ready forms in a tree

A slot can hold a form that is ready, and such a form is written as it is. What is asked of the
forms a walk comes to is therefore asked of the ready ones first: whatever holds of all ready
forms in a tree, and passes from a list to its items, holds of those in everything that the rules
draw from it.
-/

namespace NodeForms

mutual
/-- The ready forms in the slots of a node, at every depth. -/
def Node.readyForms : Node → List Sexp
  | ⟨_, u1, u2, u3, _, _⟩ => u1.readyForms ++ u2.readyForms ++ u3.readyForms
/-- The ready forms in a payload. -/
def Value.readyForms : Value → List Sexp
  | .tuple items => Value.listReadyForms items
  | .list items => Value.listReadyForms items
  | .node child => child.readyForms
  | .closure params body _ => params.readyForms ++ body.readyForms
  | .form form => [form]
  | _ => []
def Value.listReadyForms : List Value → List Sexp
  | [] => []
  | item :: items => item.readyForms ++ Value.listReadyForms items
end

theorem Value.mem_listReadyForms {items : List Value} {form : Sexp} :
    form ∈ Value.listReadyForms items ↔ ∃ item ∈ items, form ∈ item.readyForms := by
  induction items with
  | nil => simp [Value.listReadyForms]
  | cons item items inductionHypothesis => simp [Value.listReadyForms, inductionHypothesis]

theorem Node.readyForms_eq (node : Node) :
    node.readyForms = node.u1.readyForms ++ node.u2.readyForms ++ node.u3.readyForms := by
  cases node
  rw [Node.readyForms]

theorem Node.forall_readyForms {node : Node} {Free : Sexp → Prop} :
    (∀ form ∈ node.readyForms, Free form) ↔
      ∀ payload ∈ [node.u1, node.u2, node.u3], ∀ form ∈ payload.readyForms, Free form := by
  simp only [node.readyForms_eq, List.forall_mem_append, List.forall_mem_cons, and_assoc,
    List.not_mem_nil, IsEmpty.forall_iff, implies_true, and_true]

theorem Value.isInherited_readyForms {Free : Sexp → Prop}
    (items : ∀ forms, Free (.seq forms) → ∀ form ∈ forms, Free form) :
    Value.IsInherited fun payload => ∀ form ∈ payload.readyForms, Free form where
  elements := by
    intro payload elements free found
    cases payload with
    | tuple members | list members =>
        obtain rfl : members = elements := by simpa [Value.elements?] using found
        intro item member form ready
        rw [Value.readyForms] at free
        exact free form (Value.mem_listReadyForms.mpr ⟨item, member, ready⟩)
    | data content =>
        obtain ⟨contents, -, rfl⟩ := Option.map_eq_some_iff.mp found
        simp [Value.readyForms]
    | table names =>
        obtain rfl := Option.some.inj found
        simp [Value.readyForms]
    | form form =>
        cases form with
        | seq forms =>
            obtain rfl := Option.some.inj found
            have inside := items forms (free _ (by simp [Value.readyForms]))
            simpa [Value.readyForms] using inside
        | _ => simp [Value.elements?] at found
    | _ => simp [Value.elements?] at found
  slots := by
    intro child free
    rw [Value.readyForms, Node.forall_readyForms] at free
    simpa using free
  closure := by
    intro params body owner free
    simpa [Value.readyForms, or_imp, forall_and] using free

end NodeForms
