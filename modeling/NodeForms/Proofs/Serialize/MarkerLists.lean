import NodeForms.Proofs.Serialize.ReadyForms
import NodeForms.Proofs.Serialize.Simulation
import NodeForms.Proofs.Sexp.Markers

/-!
# The marker lists of a walk

As long as no slot holds a ready form with a marker list in it, the marker lists in the forms
of a walk are the markers of the line nodes it visits, in order: every other list is headed
by the tag of another kind.
-/

namespace NodeForms

mutual
/-- Whether no ready form in a node, at any depth, holds a marker list. -/
def Node.holdsNoMarkers : Node → Bool
  | ⟨_, u1, u2, u3, _, _⟩ => u1.holdsNoMarkers && u2.holdsNoMarkers && u3.holdsNoMarkers
/-- Whether no ready form in a payload holds a marker list. -/
def Value.holdsNoMarkers : Value → Bool
  | .tuple items => Value.listHoldsNoMarkers items
  | .list items => Value.listHoldsNoMarkers items
  | .node child => child.holdsNoMarkers
  | .closure params body _ => params.holdsNoMarkers && body.holdsNoMarkers
  | .form form => form.markers.isEmpty
  | _ => true
/-- Whether no ready form in the elements of a sequence holds a marker list. -/
def Value.listHoldsNoMarkers : List Value → Bool
  | [] => true
  | item :: items => item.holdsNoMarkers && Value.listHoldsNoMarkers items
end

mutual
theorem Node.holdsNoMarkers_iff :
    (node : Node) →
      (node.holdsNoMarkers = true ↔ ∀ form ∈ node.readyForms, form.markers = [])
  | ⟨_, u1, u2, u3, _, _⟩ => by
      simp only [Node.holdsNoMarkers, Node.readyForms, Bool.and_eq_true, List.forall_mem_append,
        u1.holdsNoMarkers_iff, u2.holdsNoMarkers_iff, u3.holdsNoMarkers_iff]
theorem Value.holdsNoMarkers_iff :
    (payload : Value) →
      (payload.holdsNoMarkers = true ↔ ∀ form ∈ payload.readyForms, form.markers = [])
  | .tuple items | .list items => by
      rw [Value.holdsNoMarkers, Value.readyForms, Value.listHoldsNoMarkers_iff items]
  | .node child => by
      rw [Value.holdsNoMarkers, Value.readyForms, child.holdsNoMarkers_iff]
  | .closure params body _ => by
      simp only [Value.holdsNoMarkers, Value.readyForms, Bool.and_eq_true,
        List.forall_mem_append, params.holdsNoMarkers_iff, body.holdsNoMarkers_iff]
  | .form form => by simp [Value.holdsNoMarkers, Value.readyForms]
  | .data _ | .symbol _ | .regex _ | .selector _ _ | .table _ => by
      simp [Value.holdsNoMarkers, Value.readyForms]
theorem Value.listHoldsNoMarkers_iff :
    (items : List Value) →
      (Value.listHoldsNoMarkers items = true ↔
        ∀ form ∈ Value.listReadyForms items, form.markers = [])
  | [] => by simp [Value.listHoldsNoMarkers, Value.listReadyForms]
  | item :: items => by
      simp only [Value.listHoldsNoMarkers, Value.listReadyForms, Bool.and_eq_true,
        List.forall_mem_append, item.holdsNoMarkers_iff, Value.listHoldsNoMarkers_iff items]
end

theorem Sexp.markers_items {forms : List Sexp} (free : (Sexp.seq forms).markers = []) :
    ∀ form ∈ forms, form.markers = [] := by
  rw [Sexp.markers] at free
  split at free
  · cases free
  · exact Sexp.itemsMarkers_eq_nil.mp free

def lineMarkers (visited : List Node) : List Sexp :=
  (visited.filter fun node => node.kind = .known .newline).map lineMarker

/-- The markers that a run writes for the nodes it visited. -/
def SerializeOptions.writtenMarkers (options : SerializeOptions) (visited : List Node) :
    List Sexp :=
  if options.markers then lineMarkers visited else []

theorem SerializeOptions.writtenMarkers_append (options : SerializeOptions)
    (first second : List Node) :
    options.writtenMarkers (first ++ second) =
      options.writtenMarkers first ++ options.writtenMarkers second := by
  unfold writtenMarkers
  split
  · rw [lineMarkers, List.filter_append, List.map_append]
    rfl
  · rfl

theorem SerializeOptions.writtenMarkers_cons_of_not {node : Node} (options : SerializeOptions)
    (noMarker : ¬node.kind = .known .newline) (visited : List Node) :
    options.writtenMarkers (node :: visited) = options.writtenMarkers visited := by
  unfold writtenMarkers lineMarkers
  rw [List.filter_cons_of_neg (by simpa using noMarker)]

def Walk.MarksLines (options : SerializeOptions) (walk : Walk) : Prop :=
  ∀ forms, walk.result = .ok forms →
    Sexp.itemsMarkers forms = options.writtenMarkers walk.visited

theorem KnownKind.tag_ne_newline {kind : KnownKind} (other : kind ≠ .newline) :
    kind.tag ≠ KnownKind.newline.tag := by
  cases kind with
  | newline => exact absurd rfl other
  | _ => decide

theorem Node.tag_ne_newline {node : Node} {locals : Locals}
    {found : Except RuleFault (List Part)} (noMarker : ¬node.kind = .known .newline)
    (hasRule : node.parts? locals = some found) : node.tag ≠ KnownKind.newline.tag := by
  obtain ⟨rule, hasRule, -⟩ := Option.map_eq_some_iff.mp hasRule
  unfold Node.tag
  cases kindEq : node.kind with
  | known kind =>
      exact KnownKind.tag_ne_newline fun isMarker => noMarker (by rw [kindEq, isMarker])
  | _ => rw [kindEq] at hasRule; cases hasRule

namespace Walk.MarksLines

variable {options : SerializeOptions} {first second : Walk} {node : Node}

theorem failed (reason : Failure) : (Walk.failed reason).MarksLines options := by
  intro forms ok
  cases ok

theorem done {forms : List Sexp} (unmarked : Sexp.itemsMarkers forms = []) :
    (Walk.done forms).MarksLines options := by
  intro others ok
  obtain rfl := Except.ok.inj ok
  rw [unmarked]
  unfold SerializeOptions.writtenMarkers
  split <;> rfl

theorem andThen (ofFirst : first.MarksLines options) (ofSecond : second.MarksLines options) :
    (first.andThen second).MarksLines options := by
  cases result : first.result with
  | error reason => rwa [Walk.andThen_of_error result]
  | ok forms =>
      rw [Walk.andThen_of_ok result]
      intro all ok
      obtain ⟨others, later, rfl⟩ := map_eq_ok.mp ok
      rw [Sexp.itemsMarkers_append, ofFirst forms result, ofSecond others later,
        options.writtenMarkers_append]

theorem after_marker (isMarker : node.kind = .known .newline) (of : first.MarksLines options) :
    (Walk.after node ((Walk.done (if options.markers then [lineMarker node] else [])).andThen
      first)).MarksLines options := by
  intro all ok
  rw [Walk.done_andThen] at ok ⊢
  obtain ⟨forms, later, rfl⟩ := map_eq_ok.mp ok
  have ofForms := of forms later
  cases written : options.markers with
  | true =>
      simp only [SerializeOptions.writtenMarkers, written, if_true] at ofForms ⊢
      rw [Sexp.itemsMarkers_append, ofForms]
      simp [Walk.after, lineMarkers, isMarker, Sexp.itemsMarkers_lineMarker]
  | false =>
      simp only [SerializeOptions.writtenMarkers, written] at ofForms ⊢
      exact ofForms

theorem after (noMarker : ¬node.kind = .known .newline) (of : first.MarksLines options) :
    (first.after node).MarksLines options := by
  intro forms ok
  rw [Walk.after, options.writtenMarkers_cons_of_not noMarker]
  exact of forms ok

theorem enclosed {tag : String} (other : tag ≠ KnownKind.newline.tag)
    (of : first.MarksLines options) : (first.enclosed tag).MarksLines options := by
  intro all ok
  obtain ⟨forms, inner, rfl⟩ := map_eq_ok.mp ok
  rw [Sexp.itemsMarkers_enclosed other]
  exact of forms inner

end Walk.MarksLines

/-- Where no slot holds a marker list, the marker lists in the forms of a tree are the markers
of the line nodes visited there. -/
theorem walkTree_marksLines (options : SerializeOptions) (root : Option Node)
    (holds : ∀ node ∈ root, node.holdsNoMarkers = true) :
    (walkTree options root).MarksLines options := by
  have inherits : Value.IsInherited fun payload =>
      ∀ form ∈ payload.readyForms, form.markers = [] :=
    Value.isInherited_readyForms fun _ => Sexp.markers_items
  cases root with
  | none => exact .done rfl
  | some root =>
      refine (walk_all_drawn options inherits (Walk.MarksLines options) ?nothing ?value .failed
        ?marker ?unhandled ?visit ?parts ?group ?andThen).1 0 .absent root ?drawn
      case nothing => exact .done rfl
      case value =>
        intro form origin
        refine .done ?_
        rcases origin with flat | free
        · simp [Sexp.itemsMarkers, Sexp.markers_of_isSeq flat]
        · simp [Sexp.itemsMarkers, free form (by simp [Value.readyForms])]
      case marker =>
        intro node walk isMarker of
        exact .after_marker isMarker of
      case unhandled =>
        intro node locals noMarker noRule
        exact .after noMarker (.done rfl)
      case visit =>
        intro node locals found walk noMarker _ of
        exact .after noMarker of
      case parts =>
        intro node locals found walk noMarker hasRule of
        exact .enclosed (Node.tag_ne_newline noMarker hasRule) of
      case group =>
        intro walk of
        exact .enclosed (by decide) of
      case andThen =>
        intro first second ofFirst ofSecond
        exact .andThen ofFirst ofSecond
      case drawn =>
        rw [Value.readyForms]
        exact root.holdsNoMarkers_iff.mp (holds root rfl)

end NodeForms
