import NodeForms.Proofs.Node.Depth
import NodeForms.Proofs.Serialize.VisitTree
import NodeForms.Proofs.Serialize.WellTyped

/-!
# Every list has a head

What a graph of well-typed nodes comes to are lists with heads: each list, at every depth, starts
with the tag of a kind that has a rule, or it stands for a node without one, or it is a line
marker. Everything else in a list is a leaf.
-/

namespace NodeForms

namespace Sexp

/-- Whether a form is an atom, an integer or a text by its type. A match without a number leaves
an integer that holds none. -/
def isLeaf (form : Sexp) : Bool := ["Atom", "Int", "Text"].contains form.typeName

/-- A list that starts with the tag of a kind with a rule, stands for a node of the graph without
one, or marks the line of a marker of the graph, if line markers are wanted. In a list with a tag
each element is a leaf or such a list itself. -/
inductive Headed (markers : Bool) (graph : List Node) : Sexp → Prop
  | tagged {kind : KnownKind} {elements : List Sexp} (hasRule : kind.rule?.isSome = true)
      (inside : ∀ element ∈ elements, element.isLeaf = false → element.Headed markers graph) :
      Headed markers graph (.seq (.atom kind.tag :: elements))
  | unhandled {node : Node} (inGraph : node ∈ graph) (noRule : node.isUnhandled = true) :
      Headed markers graph (.seq [.atom "unhandled", .int node.kind.id])
  | marker {node : Node} (wanted : markers = true) (inGraph : node ∈ graph)
      (isMarker : node.kind = .known .newline) :
      Headed markers graph (.seq [.atom "newline", .int node.line, .text (node.file.getD "")])

theorem isLeaf_of_isPlain {form : Sexp} (plain : form.isPlain = true) : form.isLeaf = true := by
  cases form with
  | seq | foreign => cases plain
  | _ => rfl

theorem isLeaf_numberForm (payload : Value) : (Rule.numberForm payload).isLeaf = true := by
  unfold Rule.numberForm
  split <;> rfl

end Sexp

def Value.Within (graph : List Node) (payload : Value) : Prop :=
  ∀ inner ∈ payload.nodes, inner ∈ graph

def Node.Within (graph : List Node) (node : Node) : Prop := ∀ inner ∈ node.nodes, inner ∈ graph

theorem supply_within {graph : List Node} (checked : ∀ node ∈ graph, node.check = .ok ()) :
    Supply (fun form => form.isLeaf = true) (Node.Within graph) (Value.Within graph)
      (Value.Within graph) where
  leaf := Sexp.isLeaf_of_isPlain
  checked within := checked _ (within _ (Node.mem_nodes.mpr (.inl rfl)))
  slots position within inner isInner := within inner (Node.mem_nodes.mpr (.inr ⟨position, isInner⟩))
  node within := within
  nodes within child isChild inner isInner :=
    within inner (Value.mem_nodes_ofNodes.mpr ⟨child, isChild, isInner⟩)
  closure within :=
    ⟨fun inner isInner => within inner (List.mem_append_left _ isInner),
      fun inner isInner => within inner (List.mem_append_right _ isInner)⟩
  side within _ := within

def Walk.Gives (Wanted : Sexp → Prop) (walk : Walk) : Prop :=
  ∀ forms, walk.result = .ok forms → ∀ form ∈ forms, Wanted form

namespace Walk.Gives

variable {Wanted Other : Sexp → Prop} {first second walk : Walk}

theorem done {forms : List Sexp} (wanted : ∀ form ∈ forms, Wanted form) :
    (Walk.done forms).Gives Wanted := by
  rintro _ ⟨⟩
  exact wanted

theorem failed (reason : Failure) : (Walk.failed reason).Gives Wanted := by
  rintro _ ⟨⟩

theorem andThen (ofFirst : first.Gives Wanted) (ofSecond : second.Gives Wanted) :
    (first.andThen second).Gives Wanted := by
  cases result : first.result with
  | error reason => rwa [Walk.andThen_of_error result]
  | ok forms =>
      rw [Walk.andThen_of_ok result]
      intro _ ok
      obtain ⟨others, later, rfl⟩ := map_eq_ok.mp ok
      exact List.forall_mem_append.mpr ⟨ofFirst forms result, ofSecond others later⟩

theorem enclosed {tag : String} (inner : walk.Gives Wanted)
    (wraps : ∀ forms : List Sexp, (∀ form ∈ forms, Wanted form) → Other (.seq (.atom tag :: forms))) :
    (walk.enclosed tag).Gives Other := by
  intro _ ok
  obtain ⟨forms, found, rfl⟩ := map_eq_ok.mp ok
  exact List.forall_mem_singleton.mpr (wraps forms (inner forms found))

theorem mono (gives : walk.Gives Wanted) (weaker : ∀ form, Wanted form → Other form) :
    walk.Gives Other :=
  fun forms ok form member => weaker form (gives forms ok form member)

end Walk.Gives

/-- The walk over a place of a graph of well-typed nodes gives lists with heads, and among parts
also leaves. -/
theorem walk_headed (options : SerializeOptions) {graph : List Node}
    (checked : ∀ node ∈ graph, node.check = .ok ()) :
    let Headed := Sexp.Headed options.markers graph
    let Element (form : Sexp) : Prop := form.isLeaf = false → Headed form
    let Made := Part.Made (fun form => form.isLeaf = true) (Node.Within graph) (Value.Within graph)
    (∀ seen locals node, locals ≠ .unusable → node.Within graph →
      (walkNode options seen locals node).Gives Headed) ∧
    (∀ seen locals parts, locals ≠ .unusable → (∀ part ∈ parts, Made part) →
      (walkParts options seen locals parts).Gives Element) ∧
    (∀ seen locals part, locals ≠ .unusable → Made part →
      (walkPart options seen locals part).Gives Element) ∧
    ∀ seen locals payload, locals ≠ .unusable → payload.Within graph →
      (walkSlot options seen locals payload).Gives Headed := by
  intro Headed Element Made
  -- A node or a slot comes to lists with heads alone, a part to a leaf as well.
  have supply := supply_within checked
  apply walk_induction options
  case spent =>
    intro seen locals node spent _ _
    rw [walkNode_spent spent]
    exact .failed _
  case marker =>
    intro seen locals node allowed isMarker ih usable within
    rw [walkNode_marker allowed isMarker]
    refine Walk.Gives.andThen (.done ?_) (ih usable (supply.slots .third within))
    split
    · rename_i wanted
      exact List.forall_mem_singleton.mpr
        (.marker wanted (within node (Node.mem_nodes.mpr (.inl rfl))) isMarker)
    · simp
  case unhandled =>
    intro seen locals node allowed noMarker noRule _ within
    rw [walkNode_unhandled allowed noMarker noRule]
    refine Walk.Gives.done (List.forall_mem_singleton.mpr ?_)
    exact .unhandled (within node (Node.mem_nodes.mpr (.inl rfl)))
      (Node.isUnhandled_of_parts? noMarker noRule)
  case fault =>
    intro seen locals node allowed noMarker fault refused _ _
    rw [walkNode_fault allowed noMarker refused]
    exact Walk.Gives.failed _
  case parts =>
    intro seen locals node allowed noMarker parts found ih usable within
    have made := Node.parts?_made supply Sexp.isLeaf_numberForm usable within found
    have inside := ih (Node.tableInside_ne_unusable (supply.checked within) usable) made
    rw [walkNode_parts allowed noMarker found]
    obtain ⟨kind, rule, isKind, hasRule, -⟩ := Node.exists_rule_of_parts? found
    have isTag : node.tag = kind.tag := congrArg Kind.tag isKind
    rw [isTag]
    exact Walk.Gives.enclosed inside fun _ elements =>
      .tagged (Option.isSome_of_mem hasRule) elements
  case nil =>
    intro seen locals _ _
    rw [walkParts_nil]
    exact .done (by simp)
  case cons =>
    intro seen locals part rest ofPart ofRest usable made
    rw [List.forall_mem_cons] at made
    rw [walkParts_cons]
    exact .andThen (ofPart usable made.1) (ofRest usable made.2)
  case value =>
    intro seen locals form _ made
    cases made with
    | value leaf =>
        rw [walkPart_value]
        refine .done (List.forall_mem_singleton.mpr fun noLeaf => ?_)
        rw [leaf] at noLeaf
        cases noLeaf
  case node =>
    intro seen locals child ih usable made
    cases made with
    | node within =>
        rw [walkPart_node]
        exact (ih usable within).mono fun _ headed _ => headed
  case absent =>
    intro seen locals child inner isEmpty _ _
    rw [walkPart_absent inner isEmpty]
    exact .done (List.forall_mem_singleton.mpr nofun)
  case under =>
    intro seen locals child inner isFilled ih usable made
    cases made with
    | under within =>
        rw [walkPart_scoped inner isFilled]
        exact (ih usable within).mono fun _ headed _ => headed
  case group =>
    intro seen locals tag members ih usable made
    cases made with
    | group members =>
        rw [walkPart_group]
        exact .enclosed (ih usable members) fun elements inside _ => .tagged rfl inside
  case held =>
    intro seen locals child ih usable within
    rw [walkSlot_node]
    exact ih usable within
  case empty =>
    intro seen locals payload noNode isEmpty _ _
    rw [walkSlot_empty noNode isEmpty]
    exact .done (by simp)
  case misplaced =>
    intro seen locals payload noNode isFilled _ _
    rw [walkSlot_misplaced noNode isFilled]
    exact .failed _

/-- Whatever a graph of well-typed nodes comes to, with or without a limit and line markers, is a
list with a head, and so is every list in it, at every depth: the head is the tag of a kind with a
rule, or it tells of a node without one by the number of its kind, or of a line. All else in a list
is a leaf. -/
theorem serialize_headed (options : SerializeOptions) (root : Option Node)
    (checked : ∀ node ∈ root.toList.flatMap Node.nodes, node.check = .ok ()) {forms : List Sexp}
    (ok : (serialize { options with closures := .held } root).result = .ok forms) :
    ∀ form ∈ forms, form.Headed options.markers (root.toList.flatMap Node.nodes) := by
  rw [serialize_eq_outcome _ rfl] at ok
  cases root with
  | none =>
      obtain rfl := Except.ok.inj ok
      simp
  | some root =>
      have within : root.Within ([root].flatMap Node.nodes) := fun inner isInner => by
        simpa using isInner
      exact (walk_headed { options with closures := .held } checked).1 0 .absent root nofun within
        forms ok

/-- A marked line with an indexed assignment, whose index becomes an array of its own, and a node
without a rule: the marker stands in front of the assignment, and each list has its head. -/
theorem serialize_headed_indexed :
    let literal (number : Int) : Node := ⟨.known .lit, .data (.int number), .null, .null, 3, none⟩
    let operands : Node := ⟨.known .array, .ofNodes [literal 1, literal 2], .null, .null, 3, none⟩
    let assignment : Node :=
      ⟨.known .opAsgn1, .null, .data (.text "+"), .node operands, 3, none⟩
    let marker : Node := ⟨.known .newline, .null, .null, .node assignment, 3, some "a.rb"⟩
    let frame : Node := ⟨.known .cref, .null, .null, .null, 0, none⟩
    let root : Node := ⟨.known .block, .ofNodes [marker, frame], .null, .null, 0, none⟩
    let form : Sexp := .seq [.atom "block", .seq [.atom "newline", .int 3, .text "a.rb"],
      .seq [.atom "op_asgn1", .nil, .seq [.atom "array", .seq [.atom "lit", .int 2]], .atom "+",
        .seq [.atom "lit", .int 1]],
      .seq [.atom "unhandled", .int 84]]
    (serialize { markers := true } (some root)).result = .ok [form] ∧
      form.Headed true ((some root).toList.flatMap Node.nodes) := by
  intro literal operands assignment marker frame root form
  have ok : (serialize { markers := true } (some root)).result = .ok [form] := by cbv
  have nodes : (some root).toList.flatMap Node.nodes =
      [root, marker, assignment, operands, literal 1, literal 2, frame] := rfl
  have checked : ∀ node ∈ (some root).toList.flatMap Node.nodes, node.check = .ok () := by
    rw [nodes]
    simp only [List.forall_mem_cons]
    exact ⟨rfl, rfl, rfl, rfl, rfl, rfl, rfl, by simp⟩
  exact ⟨ok, serialize_headed { markers := true } (some root) checked ok form List.mem_cons_self⟩

end NodeForms
