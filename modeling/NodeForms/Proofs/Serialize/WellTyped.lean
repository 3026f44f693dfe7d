import NodeForms.Proofs.Node.Graph
import NodeForms.Proofs.Node.Sound
import NodeForms.Proofs.Serialize.Rules

/-!
# Rules on well-typed nodes

A rule reads the slots of its node as the layout of the kind describes them. On a well-typed node
it therefore makes parts of a known sort, or fails with an error that says what is wrong with the
tree: the ready forms among the parts are no lists, the nodes come from the slots, and a group is
an array. This is shown once for each rule, for any supply of well-typed nodes that hold nodes of
the supply themselves. Two kinds are left out: their rules make a form of an integer that the slot
need not hold.
-/

namespace NodeForms

/-- A fault that becomes an error of the tree. -/
def RuleFault.IsReported (fault : RuleFault) : Prop := ∀ cause, fault ≠ .payload cause

/-- A step that gives a result as it is wanted, or a fault that becomes an error of the tree. -/
def Yields {Result : Type} (Wanted : Result → Prop) : Except RuleFault Result → Prop
  | .ok result => Wanted result
  | .error fault => fault.IsReported

namespace Yields

variable {First Second : Type} {Wanted : First → Prop} {Later : Second → Prop}
  {step : Except RuleFault First}

theorem ok {result : First} (wanted : Wanted result) : Yields Wanted (.ok result) := wanted

theorem error {fault : RuleFault} (isReported : fault.IsReported) :
    Yields Wanted (.error fault) := isReported

theorem bind {next : First → Except RuleFault Second} (first : Yields Wanted step)
    (later : ∀ result, Wanted result → Yields Later (next result)) :
    Yields Later (step >>= next) := by
  cases step with
  | error fault => exact first
  | ok result => exact later result first

theorem map {change : First → Second} (first : Yields Wanted step)
    (later : ∀ result, Wanted result → Later (change result)) : Yields Later (step.map change) := by
  cases step with
  | error fault => exact first
  | ok result => exact later result first

theorem mono {Other : First → Prop} (first : Yields Wanted step)
    (weaker : ∀ result, Wanted result → Other result) : Yields Other step := by
  cases step with
  | error fault => exact first
  | ok result => exact weaker result first

/-- Going through a list gives what is wanted if every step does. -/
theorem mapM {next : Second → Except RuleFault First} {inputs : List Second}
    (each : ∀ input ∈ inputs, Yields Wanted (next input)) :
    Yields (fun results => ∀ result ∈ results, Wanted result) (inputs.mapM next) := by
  induction inputs with
  | nil => exact .ok (by simp)
  | cons input inputs ih =>
      rw [List.forall_mem_cons] at each
      rw [List.mapM_cons]
      refine .bind each.1 fun result wanted => .bind (ih each.2) fun results others => ?_
      exact .ok (List.forall_mem_cons.mpr ⟨wanted, others⟩)

end Yields

theorem Data.isTruthy_of_isNull {content : Data} (isEmpty : content.isNull = true) :
    content.isTruthy = false := by
  fun_induction Data.isNull content with
  | case1 => rfl
  | case2 _ content ih => exact ih isEmpty
  | case3 => cases isEmpty

theorem Value.isTruthy_of_isNull {value : Value} (isEmpty : value.isNull = true) :
    Rule.isTruthy value = false := by
  cases value with
  | data content => exact Data.isTruthy_of_isNull isEmpty
  | _ => cases isEmpty

theorem Value.integer_of_admits {value : Value} (admits : Expected.integer.admits value = true) :
    value.isNull = true ∨ ∃ number, value = .data (.scalar (.int number)) := by
  unfold Expected.admits at admits
  rw [Bool.or_eq_true] at admits
  refine admits.imp_right fun fits => ?_
  split at fits <;> simp_all

theorem Value.node_of_admits {value : Value} (admits : Expected.node.admits value = true) :
    value.isNull = true ∨ ∃ child, value = .node child := by
  unfold Expected.admits at admits
  rw [Bool.or_eq_true] at admits
  refine admits.imp_right fun fits => ?_
  split at fits <;> simp_all

theorem Value.nodes_of_admits {value : Value} (admits : Expected.nodes.admits value = true) :
    value.isNull = true ∨ ∃ children, value = .ofNodes children := by
  unfold Expected.admits at admits
  rw [Bool.or_eq_true] at admits
  refine admits.imp_right fun fits => ?_
  split at fits
  case h_4 items _ =>
    obtain ⟨children, rfl⟩ := Value.exists_map_node items fits
    exact ⟨children, rfl⟩
  all_goals simp_all

theorem Value.table_of_admits {value : Value} (admits : Expected.table.admits value = true) :
    value.isNull = true ∨ ∃ names, value = .table names := by
  unfold Expected.admits at admits
  rw [Bool.or_eq_true] at admits
  refine admits.imp_right fun fits => ?_
  split at fits <;> simp_all

/-- What stands in the place of a node: a good node, or nothing. -/
def Value.IsPlace (Good : Node → Prop) (payload : Value) : Prop :=
  payload.isNull = true ∨ ∃ child, payload = .node child ∧ Good child

/-- A payload from a slot, of the sort that the slot expects. -/
def Value.Suits (Slot : Value → Prop) (expected : Expected) (payload : Value) : Prop :=
  Slot payload ∧ expected.admits payload = true

/-- Whether a form is no list, and nothing foreign either. -/
def Sexp.isPlain : Sexp → Bool
  | .atom _ | .int _ | .text _ => true
  | _ => false

/-- Nodes that are well typed and hold nodes of the same sort in their slots, with the leaves and
the sides of closures that are wanted of them. -/
structure Supply (Leaf : Sexp → Prop) (Good : Node → Prop) (Slot Side : Value → Prop) : Prop where
  leaf {form : Sexp} : form.isPlain = true → Leaf form
  checked {node : Node} : Good node → node.check = .ok ()
  slots {node : Node} (position : SlotPosition) : Good node → Slot (node.slots.get position)
  node {child : Node} : Slot (.node child) → Good child
  nodes {children : List Node} : Slot (.ofNodes children) → ∀ child ∈ children, Good child
  closure {params body : Value} {owner : Option String} :
    Slot (.closure params body owner) → Side params ∧ Side body
  side {payload : Value} : Slot payload → payload.IsPlace Good → Side payload

/-- A part that is made out of a supply: a leaf, a good node, a side, or an array of such parts. -/
inductive Part.Made (Leaf : Sexp → Prop) (Good : Node → Prop) (Side : Value → Prop) : Part → Prop
  | value {form : Sexp} (leaf : Leaf form) : Made Leaf Good Side (.value form)
  | node {child : Node} (good : Good child) : Made Leaf Good Side (.node child)
  | under {child : Value} (side : Side child) (locals : Locals) :
      Made Leaf Good Side (.scoped child locals)
  | group {members : List Part} (made : ∀ member ∈ members, member.Made Leaf Good Side) :
      Made Leaf Good Side (.group KnownKind.array.tag members)

/-- Parts of which each is made out of a supply. -/
def Part.AllMade (Leaf : Sexp → Prop) (Good : Node → Prop) (Side : Value → Prop)
    (parts : List Part) : Prop :=
  ∀ part ∈ parts, part.Made Leaf Good Side

section

variable {Leaf : Sexp → Prop} {Good : Node → Prop} {Slot Side : Value → Prop}

namespace Part.AllMade

variable {part : Part} {parts others : List Part}

theorem nil : AllMade Leaf Good Side [] := by simp [AllMade]

theorem cons (first : part.Made Leaf Good Side) (rest : AllMade Leaf Good Side parts) :
    AllMade Leaf Good Side (part :: parts) :=
  List.forall_mem_cons.mpr ⟨first, rest⟩

theorem append (first : AllMade Leaf Good Side parts) (rest : AllMade Leaf Good Side others) :
    AllMade Leaf Good Side (parts ++ others) :=
  List.forall_mem_append.mpr ⟨first, rest⟩

theorem nodes {children : List Node} (good : ∀ child ∈ children, Good child) :
    AllMade Leaf Good Side (children.map .node) := by
  intro part member
  obtain ⟨child, isChild, rfl⟩ := List.mem_map.mp member
  exact .node (good child isChild)

end Part.AllMade

namespace Supply

variable {node : Node} {payload : Value} {expected : Expected}

theorem fits (supply : Supply Leaf Good Slot Side) (good : Good node) {position : SlotPosition}
    (expects : node.kind.layout.Expects position expected) :
    (node.slots.get position).Suits Slot expected := by
  obtain ⟨used, isUsed, rfl⟩ := Option.map_eq_some_iff.mp expects
  have fit := Node.check_eq_ok_iff.mp (supply.checked good) position
  rw [isUsed] at fit
  exact ⟨supply.slots position good, fit⟩

theorem first (supply : Supply Leaf Good Slot Side) (good : Good node)
    (expects : node.kind.layout.Expects .first expected) : node.u1.Suits Slot expected :=
  supply.fits good expects

theorem second (supply : Supply Leaf Good Slot Side) (good : Good node)
    (expects : node.kind.layout.Expects .second expected) : node.u2.Suits Slot expected :=
  supply.fits good expects

theorem third (supply : Supply Leaf Good Slot Side) (good : Good node)
    (expects : node.kind.layout.Expects .third expected) : node.u3.Suits Slot expected :=
  supply.fits good expects

theorem place (supply : Supply Leaf Good Slot Side) (suits : payload.Suits Slot .node) :
    payload.IsPlace Good := by
  rcases Value.node_of_admits suits.2 with isEmpty | ⟨child, rfl⟩
  · exact .inl isEmpty
  · exact .inr ⟨child, rfl, supply.node suits.1⟩

theorem child (supply : Supply Leaf Good Slot Side) (suits : payload.Suits Slot .node) :
    (Part.child payload).Made Leaf Good Side := by
  rcases supply.place suits with isEmpty | ⟨child, rfl, good⟩
  · rw [Part.child, if_pos isEmpty]
    exact .value (supply.leaf rfl)
  · exact .node good

theorem present (supply : Supply Leaf Good Slot Side) (suits : payload.Suits Slot .node) :
    Part.AllMade Leaf Good Side (Part.present payload) := by
  unfold Part.present
  split
  · exact .nil
  · exact .cons (supply.child suits) .nil

theorem under (supply : Supply Leaf Good Slot Side) (suits : payload.Suits Slot .node)
    (locals : Locals) : (Part.scoped payload locals).Made Leaf Good Side :=
  .under (supply.side suits.1 (supply.place suits)) locals

end Supply

namespace Rule

variable {payload : Value}

theorem identifier_yields (supply : Supply Leaf Good Slot Side) (payload : Value) (role : String) :
    Yields (Part.Made Leaf Good Side) (identifier payload role) := by
  unfold identifier
  split
  · exact .ok (.value (supply.leaf rfl))
  · exact .error nofun

theorem literal_yields (supply : Supply Leaf Good Slot Side) (payload : Value) :
    Yields (Part.Made Leaf Good Side) (literal payload) := by
  unfold literal
  split
  all_goals first
    | exact .ok (.value (supply.leaf rfl))
    | exact .error nofun

theorem leadingText_yields (supply : Supply Leaf Good Slot Side) (payload : Value) :
    Yields (Part.Made Leaf Good Side) (leadingText payload) := by
  unfold leadingText
  split
  all_goals first
    | exact .ok (.value (supply.leaf rfl))
    | exact .error nofun

theorem iterated_ofNodes (children : List Node) :
    iterated (.ofNodes children) = .ok (children.map .node) := by
  cases children with
  | nil => rfl
  | cons child children => rfl

theorem iterated_of_isNull (isEmpty : payload.isNull = true) : iterated payload = .ok [] := by
  rw [iterated, Value.isTruthy_of_isNull isEmpty]
  rfl

theorem elements_of_suits (suits : payload.Suits Slot .nodes) :
    elements payload = iterated payload := by
  have ordered : (isTruthy payload && !isReversible payload) = false := by
    rcases Value.nodes_of_admits suits.2 with isEmpty | ⟨children, rfl⟩
    · rw [Value.isTruthy_of_isNull isEmpty]
      rfl
    · exact Bool.and_false _
  rw [elements, ordered]
  rfl

theorem iterated_yields (supply : Supply Leaf Good Slot Side) (suits : payload.Suits Slot .nodes) :
    Yields (fun items => ∃ children : List Node, items = children.map .node ∧
      ∀ child ∈ children, Good child) (iterated payload) := by
  rcases Value.nodes_of_admits suits.2 with isEmpty | ⟨children, rfl⟩
  · rw [iterated_of_isNull isEmpty]
    exact .ok ⟨[], rfl, by simp⟩
  · rw [iterated_ofNodes]
    exact .ok ⟨children, rfl, supply.nodes suits.1⟩

theorem allMade_elements {items : List Value} {children : List Node}
    (areNodes : items = children.map .node) (good : ∀ child ∈ children, Good child) :
    Part.AllMade Leaf Good Side (items.map .element) := by
  have same : items.map Part.element = children.map .node := by
    rw [areNodes, List.map_map]
    rfl
  rw [same]
  exact .nodes good

theorem nodeOrNone_yields (place : payload.IsPlace Good) :
    Yields (fun child : Option Node => ∀ node ∈ child, Good node) (nodeOrNone payload) := by
  rcases place with isEmpty | ⟨child, rfl, good⟩
  · unfold nodeOrNone
    split
    · cases isEmpty
    · rw [if_pos isEmpty]
      exact .ok (by simp)
  · exact .ok (by simpa using good)

theorem clauses_yields (supply : Supply Leaf Good Slot Side) (place : payload.IsPlace Good) :
    Yields (Part.AllMade Leaf Good Side) (clauses payload) := by
  fun_induction clauses payload with
  | case1 head body next line file ih =>
      rcases place with isEmpty | ⟨child, same, good⟩
      · cases isEmpty
      · cases same
        have following : next.IsPlace Good := supply.place (supply.third good rfl)
        exact .map (ih following) fun rest others => .cons (.node good) others
  | case2 other notClause =>
      rcases place with isEmpty | ⟨child, same, good⟩
      · cases isEmpty
      · cases same
        exact .ok (.cons (.node good) .nil)
  | case3 => exact .ok (.cons (.value (supply.leaf rfl)) .nil)
  | case4 other notClause noNode isFilled =>
      rcases place with isEmpty | ⟨child, rfl, -⟩
      · exact absurd isEmpty isFilled
      · exact (noNode child rfl).elim

theorem piece_yields (supply : Supply Leaf Good Slot Side) {child : Node} (good : Good child) :
    Yields (Part.Made Leaf Good Side) (piece (.node child)) := by
  unfold piece
  dsimp only
  split
  · rename_i isEvaluated
    have body : child.u2.Suits Slot .node := supply.second good (by rw [isEvaluated]; decide)
    exact .ok (supply.child body)
  · exact .ok (.node good)

theorem pathName_yields (supply : Supply Leaf Good Slot Side) (place : payload.IsPlace Good) :
    Yields (Part.Made Leaf Good Side) (pathName payload) := by
  refine .bind (nodeOrNone_yields place) fun path _ => ?_
  cases path with
  | none => exact .error nofun
  | some path =>
      dsimp only
      split
      · exact identifier_yields supply path.u2 "mid"
      · exact .error nofun

theorem resolve_yields (names : LocalTable) (position : Int) :
    Yields (fun _ => True) ((Locals.table names).resolve position) := by
  unfold Locals.resolve LocalTable.resolve
  dsimp only
  split
  · exact .ok trivial
  · exact .error nofun

theorem tableRun_yields (supply : Supply Leaf Good Slot Side) (names : LocalTable) (position : Int)
    (count : Nat) :
    Yields (Part.AllMade Leaf Good Side) (tableRun (.table names) position count) := by
  induction count generalizing position with
  | zero => exact .ok .nil
  | succ count ih =>
      refine .bind (resolve_yields names position) fun name _ => ?_
      refine .bind (ih (position + 1)) fun rest others => ?_
      exact .ok (.cons (.value (supply.leaf rfl)) others)

theorem countOf_yields (suits : payload.Suits Slot .integer) :
    Yields (fun _ => True) (countOf payload) := by
  rcases Value.integer_of_admits suits.2 with isEmpty | ⟨number, rfl⟩
  · unfold countOf
    split
    · cases isEmpty
    · cases isEmpty
    · rw [if_neg (by simp [Value.isTruthy_of_isNull isEmpty])]
      exact .ok trivial
  · exact .ok trivial

theorem defaultCount_yields (supply : Supply Leaf Good Slot Side) {opt : Option Node}
    (good : ∀ node ∈ opt, Good node) : Yields (fun _ => True) (defaultCount opt) := by
  cases opt with
  | none => exact .ok trivial
  | some opt =>
      unfold defaultCount
      dsimp only
      split
      · rename_i isBlock
        have statements : opt.u1.Suits Slot .nodes :=
          supply.first (good opt rfl) (by rw [isBlock]; decide)
        exact .map (iterated_yields supply statements) fun _ _ => trivial
      · exact .ok trivial

theorem restParts_yields (supply : Supply Leaf Good Slot Side) (names : LocalTable)
    (suits : payload.Suits Slot .integer) :
    Yields (Part.AllMade Leaf Good Side) (restParts (.table names) payload) := by
  rcases Value.integer_of_admits suits.2 with isEmpty | ⟨number, rfl⟩
  · unfold restParts
    split
    all_goals first
      | cases isEmpty
      | rw [if_pos isEmpty]
        exact .ok .nil
  · unfold restParts restAt
    dsimp only
    split
    · exact .map (resolve_yields names (number + 1)) fun name _ =>
        .cons (.value (supply.leaf rfl)) .nil
    · split
      · exact .ok .nil
      · exact .error nofun

theorem captured_yields (supply : Supply Leaf Good Slot Side) {locals : Locals} {node : Node}
    (good : Good node) (role : String) :
    Yields (fun closure => Side closure.params ∧ Side closure.body)
      (captured ⟨locals, ClosureAccess.held.resolve⟩ node role) := by
  have slot : Slot node.u3 := supply.slots .third good
  unfold captured
  generalize node.u3 = payload at slot
  cases payload with
  | closure params body owner => exact .ok (supply.closure slot)
  | _ => exact .error nofun

/-- The rule makes its parts of what is supplied, or fails with an error of the tree, for every node
of a supply with the layout and every table that can be in force. -/
def Makes (rule : Rule) (layout : Layout) : Prop :=
  ∀ ⦃Leaf : Sexp → Prop⦄ ⦃Good : Node → Prop⦄ ⦃Slot Side : Value → Prop⦄,
    Supply Leaf Good Slot Side → ∀ (locals : Locals) (node : Node), locals ≠ .unusable →
      node.kind.layout = layout → Good node →
        Yields (Part.AllMade Leaf Good Side) (rule ⟨locals, ClosureAccess.held.resolve⟩ node)

variable {layout : Layout}

theorem terminal_makes : terminal.Makes layout :=
  fun _ _ _ _ _ _ _ _ _ _ => .ok .nil

theorem firstChild_makes (first : layout.Expects .first .node) : firstChild.Makes layout := by
  rintro _ _ _ _ supply locals node - rfl good
  exact .ok (.cons (supply.child (supply.first good first)) .nil)

theorem secondChild_makes (second : layout.Expects .second .node) : secondChild.Makes layout := by
  rintro _ _ _ _ supply locals node - rfl good
  exact .ok (.cons (supply.child (supply.second good second)) .nil)

theorem thirdChild_makes (third : layout.Expects .third .node) : thirdChild.Makes layout := by
  rintro _ _ _ _ supply locals node - rfl good
  exact .ok (.cons (supply.child (supply.third good third)) .nil)

theorem twoChildren_makes (first : layout.Expects .first .node)
    (second : layout.Expects .second .node) : twoChildren.Makes layout := by
  rintro _ _ _ _ supply locals node - rfl good
  exact .ok (.cons (supply.child (supply.first good first))
    (.cons (supply.child (supply.second good second)) .nil))

theorem lastChildren_makes (second : layout.Expects .second .node)
    (third : layout.Expects .third .node) : lastChildren.Makes layout := by
  rintro _ _ _ _ supply locals node - rfl good
  exact .ok (.cons (supply.child (supply.second good second))
    (.cons (supply.child (supply.third good third)) .nil))

theorem threeChildren_makes (first : layout.Expects .first .node)
    (second : layout.Expects .second .node) (third : layout.Expects .third .node) :
    threeChildren.Makes layout := by
  rintro _ _ _ _ supply locals node - rfl good
  exact .ok (.cons (supply.child (supply.first good first))
    (.cons (supply.child (supply.second good second))
      (.cons (supply.child (supply.third good third)) .nil)))

theorem optionalChild_makes (first : layout.Expects .first .node) :
    optionalChild.Makes layout := by
  rintro _ _ _ _ supply locals node - rfl good
  exact .ok (supply.present (supply.first good first))

theorem scopeBody_makes (third : layout.Expects .third .node) : scopeBody.Makes layout := by
  rintro _ _ _ _ supply locals node - rfl good
  exact .ok (.cons (supply.under (supply.third good third) _) .nil)

theorem variableName_makes : variableName.Makes layout := by
  rintro _ _ _ _ supply locals node - - -
  exact .bind (identifier_yields supply node.u1 "vid") fun name named => .ok (.cons named .nil)

theorem named_makes : named.Makes layout := by
  rintro _ _ _ _ supply locals node - - -
  exact .bind (identifier_yields supply node.u2 "mid") fun name named => .ok (.cons named .nil)

theorem aliasNames_makes : aliasNames.Makes layout := by
  rintro _ _ _ _ supply locals node - - -
  refine .bind (identifier_yields supply node.u1 "new") fun new newNamed => ?_
  refine .bind (identifier_yields supply node.u2 "old") fun old oldNamed => ?_
  exact .ok (.cons newNamed (.cons oldNamed .nil))

theorem literalForm_makes : literalForm.Makes layout := by
  rintro _ _ _ _ supply locals node - - -
  exact .bind (literal_yields supply node.u1) fun form written => .ok (.cons written .nil)

theorem loop_makes (first : layout.Expects .first .node) (second : layout.Expects .second .node) :
    loop.Makes layout := by
  rintro _ _ _ _ supply locals node - rfl good
  exact .ok (.cons (supply.child (supply.first good first))
    (.cons (supply.child (supply.second good second)) (.cons (.value (supply.leaf rfl)) .nil)))

/-- Anything may stand in the place of a variable, but only a node is a part. -/
theorem iteration_makes (second : layout.Expects .second .node)
    (third : layout.Expects .third .node) : iteration.Makes layout := by
  rintro _ _ Slot _ supply locals node - rfl good
  refine .ok (.cons (supply.child (supply.third good third)) (.cons ?_
    (.cons (supply.child (supply.second good second)) .nil)))
  have slot : Slot node.u1 := supply.slots .first good
  generalize node.u1 = payload at slot
  cases payload with
  | node child => exact .node (supply.node slot)
  | _ => exact .value (supply.leaf rfl)

theorem multipleAssignment_makes (first : layout.Expects .first .node)
    (second : layout.Expects .second .node) : multipleAssignment.Makes layout := by
  rintro _ _ Slot _ supply locals node - rfl good
  refine .ok (.cons (supply.child (supply.first good first)) (.append ?_
    (.cons (supply.child (supply.second good second)) .nil)))
  have slot : Slot node.u3 := supply.slots .third good
  generalize node.u3 = payload at slot
  cases payload with
  | node child => exact .cons (.node (supply.node slot)) .nil
  | _ => exact .nil

theorem rescue_makes (first : layout.Expects .first .node) (second : layout.Expects .second .node)
    (third : layout.Expects .third .node) : rescue.Makes layout := by
  rintro _ _ _ _ supply locals node - rfl good
  exact .ok (.cons (supply.child (supply.first good first))
    (.cons (supply.child (supply.second good second)) (supply.present (supply.third good third))))

theorem rescueClause_makes (first : layout.Expects .first .node)
    (second : layout.Expects .second .node) (third : layout.Expects .third .node) :
    rescueClause.Makes layout := by
  rintro _ _ _ _ supply locals node - rfl good
  exact .ok (.cons (supply.child (supply.third good third))
    (.cons (supply.child (supply.second good second)) (supply.present (supply.first good first))))

theorem ensure_makes (first : layout.Expects .first .node) (third : layout.Expects .third .node) :
    ensure.Makes layout := by
  rintro _ _ _ _ supply locals node - rfl good
  exact .ok (.cons (supply.child (supply.first good first))
    (supply.present (supply.third good third)))

theorem assignment_makes (second : layout.Expects .second .node) : assignment.Makes layout := by
  rintro _ _ _ _ supply locals node - rfl good
  refine .bind (identifier_yields supply node.u1 "vid") fun name named => ?_
  exact .ok (.cons named (supply.present (supply.second good second)))

theorem attributeAssignment_makes (first : layout.Expects .first .node)
    (second : layout.Expects .second .node) : attributeAssignment.Makes layout := by
  rintro _ _ _ _ supply locals node - rfl good
  unfold attributeAssignment
  split
  · exact .ok (.cons (supply.child (supply.first good first)) (.cons (.value (supply.leaf rfl))
      (.cons (.value (supply.leaf rfl)) (.cons (supply.child (supply.second good second)) .nil))))
  · exact .error nofun

theorem attributeCall_makes (first : layout.Expects .first .node)
    (third : layout.Expects .third .node) : attributeCall.Makes layout := by
  rintro _ _ _ _ supply locals node - rfl good
  refine .bind (identifier_yields supply node.u2 "mid") fun name named => ?_
  exact .ok (.cons (supply.child (supply.first good first))
    (.cons named (.cons (supply.child (supply.third good third)) .nil)))

theorem call_makes (first : layout.Expects .first .node) (third : layout.Expects .third .node) :
    call.Makes layout := by
  rintro _ _ _ _ supply locals node - rfl good
  refine .bind (identifier_yields supply node.u2 "mid") fun name named => ?_
  exact .ok (.cons (supply.child (supply.first good first))
    (.cons named (supply.present (supply.third good third))))

theorem ownCall_makes (third : layout.Expects .third .node) : ownCall.Makes layout := by
  rintro _ _ _ _ supply locals node - rfl good
  refine .bind (identifier_yields supply node.u2 "mid") fun name named => ?_
  exact .ok (.cons named (.cons (supply.child (supply.third good third)) .nil))

theorem scopedConstant_makes (first : layout.Expects .first .node) :
    scopedConstant.Makes layout := by
  rintro _ _ _ _ supply locals node - rfl good
  refine .bind (identifier_yields supply node.u2 "mid") fun name named => ?_
  exact .ok (.cons (supply.child (supply.first good first)) (.cons named .nil))

theorem definition_makes (third : layout.Expects .third .node) : definition.Makes layout := by
  intro _ _ _ _ supply locals node usable isLayout good
  unfold definition
  split
  · exact .ok .nil
  · exact ownCall_makes third supply locals node usable isLayout good

theorem singletonDefinition_makes (first : layout.Expects .first .node)
    (third : layout.Expects .third .node) : singletonDefinition.Makes layout := by
  intro _ _ _ _ supply locals node usable isLayout good
  unfold singletonDefinition
  split
  · exact .ok .nil
  · exact attributeCall_makes first third supply locals node usable isLayout good

theorem classBody_makes (first : layout.Expects .first .node)
    (second : layout.Expects .second .node) (third : layout.Expects .third .node) :
    classBody.Makes layout := by
  rintro _ _ _ _ supply locals node - rfl good
  refine .bind (pathName_yields supply (supply.place (supply.first good first))) fun name named => ?_
  exact .ok (.cons named (.append (supply.present (supply.third good third))
    (.cons (supply.child (supply.second good second)) .nil)))

theorem moduleBody_makes (first : layout.Expects .first .node)
    (second : layout.Expects .second .node) : moduleBody.Makes layout := by
  rintro _ _ _ _ supply locals node - rfl good
  refine .bind (pathName_yields supply (supply.place (supply.first good first))) fun name named => ?_
  exact .ok (.cons named (.cons (supply.child (supply.second good second)) .nil))

theorem sequence_makes (first : layout.Expects .first .nodes) : sequence.Makes layout := by
  rintro _ _ _ _ supply locals node - rfl good
  have items := supply.first good first
  unfold sequence
  rw [elements_of_suits items]
  refine .bind (iterated_yields supply items) ?_
  rintro _ ⟨children, rfl, isGood⟩
  exact .ok (allMade_elements rfl isGood)

theorem mapping_makes (first : layout.Expects .first .nodes) : mapping.Makes layout := by
  rintro _ _ _ _ supply locals node - rfl good
  have entries := supply.first good first
  have noTable (names : LocalTable) : node.u1 ≠ .table names := by
    intro isTable
    rw [isTable] at entries
    cases entries.2
  unfold mapping
  dsimp only
  split
  · rename_i names isTable
    exact absurd isTable (noTable names)
  · have counted : Yields (fun _ => True) ((iterated node.u1).map List.length) :=
      .map (iterated_yields supply entries) fun _ _ => trivial
    refine .bind counted fun count _ => ?_
    split
    · exact .error nofun
    · rw [elements_of_suits entries]
      refine .bind (iterated_yields supply entries) ?_
      rintro _ ⟨children, rfl, isGood⟩
      exact .ok (allMade_elements rfl isGood)

theorem caseOf_makes (first : layout.Expects .first .node)
    (second : layout.Expects .second .node) : caseOf.Makes layout := by
  rintro _ _ _ _ supply locals node - rfl good
  refine .bind (clauses_yields supply (supply.place (supply.second good second))) fun rest others => ?_
  exact .ok (.cons (supply.child (supply.first good first)) others)

theorem interpolation_makes (third : layout.Expects .third .nodes) :
    interpolation.Makes layout := by
  rintro _ _ _ _ supply locals node - rfl good
  refine .bind (leadingText_yields supply node.u1) fun leading written => ?_
  refine .bind (iterated_yields supply (supply.third good third)) ?_
  rintro _ ⟨children, rfl, isGood⟩
  refine .bind (.mapM fun item member => ?_) fun pieces others => .ok (.cons written others)
  obtain ⟨child, isChild, rfl⟩ := List.mem_map.mp member
  exact piece_yields supply (isGood child isChild)

/-- The array of an indexed compound assignment is a node of its own. -/
theorem indexedAssignment_makes (first : layout.Expects .first .node)
    (third : layout.Expects .third .node) : indexedAssignment.Makes layout := by
  rintro _ _ Slot _ supply locals node - rfl good
  refine .bind (nodeOrNone_yields (supply.place (supply.third good third))) fun held isGood => ?_
  cases held with
  | none => exact .error nofun
  | some args =>
      dsimp only
      split
      · rename_i isArray
        have items : args.u1.Suits Slot .nodes :=
          supply.first (isGood args rfl) (by rw [isArray]; decide)
        refine .bind (iterated_yields supply items) ?_
        rintro _ ⟨children, rfl, areGood⟩
        cases children with
        | nil => exact .error nofun
        | cons value index =>
            rw [List.forall_mem_cons] at areGood
            refine .bind (identifier_yields supply node.u2 "mid") fun operator named => ?_
            exact .ok (.cons (supply.child (supply.first good first))
              (.cons (.group (allMade_elements rfl areGood.2)) (.cons named
                (.cons (.node areGood.1) .nil))))
      · exact .error nofun

theorem arguments_makes (first : layout.Expects .first .node)
    (second : layout.Expects .second .integer) (third : layout.Expects .third .integer) :
    Makes arguments layout := by
  rintro _ _ _ _ supply locals node usable rfl good
  unfold arguments
  split
  · exact .ok .nil
  · rename_i inForce
    -- The table is neither absent nor of the wrong sort, so positions can be looked up.
    obtain ⟨names, rfl⟩ : ∃ names, locals = .table names := by
      cases locals with
      | table names => exact ⟨names, rfl⟩
      | absent => exact absurd (.inl rfl) inForce
      | unusable => exact absurd rfl usable
    refine .bind (countOf_yields (supply.third good third)) fun count _ => ?_
    refine .bind (tableRun_yields supply names _ _) fun required ofRequired => ?_
    refine .bind (nodeOrNone_yields (supply.place (supply.first good first))) fun opt isGood => ?_
    refine .bind (defaultCount_yields supply isGood) fun defaults _ => ?_
    refine .bind (tableRun_yields supply names _ _) fun optional ofOptional => ?_
    refine .bind (restParts_yields supply names (supply.second good second)) fun rest ofRest => ?_
    exact .ok (.append (.append (.append ofRequired ofOptional) ofRest)
      (supply.present (supply.first good first)))

theorem blockMethod_makes : blockMethod.Makes layout := by
  rintro _ _ _ _ supply locals node - - good
  refine .bind (captured_yields supply good "params") fun closure sides => ?_
  exact .ok (.cons (.under sides.1 _) (.cons (.under sides.2 _) .nil))

theorem objectMethod_makes : objectMethod.Makes layout := by
  rintro _ _ _ _ supply locals node - - good
  refine .bind (captured_yields supply good "owner") fun closure sides => ?_
  refine .ok (.cons (.value (supply.leaf ?_)) (.cons (.under sides.2 _) .nil))
  split <;> rfl

end Rule

end

/-- Every rule but two makes its parts of what is supplied. -/
theorem KnownKind.rule?_makes {kind : KnownKind} {rule : Rule} (found : kind.rule? = some rule)
    (noMatch : kind ≠ .nthRef) (noSpecial : kind ≠ .backRef) : rule.Makes kind.layout := by
  cases kind with
  | nthRef => exact absurd rfl noMatch
  | backRef => exact absurd rfl noSpecial
  | newline | cfunc | cref | memo | ifunc | lastKind => cases found
  | scope => cases found; exact Rule.scopeBody_makes rfl
  | block | array => cases found; exact Rule.sequence_makes rfl
  | method | beginBody | optN | logicalNot | evstr =>
      cases found; exact Rule.secondChild_makes rfl
  | fbody | definedTest | splat | toAry | svalue => cases found; exact Rule.firstChild_makes rfl
  | selfRef | nilRef | trueRef | falseRef | retry | redo | zarray | zsuper | postexe =>
      cases found; exact Rule.terminal_makes
  | ifElse => cases found; exact Rule.threeChildren_makes rfl rfl rfl
  | caseOf => cases found; exact Rule.caseOf_makes rfl rfl
  | whenClause | logicalAnd | logicalOr | dot2 | dot3 | flip2 | flip3 | opAsgnAnd | opAsgnOr
  | argscat | argspush | match2 | match3 | sclass =>
      cases found; exact Rule.twoChildren_makes rfl rfl
  | whileLoop | untilLoop => cases found; exact Rule.loop_makes rfl rfl
  | iter | forLoop => cases found; exact Rule.iteration_makes rfl rfl
  | breakOut | nextTurn | returnFrom | yieldTo =>
      cases found; exact Rule.optionalChild_makes rfl
  | rescue => cases found; exact Rule.rescue_makes rfl rfl rfl
  | resbody => cases found; exact Rule.rescueClause_makes rfl rfl rfl
  | ensure => cases found; exact Rule.ensure_makes rfl rfl
  | lasgn | dasgn | dasgnCurr | gasgn | iasgn | cdecl | cvasgn | cvdecl =>
      cases found; exact Rule.assignment_makes rfl
  | masgn => cases found; exact Rule.multipleAssignment_makes rfl rfl
  | opAsgn1 => cases found; exact Rule.indexedAssignment_makes rfl rfl
  | opAsgn2 => cases found; exact Rule.attributeAssignment_makes rfl rfl
  | attrasgn => cases found; exact Rule.attributeCall_makes rfl rfl
  | call => cases found; exact Rule.call_makes rfl rfl
  | fcall => cases found; exact Rule.ownCall_makes rfl
  | vcall | undef | colon3 => cases found; exact Rule.named_makes
  | superCall => cases found; exact Rule.thirdChild_makes rfl
  | blockPass => cases found; exact Rule.lastChildren_makes rfl rfl
  | args => cases found; exact Rule.arguments_makes rfl rfl rfl
  | blockArg | lvar | dvar | gvar | ivar | const | cvar | attrset =>
      cases found; exact Rule.variableName_makes
  | hash => cases found; exact Rule.mapping_makes rfl
  | lit | str | xstr | matchLast => cases found; exact Rule.literalForm_makes
  | dstr | dxstr | dregx | dregxOnce | dsym => cases found; exact Rule.interpolation_makes rfl
  | defn => cases found; exact Rule.definition_makes rfl
  | defs => cases found; exact Rule.singletonDefinition_makes rfl rfl
  | methodAlias | variableAlias => cases found; exact Rule.aliasNames_makes
  | colon2 => cases found; exact Rule.scopedConstant_makes rfl
  | classDef => cases found; exact Rule.classBody_makes rfl rfl rfl
  | moduleDef => cases found; exact Rule.moduleBody_makes rfl rfl
  | bmethod => cases found; exact Rule.blockMethod_makes
  | dmethod => cases found; exact Rule.objectMethod_makes

namespace Node

variable {node : Node} {around : Locals}

/-- No well-typed node puts an unusable table in force. -/
theorem tableInside_ne_unusable (checked : node.check = .ok ()) (usable : around ≠ .unusable) :
    node.tableInside around ≠ .unusable := by
  unfold tableInside
  split
  · rename_i isScope
    have fits := check_eq_ok_iff.mp checked .first
    rw [isScope] at fits
    have isTable : Expected.table.admits node.u1 = true := fits
    rcases Value.table_of_admits isTable with isEmpty | ⟨names, held⟩
    · split
      · nofun
      · rw [if_pos isEmpty]
        nofun
    · rw [held]
      nofun
  · nofun
  · nofun
  · exact usable

/-- The parts of a node of a supply are made of what is supplied, if the form of a number is a leaf
also where there is none. -/
theorem parts?_made {Leaf : Sexp → Prop} {Good : Node → Prop} {Slot Side : Value → Prop}
    (supply : Supply Leaf Good Slot Side) (numbers : ∀ payload, Leaf (Rule.numberForm payload))
    (usable : around ≠ .unusable) (good : Good node) {parts : List Part}
    (found : node.parts? around = some (.ok parts)) : Part.AllMade Leaf Good Side parts := by
  obtain ⟨kind, rule, isKind, hasRule, applied⟩ := exists_rule_of_parts? found
  by_cases isMatch : kind = .nthRef
  · subst isMatch
    cases hasRule
    obtain rfl := Except.ok.inj applied
    exact .cons (.value (numbers node.u2)) .nil
  by_cases isSpecial : kind = .backRef
  · subst isSpecial
    cases hasRule
    obtain ⟨character, -, same⟩ := bind_eq_ok.mp applied
    obtain rfl := Except.ok.inj same
    exact .cons (.value (supply.leaf rfl)) .nil
  have made := KnownKind.rule?_makes hasRule isMatch isSpecial supply around node usable
    (congrArg Kind.layout isKind) good
  rw [applied] at made
  exact made

end Node

end NodeForms
