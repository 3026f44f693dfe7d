import NodeForms.Proofs.Serialize.Draw

/-!
# The rules draw from their slots

One fact for each rule: its parts are drawn from the three slots of the node. All rules but
three leave the table at hand in force; a scope puts its own table in force, and the two
kinds of captured closures none. So a visit leads only to nodes inside its own, and to fewer of
them than are inside it.
-/

namespace NodeForms

def Node.slotValues (node : Node) : List Value := [node.u1, node.u2, node.u3]

namespace Rule

/-- The parts of a rule are drawn from the slots, under the table at hand. -/
def KeepsTable (rule : Rule) : Prop :=
  ∀ (scope : RuleScope) (node : Node) (parts : List Part), rule scope node = .ok parts →
    Draws scope.locals scope.locals node.slotValues parts

variable {scope : RuleScope} {node : Node} {parts : List Part}

theorem identifier_ok {payload : Value} {role : String} {part : Part}
    (found : identifier payload role = .ok part) : part.IsFlat := by
  unfold identifier at found
  split at found
  · exact ⟨_, rfl, (Except.ok.inj found).symm⟩
  · cases found

theorem literal_ok {payload : Value} {part : Part} (found : literal payload = .ok part) :
    part.IsFlat := by
  unfold literal at found
  split at found <;> cases found
  all_goals exact ⟨_, rfl, rfl⟩

theorem leadingText_ok {payload : Value} {part : Part} (found : leadingText payload = .ok part) :
    part.IsFlat := by
  unfold leadingText at found
  split at found <;> cases found
  all_goals exact ⟨_, rfl, rfl⟩

theorem pathName_ok {payload : Value} {part : Part} (found : pathName payload = .ok part) :
    part.IsFlat := by
  unfold pathName at found
  obtain ⟨path, -, named⟩ := bind_eq_ok.mp found
  split at named
  · split at named
    · exact identifier_ok named
    · cases named
  · cases named

theorem tableRun_ok {locals : Locals} {position : Int} {count : Nat}
    (found : tableRun locals position count = .ok parts) :
    ∀ part ∈ parts, part.IsFlat := by
  induction count generalizing position parts with
  | zero =>
      obtain rfl := Except.ok.inj found
      simp
  | succ count inductionHypothesis =>
      obtain ⟨name, -, later⟩ := bind_eq_ok.mp found
      obtain ⟨rest, run, same⟩ := bind_eq_ok.mp later
      obtain rfl := Except.ok.inj same
      intro part member
      rcases List.mem_cons.mp member with rfl | member
      · exact ⟨_, rfl, rfl⟩
      · exact inductionHypothesis run part member

theorem restAt_ok {locals : Locals} {rest : Int} (found : restAt locals rest = .ok parts) :
    ∀ part ∈ parts, part.IsFlat := by
  unfold restAt at found
  split at found
  · obtain ⟨name, -, rfl⟩ := map_eq_ok.mp found
    intro part member
    exact ⟨_, rfl, List.mem_singleton.mp member⟩
  · split at found <;> cases found
    simp

theorem restParts_ok {locals : Locals} {payload : Value}
    (found : restParts locals payload = .ok parts) :
    ∀ part ∈ parts, part.IsFlat := by
  unfold restParts at found
  split at found
  · exact restAt_ok found
  · exact restAt_ok found
  · split at found
    · cases found
      simp
    · split at found <;> cases found
  · cases found
  · split at found <;> cases found
    simp

theorem iterated_ok {payload : Value} {items : List Value} (found : iterated payload = .ok items) :
    payload.elements? = some items ∨ items = [] := by
  unfold iterated at found
  split at found
  · split at found
    · rename_i members hasMembers
      obtain rfl := Except.ok.inj found
      exact .inl hasMembers
    · cases found
  · exact .inr (Except.ok.inj found).symm

theorem elements_ok {payload : Value} {items : List Value} (found : elements payload = .ok items) :
    payload.elements? = some items ∨ items = [] := by
  unfold elements at found
  split at found
  · cases found
  · exact iterated_ok found

theorem nodeOrNone_ok {payload : Value} {child : Node}
    (found : nodeOrNone payload = .ok (some child)) : payload = .node child := by
  unfold nodeOrNone at found
  split at found
  · cases found
    rfl
  · split at found <;> cases found

/-- What goes through the elements of a slot uses up that slot. -/
theorem draws_gone {around inside : Locals} {payload : Value} {items values : List Value}
    (gone : payload.elements? = some items ∨ items = [])
    (draws : Draws around inside (items ++ values) parts) :
    Draws around inside (payload :: values) parts := by
  rcases gone with has | rfl
  · exact .elements has draws
  · exact .skip payload draws

/-- The clauses of a case use up the chain they are read from. -/
theorem clauses_draws {around : Locals} {payload : Value} {values : List Value}
    (found : clauses payload = .ok parts) : Draws around around (payload :: values) parts := by
  fun_induction clauses payload generalizing parts with
  | case1 head body next line file inductionHypothesis =>
      obtain ⟨rest, later, rfl⟩ := map_eq_ok.mp found
      exact .clause rfl rfl (inductionHypothesis later)
  | case2 other notClause =>
      obtain rfl := Except.ok.inj found
      exact .element (.node other) rfl (.done values)
  | case3 other _ _ isEmpty =>
      obtain rfl := Except.ok.inj found
      exact .skip other (.ready rfl (.done values))
  | case4 => cases found

theorem piece_draws {around : Locals} {payload : Value} {part : Part} {values : List Value}
    (found : piece payload = .ok part) (draws : Draws around around values parts) :
    Draws around around (payload :: values) (part :: parts) := by
  unfold piece at found
  split at found
  · rename_i child
    split at found
    · obtain rfl := Except.ok.inj found
      exact .slots child (.skip child.u1 (.child child.u2 (.skip child.u3 draws)))
    · obtain rfl := Except.ok.inj found
      exact .element (.node child) rfl draws
  · cases found

theorem pieces_draws {around : Locals} {items values : List Value}
    (found : items.mapM piece = .ok parts) : Draws around around (items ++ values) parts := by
  have pieces := mapM_eq_ok found
  clear found
  induction pieces with
  | nil => exact .done values
  | cons first _ inductionHypothesis => exact piece_draws first inductionHypothesis

theorem keepsTable_of_parts {listed : Node → List Part}
    (draws : ∀ (node : Node) (around : Locals),
      Draws around around node.slotValues (listed node)) :
    KeepsTable fun _ node => .ok (listed node) := by
  rintro scope node _ ⟨⟩
  exact draws node scope.locals

@[simp] theorem terminal_keepsTable : KeepsTable terminal :=
  keepsTable_of_parts fun node _ => .done node.slotValues

@[simp] theorem firstChild_keepsTable : KeepsTable firstChild :=
  keepsTable_of_parts fun node _ => .child node.u1 (.done _)

@[simp] theorem secondChild_keepsTable : KeepsTable secondChild :=
  keepsTable_of_parts fun node _ => .skip node.u1 (.child node.u2 (.done _))

@[simp] theorem thirdChild_keepsTable : KeepsTable thirdChild :=
  keepsTable_of_parts fun node _ => .skip node.u1 (.skip node.u2 (.child node.u3 (.done _)))

@[simp] theorem lastChildren_keepsTable : KeepsTable lastChildren :=
  keepsTable_of_parts fun node _ => .skip node.u1 (.child node.u2 (.child node.u3 (.done _)))

theorem twoChildren_draws (node : Node) (around : Locals) (more : List Value) :
    Draws around around (node.u1 :: node.u2 :: more) [.child node.u1, .child node.u2] :=
  .child node.u1 (.child node.u2 (.done more))

@[simp] theorem twoChildren_keepsTable : KeepsTable twoChildren :=
  keepsTable_of_parts fun node around => twoChildren_draws node around [node.u3]

@[simp] theorem threeChildren_keepsTable : KeepsTable threeChildren :=
  keepsTable_of_parts fun node _ =>
    .child node.u1 (.child node.u2 (.child node.u3 (.done [])))

@[simp] theorem optionalChild_keepsTable : KeepsTable optionalChild :=
  keepsTable_of_parts fun node _ => .presentLast node.u1

@[simp] theorem loop_keepsTable : KeepsTable loop :=
  keepsTable_of_parts fun node _ => .child node.u1 (.child node.u2 (.ready rfl (.done _)))

@[simp] theorem rescue_keepsTable : KeepsTable rescue :=
  keepsTable_of_parts fun node _ => .child node.u1 (.child node.u2 (.presentLast node.u3))

@[simp] theorem ensure_keepsTable : KeepsTable ensure :=
  keepsTable_of_parts fun node _ => .child node.u1 (.skip node.u2 (.presentLast node.u3))

@[simp] theorem rescueClause_keepsTable : KeepsTable rescueClause := by
  apply keepsTable_of_parts
  intro node around
  apply Draws.reorder (List.reverse_perm node.slotValues)
  exact .child node.u3 (.child node.u2 (.presentLast node.u1))

/-- The iterated slot comes before the first two. -/
@[simp] theorem iteration_keepsTable : KeepsTable iteration := by
  apply keepsTable_of_parts
  intro node around
  have order : [node.u3, node.u1, node.u2].Perm node.slotValues :=
    @List.perm_append_comm Value [node.u3] [node.u1, node.u2]
  apply Draws.reorder order
  apply Draws.child node.u3
  split
  · rename_i child isNode
    rw [isNode]
    exact .element (.node child) rfl (.child node.u2 (.done _))
  · exact .skip node.u1 (.ready rfl (.child node.u2 (.done _)))

@[simp] theorem multipleAssignment_keepsTable : KeepsTable multipleAssignment := by
  apply keepsTable_of_parts
  intro node around
  have order : [node.u1, node.u3, node.u2].Perm node.slotValues :=
    .cons node.u1 (.swap node.u2 node.u3 [])
  apply Draws.reorder order
  apply Draws.child node.u1
  split
  · rename_i child isNode
    rw [isNode]
    exact .element (.node child) rfl (.child node.u2 (.done _))
  · exact .skip node.u3 (.child node.u2 (.done _))

@[simp] theorem numberedMatch_keepsTable : KeepsTable numberedMatch := by
  apply keepsTable_of_parts
  intro node around
  apply Draws.ready
  · unfold numberForm
    split <;> rfl
  · exact .done _

@[simp] theorem attributeAssignment_keepsTable : KeepsTable attributeAssignment := by
  intro scope node parts found
  unfold attributeAssignment at found
  split at found
  · cases found
    exact .child node.u1 (.ready rfl (.ready rfl (.child node.u2 (.done _))))
  · cases found

/-- A rule whose first step gives a flat part can put it among the parts from the slots. -/
theorem keepsTable_of_step {step : Node → Except RuleFault Part}
    {listed : Node → Part → List Part}
    (isFlat : ∀ (node : Node) (part : Part), step node = .ok part → part.IsFlat)
    (draws : ∀ (node : Node) (around : Locals) (part : Part), part.IsFlat →
      Draws around around node.slotValues (listed node part)) :
    KeepsTable fun _ node => step node >>= fun part => .ok (listed node part) := by
  intro scope node parts found
  obtain ⟨part, stepped, same⟩ := bind_eq_ok.mp found
  cases same
  exact draws node scope.locals part (isFlat node part stepped)

@[simp] theorem variableName_keepsTable : KeepsTable variableName :=
  keepsTable_of_step (fun _ _ => identifier_ok) fun _ _ _ name => .flat name (.done _)

@[simp] theorem named_keepsTable : KeepsTable named :=
  keepsTable_of_step (fun _ _ => identifier_ok) fun _ _ _ name => .flat name (.done _)

@[simp] theorem assignment_keepsTable : KeepsTable assignment :=
  keepsTable_of_step (fun _ _ => identifier_ok) fun node _ _ name =>
    .flat name (.skip node.u1 (.presentLast node.u2))

@[simp] theorem attributeCall_keepsTable : KeepsTable attributeCall :=
  keepsTable_of_step (fun _ _ => identifier_ok) fun node _ _ name =>
    .child node.u1 (.flat name (.skip node.u2 (.child node.u3 (.done _))))

@[simp] theorem call_keepsTable : KeepsTable call :=
  keepsTable_of_step (fun _ _ => identifier_ok) fun node _ _ name =>
    .child node.u1 (.flat name (.skip node.u2 (.presentLast node.u3)))

@[simp] theorem ownCall_keepsTable : KeepsTable ownCall :=
  keepsTable_of_step (fun _ _ => identifier_ok) fun node _ _ name =>
    .flat name (.skip node.u1 (.skip node.u2 (.child node.u3 (.done _))))

@[simp] theorem scopedConstant_keepsTable : KeepsTable scopedConstant :=
  keepsTable_of_step (fun _ _ => identifier_ok) fun node _ _ name =>
    .child node.u1 (.flat name (.done _))

@[simp] theorem literalForm_keepsTable : KeepsTable literalForm :=
  keepsTable_of_step (fun _ _ => literal_ok) fun _ _ _ form => .flat form (.done _)

@[simp] theorem moduleBody_keepsTable : KeepsTable moduleBody :=
  keepsTable_of_step (fun _ _ => pathName_ok) fun node _ _ name =>
    .flat name (.skip node.u1 (.child node.u2 (.done _)))

@[simp] theorem classBody_keepsTable : KeepsTable classBody := by
  apply keepsTable_of_step fun _ _ => pathName_ok
  intro node around part name
  have order : [node.u1, node.u3, node.u2].Perm node.slotValues :=
    .cons node.u1 (.swap node.u2 node.u3 [])
  apply Draws.reorder order
  exact .flat name (.skip node.u1 (.present node.u3 (.child node.u2 (.done _))))

@[simp] theorem specialMatch_keepsTable : KeepsTable specialMatch := by
  intro scope node parts found
  obtain ⟨character, -, same⟩ := bind_eq_ok.mp found
  cases same
  exact .ready rfl (.done _)

@[simp] theorem aliasNames_keepsTable : KeepsTable aliasNames := by
  intro scope node parts found
  obtain ⟨new, newNamed, later⟩ := bind_eq_ok.mp found
  obtain ⟨old, oldNamed, same⟩ := bind_eq_ok.mp later
  cases same
  exact .flat (identifier_ok newNamed) (.flat (identifier_ok oldNamed) (.done _))

@[simp] theorem definition_keepsTable : KeepsTable definition := by
  intro scope node parts found
  unfold definition at found
  split at found
  · cases found
    exact .done _
  · exact ownCall_keepsTable scope node parts found

@[simp] theorem singletonDefinition_keepsTable : KeepsTable singletonDefinition := by
  intro scope node parts found
  unfold singletonDefinition at found
  split at found
  · cases found
    exact .done _
  · exact attributeCall_keepsTable scope node parts found

@[simp] theorem sequence_keepsTable : KeepsTable sequence := by
  intro scope node parts found
  obtain ⟨items, gone, same⟩ := bind_eq_ok.mp found
  cases same
  exact draws_gone (elements_ok gone) (.elementsOnly items)

@[simp] theorem mapping_keepsTable : KeepsTable mapping := by
  intro scope node parts found
  have counted (count : Nat)
      (listed : (if count % 2 = 1 then Except.error (RuleFault.oddEntries count)
        else elements node.u1 >>= fun entries => .ok (entries.map .element)) = .ok parts) :
      Draws scope.locals scope.locals node.slotValues parts := by
    split at listed
    · cases listed
    · obtain ⟨entries, gone, same⟩ := bind_eq_ok.mp listed
      cases same
      exact draws_gone (elements_ok gone) (.elementsOnly entries)
  unfold mapping at found
  dsimp only at found
  split at found
  · obtain ⟨count, -, listed⟩ := bind_eq_ok.mp found
    exact counted count listed
  · obtain ⟨count, -, listed⟩ := bind_eq_ok.mp found
    exact counted count listed

@[simp] theorem caseOf_keepsTable : KeepsTable caseOf := by
  intro scope node parts found
  obtain ⟨rest, chain, same⟩ := bind_eq_ok.mp found
  cases same
  exact .child node.u1 (clauses_draws chain)

@[simp] theorem interpolation_keepsTable : KeepsTable interpolation := by
  intro scope node parts found
  obtain ⟨leading, written, later⟩ := bind_eq_ok.mp found
  obtain ⟨items, gone, last⟩ := bind_eq_ok.mp later
  obtain ⟨pieces, all, same⟩ := bind_eq_ok.mp last
  cases same
  exact .flat (leadingText_ok written) (.skip node.u1 (.skip node.u2
    (draws_gone (iterated_ok gone) (pieces_draws all))))

/-- The array of an indexed compound assignment holds the value first; it is written last. -/
@[simp] theorem indexedAssignment_keepsTable : KeepsTable indexedAssignment := by
  intro scope node parts found
  obtain ⟨child, held, later⟩ := bind_eq_ok.mp found
  split at later
  · cases later
  · rename_i args
    split at later
    · obtain ⟨items, gone, last⟩ := bind_eq_ok.mp later
      split at last
      · cases last
      · rename_i value index
        obtain ⟨operator, named, same⟩ := bind_eq_ok.mp last
        cases same
        have order : (index ++ value :: [args.u2, args.u3]).Perm
            ((value :: index) ++ [args.u2, args.u3]) := List.perm_middle
        have fromArray : Draws scope.locals scope.locals [node.u3]
            [.group KnownKind.array.tag (index.map .element), operator, .element value] := by
          rw [nodeOrNone_ok held]
          refine .slots args (draws_gone (iterated_ok gone) (.reorder order (.group ?_)))
          exact .elementsThen index
            (.flat (identifier_ok named) (.element value rfl (.done _)))
        exact .child node.u1 (.skip node.u2 fromArray)
    · cases later

/-- The names of the parameters are atoms; only the defaults come from a slot. -/
@[simp] theorem arguments_keepsTable : KeepsTable arguments := by
  intro scope node parts found
  unfold arguments at found
  split at found
  · cases found
    exact .done _
  · obtain ⟨count, -, found⟩ := bind_eq_ok.mp found
    obtain ⟨required, requiredRun, found⟩ := bind_eq_ok.mp found
    obtain ⟨opt, -, found⟩ := bind_eq_ok.mp found
    obtain ⟨defaults, -, found⟩ := bind_eq_ok.mp found
    obtain ⟨optional, optionalRun, found⟩ := bind_eq_ok.mp found
    obtain ⟨rest, restFound, same⟩ := bind_eq_ok.mp found
    cases same
    simp only [List.append_assoc]
    exact .flatAll (tableRun_ok requiredRun) (.flatAll (tableRun_ok optionalRun)
      (.flatAll (restParts_ok restFound) (.presentLast node.u1)))

theorem scopeBody_draws (found : scopeBody scope node = .ok parts) :
    Draws scope.locals (.ofPayload node.u1) node.slotValues parts := by
  cases found
  exact .skip node.u1 (.skip node.u2 (.under node.u3 (.done [])))

/-- A node that holds its closure itself has it in its last slot. -/
theorem captured_held {locals : Locals} {role : String} {closure : Closure}
    (found : captured ⟨locals, ClosureAccess.held.resolve⟩ node role = .ok closure) :
    node.u3 = .closure closure.params closure.body closure.owner := by
  unfold captured at found
  cases held : node.u3 with
  | closure params body owner =>
      rw [held] at found
      cases found
      rfl
  | _ =>
      rw [held] at found
      cases found

theorem blockMethod_draws {locals : Locals}
    (found : blockMethod ⟨locals, ClosureAccess.held.resolve⟩ node = .ok parts) :
    Draws locals .absent node.slotValues parts := by
  obtain ⟨closure, held, same⟩ := bind_eq_ok.mp found
  cases same
  rw [Node.slotValues, captured_held held]
  exact .skip node.u1 (.skip node.u2 (.closure closure.params closure.body closure.owner
    (.under closure.params (.under closure.body (.done [])))))

theorem objectMethod_draws {locals : Locals}
    (found : objectMethod ⟨locals, ClosureAccess.held.resolve⟩ node = .ok parts) :
    Draws locals .absent node.slotValues parts := by
  obtain ⟨closure, held, same⟩ := bind_eq_ok.mp found
  cases same
  rw [Node.slotValues, captured_held held]
  refine .skip node.u1 (.skip node.u2 (.closure closure.params closure.body closure.owner
    (.ready ?_ (.skip closure.params (.under closure.body (.done []))))))
  split <;> rfl

end Rule

namespace Node

/-- The parts that a node with a rule has under a table, or the fault of its rule. A captured
closure is one that the node holds itself. -/
def parts? (node : Node) (around : Locals) : Option (Except RuleFault (List Part)) :=
  node.kind.rule?.map fun rule => rule ⟨around, ClosureAccess.held.resolve⟩ node

/-- The table in force inside a node: a scope puts the one in its first slot in force, a captured
closure none, and any other node leaves the one around it. -/
def tableInside (node : Node) (around : Locals) : Locals :=
  match node.kind with
  | .known .scope =>
      match node.u1 with
      | .table names => .table names
      | other => if other.isNull then .absent else .unusable
  | .known .bmethod | .known .dmethod => .absent
  | _ => around

end Node

theorem KnownKind.rule?_keepsTable {kind : KnownKind} {rule : Rule}
    (found : kind.rule? = some rule) (noScope : kind ≠ .scope) (noBlock : kind ≠ .bmethod)
    (noObject : kind ≠ .dmethod) : rule.KeepsTable := by
  cases kind with
  | scope => exact absurd rfl noScope
  | bmethod => exact absurd rfl noBlock
  | dmethod => exact absurd rfl noObject
  | newline | cfunc | cref | memo | ifunc | lastKind => cases found
  | _ => cases found; simp

namespace Node

variable {node : Node} {around : Locals} {parts : List Part}

theorem exists_rule_of_parts? {found : Except RuleFault (List Part)}
    (isFound : node.parts? around = some found) :
    ∃ kind rule, node.kind = .known kind ∧ kind.rule? = some rule ∧
      rule ⟨around, ClosureAccess.held.resolve⟩ node = found := by
  obtain ⟨rule, hasRule, applied⟩ := Option.map_eq_some_iff.mp isFound
  cases isKnown : node.kind with
  | known kind => exact ⟨kind, rule, rfl, by rwa [isKnown] at hasRule, applied⟩
  | _ => rw [isKnown] at hasRule; cases hasRule

theorem ofPayload_eq_tableInside (isScope : node.kind = .known .scope) :
    Locals.ofPayload node.u1 = node.tableInside around := by
  rw [tableInside, isScope]
  cases node.u1 <;> rfl

theorem parts?_draws (found : node.parts? around = some (.ok parts)) :
    Draws around (node.tableInside around) node.slotValues parts := by
  obtain ⟨kind, rule, isKnown, hasRule, applied⟩ := exists_rule_of_parts? found
  by_cases isScope : kind = .scope
  · subst isScope
    cases hasRule
    rw [← ofPayload_eq_tableInside isKnown]
    exact Rule.scopeBody_draws applied
  unfold tableInside
  rw [isKnown]
  split
  · rename_i isOther
    cases isOther
    exact absurd rfl isScope
  · rename_i isBlock
    cases isBlock
    cases hasRule
    exact Rule.blockMethod_draws applied
  · rename_i isObject
    cases isObject
    cases hasRule
    exact Rule.objectMethod_draws applied
  · rename_i noScope noBlock noObject
    exact KnownKind.rule?_keepsTable hasRule (noScope <| congrArg Kind.known ·)
      (noBlock <| congrArg Kind.known ·) (noObject <| congrArg Kind.known ·) _ _ _ applied

/-- The parts of a node reach no more than a visit to the node, which is itself one of the nodes
that it reaches. -/
theorem parts?_reach (found : node.parts? around = some (.ok parts)) :
    (node :: Part.listReach parts).Subperm node.reach := by
  by_cases isClause : node.kind = .known .whenClause
  · obtain ⟨rule, hasRule, applied⟩ := Option.map_eq_some_iff.mp found
    rw [isClause] at hasRule
    cases hasRule
    cases applied
    have reached := (Rule.twoChildren_draws node around []).listReach_subperm
    simp only [Value.listNodes, List.append_nil] at reached
    rw [reach, if_pos isClause]
    exact (List.subperm_cons node).mpr reached
  · have reached := (parts?_draws found).listReach_subperm
    simp only [slotValues, Value.listNodes, List.append_nil] at reached
    rw [reach, if_neg isClause, node.nodes_eq]
    exact (List.subperm_cons node).mpr reached

theorem marked_reach (isMarker : node.kind = .known .newline) :
    (node :: node.u3.reach).Subperm node.reach := by
  have noClause : ¬node.kind = .known .whenClause := by simp [isMarker]
  rw [reach, if_neg noClause, node.nodes_eq, List.subperm_cons, ← List.append_assoc]
  exact (node.u3.reach_sublist.trans (List.sublist_append_right _ _)).subperm

theorem self_reach (node : Node) : [node].Subperm node.reach := by
  have own : node ∈ node.reach := by
    unfold reach
    split
    · exact List.mem_cons_self
    · rw [node.nodes_eq]
      exact List.mem_cons_self
  exact List.singleton_subperm_iff.mpr own

theorem parts?_load (found : node.parts? around = some (.ok parts)) :
    Part.listLoad parts < node.load := by
  have fewer := (parts?_reach found).length_le
  rwa [List.length_cons, Part.length_listReach, length_reach] at fewer

theorem load_marked (isMarker : node.kind = .known .newline) : node.u3.load < node.load := by
  have fewer := (marked_reach isMarker).length_le
  rwa [List.length_cons, Value.length_reach, length_reach] at fewer

theorem load_pos (node : Node) : 0 < node.load := by
  rw [← node.length_reach]
  exact node.self_reach.length_le

end Node

end NodeForms
