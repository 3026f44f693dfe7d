import NodeForms.Proofs.Serialize.Places
import NodeForms.Proofs.Serialize.Serves

/-!
# The elements of a form

How many elements a form has after its tag is fixed by the rule of its kind, or by which of
the slots are filled. The elements of an array, a block or a mapping are the forms of what
stands in it, one for each. A form that a node stands for has this shape at every depth, so
without line markers in the output the shape is lost only where a line marker marks nothing.
-/

namespace NodeForms

/-- One if a slot holds something, else nothing. -/
def Value.filled (payload : Value) : Nat := if payload.isNull then 0 else 1

/-- How many elements follow the tag in the form of a kind, unless that depends on more than
which slots are filled. -/
def KnownKind.arity? (kind : KnownKind) (node : Node) : Option Nat :=
  match kind with
  | .selfRef | .nilRef | .trueRef | .falseRef | .retry | .redo | .zarray | .zsuper | .postexe =>
      some 0
  | .scope | .method | .beginBody | .optN | .logicalNot | .evstr | .fbody | .definedTest | .splat
  | .toAry | .svalue | .superCall | .vcall | .undef | .colon3 | .blockArg | .lvar | .dvar | .gvar
  | .ivar | .const | .cvar | .attrset | .nthRef | .backRef | .lit | .str | .xstr | .matchLast =>
      some 1
  | .whenClause | .logicalAnd | .logicalOr | .dot2 | .dot3 | .flip2 | .flip3 | .opAsgnAnd
  | .opAsgnOr | .argscat | .argspush | .match2 | .match3 | .sclass | .fcall | .blockPass
  | .methodAlias | .variableAlias | .colon2 | .moduleDef | .bmethod | .dmethod =>
      some 2
  | .ifElse | .whileLoop | .untilLoop | .iter | .forLoop | .attrasgn => some 3
  | .opAsgn1 | .opAsgn2 => some 4
  | .breakOut | .nextTurn | .returnFrom | .yieldTo => some node.u1.filled
  | .lasgn | .dasgn | .dasgnCurr | .gasgn | .iasgn | .cdecl | .cvasgn | .cvdecl =>
      some (1 + node.u2.filled)
  | .ensure => some (1 + node.u3.filled)
  | .rescue | .call | .classDef => some (2 + node.u3.filled)
  | .resbody => some (2 + node.u1.filled)
  | .masgn => some (if node.u3.node?.isSome then 3 else 2)
  | .defn => some (2 * node.u3.filled)
  | .defs => some (3 * node.u3.filled)
  | .block | .array | .hash | .caseOf | .args | .dstr | .dxstr | .dregx | .dregxOnce | .dsym
  | .newline | .cfunc | .cref | .memo | .ifunc | .lastKind => none

namespace Rule

theorem length_present (payload : Value) : (Part.present payload).length = payload.filled := by
  unfold Part.present Value.filled
  split <;> rfl

/-- The rule gives so many parts. -/
def Lists (rule : Rule) (count : Node → Nat) : Prop :=
  ∀ (scope : RuleScope) (node : Node) (parts : List Part), rule scope node = .ok parts →
    parts.length = count node

theorem lists_of_step {Result : Type} {step : RuleScope → Node → Except RuleFault Result}
    {listed : Node → Result → List Part} {count : Node → Nat}
    (counted : ∀ node result, (listed node result).length = count node) :
    Lists (fun scope node => step scope node >>= fun result => .ok (listed node result)) count := by
  intro scope node parts found
  obtain ⟨result, -, same⟩ := bind_eq_ok.mp found
  cases same
  exact counted node result

theorem variableName_lists : variableName.Lists fun _ => 1 := lists_of_step fun _ _ => rfl

theorem named_lists : named.Lists fun _ => 1 := lists_of_step fun _ _ => rfl

theorem literalForm_lists : literalForm.Lists fun _ => 1 := lists_of_step fun _ _ => rfl

theorem specialMatch_lists : specialMatch.Lists fun _ => 1 := lists_of_step fun _ _ => rfl

theorem ownCall_lists : ownCall.Lists fun _ => 2 := lists_of_step fun _ _ => rfl

theorem scopedConstant_lists : scopedConstant.Lists fun _ => 2 := lists_of_step fun _ _ => rfl

theorem moduleBody_lists : moduleBody.Lists fun _ => 2 := lists_of_step fun _ _ => rfl

theorem blockMethod_lists : blockMethod.Lists fun _ => 2 := lists_of_step fun _ _ => rfl

theorem objectMethod_lists : objectMethod.Lists fun _ => 2 := lists_of_step fun _ _ => rfl

theorem attributeCall_lists : attributeCall.Lists fun _ => 3 := lists_of_step fun _ _ => rfl

theorem assignment_lists : assignment.Lists fun node => 1 + node.u2.filled :=
  lists_of_step fun node _ => by rw [List.length_cons, length_present, Nat.add_comm]

theorem call_lists : call.Lists fun node => 2 + node.u3.filled :=
  lists_of_step fun node _ => by
    rw [List.length_cons, List.length_cons, length_present]
    omega

theorem classBody_lists : classBody.Lists fun node => 2 + node.u3.filled :=
  lists_of_step fun node _ => by
    rw [List.length_cons, List.length_append, length_present, List.length_singleton]
    omega

theorem aliasNames_lists : aliasNames.Lists fun _ => 2 := by
  intro scope node parts found
  obtain ⟨new, -, found⟩ := bind_eq_ok.mp found
  obtain ⟨old, -, same⟩ := bind_eq_ok.mp found
  cases same
  rfl

theorem definition_lists : definition.Lists fun node => 2 * node.u3.filled := by
  intro scope node parts found
  unfold definition at found
  split at found
  · rename_i isEmpty
    cases found
    simp [Value.filled, isEmpty]
  · rename_i isFilled
    have listed := ownCall_lists scope node parts found
    simp [listed, Value.filled, isFilled]

theorem singletonDefinition_lists : singletonDefinition.Lists fun node => 3 * node.u3.filled := by
  intro scope node parts found
  unfold singletonDefinition at found
  split at found
  · rename_i isEmpty
    cases found
    simp [Value.filled, isEmpty]
  · rename_i isFilled
    have listed := attributeCall_lists scope node parts found
    simp [listed, Value.filled, isFilled]

theorem multipleAssignment_lists :
    multipleAssignment.Lists fun node => if node.u3.node?.isSome then 3 else 2 := by
  intro scope node parts found
  unfold multipleAssignment at found
  cases splat : node.u3 with
  | node child =>
      rw [splat] at found
      cases found
      simp [splat, Value.node?]
  | _ =>
      rw [splat] at found
      cases found
      simp [splat, Value.node?]

theorem attributeAssignment_lists : attributeAssignment.Lists fun _ => 4 := by
  intro scope node parts found
  unfold attributeAssignment at found
  split at found
  · cases found
    rfl
  · cases found

theorem indexedAssignment_lists : indexedAssignment.Lists fun _ => 4 := by
  intro scope node parts found
  obtain ⟨held, -, found⟩ := bind_eq_ok.mp found
  split at found
  · cases found
  · split at found
    · obtain ⟨items, -, found⟩ := bind_eq_ok.mp found
      split at found
      · cases found
      · obtain ⟨operator, -, same⟩ := bind_eq_ok.mp found
        cases same
        rfl
    · cases found

end Rule

theorem KnownKind.rule?_lists {kind : KnownKind} {rule : Rule} (found : kind.rule? = some rule)
    {scope : RuleScope} {node : Node} {parts : List Part} (applied : rule scope node = .ok parts)
    {count : Nat} (fixed : kind.arity? node = some count) : parts.length = count := by
  cases kind with
  | block | array | hash | caseOf | args | dstr | dxstr | dregx | dregxOnce | dsym
  | newline | cfunc | cref | memo | ifunc | lastKind => cases fixed
  | selfRef | nilRef | trueRef | falseRef | retry | redo | zarray | zsuper | postexe
  | scope | method | beginBody | optN | logicalNot | evstr | fbody | definedTest | splat
  | toAry | svalue | superCall | nthRef
  | whenClause | logicalAnd | logicalOr | dot2 | dot3 | flip2 | flip3 | opAsgnAnd
  | opAsgnOr | argscat | argspush | match2 | match3 | sclass | blockPass
  | ifElse | whileLoop | untilLoop | iter | forLoop =>
      cases found
      cases applied
      cases fixed
      rfl
  | breakOut | nextTurn | returnFrom | yieldTo =>
      cases found
      cases applied
      cases fixed
      exact Rule.length_present node.u1
  | ensure | rescue | resbody =>
      cases found
      cases applied
      cases fixed
      simp only [List.length_cons, Rule.length_present]
      omega
  | vcall | undef | colon3 => cases found; cases fixed; exact Rule.named_lists _ _ _ applied
  | blockArg | lvar | dvar | gvar | ivar | const | cvar | attrset =>
      cases found; cases fixed; exact Rule.variableName_lists _ _ _ applied
  | backRef => cases found; cases fixed; exact Rule.specialMatch_lists _ _ _ applied
  | lit | str | xstr | matchLast =>
      cases found; cases fixed; exact Rule.literalForm_lists _ _ _ applied
  | fcall => cases found; cases fixed; exact Rule.ownCall_lists _ _ _ applied
  | methodAlias | variableAlias =>
      cases found; cases fixed; exact Rule.aliasNames_lists _ _ _ applied
  | colon2 => cases found; cases fixed; exact Rule.scopedConstant_lists _ _ _ applied
  | moduleDef => cases found; cases fixed; exact Rule.moduleBody_lists _ _ _ applied
  | bmethod => cases found; cases fixed; exact Rule.blockMethod_lists _ _ _ applied
  | dmethod => cases found; cases fixed; exact Rule.objectMethod_lists _ _ _ applied
  | attrasgn => cases found; cases fixed; exact Rule.attributeCall_lists _ _ _ applied
  | opAsgn1 => cases found; cases fixed; exact Rule.indexedAssignment_lists _ _ _ applied
  | opAsgn2 => cases found; cases fixed; exact Rule.attributeAssignment_lists _ _ _ applied
  | lasgn | dasgn | dasgnCurr | gasgn | iasgn | cdecl | cvasgn | cvdecl =>
      cases found; cases fixed; exact Rule.assignment_lists _ _ _ applied
  | call => cases found; cases fixed; exact Rule.call_lists _ _ _ applied
  | classDef => cases found; cases fixed; exact Rule.classBody_lists _ _ _ applied
  | masgn => cases found; cases fixed; exact Rule.multipleAssignment_lists _ _ _ applied
  | defn => cases found; cases fixed; exact Rule.definition_lists _ _ _ applied
  | defs => cases found; cases fixed; exact Rule.singletonDefinition_lists _ _ _ applied

namespace Rule

variable {scope : RuleScope} {node : Node} {parts : List Part}

theorem iterated_of_elements {payload : Value} {items : List Value}
    (found : elements payload = .ok items) : iterated payload = .ok items := by
  unfold elements at found
  split at found
  · cases found
  · exact found

theorem elements_table {names : LocalTable} {items : List Value}
    (found : elements (.table names) = .ok items) : items = [] := by
  unfold elements at found
  by_cases isFilled : isTruthy (.table names) = true
  · rw [if_pos (by simp [isFilled, isReversible])] at found
    cases found
  · rw [if_neg (by simp [isFilled]), iterated, if_neg isFilled] at found
    exact (Except.ok.inj found).symm

theorem sequence_ok (found : sequence scope node = .ok parts) :
    ∃ items, elements node.u1 = .ok items ∧ parts = items.map .element := by
  obtain ⟨items, listed, same⟩ := bind_eq_ok.mp found
  exact ⟨items, listed, (Except.ok.inj same).symm⟩

/-- The entries of a mapping are counted before they are gone through, with the same result. -/
theorem mapping_ok (found : mapping scope node = .ok parts) :
    ∃ items, elements node.u1 = .ok items ∧ parts = items.map .element ∧
      items.length % 2 = 0 := by
  have counted {count : Except RuleFault Nat}
      (found : (do
        let count ← count
        if count % 2 = 1 then .error (.oddEntries count)
        else do
          let entries ← elements node.u1
          .ok (entries.map .element)) = Except.ok parts) :
      ∃ size items, count = .ok size ∧ size % 2 = 0 ∧ elements node.u1 = .ok items ∧
        parts = items.map .element := by
    obtain ⟨size, isSize, found⟩ := bind_eq_ok.mp found
    split at found
    · cases found
    · obtain ⟨items, listed, same⟩ := bind_eq_ok.mp found
      exact ⟨size, items, isSize, by omega, listed, (Except.ok.inj same).symm⟩
  unfold mapping at found
  dsimp only at found
  split at found
  · rename_i names isTable
    obtain ⟨size, items, -, -, listed, same⟩ := counted found
    have noItems : items = [] := elements_table (isTable ▸ listed)
    exact ⟨items, listed, same, by rw [noItems, List.length_nil]⟩
  · obtain ⟨size, items, isSize, inPairs, listed, same⟩ := counted found
    rw [iterated_of_elements listed] at isSize
    obtain rfl := Except.ok.inj isSize
    exact ⟨items, listed, same, inPairs⟩

theorem elements_eq_nodes {children : List Node} {items : List Value}
    (holds : node.u1.HoldsNodes children) (listed : elements node.u1 = .ok items) :
    items.map Part.element = children.map .node := by
  rw [elements_nodes holds] at listed
  obtain rfl := Except.ok.inj listed
  simp [Part.element]

end Rule

theorem Part.haveForms_nodes {locals : Locals} {children : List Node} {forms : List Sexp}
    (stand : HaveForms locals (children.map .node) forms) :
    List.Forall₂ (fun child form => child.HasForm locals form) children forms := by
  induction children generalizing forms with
  | nil =>
      cases stand
      exact .nil
  | cons child children ih =>
      obtain ⟨form, rest, rfl, first, others⟩ := haveForms_cons_iff.mp stand
      exact .cons (hasForm_node_iff.mp first) (ih others)

/-- What the elements after the tag of a form are, for a node under a local table: as many as
the kind fixes; for an array, a block or a mapping that was read, the forms of what stands in
it; and for a mapping, pairs. -/
structure Node.HasShape (node : Node) (locals : Locals) (elements : List Sexp) : Prop where
  count : ∀ kind count, node.kind = .known kind → kind.arity? node = some count →
    elements.length = count
  items : node.kind = .known .array ∨ node.kind = .known .block ∨ node.kind = .known .hash →
    node.Sound → ∃ children, node.u1.HoldsNodes children ∧
      List.Forall₂ (fun child element => child.HasForm locals element) children elements
  pairs : node.kind = .known .hash → elements.length % 2 = 0

theorem Node.parts?_elements {locals : Locals} {node : Node} {parts : List Part}
    (isList : node.kind = .known .array ∨ node.kind = .known .block ∨ node.kind = .known .hash)
    (found : node.parts? locals = some (.ok parts)) :
    node.tableInside locals = locals ∧
      ∃ items, Rule.elements node.u1 = .ok items ∧ parts = items.map .element := by
  rw [Node.parts?] at found
  rcases isList with isKind | isKind | isKind
  · rw [isKind] at found
    exact ⟨by rw [tableInside, isKind], Rule.sequence_ok (Option.some.inj found)⟩
  · rw [isKind] at found
    exact ⟨by rw [tableInside, isKind], Rule.sequence_ok (Option.some.inj found)⟩
  · rw [isKind] at found
    obtain ⟨items, listed, same, -⟩ := Rule.mapping_ok (Option.some.inj found)
    exact ⟨by rw [tableInside, isKind], items, listed, same⟩

theorem Node.Sound.exists_children {node : Node} (sound : node.Sound)
    (isList : node.kind = .known .array ∨ node.kind = .known .block ∨ node.kind = .known .hash) :
    ∃ children, node.u1.HoldsNodes children := by
  have fits : node.u1.Fits .nodes := by
    rcases isList with isKind | isKind | isKind <;>
      exact sound.first (by rw [isKind]; decide)
  obtain ⟨children, holds, -⟩ := fits.nodes
  exact ⟨children, holds⟩

theorem Node.HasForm.exists_shape {locals : Locals} {node : Node} {form : Sexp}
    (stands : node.HasForm locals form) (hasRule : node.kind.rule?.isSome = true) :
    ∃ elements, form = .seq (.atom node.tag :: elements) ∧ node.HasShape locals elements := by
  obtain ⟨rule, isRule⟩ := Option.isSome_iff_exists.mp hasRule
  have noMarker : ¬node.kind = .known .newline := by
    intro isMarker
    rw [isMarker] at isRule
    cases isRule
  cases stands with
  | marked isMarker => exact absurd isMarker noMarker
  | unhandled _ noRule =>
      rw [Node.parts?, isRule] at noRule
      cases noRule
  | @parts _ _ parts elements _ found stand =>
      have applied := found
      rw [Node.parts?, isRule] at applied
      refine ⟨elements, rfl, ?_, ?_, ?_⟩
      · intro kind count isKind fixed
        rw [isKind] at isRule
        rw [stand.length_eq, KnownKind.rule?_lists isRule (Option.some.inj applied) fixed]
      · intro isList sound
        obtain ⟨children, holds⟩ := sound.exists_children isList
        obtain ⟨sameTable, items, listed, rfl⟩ := Node.parts?_elements isList found
        rw [sameTable, Rule.elements_eq_nodes holds listed] at stand
        exact ⟨children, holds, Part.haveForms_nodes stand⟩
      · intro isHash
        rw [isHash] at isRule
        cases isRule
        obtain ⟨items, -, rfl, inPairs⟩ := Rule.mapping_ok (Option.some.inj applied)
        rw [stand.length_eq, List.length_map, inPairs]

/-- For a tree that was read from a document, and without line markers in the output, a run that
gives forms gives the one form of the root exactly if every line marker visited marks a
statement. The tree is sound at every depth, and so every form has the shape of its kind. -/
theorem serialize_fills (content : Data) (root : Node) (read : Node.decode content = .ok root)
    (options : SerializeOptions) :
    let plain : SerializeOptions := { options with markers := false, closures := .held }
    let run := serialize plain (some root)
    (∀ forms, run.result = .ok forms →
      ((∀ node ∈ run.visited, node.kind = .known .newline → node.u3.isNull = false) ↔
        ∃ form, forms = [form] ∧ root.HasForm .absent form)) ∧
    root.Sound ∧
    ∀ (node : Node) (locals : Locals) (form : Sexp), node.HasForm locals form →
      node.kind.rule?.isSome = true →
        ∃ elements, form = .seq (.atom node.tag :: elements) ∧ node.HasShape locals elements := by
  intro plain run
  have same : run = (walkTree plain (some root)).outcome :=
    serialize_eq_outcome plain rfl (some root)
  refine ⟨fun forms made => ?_, Node.sound_of_decode content root read,
    fun node locals form stands => stands.exists_shape⟩
  rw [same] at made ⊢
  exact ((walk_fills plain rfl).1 0 .absent root forms made).2

/-- The document of a choice between two constants whose condition is a line marker. -/
def choiceDocument (marked : Entries) : Data :=
  .map [(.text "kind", .text "if"),
    (.text "cond", .map ((.text "kind", .text "newline") :: marked)),
    (.text "body", .map [(.text "kind", .text "true")]),
    (.text "else_", .map [(.text "kind", .text "false")])]

/-- The node of such a document. -/
def choiceNode (marked : Value) : Node :=
  ⟨.known .ifElse, .node ⟨.known .newline, .null, .null, marked, 0, none⟩,
    .node ⟨.known .trueRef, .null, .null, .null, 0, none⟩,
    .node ⟨.known .falseRef, .null, .null, .null, 0, none⟩, 0, none⟩

/-- A condition behind a line marker is the first of three elements. -/
theorem serialize_fills_choice :
    let root := choiceNode (.node ⟨.known .selfRef, .null, .null, .null, 0, none⟩)
    Node.decode (choiceDocument [(.text "next", .map [(.text "kind", .text "self")])]) =
        .ok root ∧
      root.HasForm .absent
        (.seq [.atom "if", .seq [.atom "self"], .seq [.atom "true"], .seq [.atom "false"]]) ∧
      root.HasShape .absent [.seq [.atom "self"], .seq [.atom "true"], .seq [.atom "false"]] := by
  intro root
  have read : Node.decode (choiceDocument [(.text "next", .map [(.text "kind", .text "self")])]) =
      .ok root := rfl
  have made : (serialize {} (some root)).result =
      .ok [.seq [.atom "if", .seq [.atom "self"], .seq [.atom "true"], .seq [.atom "false"]]] := by
    cbv
  have visited : (serialize {} (some root)).visited =
      [root, ⟨.known .newline, .null, .null,
        .node ⟨.known .selfRef, .null, .null, .null, 0, none⟩, 0, none⟩,
        ⟨.known .selfRef, .null, .null, .null, 0, none⟩,
        ⟨.known .trueRef, .null, .null, .null, 0, none⟩,
        ⟨.known .falseRef, .null, .null, .null, 0, none⟩] := by cbv
  have marks : ∀ node ∈ (serialize {} (some root)).visited,
      node.kind = .known .newline → node.u3.isNull = false := by
    rw [visited]
    simp [root, choiceNode, Value.isNull]
  obtain ⟨filled, -, shaped⟩ := serialize_fills _ root read {}
  obtain ⟨form, same, stands⟩ := (filled _ made).mp marks
  cases same
  obtain ⟨elements, same, shape⟩ := shaped root .absent _ stands rfl
  cases same
  exact ⟨read, stands, shape⟩

/-- A line marker that marks nothing leaves its place empty, and what was the second element of
the form becomes the first. -/
theorem serialize_shifts_choice :
    Node.decode (choiceDocument []) = .ok (choiceNode .null) ∧
      (serialize {} (some (choiceNode .null))).result =
        .ok [.seq [.atom "if", .seq [.atom "true"], .seq [.atom "false"]]] :=
  ⟨rfl, by cbv⟩

end NodeForms
