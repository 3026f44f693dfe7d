import NodeForms.Decimal.Sum
import NodeForms.Document.Order
import NodeForms.Node.Make
import NodeForms.Sexp.Printer
import NodeForms.Serialize.Part

/-!
# Rules

Each kind that can appear in a parsed body has a rule, which lists the parts that follow
the kind's tag in order. Kinds that only exist at run time have none; neither do line
markers, which open no list of their own.
-/

namespace NodeForms

/-- What a rule can see besides its node. -/
structure RuleScope where
  locals : Locals
  /-- What is behind the handle that a captured-closure node holds; nothing if the handle is
  unknown. -/
  resolveClosure : Value → Except PayloadFault Value

abbrev Rule := RuleScope → Node → Except RuleFault (List Part)

namespace Rule

def identifier (payload : Value) (role : String) : Except RuleFault Part :=
  match payload.text? with
  | some name => .ok (.value (.atom name))
  | none => .error (.identifierExpected role payload.display)

def literal : Value → Except RuleFault Part
  | .data (.scalar (.bool value)) => .ok (.value (.ofBool value))
  | .data (.scalar (.int value)) => .ok (.value (.int value))
  | .data (.scalar (.text value)) => .ok (.value (.text value))
  | .data (.scalar (.float value)) => .ok (.value (.atom (FloatNotation.plain.text value)))
  | .symbol name => .ok (.value (.atom name))
  | .regex source => .ok (.value (.atom ("/" ++ source ++ "/")))
  | other => .error (.unsupportedLiteral other.display)

def leadingText : Value → Except RuleFault Part
  | .data (.scalar .null) => .ok (.value (.text ""))
  | .data (.scalar (.int value)) => .ok (.value (.text (integerText value)))
  | .data (.scalar (.text value)) => .ok (.value (.text value))
  | .data (.scalar (.float value)) => .ok (.value (.text (FloatNotation.plain.text value)))
  | .symbol name => .ok (.value (.text name))
  | .regex source => .ok (.value (.text source))
  | other => .error (.unsupportedLiteral other.display)

/-- Whether a payload counts as true. -/
def isTruthy : Value → Bool
  | .data content => content.isTruthy
  | .tuple items => !items.isEmpty
  | .list items => !items.isEmpty
  | .table names => !names.names.isEmpty
  | .form value => !value.isSeq || !value.items.isEmpty
  | _ => true

/-- The elements of a slot that can be gone through, none when it is empty. -/
def iterated (payload : Value) : Except RuleFault (List Value) :=
  if isTruthy payload then
    match payload.elements? with
    | some items => .ok items
    | none => .error (.payload .noSequence)
  else .ok []

/-- Whether the elements of a payload have an order that can be gone through backward. -/
def isReversible : Value → Bool
  | .table _ => false
  | .data content => match content.bare with
    | .set _ => false
    | _ => true
  | _ => true

def elements (payload : Value) : Except RuleFault (List Value) :=
  if isTruthy payload && !isReversible payload then .error (.payload .noSequence)
  else iterated payload

def nodeOrNone (payload : Value) : Except RuleFault (Option Node) :=
  match payload with
  | .node child => .ok (some child)
  | other => if other.isNull then .ok none else .error (.payload .noNode)

def isZero : Value → Bool
  | .data (.scalar value) => value.equals (.int 0)
  | _ => false

/-- The clauses of a case: every `when` of the chain and what ends it. -/
def clauses : Value → Except RuleFault (List Part)
  | .node ⟨.known .whenClause, head, body, next, line, file⟩ =>
      (clauses next).map fun rest =>
        .node ⟨.known .whenClause, head, body, next, line, file⟩ :: rest
  | .node other => .ok [.node other]
  | other => if other.isNull then .ok [.value .nil] else .error (.payload .noNode)

def piece : Value → Except RuleFault Part
  | .node child =>
      if child.kind = .known .evstr then .ok (.child child.u2) else .ok (.node child)
  | _ => .error (.payload .noNode)

/-- The names at `count` positions from `position` on, up to the first that is missing. -/
def tableRun (locals : Locals) (position : Int) : Nat → Except RuleFault (List Part)
  | 0 => .ok []
  | count + 1 => do
      let name ← locals.resolve position
      let rest ← tableRun locals (position + 1) count
      .ok (.value (.atom name) :: rest)

def countOf (payload : Value) : Except RuleFault Int :=
  match payload with
  | .data (.scalar (.int count)) => .ok count
  | .data (.scalar (.bool value)) => .ok (if value then 1 else 0)
  | other => if isTruthy other then .error (.payload .noInteger) else .ok 0

def defaultCount : Option Node → Except RuleFault Nat
  | none => .ok 0
  | some opt =>
      if opt.kind = .known .block then (iterated opt.u1).map List.length else .ok 1

def hasNoRest (payload : Value) : Bool :=
  payload.isNull || match payload with
    | .data (.scalar value) => value.equals (.int (-1))
    | _ => false

/-- The name of the rest parameter at a position before its place in the table: -1 stands for
none, and -2 for one without a name. -/
def restAt (locals : Locals) (rest : Int) : Except RuleFault (List Part) :=
  if 0 < rest then
    (locals.resolve (rest + 1)).map fun name => [.value (.atom ("*" ++ name))]
  else if rest = -1 ∨ rest = -2 then .ok []
  else .error (.restUnrecognized (integerText rest))

/-- The name of the rest parameter, if it has one. A number that is no integer can be a mark,
but no position. -/
def restParts (locals : Locals) (payload : Value) : Except RuleFault (List Part) :=
  match payload with
  | .data (.scalar (.int rest)) => restAt locals rest
  | .data (.scalar (.bool true)) => restAt locals 1
  | .data (.scalar (.float number)) =>
      if number.toInt? = some (-1) ∨ number.toInt? = some (-2) then .ok []
      else if number.aboveInt 0 then
        .error (locals.refuseNumber (number.plus (.ofRatio 1 1)))
      else .error (.restUnrecognized payload.display)
  | .data (.scalar (.bool false)) => .error (.restUnrecognized payload.display)
  | other => if other.isNull then .ok [] else .error (.payload .noInteger)

/-- The parameters of a method: required ones, ones with a default, the rest parameter,
and then the defaults themselves. -/
def arguments (scope : RuleScope) (node : Node) : Except RuleFault (List Part) :=
  if scope.locals = .absent ∨ (!isTruthy node.u3 ∧ node.u1.isNull ∧ hasNoRest node.u2) then
    .ok []
  else do
    let count ← countOf node.u3
    let required ← tableRun scope.locals LocalTable.reservedCount count.toNat
    let opt ← nodeOrNone node.u1
    let defaults ← defaultCount opt
    let optional ← tableRun scope.locals (LocalTable.reservedCount + count.toNat) defaults
    let named ← restParts scope.locals node.u2
    .ok (required ++ optional ++ named ++ Part.present node.u1)

/-- The closure a node captures. What is behind its handle is first asked for the part with
the given role, which only a closure has. -/
def captured (scope : RuleScope) (node : Node) (role : String) : Except RuleFault Closure :=
  match scope.resolveClosure node.u3 with
  | .error fault => .error (.payload fault)
  | .ok (.closure params body owner) => .ok ⟨params, body, owner⟩
  | .ok (.node child) => .error (.payload (.noClosure child.tag role))
  | .ok other =>
      if other.isNull then .error (.closureUnavailable node.tag) else .error (.payload .noNode)

/-- The character with a given number. A surrogate is half of a character and can neither stand
in a text here nor be encoded elsewhere: the replacement character stands for it, and
`Node.namesSurrogate` tells of it. -/
def characterOf (payload : Value) : Except RuleFault Char := do
  let code ← match payload with
    | .data (.scalar (.int code)) => Except.ok code
    | .data (.scalar (.bool value)) => .ok (if value then 1 else 0)
    | _ => .error (.payload .noInteger)
  if code < -2147483648 ∨ 2147483647 < code then .error (.payload .codePointTooLarge)
  else if code < 0 ∨ 0x10FFFF < code then .error (.payload .noCodePoint)
  else if 0xD800 ≤ code ∧ code ≤ 0xDFFF then .ok '\ufffd'
  else .ok (Char.ofNat code.toNat)

/-- The plain text of a payload in the place of an integer. -/
def plainText : Value → String
  | .data content => content.plainText
  | .form value => value.plainText
  | other => other.display

def numberForm : Value → Sexp
  | .data (.scalar (.int value)) => .int value
  | other => .foreign (.noInteger (plainText other))

def pathName (payload : Value) : Except RuleFault Part := do
  match ← nodeOrNone payload with
  | some path =>
      if path.kind = .known .colon2 ∨ path.kind = .known .colon3 then identifier path.u2 "mid"
      else .error .pathExpected
  | none => .error .pathExpected

def terminal : Rule := fun _ _ => .ok []

def firstChild : Rule := fun _ node => .ok [.child node.u1]

def secondChild : Rule := fun _ node => .ok [.child node.u2]

def twoChildren : Rule := fun _ node => .ok [.child node.u1, .child node.u2]

def threeChildren : Rule := fun _ node =>
  .ok [.child node.u1, .child node.u2, .child node.u3]

def optionalChild : Rule := fun _ node => .ok (Part.present node.u1)

def variableName : Rule := fun _ node => do
  let name ← identifier node.u1 "vid"
  .ok [name]

def named : Rule := fun _ node => do
  let name ← identifier node.u2 "mid"
  .ok [name]

def scopeBody : Rule := fun _ node => .ok [.scoped node.u3 (.ofPayload node.u1)]

def sequence : Rule := fun _ node => do
  let items ← elements node.u1
  .ok (items.map .element)

/-- The elements of a mapping, keys and values in turn. A local table counts with all its
positions. -/
def mapping : Rule := fun _ node => do
  let count ← match node.u1 with
    | .table names => Except.ok names.size
    | payload => (iterated payload).map List.length
  if count % 2 = 1 then .error (.oddEntries count)
  else do
    let entries ← elements node.u1
    .ok (entries.map .element)

def caseOf : Rule := fun _ node => do
  let rest ← clauses node.u2
  .ok (.child node.u1 :: rest)

def loop : Rule := fun _ node =>
  .ok [.child node.u1, .child node.u2, .value (.ofBool (!isZero node.u3))]

def iteration : Rule := fun _ node =>
  let variablePart := match node.u1 with
    | .node child => Part.node child
    | _ => .value .nil
  .ok [.child node.u3, variablePart, .child node.u2]

def rescue : Rule := fun _ node =>
  .ok (.child node.u1 :: .child node.u2 :: Part.present node.u3)

def rescueClause : Rule := fun _ node =>
  .ok (.child node.u3 :: .child node.u2 :: Part.present node.u1)

def ensure : Rule := fun _ node => .ok (.child node.u1 :: Part.present node.u3)

def assignment : Rule := fun _ node => do
  let name ← identifier node.u1 "vid"
  .ok (name :: Part.present node.u2)

def multipleAssignment : Rule := fun _ node =>
  let splat := match node.u3 with
    | .node child => [Part.node child]
    | _ => []
  .ok (.child node.u1 :: (splat ++ [.child node.u2]))

/-- An indexed compound assignment, whose array holds the value and then the index. -/
def indexedAssignment : Rule := fun _ node => do
  match ← nodeOrNone node.u3 with
  | none => .error .indexExpected
  | some args =>
      if args.kind = .known .array then
        match ← iterated args.u1 with
        | [] => .error .indexExpected
        | value :: index =>
            let operator ← identifier node.u2 "mid"
            .ok [.child node.u1, .group KnownKind.array.tag (index.map .element), operator,
              .element value]
      else .error .indexExpected

def attributeAssignment : Rule := fun _ node =>
  match node.u3 with
  | .selector attr operator =>
      .ok [.child node.u1, .value (.atom attr), .value (.atom operator), .child node.u2]
  | _ => .error .selectorExpected

def attributeCall : Rule := fun _ node => do
  let name ← identifier node.u2 "mid"
  .ok [.child node.u1, name, .child node.u3]

def call : Rule := fun _ node => do
  let name ← identifier node.u2 "mid"
  .ok (.child node.u1 :: name :: Part.present node.u3)

def ownCall : Rule := fun _ node => do
  let name ← identifier node.u2 "mid"
  .ok [name, .child node.u3]

def thirdChild : Rule := fun _ node => .ok [.child node.u3]

def lastChildren : Rule := fun _ node => .ok [.child node.u2, .child node.u3]

def numberedMatch : Rule := fun _ node => .ok [.value (numberForm node.u2)]

def specialMatch : Rule := fun _ node => do
  let character ← characterOf node.u2
  .ok [.value (.atom (String.singleton character))]

def literalForm : Rule := fun _ node => do
  let form ← literal node.u1
  .ok [form]

def interpolation : Rule := fun _ node => do
  let leading ← leadingText node.u1
  let items ← iterated node.u3
  let pieces ← items.mapM piece
  .ok (leading :: pieces)

def definition : Rule := fun _ node =>
  if node.u3.isNull then .ok []
  else do
    let name ← identifier node.u2 "mid"
    .ok [name, .child node.u3]

def singletonDefinition : Rule := fun _ node =>
  if node.u3.isNull then .ok []
  else do
    let name ← identifier node.u2 "mid"
    .ok [.child node.u1, name, .child node.u3]

def aliasNames : Rule := fun _ node => do
  let new ← identifier node.u1 "new"
  let old ← identifier node.u2 "old"
  .ok [new, old]

def scopedConstant : Rule := fun _ node => do
  let name ← identifier node.u2 "mid"
  .ok [.child node.u1, name]

def classBody : Rule := fun _ node => do
  let name ← pathName node.u1
  .ok (name :: (Part.present node.u3 ++ [.child node.u2]))

def moduleBody : Rule := fun _ node => do
  let name ← pathName node.u1
  .ok [name, .child node.u2]

def blockMethod : Rule := fun scope node => do
  let closure ← captured scope node "params"
  .ok [.scoped closure.params .absent, .scoped closure.body .absent]

def objectMethod : Rule := fun scope node => do
  let closure ← captured scope node "owner"
  let owner := match closure.owner with
    | some name => Sexp.atom name
    | none => .nil
  .ok [.value owner, .scoped closure.body .absent]

end Rule

/-- Whether a node names a surrogate: no text that has its name in it can be encoded. -/
def Node.namesSurrogate (node : Node) : Bool :=
  match node.kind, node.u2 with
  | .known .backRef, .data (.scalar (.int code)) => decide (0xD800 ≤ code ∧ code ≤ 0xDFFF)
  | _, _ => false

def KnownKind.rule? : KnownKind → Option Rule
  | .scope => some Rule.scopeBody
  | .block | .array => some Rule.sequence
  | .method | .beginBody | .optN | .logicalNot | .evstr => some Rule.secondChild
  | .fbody | .definedTest | .splat | .toAry | .svalue => some Rule.firstChild
  | .selfRef | .nilRef | .trueRef | .falseRef | .retry | .redo | .zarray | .zsuper
  | .postexe => some Rule.terminal
  | .ifElse => some Rule.threeChildren
  | .caseOf => some Rule.caseOf
  | .whenClause => some Rule.twoChildren
  | .whileLoop | .untilLoop => some Rule.loop
  | .iter | .forLoop => some Rule.iteration
  | .breakOut | .nextTurn | .returnFrom | .yieldTo => some Rule.optionalChild
  | .logicalAnd | .logicalOr => some Rule.twoChildren
  | .dot2 | .dot3 | .flip2 | .flip3 => some Rule.twoChildren
  | .rescue => some Rule.rescue
  | .resbody => some Rule.rescueClause
  | .ensure => some Rule.ensure
  | .lasgn | .dasgn | .dasgnCurr | .gasgn | .iasgn | .cdecl | .cvasgn | .cvdecl =>
      some Rule.assignment
  | .masgn => some Rule.multipleAssignment
  | .opAsgn1 => some Rule.indexedAssignment
  | .opAsgn2 => some Rule.attributeAssignment
  | .opAsgnAnd | .opAsgnOr => some Rule.twoChildren
  | .attrasgn => some Rule.attributeCall
  | .call => some Rule.call
  | .fcall => some Rule.ownCall
  | .vcall => some Rule.named
  | .superCall => some Rule.thirdChild
  | .argscat | .argspush => some Rule.twoChildren
  | .blockPass => some Rule.lastChildren
  | .args => some Rule.arguments
  | .blockArg => some Rule.variableName
  | .hash => some Rule.mapping
  | .lvar | .dvar | .gvar | .ivar | .const | .cvar | .attrset => some Rule.variableName
  | .nthRef => some Rule.numberedMatch
  | .backRef => some Rule.specialMatch
  | .lit | .str | .xstr | .matchLast => some Rule.literalForm
  | .match2 | .match3 => some Rule.twoChildren
  | .dstr | .dxstr | .dregx | .dregxOnce | .dsym => some Rule.interpolation
  | .defn => some Rule.definition
  | .defs => some Rule.singletonDefinition
  | .methodAlias | .variableAlias => some Rule.aliasNames
  | .undef | .colon3 => some Rule.named
  | .colon2 => some Rule.scopedConstant
  | .classDef => some Rule.classBody
  | .moduleDef => some Rule.moduleBody
  | .sclass => some Rule.twoChildren
  | .bmethod => some Rule.blockMethod
  | .dmethod => some Rule.objectMethod
  | .newline | .cfunc | .cref | .memo | .ifunc | .lastKind => none

def KnownKind.isHandled (kind : KnownKind) : Bool := kind == .newline || kind.rule?.isSome

/-- Whether a kind only exists at run time and never in a parsed body. -/
def KnownKind.isRuntimeOnly : KnownKind → Bool
  | .cfunc | .cref | .memo | .ifunc | .lastKind => true
  | _ => false

namespace Kind

def rule? : Kind → Option Rule
  | .known kind => kind.rule?
  | _ => none

def isHandled : Kind → Bool
  | .known kind => kind.isHandled
  | _ => false

/-- Whether a kind is one that only exists at run time. -/
def isRuntimeOnly : Kind → Bool
  | .known kind => kind.isRuntimeOnly
  | _ => false

end Kind

end NodeForms
