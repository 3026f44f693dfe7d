import NodeForms.Node.Kind

/-!
# Slot layouts

A node has three slots. Its kind says which of them are used, by which role name, and
what payload each one expects.
-/

namespace NodeForms

/-- What a slot expects to hold. -/
inductive Expected where
  | node
  | nodes
  | name
  | literal
  | integer
  | table
  | selector
  | closure
  | anything
deriving DecidableEq, Repr, Inhabited

def Expected.word : Expected → String
  | .node => "NODE"
  | .nodes => "NODES"
  | .name => "ID"
  | .literal => "LITERAL"
  | .integer => "INT"
  | .table => "TABLE"
  | .selector => "SELECTOR"
  | .closure => "CLOSURE"
  | .anything => "ANY"

structure SlotRole where
  role : String
  expected : Expected
deriving DecidableEq, Repr, Inhabited

/-- The three slots of a node. -/
inductive SlotPosition where
  | first
  | second
  | third
deriving DecidableEq, Repr, Inhabited

namespace SlotPosition

def all : List SlotPosition := [.first, .second, .third]

/-- The name of a slot by its position. -/
def label : SlotPosition → String
  | .first => "u1"
  | .second => "u2"
  | .third => "u3"

end SlotPosition

/-- The slots a kind uses. -/
structure Layout where
  first : Option SlotRole
  second : Option SlotRole
  third : Option SlotRole
deriving DecidableEq, Repr, Inhabited

namespace Layout

def slot (role : String) (expected : Expected) : Option SlotRole := some ⟨role, expected⟩

def generic : Layout := ⟨slot "u1" .anything, slot "u2" .anything, slot "u3" .anything⟩

def empty : Layout := ⟨none, none, none⟩

def named : Layout := ⟨slot "vid" .name, none, none⟩

def assignment : Layout := ⟨slot "vid" .name, slot "value" .node, none⟩

def headOnly : Layout := ⟨slot "head" .node, none, none⟩

def bodyOnly : Layout := ⟨none, slot "body" .node, none⟩

def pair : Layout := ⟨slot "first" .node, slot "second" .node, none⟩

def range : Layout := ⟨slot "beg" .node, slot "end" .node, none⟩

def jump : Layout := ⟨slot "stts" .node, none, none⟩

def loop : Layout := ⟨slot "cond" .node, slot "body" .node, slot "state" .integer⟩

def iteration : Layout := ⟨slot "var" .anything, slot "body" .node, slot "iter" .node⟩

def literalOnly : Layout := ⟨slot "lit" .literal, none, none⟩

def interpolation : Layout := ⟨slot "lit" .literal, none, slot "parts" .nodes⟩

def capture : Layout := ⟨none, none, slot "closure" .closure⟩

def slotAt (layout : Layout) : SlotPosition → Option SlotRole
  | .first => layout.first
  | .second => layout.second
  | .third => layout.third

def find? (layout : Layout) (role : String) : Option (SlotPosition × Expected) :=
  SlotPosition.all.findSome? fun position =>
    match layout.slotAt position with
    | some used => if used.role == role then some (position, used.expected) else none
    | none => none

def roles (layout : Layout) : List String :=
  SlotPosition.all.filterMap fun position => (layout.slotAt position).map SlotRole.role

end Layout

open Layout in
/-- The layout of a kind of the table. -/
def KnownKind.layout : KnownKind → Layout
  | .method => ⟨slot "noex" .integer, slot "body" .node, none⟩
  | .fbody => ⟨slot "head" .node, slot "mid" .name, slot "orig" .name⟩
  | .cfunc | .cref | .memo | .ifunc | .lastKind => .generic
  | .scope => ⟨slot "table" .table, none, slot "body" .node⟩
  | .block => ⟨slot "statements" .nodes, none, none⟩
  | .ifElse => ⟨slot "cond" .node, slot "body" .node, slot "else_" .node⟩
  | .caseOf | .argscat | .argspush => ⟨slot "head" .node, slot "body" .node, none⟩
  | .whenClause => ⟨slot "head" .node, slot "body" .node, slot "next" .node⟩
  | .optN | .beginBody | .logicalNot | .evstr => .bodyOnly
  | .whileLoop | .untilLoop => .loop
  | .iter | .forLoop => .iteration
  | .breakOut | .nextTurn | .returnFrom | .yieldTo => .jump
  | .redo | .retry | .zsuper | .zarray | .selfRef | .nilRef | .trueRef | .falseRef | .postexe =>
      .empty
  | .rescue => ⟨slot "head" .node, slot "resq" .node, slot "else_" .node⟩
  | .resbody => ⟨slot "next" .node, slot "body" .node, slot "args" .node⟩
  | .ensure => ⟨slot "head" .node, none, slot "ensr" .node⟩
  | .logicalAnd | .logicalOr => .pair
  | .masgn => ⟨slot "head" .node, slot "value" .node, slot "splat" .anything⟩
  | .lasgn | .dasgn | .dasgnCurr | .gasgn | .iasgn | .cdecl | .cvasgn | .cvdecl =>
      .assignment
  | .opAsgn1 | .call | .attrasgn =>
      ⟨slot "recv" .node, slot "mid" .name, slot "args" .node⟩
  | .opAsgn2 => ⟨slot "recv" .node, slot "value" .node, slot "selector" .selector⟩
  | .opAsgnAnd | .opAsgnOr => ⟨slot "head" .node, slot "value" .node, none⟩
  | .fcall => ⟨none, slot "mid" .name, slot "args" .node⟩
  | .vcall | .undef | .colon3 => ⟨none, slot "mid" .name, none⟩
  | .superCall => ⟨none, none, slot "args" .node⟩
  | .array => ⟨slot "items" .nodes, none, none⟩
  | .hash => ⟨slot "entries" .nodes, none, none⟩
  | .lvar | .dvar | .gvar | .ivar | .const | .cvar | .blockArg | .attrset => .named
  | .nthRef | .backRef => ⟨none, slot "nth" .integer, none⟩
  | .matchLast | .lit | .str | .xstr => .literalOnly
  | .match2 | .match3 => ⟨slot "recv" .node, slot "value" .node, none⟩
  | .dstr | .dxstr | .dregx | .dregxOnce | .dsym => .interpolation
  | .args => ⟨slot "opt" .node, slot "rest" .integer, slot "cnt" .integer⟩
  | .splat | .toAry | .svalue | .definedTest => .headOnly
  | .blockPass => ⟨none, slot "body" .node, slot "iter" .node⟩
  | .defn => ⟨slot "noex" .integer, slot "mid" .name, slot "defn" .node⟩
  | .defs => ⟨slot "recv" .node, slot "mid" .name, slot "defn" .node⟩
  | .methodAlias | .variableAlias => ⟨slot "new" .name, slot "old" .name, none⟩
  | .classDef => ⟨slot "cpath" .node, slot "body" .node, slot "super" .node⟩
  | .moduleDef => ⟨slot "cpath" .node, slot "body" .node, none⟩
  | .sclass => ⟨slot "recv" .node, slot "body" .node, none⟩
  | .colon2 => ⟨slot "head" .node, slot "mid" .name, none⟩
  | .dot2 | .dot3 | .flip2 | .flip3 => .range
  | .newline => ⟨none, none, slot "next" .node⟩
  | .dmethod | .bmethod => .capture

/-- The layout of a kind: three unnamed slots beyond the table. -/
def Kind.layout : Kind → Layout
  | .known kind => kind.layout
  | _ => .generic

end NodeForms
