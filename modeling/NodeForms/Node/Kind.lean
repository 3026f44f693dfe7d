import NodeForms.Text.Case
import NodeForms.Decimal.Notation

/-!
# Node kinds

The host numbers its node kinds. The kinds of this table have a tag, and their numbers
are their positions in it; a number beyond the table is kept as it is, so that trees of
a newer host can still be read.
-/

namespace NodeForms

/-- The node kinds of the table, in the order of their numbers. -/
inductive KnownKind where
  | method | fbody | cfunc | scope | block | ifElse | caseOf | whenClause | optN | whileLoop
  | untilLoop | iter | forLoop | breakOut | nextTurn | redo | retry | beginBody | rescue
  | resbody | ensure | logicalAnd | logicalOr | logicalNot | masgn | lasgn | dasgn
  | dasgnCurr | gasgn | iasgn | cdecl | cvasgn | cvdecl | opAsgn1 | opAsgn2 | opAsgnAnd
  | opAsgnOr | call | fcall | vcall | superCall | zsuper | array | zarray | hash
  | returnFrom | yieldTo | lvar | dvar | gvar | ivar | const | cvar | nthRef | backRef
  | matchLast | match2 | match3 | lit | str | dstr | xstr | dxstr | evstr | dregx
  | dregxOnce | args | argscat | argspush | splat | toAry | svalue | blockArg | blockPass
  | defn | defs | methodAlias | variableAlias | undef | classDef | moduleDef | sclass | colon2
  | colon3 | cref | dot2 | dot3 | flip2 | flip3 | attrset | selfRef | nilRef | trueRef
  | falseRef | definedTest | newline | postexe | dmethod | bmethod | memo | ifunc | dsym | attrasgn
  | lastKind
deriving DecidableEq, Repr, Inhabited

namespace KnownKind

def all : List KnownKind :=
  [.method, .fbody, .cfunc, .scope, .block, .ifElse, .caseOf, .whenClause, .optN,
   .whileLoop, .untilLoop, .iter, .forLoop, .breakOut, .nextTurn, .redo, .retry, .beginBody,
   .rescue, .resbody, .ensure, .logicalAnd, .logicalOr, .logicalNot, .masgn, .lasgn, .dasgn,
   .dasgnCurr, .gasgn, .iasgn, .cdecl, .cvasgn, .cvdecl, .opAsgn1, .opAsgn2, .opAsgnAnd,
   .opAsgnOr, .call, .fcall, .vcall, .superCall, .zsuper, .array, .zarray, .hash,
   .returnFrom, .yieldTo, .lvar, .dvar, .gvar, .ivar, .const, .cvar, .nthRef, .backRef,
   .matchLast, .match2, .match3, .lit, .str, .dstr, .xstr, .dxstr, .evstr, .dregx,
   .dregxOnce, .args, .argscat, .argspush, .splat, .toAry, .svalue, .blockArg, .blockPass,
   .defn, .defs, .methodAlias, .variableAlias, .undef, .classDef, .moduleDef, .sclass, .colon2,
   .colon3, .cref, .dot2, .dot3, .flip2, .flip3, .attrset, .selfRef, .nilRef, .trueRef,
   .falseRef, .definedTest, .newline, .postexe, .dmethod, .bmethod, .memo, .ifunc, .dsym, .attrasgn,
   .lastKind]

def id (kind : KnownKind) : Nat := kind.ctorIdx

/-- The tag of a kind. -/
def tag : KnownKind → String
  | .method => "method"
  | .fbody => "fbody"
  | .cfunc => "cfunc"
  | .scope => "scope"
  | .block => "block"
  | .ifElse => "if"
  | .caseOf => "case"
  | .whenClause => "when"
  | .optN => "opt_n"
  | .whileLoop => "while"
  | .untilLoop => "until"
  | .iter => "iter"
  | .forLoop => "for"
  | .breakOut => "break"
  | .nextTurn => "next"
  | .redo => "redo"
  | .retry => "retry"
  | .beginBody => "begin"
  | .rescue => "rescue"
  | .resbody => "resbody"
  | .ensure => "ensure"
  | .logicalAnd => "and"
  | .logicalOr => "or"
  | .logicalNot => "not"
  | .masgn => "masgn"
  | .lasgn => "lasgn"
  | .dasgn => "dasgn"
  | .dasgnCurr => "dasgn_curr"
  | .gasgn => "gasgn"
  | .iasgn => "iasgn"
  | .cdecl => "cdecl"
  | .cvasgn => "cvasgn"
  | .cvdecl => "cvdecl"
  | .opAsgn1 => "op_asgn1"
  | .opAsgn2 => "op_asgn2"
  | .opAsgnAnd => "op_asgn_and"
  | .opAsgnOr => "op_asgn_or"
  | .call => "call"
  | .fcall => "fcall"
  | .vcall => "vcall"
  | .superCall => "super"
  | .zsuper => "zsuper"
  | .array => "array"
  | .zarray => "zarray"
  | .hash => "hash"
  | .returnFrom => "return"
  | .yieldTo => "yield"
  | .lvar => "lvar"
  | .dvar => "dvar"
  | .gvar => "gvar"
  | .ivar => "ivar"
  | .const => "const"
  | .cvar => "cvar"
  | .nthRef => "nth_ref"
  | .backRef => "back_ref"
  | .matchLast => "match"
  | .match2 => "match2"
  | .match3 => "match3"
  | .lit => "lit"
  | .str => "str"
  | .dstr => "dstr"
  | .xstr => "xstr"
  | .dxstr => "dxstr"
  | .evstr => "evstr"
  | .dregx => "dregx"
  | .dregxOnce => "dregx_once"
  | .args => "args"
  | .argscat => "argscat"
  | .argspush => "argspush"
  | .splat => "splat"
  | .toAry => "to_ary"
  | .svalue => "svalue"
  | .blockArg => "block_arg"
  | .blockPass => "block_pass"
  | .defn => "defn"
  | .defs => "defs"
  | .methodAlias => "alias"
  | .variableAlias => "valias"
  | .undef => "undef"
  | .classDef => "class"
  | .moduleDef => "module"
  | .sclass => "sclass"
  | .colon2 => "colon2"
  | .colon3 => "colon3"
  | .cref => "cref"
  | .dot2 => "dot2"
  | .dot3 => "dot3"
  | .flip2 => "flip2"
  | .flip3 => "flip3"
  | .attrset => "attrset"
  | .selfRef => "self"
  | .nilRef => "nil"
  | .trueRef => "true"
  | .falseRef => "false"
  | .definedTest => "defined"
  | .newline => "newline"
  | .postexe => "postexe"
  | .dmethod => "dmethod"
  | .bmethod => "bmethod"
  | .memo => "memo"
  | .ifunc => "ifunc"
  | .dsym => "dsym"
  | .attrasgn => "attrasgn"
  | .lastKind => "last"

def ofId? (number : Int) : Option KnownKind :=
  if number < 0 then none else all[number.toNat]?

def ofTag? (word : String) : Option KnownKind :=
  all.find? fun kind => capitals word == capitals kind.tag

end KnownKind

inductive Kind where
  | known (kind : KnownKind)
  | numbered (number : Int)
  /-- A number that is no integer, for which no table has a place. -/
  | fractional (number : Binary64)
deriving DecidableEq, Repr, Inhabited

namespace Kind

def ofInt (number : Int) : Kind :=
  match KnownKind.ofId? number with
  | some kind => .known kind
  | none => .numbered number

def ofFloat (number : Binary64) : Kind :=
  match number.toInt? with
  | some whole =>
      match KnownKind.ofId? whole with
      | some kind => .known kind
      | none => .fractional number
  | none => .fractional number

/-- The tag that names a kind, `node_` and the number beyond the table. -/
def tag : Kind → String
  | .known kind => kind.tag
  | .numbered number => "node_" ++ integerText number
  | .fractional number => "node_" ++ FloatNotation.plain.text number

def id : Kind → Int
  | .known kind => kind.id
  | .numbered number => number
  | .fractional number => number.truncate

def isKnown : Kind → Bool
  | .known _ => true
  | _ => false

end Kind

end NodeForms
