import NodeForms.Text.Quoted

/-!
# Local variable tables

A local table lists the names of one scope in declaration order. Its first three
positions are reserved, so the first declared name sits at position 3.
-/

namespace NodeForms

/-- The names of one scope, reserved positions included. -/
structure LocalTable where
  names : List String
deriving DecidableEq, Repr, Inhabited

namespace LocalTable

def reservedCount : Nat := 3

def reservedNames : List String := ["", "_", "~"]

/-- The table whose declared names follow the ordinary reserved ones. -/
def ofDeclared (declared : List String) : LocalTable := ⟨reservedNames ++ declared⟩

def declared (table : LocalTable) : List String := table.names.drop reservedCount

def size (table : LocalTable) : Nat := table.names.length

/-- The name at a position, if there is one. -/
def get? (table : LocalTable) (position : Int) : Option String :=
  if position < 0 then none else table.names[position.toNat]?

def isOrdinary (table : LocalTable) : Bool :=
  table.names.take reservedCount == reservedNames

def displayNames : List String → String
  | [name] => "(" ++ quoted name ++ ",)"
  | names => "(" ++ ", ".intercalate (names.map quoted) ++ ")"

def display (table : LocalTable) : String :=
  "LocalTable(names=" ++ displayNames table.names ++ ")"

@[simp] theorem declared_ofDeclared (declared : List String) :
    (ofDeclared declared).declared = declared := rfl

end LocalTable

end NodeForms
