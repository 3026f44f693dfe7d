import NodeForms.Node.Display

/-!
# Forms of loose values

A form can be put together from loose values: names for atoms, integers, truth values,
the absent value for the nil atom, and sequences of such values for lists. Ready forms
are taken as they are; every other value is refused.
-/

namespace NodeForms

/-- A value that has no form, by the name of its type. -/
structure FormlessValue where
  typeName : String
deriving DecidableEq, Repr

def FormlessValue.message (fault : FormlessValue) : String :=
  "Cannot convert " ++ fault.typeName ++ " to an S-expression value"

namespace Scalar

def form? : Scalar → Except FormlessValue Sexp
  | .null => .ok .nil
  | .bool value => .ok (.ofBool value)
  | .int value => .ok (.int value)
  | .text value => .ok (.atom value)
  | other => .error ⟨other.typeName⟩

end Scalar

namespace Data

mutual
def form? : Data → Except FormlessValue Sexp
  | .scalar value => value.form?
  | .list items => (forms? items).map .seq
  | .pair key value => do
      let first ← form? key
      let second ← form? value
      .ok (.seq [first, second])
  | .shared _ content => form? content
  | other => .error ⟨other.typeName⟩
def forms? : List Data → Except FormlessValue (List Sexp)
  | [] => .ok []
  | item :: items => do
      let first ← form? item
      let rest ← forms? items
      .ok (first :: rest)
end

end Data

namespace Value

mutual
def form? : Value → Except FormlessValue Sexp
  | .form value => .ok value
  | .data content => content.form?
  | .tuple items => (forms? items).map .seq
  | .list items => (forms? items).map .seq
  | other => .error ⟨other.typeName⟩
def forms? : List Value → Except FormlessValue (List Sexp)
  | [] => .ok []
  | item :: items => do
      let first ← form? item
      let rest ← forms? items
      .ok (first :: rest)
end

def seqForm (items : List Value) : Except FormlessValue Sexp := (forms? items).map .seq

/-- What a payload leaves in a form when it stands in the place of a form: a ready form
itself. -/
def misplaced : Value → Sexp
  | .form value => value
  | .data (.scalar (.text text)) => .foreign (.loose text)
  | other => .foreign (.unwritable other.display)

def ofList (items : List Value) : Value :=
  match items.mapM data? with
  | some contents => .data (.list contents)
  | none => .list items

end Value

end NodeForms
