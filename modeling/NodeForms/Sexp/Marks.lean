import NodeForms.Sexp.Basic

/-!
# Flat forms

A form laid out flat: a list is an opening mark, its elements and a closing mark, and any
other value is a leaf. The marks of a form determine it.
-/

namespace NodeForms

namespace Sexp

/-- A mark of a flat form. -/
inductive Mark where
  | opening
  | closing
  | leaf (value : Sexp)
deriving Inhabited

mutual
def marksOnto : Sexp → List Mark → List Mark
  | .seq items, after => .opening :: itemMarksOnto items (.closing :: after)
  | value, after => .leaf value :: after
def itemMarksOnto : List Sexp → List Mark → List Mark
  | [], after => after
  | item :: items, after => marksOnto item (itemMarksOnto items after)
end

def marks (value : Sexp) : List Mark := marksOnto value []

/-- Put a value at the end of the innermost open list; each list holds its latest element
first. -/
def place (value : Sexp) : List (List Sexp) → Option (List (List Sexp))
  | [] => none
  | inner :: outer => some ((value :: inner) :: outer)

def openAfter (lists : List (List Sexp)) : List Mark → Option (List (List Sexp))
  | [] => some lists
  | .opening :: marks => openAfter ([] :: lists) marks
  | .leaf value :: marks => (place value lists).bind fun lists => openAfter lists marks
  | .closing :: marks =>
      match lists with
      | [] => none
      | inner :: outer =>
          (place (.seq inner.reverse) outer).bind fun lists => openAfter lists marks

def ofMarks (marks : List Mark) : Option Sexp :=
  match openAfter [[]] marks with
  | some [[value]] => some value
  | _ => none

end Sexp

end NodeForms
