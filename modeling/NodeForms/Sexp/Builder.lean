import NodeForms.Sexp.Basic

/-!
# Sequences under construction

A builder collects elements at its end and gives the sequence collected so far. What it
gave before does not change when more elements are added.
-/

namespace NodeForms

/-- A sequence under construction. -/
structure SeqBuilder where
  items : Array Sexp := #[]
deriving Inhabited

namespace SeqBuilder

def push (builder : SeqBuilder) (item : Sexp) : SeqBuilder := ⟨builder.items.push item⟩

def extend (builder : SeqBuilder) (items : List Sexp) : SeqBuilder :=
  ⟨builder.items.appendList items⟩

def build (builder : SeqBuilder) : Sexp := .seq builder.items.toList

def size (builder : SeqBuilder) : Nat := builder.items.size

def display (builder : SeqBuilder) : String :=
  "SeqBuilder([" ++ Sexp.displayItems builder.items.toList ++ "])"

@[simp] theorem toList_push (builder : SeqBuilder) (item : Sexp) :
    (builder.push item).items.toList = builder.items.toList ++ [item] :=
  Array.toList_push

theorem build_extend (builder : SeqBuilder) (items : List Sexp) :
    (builder.extend items).build = .seq (builder.items.toList ++ items) := by
  simp [extend, build]

end SeqBuilder

end NodeForms
