import NodeForms.Sexp.Compact

/-!
# Widths of lists

Before a value is written in lines, the width of the compact text of every list in it is
noted in a table. Lists have labels by which they are known again, so a list that stands
in several places is measured once. What is left to measure is kept on a stack: a list
comes after its elements, and its width is the sum of theirs with the separators and the
parentheses.
-/

namespace NodeForms

namespace Sexp

/-- A value with a label on each of its lists. One list has one label, wherever it stands. -/
inductive Labelled where
  | scalar (value : Sexp) (noSeq : value.isSeq = false)
  | seq (label : Nat) (items : List Labelled)

namespace Labelled

mutual
def value : Labelled → Sexp
  | .scalar value _ => value
  | .seq _ items => .seq (itemValues items)
/-- Elements without the labels. -/
def itemValues : List Labelled → List Sexp
  | [] => []
  | item :: items => value item :: itemValues items
end

/-- The labelled elements of a list, none for any other value. -/
def items : Labelled → List Labelled
  | .scalar _ _ => []
  | .seq _ items => items

mutual
def weight : Labelled → Nat
  | .scalar _ _ => 3
  | .seq _ items => 3 + itemsWeight items
def itemsWeight : List Labelled → Nat
  | [] => 0
  | item :: items => weight item + 1 + itemsWeight items
end

theorem weight_pos (labelled : Labelled) : 0 < labelled.weight := by
  cases labelled <;> simp only [weight] <;> omega

end Labelled

mutual
/-- A value with the numbers from a given one on as the labels of its lists, and the number
that comes next. -/
def labelFrom (next : Nat) : Sexp → Labelled × Nat
  | .atom name => (.scalar (.atom name) rfl, next)
  | .int value => (.scalar (.int value) rfl, next)
  | .text value => (.scalar (.text value) rfl, next)
  | .foreign what => (.scalar (.foreign what) rfl, next)
  | .seq items =>
      let (labelled, after) := labelItemsFrom (next + 1) items
      (.seq next labelled, after)
/-- Elements with the numbers from a given one on as the labels of their lists, and the
number that comes next. -/
def labelItemsFrom (next : Nat) : List Sexp → List Labelled × Nat
  | [] => ([], next)
  | item :: items =>
      let (first, middle) := labelFrom next item
      let (others, after) := labelItemsFrom middle items
      (first :: others, after)
end

def labelled (value : Sexp) : Labelled := (labelFrom 0 value).1

def totalWidth (width : Labelled → Nat) : List Labelled → Nat
  | [] => 0
  | item :: items => width item + totalWidth width items

abbrev WidthTable := List (Nat × Nat)

namespace WidthTable

/-- The width of a value whose lists are in a table. -/
def width (table : WidthTable) : Labelled → Nat
  | .scalar value _ => (scalarText value).length
  | .seq label _ => (table.lookup label).getD 0

/-- The width of a list whose elements can be measured: theirs, one separator between
neighbours, and both parentheses. -/
def listWidth (table : WidthTable) (items : List Labelled) : Nat :=
  2 + (items.length - 1) + totalWidth table.width items

end WidthTable

inductive MeasureTask where
  | visit (labelled : Labelled)
  | total (label : Nat) (items : List Labelled)

def MeasureTask.weight : MeasureTask → Nat
  | .visit labelled => labelled.weight
  | .total _ _ => 1

def tasksWeight : List MeasureTask → Nat
  | [] => 0
  | task :: tasks => task.weight + tasksWeight tasks

/-- Put values on a stack one after the other, so that the last one is visited first. -/
def visitAll : List Labelled → List MeasureTask → List MeasureTask
  | [], tasks => tasks
  | item :: items, tasks => visitAll items (.visit item :: tasks)

theorem tasksWeight_visitAll (items : List Labelled) (tasks : List MeasureTask) :
    tasksWeight (visitAll items tasks) ≤ Labelled.itemsWeight items + tasksWeight tasks := by
  induction items generalizing tasks with
  | nil => simp [visitAll, Labelled.itemsWeight]
  | cons item items ih =>
      have later := ih (.visit item :: tasks)
      simp only [visitAll, tasksWeight, MeasureTask.weight, Labelled.itemsWeight] at later ⊢
      omega

/-- Measure the values on a stack, the first one first. A list that is in the table already
is passed over. -/
def measureAll (table : WidthTable) : List MeasureTask → WidthTable
  | [] => table
  | .visit (.scalar _ _) :: rest => measureAll table rest
  | .visit (.seq label items) :: rest =>
      if (table.lookup label).isSome then measureAll table rest
      else measureAll table (visitAll items (.total label items :: rest))
  | .total label items :: rest => measureAll ((label, table.listWidth items) :: table) rest
termination_by tasks => tasksWeight tasks
decreasing_by
  · simp [tasksWeight, MeasureTask.weight, Labelled.weight]
  · have positive := (Labelled.seq label items).weight_pos
    simp only [tasksWeight, MeasureTask.weight]
    omega
  · have visited := tasksWeight_visitAll items (.total label items :: rest)
    simp only [tasksWeight, MeasureTask.weight, Labelled.weight] at visited ⊢
    omega
  · simp [tasksWeight, MeasureTask.weight]

def Labelled.widths (labelled : Labelled) : WidthTable := measureAll [] [.visit labelled]

end Sexp

end NodeForms
