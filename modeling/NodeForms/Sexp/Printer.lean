import NodeForms.Sexp.Widths

/-!
# Writing S-expressions

The pretty form breaks every list that does not fit the line: first the widths of all lists
are measured, then a stack decides list by list. The elements of a broken list stand on
lines of their own, the first one excepted.
-/

namespace NodeForms

namespace Sexp

/-- How pretty texts are laid out. -/
structure LayoutOptions where
  indent : Int := 2
  width : Int := 78
deriving DecidableEq, Repr, Inhabited

/-- Something left to write in the pretty form. -/
inductive PrettyPiece where
  | word (text : String)
  | value (labelled : Labelled) (level : Nat)

def PrettyPiece.weight : PrettyPiece → Nat
  | .word _ => 1
  | .value labelled _ => labelled.weight

def prettyWeight : List PrettyPiece → Nat
  | [] => 0
  | piece :: pieces => piece.weight + prettyWeight pieces

namespace LayoutOptions

def lineStart (options : LayoutOptions) (level : Nat) : String :=
  String.ofList ('\n' :: List.replicate (level * options.indent).toNat ' ')

def keepsLine (options : LayoutOptions) (table : WidthTable) (labelled : Labelled)
    (level : Nat) : Bool :=
  decide (labelled.items.length < 2)
    || decide (level * options.indent + table.width labelled ≤ options.width)

end LayoutOptions

def brokenItems (lineStart : String) (level : Nat) (items : List Labelled) :
    List PrettyPiece :=
  items.flatMap fun item => [.word lineStart, .value item level]

/-- A broken list: its first element after the parenthesis, each other on its own line. -/
def brokenSeq (lineStart : String) (level : Nat) : List Labelled → List PrettyPiece
  | [] => [.word "(", .word ")"]
  | item :: items =>
      .word "(" :: .value item level :: (brokenItems lineStart level items ++ [.word ")"])

theorem prettyWeight_append (first second : List PrettyPiece) :
    prettyWeight (first ++ second) = prettyWeight first + prettyWeight second := by
  induction first with
  | nil => simp [prettyWeight]
  | cons piece pieces ih => simp [prettyWeight, ih, Nat.add_assoc]

theorem prettyWeight_brokenItems (lineStart : String) (level : Nat) (items : List Labelled) :
    prettyWeight (brokenItems lineStart level items) = Labelled.itemsWeight items := by
  induction items with
  | nil => rfl
  | cons item items ih =>
      simp only [brokenItems, List.flatMap_cons, prettyWeight_append] at ih ⊢
      rw [ih]
      simp [prettyWeight, PrettyPiece.weight, Labelled.itemsWeight]
      omega

theorem prettyWeight_brokenSeq (lineStart : String) (level : Nat) (labelled : Labelled) :
    prettyWeight (brokenSeq lineStart level labelled.items) < labelled.weight := by
  cases labelled with
  | scalar value noSeq =>
      simp [brokenSeq, prettyWeight, PrettyPiece.weight, Labelled.weight, Labelled.items]
  | seq label items =>
      cases items with
      | nil =>
          simp [brokenSeq, prettyWeight, PrettyPiece.weight, Labelled.weight, Labelled.items,
            Labelled.itemsWeight]
      | cons item items =>
          have broken := prettyWeight_brokenItems lineStart level items
          simp [brokenSeq, prettyWeight, prettyWeight_append, PrettyPiece.weight,
            Labelled.weight, Labelled.items, Labelled.itemsWeight, broken]
          omega

def writePretty (options : LayoutOptions) (table : WidthTable) (out : String) :
    List PrettyPiece → String
  | [] => out
  | .word ready :: rest => writePretty options table (out ++ ready) rest
  | .value labelled level :: rest =>
      if options.keepsLine table labelled level then
        writePretty options table (out ++ compact labelled.value) rest
      else
        writePretty options table out
          (brokenSeq (options.lineStart (level + 1)) (level + 1) labelled.items ++ rest)
termination_by pieces => prettyWeight pieces
decreasing_by
  · simp [prettyWeight, PrettyPiece.weight]
  · have positive := labelled.weight_pos
    simp only [prettyWeight, PrettyPiece.weight]
    omega
  · have broken := prettyWeight_brokenSeq (options.lineStart (level + 1)) (level + 1) labelled
    rw [prettyWeight_append]
    simp only [prettyWeight, PrettyPiece.weight] at broken ⊢
    omega

/-- The pretty text of a value whose lists have labels. -/
def Labelled.pretty (options : LayoutOptions) (labelled : Labelled) : String :=
  writePretty options labelled.widths "" [.value labelled 0]

def pretty (options : LayoutOptions) (value : Sexp) : String :=
  value.labelled.pretty options

def render (layout : Option LayoutOptions) (value : Sexp) : String :=
  match layout with
  | none => value.compact
  | some options => value.pretty options

/-- Why a form has no text. -/
inductive WriteFault where
  | unwritable (shown : String)
  | tooManyDigits
deriving DecidableEq, Repr

def unwritableMessage (shown : String) : String := "Not an S-expression value: " ++ shown

def writeFault? (limit : Option Nat) : Sexp → Option WriteFault
  | .int value => if exceedsDigits limit (integerChars value) then some .tooManyDigits else none
  | .foreign (.unwritable shown) => some (.unwritable shown)
  | _ => none

/-- What keeps an element of a list from being measured. A loose text has no width, though it
would be written. -/
def measureFault? (limit : Option Nat) : Sexp → Option WriteFault
  | .foreign (.loose content) => some (.unwritable (quoted content))
  | value => value.writeFault? limit

mutual
def scalars : Sexp → List Sexp
  | .seq items => itemScalars items
  | value => [value]
def itemScalars : List Sexp → List Sexp
  | [] => []
  | item :: items => scalars item ++ itemScalars items
end

mutual
/-- The elements of lists that are no lists, in the order in which they are measured: inner lists
before the lists around them, and later lists before earlier ones. -/
def measured : Sexp → List Sexp
  | .seq items => itemsMeasured items ++ items.filter fun item => !item.isSeq
  | _ => []
def itemsMeasured : List Sexp → List Sexp
  | [] => []
  | item :: items => itemsMeasured items ++ measured item
end

/-- The first fault that the writer meets. In the pretty form all lists are measured before
anything is written. -/
def firstFault? (limit : Option Nat) (layout : Option LayoutOptions) (value : Sexp) :
    Option WriteFault :=
  let written := value.scalars.findSome? (writeFault? limit)
  match layout with
  | none => written
  | some _ => (value.measured.findSome? (measureFault? limit)).or written

/-- The text of a form, compact or pretty, if integers are converted up to a limit of digits. -/
def writeWithin (limit : Option Nat) (layout : Option LayoutOptions) (value : Sexp) :
    Except WriteFault String :=
  match value.firstFault? limit layout with
  | some fault => .error fault
  | none => .ok (value.render layout)

/-- The text of a form if all integers are converted. -/
def write (layout : Option LayoutOptions) (value : Sexp) : Except WriteFault String :=
  value.writeWithin none layout

/-- The plain text of a value: a scalar without quotes, a sequence in the compact form. -/
def plainText : Sexp → String
  | .atom name => name
  | .int value => integerText value
  | .text value => value
  | .foreign what => what.text
  | .seq items => (Sexp.seq items).compact

end Sexp

end NodeForms
