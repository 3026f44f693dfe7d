import NodeForms.Sexp.Basic
import NodeForms.Text.Blank

/-!
# The compact form of S-expressions

Sequences stand in parentheses with single spaces between their elements. An atom is
written as it is when that reads back as an atom, otherwise quoted after a colon. What is
left to write is kept on a stack, so no depth of nesting is too deep.
-/

namespace NodeForms

namespace Sexp

def escapeChar : Char → List Char
  | '\\' => ['\\', '\\']
  | '"' => ['\\', '"']
  | '\n' => ['\\', 'n']
  | '\t' => ['\\', 't']
  | '\r' => ['\\', 'r']
  | c => [c]

def quoteChars (chars : List Char) : List Char :=
  '"' :: (chars.flatMap escapeChar ++ ['"'])

def isBareChar (c : Char) : Bool := !isBlank c && c != '(' && c != ')' && c != '"'

/-- Whether characters are an optional minus sign and a run of digits. -/
def isIntegerRun : List Char → Bool
  | '-' :: digits => !digits.isEmpty && digits.all Char.isDigit
  | digits => !digits.isEmpty && digits.all Char.isDigit

def isBareAtom (chars : List Char) : Bool :=
  !chars.isEmpty && chars.all isBareChar && !isIntegerRun chars

def atomChars (chars : List Char) : List Char :=
  if isBareAtom chars then chars else ':' :: quoteChars chars

/-- The text of a value that is no sequence. -/
def scalarText : Sexp → String
  | .atom name => String.ofList (atomChars name.toList)
  | .int value => integerText value
  | .text value => String.ofList (quoteChars value.toList)
  | .foreign what => what.text
  | .seq _ => ""

/-- Something left to write: a ready word or a value. -/
inductive Piece where
  | word (text : String)
  | value (value : Sexp)

mutual
/-- An upper bound of the steps a value takes to write. -/
def weight : Sexp → Nat
  | .seq items => 3 + itemsWeight items
  | _ => 1
def itemsWeight : List Sexp → Nat
  | [] => 0
  | item :: items => weight item + 1 + itemsWeight items
end

theorem weight_pos (form : Sexp) : 0 < form.weight := by
  cases form <;> simp only [weight] <;> omega

def Piece.weight : Piece → Nat
  | .word _ => 1
  | .value form => form.weight

def stackWeight : List Piece → Nat
  | [] => 0
  | piece :: pieces => piece.weight + stackWeight pieces

def spacedItems (items : List Sexp) : List Piece :=
  items.flatMap fun item => [.word " ", .value item]

def openedSeq : List Sexp → List Piece
  | [] => [.word "(", .word ")"]
  | item :: items => .word "(" :: .value item :: (spacedItems items ++ [.word ")"])

theorem stackWeight_append (first second : List Piece) :
    stackWeight (first ++ second) = stackWeight first + stackWeight second := by
  induction first with
  | nil => simp [stackWeight]
  | cons piece pieces ih => simp [stackWeight, ih, Nat.add_assoc]

theorem stackWeight_spacedItems (items : List Sexp) :
    stackWeight (spacedItems items) = itemsWeight items := by
  induction items with
  | nil => rfl
  | cons item items ih =>
      simp only [spacedItems, List.flatMap_cons, stackWeight_append] at ih ⊢
      rw [ih]
      simp [stackWeight, Piece.weight, itemsWeight]
      omega

theorem stackWeight_openedSeq (items : List Sexp) :
    stackWeight (openedSeq items) < (Sexp.seq items).weight := by
  cases items with
  | nil => simp [openedSeq, stackWeight, Piece.weight, weight, itemsWeight]
  | cons item items =>
      have spaced := stackWeight_spacedItems items
      simp [openedSeq, stackWeight, stackWeight_append, Piece.weight, weight, itemsWeight, spaced]
      omega

def writeCompact (out : String) : List Piece → String
  | [] => out
  | .word ready :: rest => writeCompact (out ++ ready) rest
  | .value (.seq items) :: rest => writeCompact out (openedSeq items ++ rest)
  | .value scalar :: rest => writeCompact (out ++ scalarText scalar) rest
termination_by pieces => stackWeight pieces
decreasing_by
  · simp [stackWeight, Piece.weight]
  · have opened := stackWeight_openedSeq items
    rw [stackWeight_append]
    simp only [stackWeight, Piece.weight] at opened ⊢
    omega
  · have positive := weight_pos scalar
    simp only [stackWeight, Piece.weight]
    omega

def compact (value : Sexp) : String := writeCompact "" [.value value]

end Sexp

end NodeForms
