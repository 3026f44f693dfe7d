/-!
# Similar words

How much two words have in common is found by taking the longest block that both hold,
the leftmost one of several, and then looking the same way at what is left of it and what
is right of it. Two words are similar if the characters found make up at least three
fifths of both together.
-/

namespace NodeForms

def commonStart : List Char → List Char → Nat
  | a :: as, b :: bs => if a = b then commonStart as bs + 1 else 0
  | _, _ => 0

/-- A block that two words have in common. -/
structure CommonBlock where
  first : Nat := 0
  second : Nat := 0
  size : Nat := 0

namespace CommonBlock

def longer (first second : CommonBlock) : CommonBlock :=
  if first.size < second.size then second else first

def longestAt (position : Nat) (a b : List Char) : CommonBlock :=
  (List.range b.length).foldl
    (fun block other => block.longer ⟨position, other, commonStart a (b.drop other)⟩) {}

def longest (a b : List Char) : CommonBlock :=
  (List.range a.length).foldl
    (fun block position => block.longer (longestAt position (a.drop position) b)) {}

end CommonBlock

/-- How many characters two words have in common, found in at most so many steps inward. -/
def commonWithin : Nat → List Char → List Char → Nat
  | 0, _, _ => 0
  | steps + 1, a, b =>
      let block := CommonBlock.longest a b
      if block.size = 0 then 0
      else
        block.size + commonWithin steps (a.take block.first) (b.take block.second)
          + commonWithin steps (a.drop (block.first + block.size))
              (b.drop (block.second + block.size))

/-- How many characters two words have in common; each step inward leaves less of the first
word. -/
def commonCharacters (a b : List Char) : Nat := commonWithin a.length a b

/-- A word that is compared with another one. -/
structure Resemblance where
  word : String
  common : Nat
  total : Nat

namespace Resemblance

def between (word other : String) : Resemblance :=
  ⟨word, commonCharacters word.toList other.toList, word.length + other.length⟩

def isClose (resemblance : Resemblance) : Bool := 3 * resemblance.total ≤ 10 * resemblance.common

/-- Whether one resemblance goes before another: the closer one does, and of equally close
ones the one whose word comes later. -/
def goesBefore (first second : Resemblance) : Bool :=
  second.common * first.total < first.common * second.total
    || (second.common * first.total == first.common * second.total
      && decide (second.word ≤ first.word))

end Resemblance

/-- The words that are similar to another one, the closest first, three at most. -/
def similarWords (words : List String) (other : String) : List String :=
  let close := (words.map fun word => Resemblance.between word other).filter
    Resemblance.isClose
  ((close.mergeSort Resemblance.goesBefore).take 3).map Resemblance.word

end NodeForms
