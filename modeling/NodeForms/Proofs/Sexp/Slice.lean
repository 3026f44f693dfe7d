import NodeForms.Sexp.Slice
import Mathlib.Data.List.Basic

/-!
# Parts of sequences as lists

A slice that advances by one is a part of the list as it stands, and one that goes back through all
of it is the list in reverse. To count a position from the end is to count it in the reverse.
-/

namespace NodeForms

variable {α : Type}

theorem elementAt_back (items : List α) (index : Nat) :
    elementAt items (-(index + 1 : Int)) = elementAt items.reverse index := by
  have negative : -(index + 1 : Int) < 0 := by omega
  have positive : ¬(index : Int) < 0 := by omega
  simp only [elementAt, if_pos negative, if_neg positive, Int.toNat_natCast]
  by_cases inside : index < items.length
  · have place : (-(index + 1 : Int) + items.length).toNat = items.length - 1 - index := by omega
    rw [if_neg (by omega), place, List.getElem?_reverse inside]
  · rw [if_pos (by omega), List.getElem?_eq_none (by simpa using inside)]

theorem filterMap_range'_getElem? (items : List α) (start count : Nat) :
    (List.range' start count).filterMap (fun index => items[index]?) =
      (items.drop start).take count := by
  induction count generalizing start with
  | zero => simp
  | succ count inductionHypothesis =>
      rw [List.range'_succ]
      by_cases inside : start < items.length
      · rw [List.filterMap_cons_some (List.getElem?_eq_getElem inside), inductionHypothesis,
          List.drop_eq_getElem_cons inside, List.take_succ_cons]
      · rw [List.filterMap_cons_none (List.getElem?_eq_none (Nat.le_of_not_lt inside)),
          inductionHypothesis, List.drop_eq_nil_of_le (by omega),
          List.drop_eq_nil_of_le (by omega)]
        simp

theorem stepPositions_one (stop : Nat) {fuel start : Nat} (enough : stop - start ≤ fuel) :
    stepPositions 1 stop fuel start = List.range' start (stop - start) := by
  induction fuel generalizing start with
  | zero =>
      rw [Nat.le_zero.mp enough]
      rfl
  | succ fuel inductionHypothesis =>
      rw [stepPositions]
      by_cases before : start < stop
      · have next : (start : Int) + 1 = (start + 1 : Nat) := rfl
        rw [if_pos (by omega), next, inductionHypothesis (by omega), Int.toNat_natCast,
          show stop - start = stop - (start + 1) + 1 by omega, List.range'_succ]
      · rw [if_neg (by omega), show stop - start = 0 by omega]
        rfl

theorem stepPositions_back (fuel : Nat) :
    stepPositions (-1) (-1) fuel (fuel - 1 : Int) = (List.range fuel).reverse := by
  induction fuel with
  | zero => rfl
  | succ fuel inductionHypothesis =>
      have start : ((fuel + 1 : Nat) - 1 : Int) = fuel := by omega
      have next : (fuel : Int) + -1 = fuel - 1 := rfl
      rw [stepPositions, start, if_pos (by omega), next, inductionHypothesis, List.range_succ,
        List.reverse_concat, Int.toNat_natCast]

theorem exists_clampBound_eq (length : Nat) (bound : Int) :
    ∃ place : Nat, place ≤ length ∧ clampBound length false bound = place := by
  have notNegative : 0 ≤ clampBound length false bound := by
    unfold clampBound
    simp only [Bool.false_eq_true, if_false]
    omega
  have notBeyond : clampBound length false bound ≤ length := by
    unfold clampBound
    simp only [Bool.false_eq_true, if_false]
    omega
  exact ⟨(clampBound length false bound).toNat, by omega, by omega⟩

theorem slice_one (items : List α) (start stop : Int) :
    slice items (some start) (some stop) 1 =
      .ok ((items.take (clampBound items.length false stop).toNat).drop
        (clampBound items.length false start).toNat) := by
  obtain ⟨first, -, isFirst⟩ := exists_clampBound_eq items.length start
  obtain ⟨last, bounded, isLast⟩ := exists_clampBound_eq items.length stop
  have forward : decide ((1 : Int) < 0) = false := rfl
  simp only [slice, forward, isFirst, isLast, Int.toNat_natCast]
  rw [if_neg (by decide), stepPositions_one last (by omega), filterMap_range'_getElem?,
    List.drop_take]

theorem slice_back (items : List α) : slice items none none (-1) = .ok items.reverse := by
  have backward : decide ((-1 : Int) < 0) = true := rfl
  simp only [slice, backward, if_true]
  rw [if_neg (by decide), stepPositions_back, List.filterMap_reverse, List.range_eq_range',
    filterMap_range'_getElem?, List.drop_zero, List.take_length]

end NodeForms
