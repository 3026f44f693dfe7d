import NodeForms.Proofs.Sexp.Notation
import NodeForms.Proofs.Sexp.Widths

/-!
# Layouts spell values

Whatever layout a writer chooses, it spells the value: the compact form puts one space
between elements, the pretty form a space or a line end with its indentation.
-/

namespace NodeForms

namespace Sexp

theorem isGap_space : IsGap " ".toList := by
  refine ⟨by decide, ?_⟩
  intro c member
  obtain rfl : c = ' ' := by simpa using member
  decide

theorem isGap_lineStart (options : LayoutOptions) (level : Nat) :
    IsGap (options.lineStart level).toList := by
  rw [LayoutOptions.lineStart, String.toList_ofList]
  refine ⟨by simp, ?_⟩
  intro c member
  rcases List.mem_cons.mp member with rfl | space
  · decide
  · rw [List.eq_of_mem_replicate space]
    decide

mutual
theorem spelled_flatText :
    (value : Sexp) → value.isComplete = true → Spelled value (flatText value).toList
  | .atom _, complete | .int _, complete | .text _, complete => .scalar rfl complete
  | .foreign _, complete => by simp [isComplete] at complete
  | .seq [], _ => .empty
  | .seq (item :: items), complete => by
      rw [isComplete, itemsComplete, Bool.and_eq_true] at complete
      rw [toList_flatText_cons]
      exact .seq (spelled_flatText item complete.1) (spelledRest_flatRest items complete.2)
theorem spelledRest_flatRest :
    (items : List Sexp) → itemsComplete items = true →
      SpelledRest items (flatRest items).toList
  | [], _ => .nil
  | item :: items, complete => by
      rw [itemsComplete, Bool.and_eq_true] at complete
      rw [toList_flatRest_cons]
      exact .cons isGap_space (spelled_flatText item complete.1)
        (spelledRest_flatRest items complete.2)
end

mutual
/-- The pretty text of a value spells it, wherever lists are broken. -/
theorem spelled_laidOut (options : LayoutOptions) :
    (value : Sexp) → value.isComplete = true → ∀ level : Nat,
      Spelled value (laidOut options level value).toList
  | .atom name, complete, _ | .int number, complete, _ | .text content, complete, _ => by
      rw [laidOut_of_fitsLine rfl, compact_scalar rfl]
      exact .scalar rfl complete
  | .foreign _, complete, _ => by simp [isComplete] at complete
  | .seq [], _, _ => by
      rw [laidOut_of_fitsLine rfl, compact_eq_flatText]
      exact .empty
  | .seq (item :: items), complete, level => by
      by_cases fits : options.fitsLine (.seq (item :: items)) level = true
      · rw [laidOut_of_fitsLine fits, compact_eq_flatText]
        exact spelled_flatText _ complete
      · rw [isComplete, itemsComplete, Bool.and_eq_true] at complete
        rw [toList_laidOut_cons fits]
        exact .seq (spelled_laidOut options item complete.1 (level + 1))
          (spelledRest_laidOutRest options items complete.2 (level + 1))
theorem spelledRest_laidOutRest (options : LayoutOptions) :
    (items : List Sexp) → itemsComplete items = true → ∀ level : Nat,
      SpelledRest items (laidOutRest options level items).toList
  | [], _, _ => .nil
  | item :: items, complete, level => by
      rw [itemsComplete, Bool.and_eq_true] at complete
      rw [toList_laidOutRest_cons]
      exact .cons (isGap_lineStart options level) (spelled_laidOut options item complete.1 level)
        (spelledRest_laidOutRest options items complete.2 level)
end

theorem spelled_render {value : Sexp} (complete : value.isComplete = true)
    (layout : Option LayoutOptions) : Spelled value (value.render layout).toList := by
  cases layout with
  | none =>
      rw [render, compact_eq_flatText]
      exact spelled_flatText value complete
  | some options =>
      rw [render, pretty_eq_laidOut]
      exact spelled_laidOut options value complete 0

end Sexp

end NodeForms
