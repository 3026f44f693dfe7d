import NodeForms.Proofs.Sexp.Acceptance
import NodeForms.Proofs.Sexp.RoundTrip
import NodeForms.Proofs.Sexp.Separators

/-!
# Reading what was written

The reader takes every spelling of a value back, so each written text reads back as the value it
was written for. Numbers are converted to and from their digits on the way, and there may be a
limit on how many digits are converted. The writer then has a text exactly for the values whose
integers fit the limit, and the tokens of such a text fit it as well.
-/

namespace NodeForms

namespace Sexp

mutual
theorem mem_tokens {token : Token} : (value : Sexp) → token ∈ value.tokens →
    token = .opening ∨ token = .closing ∨ ∃ scalar ∈ value.scalars, token = scalar.scalarToken
  | .atom _, member | .int _, member | .text _, member | .foreign _, member =>
      .inr (.inr ⟨_, List.mem_singleton.mpr rfl, List.mem_singleton.mp member⟩)
  | .seq items, member => by
      rw [tokens, List.mem_cons, List.mem_append, List.mem_singleton] at member
      rcases member with isOpening | inside | isClosing
      · exact .inl isOpening
      · exact mem_itemTokens items inside
      · exact .inr (.inl isClosing)
theorem mem_itemTokens {token : Token} : (items : List Sexp) → token ∈ itemTokens items →
    token = .opening ∨ token = .closing ∨
      ∃ scalar ∈ itemScalars items, token = scalar.scalarToken
  | item :: items, member => by
      rw [itemTokens, List.mem_append] at member
      rcases member with first | later
      · rcases mem_tokens item first with isOpening | isClosing | ⟨scalar, isScalar, same⟩
        · exact .inl isOpening
        · exact .inr (.inl isClosing)
        · exact .inr (.inr ⟨scalar, List.mem_append_left _ isScalar, same⟩)
      · rcases mem_itemTokens items later with isOpening | isClosing | ⟨scalar, isScalar, same⟩
        · exact .inl isOpening
        · exact .inr (.inl isClosing)
        · exact .inr (.inr ⟨scalar, List.mem_append_right _ isScalar, same⟩)
end

theorem exceedsDigits_scalarToken {limit : Option Nat} {scalar : Sexp}
    (exceeds : scalar.scalarToken.exceedsDigits limit = true) :
    ∃ number, scalar = .int number ∧ NodeForms.exceedsDigits limit (integerChars number) = true := by
  cases scalar with
  | int number =>
      rw [scalarToken, Token.exceedsDigits, isIntegerRun_integerChars, Bool.true_and] at exceeds
      exact ⟨number, rfl, exceeds⟩
  | atom name =>
      rw [scalarToken] at exceeds
      split at exceeds
      · rename_i isBare
        simp_all [Token.exceedsDigits, isBareAtom]
      · cases exceeds
  | _ => cases exceeds

theorem IntegersFit.tokens {limit : Option Nat} {value : Sexp} (fits : value.IntegersFit limit) :
    DigitsFit limit value.tokens := by
  rw [integersFit_iff] at fits
  refine digitsFit_iff.mpr fun token member => Bool.eq_false_iff.mpr fun exceeds => ?_
  rcases mem_tokens value member with rfl | rfl | ⟨scalar, isScalar, rfl⟩
  · cases exceeds
  · cases exceeds
  · obtain ⟨number, rfl, tooMany⟩ := exceedsDigits_scalarToken exceeds
    rw [fits number isScalar] at tooMany
    cases tooMany

theorem readWithin_render {limit : Option Nat} {value : Sexp} (complete : value.isComplete = true)
    (fits : value.IntegersFit limit) (layout : Option LayoutOptions) :
    readWithin limit (value.render layout) = .ok value := by
  obtain ⟨splits, denotes⟩ := (spelled_render complete layout).splits_tokens
  exact readWithin_eq_ok_iff.mpr ⟨_, splits, denotes, fits.tokens⟩

theorem not_integersFit_power {most : Nat} (positive : 0 < most) :
    ¬(int (Nat.pow 10 most)).IntegersFit (some most) := by
  intro fits
  have short := fits most rfl (Nat.pow 10 most) (List.mem_singleton.mpr rfl)
  rw [Int.natAbs_natCast, Nat.length_toDigits_le_iff (by decide) positive] at short
  exact Nat.lt_irrefl _ short

theorem writeWithin_power_ne {most : Nat} (positive : 0 < most) (layout : Option LayoutOptions)
    (text : String) : (int (Nat.pow 10 most)).writeWithin (some most) layout ≠ .ok text := by
  intro written
  have clear : (int (Nat.pow 10 most)).IsClear := isClear_of_isComplete rfl
  rw [(clear.writeWithin_eq _ layout).2 (not_integersFit_power positive)] at written
  cases written

end Sexp

end NodeForms
