import NodeForms.Registry.Basic
import Mathlib.Data.List.Nodup
import Mathlib.Data.List.Perm.Subperm

/-!
# Names of anonymous types

A new anonymous type has a name that is not taken, since of more serial numbers in a row than there
are names one is free.
-/

namespace NodeForms

theorem naturalText_injective : Function.Injective naturalText := by
  intro first second same
  have digits : Nat.toDigits 10 first = Nat.toDigits 10 second := String.ofList_injective same
  calc
    first = Nat.ofDigitChars 10 (Nat.toDigits 10 first) 0 := Nat.ofDigitChars_ten_toDigits.symm
    _ = Nat.ofDigitChars 10 (Nat.toDigits 10 second) 0 := by rw [digits]
    _ = second := Nat.ofDigitChars_ten_toDigits

theorem anonymousName_injective : Function.Injective anonymousName := by
  intro first second same
  exact naturalText_injective ((String.append_right_inj _).mp same)

namespace Registry

theorem anonymousName_mem_of_freeSerial {taken : List String} {count serial : Nat}
    (isTaken : anonymousName (freeSerial taken count serial) ∈ taken) :
    ∀ offset ≤ count, anonymousName (serial + offset) ∈ taken := by
  induction count generalizing serial with
  | zero =>
      intro offset bound
      obtain rfl := Nat.le_zero.mp bound
      exact isTaken
  | succ count inductionHypothesis =>
      rw [freeSerial] at isTaken
      split at isTaken
      case isFalse free => exact absurd isTaken free
      case isTrue first =>
        intro offset bound
        cases offset with
        | zero => exact first
        | succ offset =>
            have later := inductionHypothesis isTaken offset (Nat.le_of_succ_le_succ bound)
            rwa [Nat.add_right_comm] at later

theorem anonymousName_freeSerial_not_mem (taken : List String) (serial : Nat) :
    anonymousName (freeSerial taken taken.length serial) ∉ taken := by
  intro isTaken
  have allTaken := anonymousName_mem_of_freeSerial isTaken
  let names := (List.range (taken.length + 1)).map fun offset => anonymousName (serial + offset)
  have distinct : names.Nodup :=
    List.nodup_range.map fun _ _ same => Nat.add_left_cancel (anonymousName_injective same)
  have inside : names ⊆ taken := by
    intro name member
    obtain ⟨offset, bound, rfl⟩ := List.mem_map.mp member
    exact allTaken offset (Nat.le_of_lt_succ (List.mem_range.mp bound))
  have tooMany : names.length ≤ taken.length := (distinct.subperm inside).length_le
  exact absurd tooMany (by simp [names])

theorem anonymousName_nextSerial_not_mem (registry : Registry) (given : List String) :
    anonymousName (registry.nextSerial given) ∉ registry.names ∧
      anonymousName (registry.nextSerial given) ∉ given := by
  have free := anonymousName_freeSerial_not_mem (registry.names ++ given)
    (firstSerial + registry.size)
  rwa [List.mem_append, not_or] at free

end Registry

end NodeForms
