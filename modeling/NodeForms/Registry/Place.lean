/-!
# Placing by name

An element takes the place of the one that has its name, or comes last. So no name occurs twice
among elements that were placed one after the other.
-/

namespace NodeForms

variable {α : Type} {name : α → String} {item : α} {items : List α}

/-- Elements after one is put in the place of the first that has its name, or at the end. -/
def placeBy (name : α → String) (item : α) : List α → List α
  | [] => [item]
  | other :: rest =>
      if name other = name item then item :: rest else other :: placeBy name item rest

theorem placeBy_of_not_mem (isNew : name item ∉ items.map name) :
    placeBy name item items = items ++ [item] := by
  induction items with
  | nil => rfl
  | cons other items inductionHypothesis =>
      rw [List.map_cons, List.mem_cons, not_or] at isNew
      rw [placeBy, if_neg fun same => isNew.1 same.symm, inductionHypothesis isNew.2]
      rfl

theorem map_placeBy_of_mem (isTaken : name item ∈ items.map name) :
    (placeBy name item items).map name = items.map name := by
  induction items with
  | nil => cases isTaken
  | cons other items inductionHypothesis =>
      rw [placeBy]
      split
      case isTrue same => rw [List.map_cons, List.map_cons, same]
      case isFalse different =>
        have later : name item ∈ items.map name :=
          (List.mem_cons.mp isTaken).resolve_left fun same => different same.symm
        rw [List.map_cons, List.map_cons, inductionHypothesis later]

theorem nodup_placeBy (distinct : (items.map name).Nodup) :
    ((placeBy name item items).map name).Nodup := by
  by_cases isTaken : name item ∈ items.map name
  · rwa [map_placeBy_of_mem isTaken]
  · rw [placeBy_of_not_mem isTaken, List.map_append, List.map_singleton, List.nodup_append]
    refine ⟨distinct, by simp, ?_⟩
    rintro other isName _ isItem rfl
    obtain rfl := List.mem_singleton.mp isItem
    exact isTaken isName

theorem mem_of_mem_placeBy {other : α} (member : other ∈ placeBy name item items) :
    other = item ∨ other ∈ items := by
  induction items with
  | nil => simpa [placeBy] using member
  | cons first items inductionHypothesis =>
      rw [placeBy] at member
      split at member
      case isTrue => exact (List.mem_cons.mp member).imp_right (List.mem_cons_of_mem _)
      case isFalse =>
        rcases List.mem_cons.mp member with rfl | later
        · exact .inr List.mem_cons_self
        · exact (inductionHypothesis later).imp_right (List.mem_cons_of_mem _)

end NodeForms
