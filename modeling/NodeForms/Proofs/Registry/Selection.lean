import NodeForms.CommandLine.Dump
import NodeForms.Proofs.Registry.RoundTrip

/-!
# Selected types

Names select the types that they lead to, each as often as it is named, and no names select every
type. The selected types of a document that was loaded are types that were read.
-/

namespace NodeForms

namespace Registry

/-- The types that names lead to, one for each; without names, all types are selected. -/
def Selects (registry : Registry) (names : List String) (types : List HostType) : Prop :=
  if names = [] then types = registry.types
  else List.Forall₂ (fun name type => registry.find? name = some type) names types

variable {registry : Registry} {names : List String} {types : List HostType}

theorem get_eq_ok_iff {name : String} {type : HostType} :
    registry.get name = .ok type ↔ registry.find? name = some type := by
  unfold get
  cases registry.find? name <;> simp

theorem selection_eq_ok_iff :
    registry.selection names = .ok types ↔ registry.Selects names types := by
  unfold Selects
  cases names with
  | nil => simp [selection, eq_comm]
  | cons name names =>
      simp only [selection, mapM_eq_ok_iff, get_eq_ok_iff, List.cons_ne_nil, if_false]

theorem selects_nil : registry.Selects [] registry.types := by
  rw [Selects, if_pos rfl]

theorem Selects.unique {others : List HostType} (selects : registry.Selects names types)
    (selectsOthers : registry.Selects names others) : types = others := by
  rw [← selection_eq_ok_iff] at selects selectsOthers
  exact Except.ok.inj (selects.symm.trans selectsOthers)

theorem Selects.mem (selects : registry.Selects names types) {type : HostType}
    (isSelected : type ∈ types) : type ∈ registry.types := by
  unfold Selects at selects
  split at selects
  · exact selects ▸ isSelected
  · obtain ⟨name, -, found⟩ := exists_left_of_forall₂ selects isSelected
    exact List.mem_of_find?_eq_some found

theorem contains_iff_exists_find? {name : String} :
    registry.contains name = true ↔ ∃ type, registry.find? name = some type := by
  rw [contains, ← Option.isSome_iff_exists, find?, List.find?_isSome, List.any_eq_true]

/-- Types are selected exactly if each name leads to one. -/
theorem exists_selects_iff :
    (∃ types, registry.Selects names types) ↔ ∀ name ∈ names, registry.contains name = true := by
  simp only [contains_iff_exists_find?]
  unfold Selects
  split
  case isTrue unnamed => simp [unnamed]
  case isFalse =>
    constructor
    · rintro ⟨types, leads⟩ name isName
      obtain ⟨type, -, found⟩ := exists_right_of_forall₂ leads isName
      exact ⟨type, found⟩
    · intro found
      choose! typeOf isFound using found
      refine ⟨names.map typeOf, ?_⟩
      rw [List.forall₂_map_right_iff, List.forall₂_same]
      exact isFound

theorem isRead_of_load {readYaml : String → Except Yaml.Fault Data} {files : Files} {path : String}
    (loaded : (load readYaml files path).result = .ok registry) : registry.IsRead := by
  unfold load at loaded
  cases found : files.readText path with
  | error fault =>
      rw [found] at loaded
      cases loaded
  | ok text =>
      simp only [found, ofYaml] at loaded
      cases parsed : readYaml text with
      | error fault =>
          rw [parsed] at loaded
          cases loaded
      | ok content =>
          simp only [parsed] at loaded
          cases read : (decode content).result with
          | error error =>
              rw [read] at loaded
              cases loaded
          | ok other =>
              rw [read] at loaded
              obtain rfl := Except.ok.inj loaded
              exact isRead_of_decode read

end Registry

end NodeForms
