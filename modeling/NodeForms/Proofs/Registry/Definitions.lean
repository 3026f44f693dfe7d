import NodeForms.Proofs.Registry.Names
import Mathlib.Data.List.Induction

/-!
# Histories of definitions

The methods of a type are what is left of the definitions made on it. A name stands for the body
that the last definition of this name gave it, each name has one method, and if no name is defined
twice the methods are the definitions in their order.
-/

namespace NodeForms

/-- The body that the last definition of a name gives it, if there is one. -/
def lastBody? (definitions : List (String × Value)) (name : String) : Option Value :=
  definitions.reverse.lookup name

theorem lookup_method_cons (first name : String) (body : Value)
    (methods : List (String × Value)) :
    List.lookup name ((first, body) :: methods) =
      if name = first then some body else methods.lookup name := by
  rw [List.lookup_cons]
  by_cases same : name = first
  · rw [beq_iff_eq.mpr same, if_pos same]
  · rw [beq_eq_false_iff_ne.mpr same, if_neg same]

theorem lookup_placeBy (first name : String) (body : Value) (methods : List (String × Value)) :
    (placeBy Prod.fst (first, body) methods).lookup name =
      if name = first then some body else methods.lookup name := by
  induction methods with
  | nil => exact lookup_method_cons first name body []
  | cons method methods inductionHypothesis =>
      obtain ⟨other, old⟩ := method
      rw [placeBy, lookup_method_cons other]
      by_cases taken : other = first
      · rw [if_pos taken, lookup_method_cons, taken]
        split <;> rfl
      · rw [if_neg taken, lookup_method_cons, inductionHypothesis]
        by_cases same : name = other
        · rw [if_pos same, if_pos same, if_neg (same ▸ taken)]
        · rw [if_neg same, if_neg same]

theorem mem_names_iff_isSome_lookup {methods : List (String × Value)} {name : String} :
    name ∈ methods.map Prod.fst ↔ (methods.lookup name).isSome = true := by
  rw [List.lookup_isSome_iff, List.mem_map]
  exact exists_congr fun method => and_congr_right fun _ => by rw [beq_iff_eq, eq_comm]

theorem lookup_of_mem {methods : List (String × Value)} {name : String} {body : Value}
    (distinct : (methods.map Prod.fst).Nodup) (isMember : (name, body) ∈ methods) :
    methods.lookup name = some body := by
  induction methods with
  | nil => cases isMember
  | cons method methods inductionHypothesis =>
      obtain ⟨first, old⟩ := method
      rw [List.map_cons, List.nodup_cons] at distinct
      rw [lookup_method_cons]
      rcases List.mem_cons.mp isMember with same | later
      · cases same
        rw [if_pos rfl]
      · have different : name ≠ first := by
          rintro rfl
          exact distinct.1 (List.mem_map.mpr ⟨_, later, rfl⟩)
        rw [if_neg different, inductionHypothesis distinct.2 later]

/-- Among distinct names the last method with a name is the first one. -/
theorem lastBody?_of_nodup {methods : List (String × Value)} (name : String)
    (distinct : (methods.map Prod.fst).Nodup) : lastBody? methods name = methods.lookup name := by
  induction methods with
  | nil => rfl
  | cons method methods inductionHypothesis =>
      obtain ⟨first, body⟩ := method
      rw [List.map_cons, List.nodup_cons] at distinct
      have others : methods.reverse.lookup name = methods.lookup name :=
        inductionHypothesis distinct.2
      rw [lastBody?, List.reverse_cons, List.lookup_append, others, lookup_method_cons,
        lookup_method_cons]
      by_cases same : name = first
      · have noOther : methods.lookup name = none := by
          rw [← Option.not_isSome_iff_eq_none, ← mem_names_iff_isSome_lookup, same]
          exact distinct.1
        rw [noOther, if_pos same, if_pos same]
        rfl
      · rw [if_neg same, if_neg same]
        exact Option.or_none

namespace HostType

/-- A type after methods are defined on it, one after the other. -/
def defineAll (type : HostType) (definitions : List (String × Value)) : HostType :=
  definitions.foldl (fun type definition => type.define definition.1 definition.2) type

variable {type : HostType} {definitions : List (String × Value)}

theorem defineAll_append (type : HostType) (first second : List (String × Value)) :
    type.defineAll (first ++ second) = (type.defineAll first).defineAll second :=
  List.foldl_append

theorem defineAll_eq (type : HostType) (definitions : List (String × Value)) :
    type.defineAll definitions =
      { type with
        methods := (type.defineAll definitions).methods
        distinct := (type.defineAll definitions).distinct } := by
  induction definitions generalizing type with
  | nil => rfl
  | cons definition definitions inductionHypothesis =>
      exact inductionHypothesis (type.define definition.1 definition.2)

theorem lookup_defineAll (name : String) :
    (type.defineAll definitions).methods.lookup name =
      lastBody? (type.methods ++ definitions) name := by
  induction definitions using List.reverseRecOn with
  | nil => rw [List.append_nil, lastBody?_of_nodup name type.distinct]; rfl
  | append_singleton definitions definition inductionHypothesis =>
      obtain ⟨other, body⟩ := definition
      have defined : (type.defineAll (definitions ++ [(other, body)])).methods =
          placeBy Prod.fst (other, body) (type.defineAll definitions).methods := by
        rw [defineAll_append]
        rfl
      have last : lastBody? (type.methods ++ (definitions ++ [(other, body)])) name =
          if name = other then some body
          else lastBody? (type.methods ++ definitions) name := by
        rw [lastBody?, ← List.append_assoc, List.reverse_concat, lookup_method_cons]
        rfl
      rw [defined, last, lookup_placeBy, inductionHypothesis]

theorem methods_define_of_not_mem {name : String} {body : Value}
    (isNew : name ∉ type.methodNames) :
    (type.define name body).methods = type.methods ++ [(name, body)] :=
  placeBy_of_not_mem isNew

theorem methods_defineAll_of_nodup
    (distinct : (type.methodNames ++ definitions.map Prod.fst).Nodup) :
    (type.defineAll definitions).methods = type.methods ++ definitions := by
  induction definitions generalizing type with
  | nil => exact (List.append_nil _).symm
  | cons definition definitions inductionHypothesis =>
      obtain ⟨name, body⟩ := definition
      have isNew : name ∉ type.methodNames := by
        rw [List.map_cons, List.nodup_middle, List.nodup_cons, List.mem_append] at distinct
        exact fun isTaken => distinct.1 (.inl isTaken)
      have added : (type.define name body).methods = type.methods ++ [(name, body)] :=
        methods_define_of_not_mem isNew
      have later : ((type.define name body).methodNames ++ definitions.map Prod.fst).Nodup := by
        simpa [added, methodNames] using distinct
      calc
        (type.defineAll ((name, body) :: definitions)).methods =
            (type.define name body).methods ++ definitions := inductionHypothesis later
        _ = type.methods ++ (name, body) :: definitions := by
          rw [added, List.append_assoc]
          rfl

end HostType

end NodeForms
