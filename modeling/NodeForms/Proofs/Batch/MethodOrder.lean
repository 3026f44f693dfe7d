import NodeForms.Proofs.Batch.Isolation
import NodeForms.Proofs.Registry.Definitions

/-!
# The order of methods

The form of a type lists its methods in the order of their names, whatever the order in which they
were defined. Two types that look alike, and whose definitions end with the same body for each name,
come to the same: to the same form or the same error, with the same diagnostics.
-/

namespace NodeForms

theorem sortedTexts_congr {first second : List String} (same : first.Perm second) :
    sortedTexts first = sortedTexts second :=
  List.Perm.eq_of_pairwise (fun _ _ _ _ => le_antisymm) (sortedTexts_pairwise first)
    (sortedTexts_pairwise second)
    ((sortedTexts_perm first).trans (same.trans (sortedTexts_perm second).symm))

theorem sortedTexts_pairwise_lt {texts : List String} (distinct : texts.Nodup) :
    (sortedTexts texts).Pairwise fun first second => first < second := by
  have stillDistinct : (sortedTexts texts).Nodup := (sortedTexts_perm texts).nodup_iff.mpr distinct
  exact ((sortedTexts_pairwise texts).and stillDistinct).imp fun ⟨notAfter, different⟩ =>
    lt_of_le_of_ne notAfter different

namespace HostType

variable {first second : HostType}

theorem method?_eq (type : HostType) (name : String) :
    type.method? name = (type.methods.lookup name).bind fun body =>
      if body.isNull then none else some body := by
  unfold method?
  induction type.methods with
  | nil => rfl
  | cons method methods inductionHypothesis =>
      obtain ⟨other, body⟩ := method
      rw [lookup_method_cons, List.find?_cons]
      by_cases same : name = other
      · subst same
        simp
      · rw [if_neg same, ← inductionHypothesis, beq_eq_false_iff_ne.mpr (Ne.symm same)]

theorem displayName_of_header (alike : first.header = second.header) :
    first.displayName = second.displayName := by
  unfold header at alike
  split at alike <;> split at alike <;> simp_all

theorem methodForm_congr (options : SerializeOptions) {name : String}
    (shown : first.displayName = second.displayName)
    (found : first.method? name = second.method? name) :
    first.methodForm options name = second.methodForm options name := by
  unfold methodForm bodyForms methodOptions missingRecord
  rw [shown, found]

theorem form_congr (options : SerializeOptions) (alike : first.header = second.header)
    (same : ∀ name, first.methods.lookup name = second.methods.lookup name) :
    first.form options = second.form options := by
  have shown := displayName_of_header alike
  have names : first.methodNames.Perm second.methodNames := by
    refine (List.perm_ext_iff_of_nodup first.nodup_methodNames second.nodup_methodNames).mpr
      fun name => ?_
    rw [methodNames, methodNames, mem_names_iff_isSome_lookup, mem_names_iff_isSome_lookup,
      same name]
  have sorted : first.sortedMethodNames = second.sortedMethodNames := sortedTexts_congr names
  have methods (name : String) : first.methodForm options name = second.methodForm options name :=
    methodForm_congr options shown (by rw [method?_eq, method?_eq, same name])
  unfold form turnRecord
  simp only [alike, sorted, shown, methods]

theorem exists_defn_of_methodForm {options : SerializeOptions} {type : HostType} {name : String}
    {body : Value} {method : Sexp} (found : type.method? name = some body)
    (ok : (type.methodForm options name).result = .ok method) :
    ∃ forms, method = .seq (.atom "defn" :: .atom name :: forms) := by
  rw [methodForm_result found] at ok
  obtain ⟨forms, -, rfl⟩ := map_eq_ok.mp ok
  exact ⟨forms, rfl⟩

/-- What two types that look alike come to after definitions depends on the last body of each name
only. -/
theorem form_defineAll_congr (options : SerializeOptions) {type other : HostType}
    {first second : List (String × Value)} (alike : other.header = type.header)
    (same : ∀ name, lastBody? (type.methods ++ first) name =
      lastBody? (other.methods ++ second) name) :
    (type.defineAll first).form options = (other.defineAll second).form options := by
  have header (type : HostType) (definitions : List (String × Value)) :
      (type.defineAll definitions).header = type.header := by
    rw [defineAll_eq]
    rfl
  refine form_congr options (by rw [header, header, alike]) fun name => ?_
  rw [lookup_defineAll, lookup_defineAll, same name]

/-- The form of a type has after its header the forms of its methods, one for each, in the strict
order of their names; if there is none, the first method that fails in this order is the reason.
What two types that look alike come to, after whatever definitions on them, is the same if each
name ends with the same body in both. -/
theorem form_sorts_methods (options : SerializeOptions) (type : HostType) :
    (∃ names : List String, names.Perm type.methodNames ∧
      names.Pairwise (fun first second => first < second) ∧
      (∀ form, (type.form options).result = .ok form →
        (type.form options).findings =
          names.flatMap (fun name => (type.methodForm options name).findings) ∧
        ∃ methods, form = .seq (type.header ++ methods) ∧
          List.Forall₂ (fun name method => (type.methodForm options name).result = .ok method ∧
            ∀ body, (name, body) ∈ type.methods → body.isNull = false →
              ∃ forms, method = .seq (.atom "defn" :: .atom name :: forms)) names methods) ∧
      ∀ reason, (type.form options).result = .error reason →
        ∃ before name after, names = before ++ name :: after ∧
          (∀ earlier ∈ before, ∃ method,
            (type.methodForm options earlier).result = .ok method) ∧
          (type.methodForm options name).result = .error reason ∧
          (type.form options).findings = (before ++ [name]).flatMap
            fun name => (type.methodForm options name).findings) ∧
    ∀ (other : HostType) (first second : List (String × Value)), other.header = type.header →
      (∀ name, lastBody? (type.methods ++ first) name = lastBody? (other.methods ++ second) name) →
      (type.defineAll first).form options = (other.defineAll second).form options := by
  refine ⟨⟨type.sortedMethodNames, sortedTexts_perm _,
    sortedTexts_pairwise_lt type.nodup_methodNames, ?lists, ?fails⟩,
    fun other first second => form_defineAll_congr options⟩
  case lists =>
    intro form ok
    rcases type.form_cases options with
      ⟨methods, formed, related, findings⟩ | ⟨-, -, -, reason, -, -, -, failed, -⟩
    · obtain rfl := Except.ok.inj (formed.symm.trans ok)
      refine ⟨findings, methods, rfl, related.imp fun name method methodOk => ⟨methodOk, ?_⟩⟩
      intro body isMember present
      have found : type.method? name = some body := by
        rw [method?_eq, lookup_of_mem type.distinct isMember, Option.bind_some, present]
        rfl
      exact exists_defn_of_methodForm found methodOk
    · rw [failed] at ok
      cases ok
  case fails =>
    intro reason failed
    rcases type.form_cases options with
      ⟨methods, formed, -⟩ | ⟨before, name, after, first, split, earlier, fails, stopped, findings⟩
    · rw [formed] at failed
      cases failed
    · obtain rfl := Except.error.inj (stopped.symm.trans failed)
      exact ⟨before, name, after, split, earlier, fails, findings⟩

/-- A class whose methods were not defined in the order of their names. -/
def unsortedClass : HostType where
  name := "Something"
  serial := 0
  superclass := some "Object"
  methods :=
    [("blah", .node ⟨.known .selfRef, .null, .null, .null, 0, none⟩),
      ("Zed", .node ⟨.known .hash, .tuple [.data (.text "a")], .null, .null, 0, none⟩)]

/-- A method that is replaced, a new one, and the method replaced once more. -/
def longHistory : List (String × Value) :=
  [("blah", .node ⟨.known .hash, .tuple [.data (.text "a")], .null, .null, 0, none⟩),
    ("each", .node ⟨.known .nilRef, .null, .null, .null, 0, none⟩),
    ("blah", .node ⟨.known .nilRef, .null, .null, .null, 3, some "a.rb"⟩)]

/-- The same two methods with the bodies that they end with. -/
def shortHistory : List (String × Value) :=
  [("blah", .node ⟨.known .nilRef, .null, .null, .null, 3, some "a.rb"⟩),
    ("each", .node ⟨.known .nilRef, .null, .null, .null, 0, none⟩)]

theorem form_sorts_methods_unsorted :
    (∃ names : List String, names.Perm ["blah", "Zed"] ∧
        names.Pairwise fun first second => first < second) ∧
      (∀ name, lastBody? (unsortedClass.methods ++ longHistory) name =
        lastBody? (unsortedClass.methods ++ shortHistory) name) ∧
      (unsortedClass.defineAll longHistory).form {} =
        (unsortedClass.defineAll shortHistory).form {} := by
  have same (name : String) : lastBody? (unsortedClass.methods ++ longHistory) name =
      lastBody? (unsortedClass.methods ++ shortHistory) name := by
    simp only [lastBody?, unsortedClass, longHistory, shortHistory, List.cons_append,
      List.nil_append, List.reverse_cons, List.reverse_nil, lookup_method_cons]
    split_ifs <;> simp_all
  obtain ⟨⟨names, perm, sorted, -⟩, histories⟩ := form_sorts_methods {} unsortedClass
  exact ⟨⟨names, perm, sorted⟩, same, histories _ _ _ rfl same⟩

end HostType

end NodeForms
