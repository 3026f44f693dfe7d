import NodeForms.Batch.Dump
import NodeForms.Proofs.Computation
import Mathlib.Data.List.Sort
import Mathlib.Data.String.Basic

/-!
# Failures in a dump

A dump keeps the failure of a type apart from everything else. For each type it has what the type
comes to alone: its form, or the error of its first failing method in the order of names. The
strict run over the same types comes to the same forms if none of them fails, and to the first of
the errors otherwise.
-/

namespace NodeForms

namespace Run

variable {α β : Type}

/-- Work on a list succeeds on every element, or it ends at the first one it fails on. -/
theorem each_cases (work : α → Run β) (items : List α) :
    (∃ values, (each work items).result = .ok values ∧
      List.Forall₂ (fun item value => (work item).result = .ok value) items values ∧
      (each work items).findings = items.flatMap fun item => (work item).findings) ∨
    ∃ before item after reason, items = before ++ item :: after ∧
      (∀ earlier ∈ before, ∃ value, (work earlier).result = .ok value) ∧
      (work item).result = .error reason ∧ (each work items).result = .error reason ∧
      (each work items).findings =
        (before ++ [item]).flatMap fun item => (work item).findings := by
  induction items with
  | nil => exact .inl ⟨[], rfl, .nil, rfl⟩
  | cons item items inductionHypothesis =>
      cases result : (work item).result with
      | error reason =>
          have stops : each work (item :: items) =
              ⟨(work item).records, (work item).findings, .error reason⟩ := by
            simp [each, andThen, result]
          refine .inr ⟨[], item, items, reason, rfl, by simp, result, ?_, ?_⟩ <;> simp [stops]
      | ok value =>
          have goesOn : each work (item :: items) =
              (work item).after ((each work items).map fun values => value :: values) := by
            simp [each, andThen, result]
          rw [goesOn]
          -- What the rest comes to is what the whole comes to, with one more element in front.
          rcases inductionHypothesis with
            ⟨values, ok, related, findings⟩ |
              ⟨before, failing, after, reason, rfl, earlier, fails, failed, findings⟩
          · refine .inl ⟨value :: values, ?_, .cons result related, ?_⟩
            · simp [Run.after, Run.map, ok, Except.map]
            · simp [Run.after, Run.map, findings]
          · refine .inr ⟨item :: before, failing, after, reason, rfl, ?_, fails, ?_, ?_⟩
            · rw [List.forall_mem_cons]
              exact ⟨⟨value, result⟩, earlier⟩
            · simp [Run.after, Run.map, failed, Except.map]
            · simp [Run.after, Run.map, findings]

end Run

theorem sortedTexts_perm (texts : List String) : (sortedTexts texts).Perm texts :=
  List.mergeSort_perm _ _

theorem sortedTexts_pairwise (texts : List String) :
    (sortedTexts texts).Pairwise fun first second => first ≤ second :=
  List.pairwise_mergeSort' (fun first second : String => first ≤ second) texts

theorem mem_before_of_sorted {texts before after : List String} {text earlier : String}
    (split : sortedTexts texts = before ++ text :: after) (member : earlier ∈ texts)
    (less : earlier < text) : earlier ∈ before := by
  have sorted := sortedTexts_pairwise texts
  have inside : earlier ∈ sortedTexts texts := (sortedTexts_perm texts).mem_iff.mpr member
  rw [split] at sorted inside
  rcases List.mem_append.mp inside with found | found
  · exact found
  · have notEarlier : ∀ later ∈ text :: after, text ≤ later := by
      rw [List.forall_mem_cons]
      exact ⟨le_refl text, (List.pairwise_cons.mp (List.pairwise_append.mp sorted).2.1).1⟩
    exact absurd less (notEarlier earlier found).not_gt

/-- The form of a type has the forms of its methods after its header, or there is none since one of
the methods is the first to fail. -/
theorem HostType.form_cases (options : SerializeOptions) (type : HostType) :
    (∃ methods, (type.form options).result = .ok (.seq (type.header ++ methods)) ∧
      List.Forall₂ (fun name method => (type.methodForm options name).result = .ok method)
        type.sortedMethodNames methods ∧
      (type.form options).findings =
        type.sortedMethodNames.flatMap fun name => (type.methodForm options name).findings) ∨
    ∃ before name after reason, type.sortedMethodNames = before ++ name :: after ∧
      (∀ earlier ∈ before, ∃ method, (type.methodForm options earlier).result = .ok method) ∧
      (type.methodForm options name).result = .error reason ∧
      (type.form options).result = .error reason ∧
      (type.form options).findings =
        (before ++ [name]).flatMap fun name => (type.methodForm options name).findings := by
  rcases Run.each_cases
      (fun name => (type.methodForm options name).noting (type.turnRecord name))
      type.sortedMethodNames with
    ⟨methods, ok, related, findings⟩ |
      ⟨before, name, after, reason, split, earlier, fails, failed, findings⟩
  · exact .inl ⟨methods, by rw [form, Run.map, ok]; rfl, related, findings⟩
  · exact .inr ⟨before, name, after, reason, split, earlier, fails,
      by rw [form, Run.map, failed]; rfl, findings⟩

/-- A type that comes to the error of its first failing method in the order of names. Its methods
up to that one leave their diagnostics, and the later ones none. -/
structure HostType.FailsWith (options : SerializeOptions) (type : HostType)
    (error : SerializationError) : Prop where
  alone : (type.form options).result = .error (.error error)
  firstMethod : ∃ before name after, type.sortedMethodNames = before ++ name :: after ∧
    (type.methodForm options name).result = .error (.error error) ∧
    (∀ earlier ∈ type.methodNames, earlier < name →
      ∃ form, (type.methodForm options earlier).result = .ok form) ∧
    (type.form options).findings =
      (before ++ [name]).flatMap fun method => (type.methodForm options method).findings

theorem HostType.failsWith {options : SerializeOptions} {type : HostType}
    {error : SerializationError} (alone : (type.form options).result = .error (.error error)) :
    type.FailsWith options error := by
  refine ⟨alone, ?_⟩
  rcases type.form_cases options with
    ⟨methods, ok, -⟩ | ⟨before, name, after, reason, split, earlier, fails, failed, findings⟩
  · rw [ok] at alone
    cases alone
  · obtain rfl : reason = .error error := Except.error.inj (failed.symm.trans alone)
    exact ⟨before, name, after, split, fails, fun other inside less =>
      earlier other (mem_before_of_sorted split inside less), findings⟩

theorem HostType.methodForm_result {options : SerializeOptions} {type : HostType} {name : String}
    {body : Value} (found : type.method? name = some body) :
    (type.methodForm options name).result =
      (serializePayload (methodOptions options type name) (methodTree body)).result.map
        fun forms => .seq (.atom "defn" :: .atom name :: forms) := by
  rw [methodForm, found]
  rfl

/-- What a dump collects from types: a form or an error from each, in order. -/
inductive Dump.Collects (options : SerializeOptions) : List HostType → Dump → Prop
  | nothing : Collects options [] {}
  | form {type : HostType} {types : List HostType} {dump : Dump} {form : Sexp} :
      (type.form options).result = .ok form → Collects options types dump →
        Collects options (type :: types) (dump.withForm form)
  | failure {type : HostType} {types : List HostType} {dump : Dump}
      {error : SerializationError} :
      (type.form options).result = .error (.error error) → Collects options types dump →
        Collects options (type :: types) (dump.withFailure error)

theorem dumpTypes_cons_ok {options : SerializeOptions} {type : HostType} {types : List HostType}
    {dump : Dump} (ok : (dumpTypes options (type :: types)).result = .ok dump) :
    ∃ rest, (dumpTypes options types).result = .ok rest ∧
      (dumpTypes options (type :: types)).findings =
        (type.form options).findings ++ (dumpTypes options types).findings ∧
      ((∃ form, (type.form options).result = .ok form ∧ dump = rest.withForm form) ∨
        ∃ error, (type.form options).result = .error (.error error) ∧
          dump = rest.withFailure error) := by
  rw [dumpTypes] at ok ⊢
  cases result : (type.form options).result with
  | ok form =>
      rw [result] at ok
      obtain ⟨rest, later, rfl⟩ := map_eq_ok.mp ok
      exact ⟨rest, later, rfl, .inl ⟨form, rfl, rfl⟩⟩
  | error reason =>
      cases reason with
      | error error =>
          rw [result] at ok
          obtain ⟨rest, later, rfl⟩ := map_eq_ok.mp ok
          exact ⟨rest, later, rfl, .inr ⟨error, rfl, rfl⟩⟩
      | _ => rw [result] at ok; cases ok

theorem dumpTypes_collects {options : SerializeOptions} {types : List HostType} {dump : Dump}
    (ok : (dumpTypes options types).result = .ok dump) : dump.Collects options types := by
  induction types generalizing dump with
  | nil =>
      obtain rfl : ({} : Dump) = dump := Except.ok.inj ok
      exact .nothing
  | cons type types inductionHypothesis =>
      obtain ⟨rest, later, -, ⟨form, succeeds, rfl⟩ | ⟨error, fails, rfl⟩⟩ :=
        dumpTypes_cons_ok ok
      · exact .form succeeds (inductionHypothesis later)
      · exact .failure fails (inductionHypothesis later)

theorem findings_dumpTypes {options : SerializeOptions} {types : List HostType} {dump : Dump}
    (ok : (dumpTypes options types).result = .ok dump) :
    (dumpTypes options types).findings =
      types.flatMap fun type => (type.form options).findings := by
  induction types generalizing dump with
  | nil => rfl
  | cons type types inductionHypothesis =>
      obtain ⟨rest, later, findings, -⟩ := dumpTypes_cons_ok ok
      rw [findings, inductionHypothesis later, List.flatMap_cons]

namespace Dump.Collects

variable {options : SerializeOptions} {types : List HostType} {dump : Dump}

theorem forms_eq (collects : dump.Collects options types) :
    dump.forms = types.filterMap fun type => (type.form options).result.toOption := by
  induction collects with
  | nothing => rfl
  | form ok _ inductionHypothesis =>
      simp [Dump.withForm, ok, inductionHypothesis, Except.toOption]
  | failure failed _ inductionHypothesis =>
      simp [Dump.withFailure, failed, inductionHypothesis, Except.toOption]

theorem forall₂_failures (collects : dump.Collects options types) :
    List.Forall₂ (fun type error => type.FailsWith options error)
      (types.filter fun type => (type.form options).result.toOption.isNone) dump.failures := by
  induction collects with
  | nothing => exact .nil
  | form ok _ inductionHypothesis =>
      rw [List.filter_cons_of_neg (by simp only [ok]; exact Bool.false_ne_true)]
      exact inductionHypothesis
  | failure failed _ inductionHypothesis =>
      rw [List.filter_cons_of_pos (by simp only [failed]; rfl)]
      exact .cons (HostType.failsWith failed) inductionHypothesis

theorem length_eq (collects : dump.Collects options types) :
    dump.forms.length + dump.failures.length = types.length := by
  induction collects with
  | nothing => rfl
  | form _ _ inductionHypothesis | failure _ _ inductionHypothesis =>
      simp only [Dump.withForm, Dump.withFailure, List.length_cons]
      omega

/-- The strict run comes to the forms of a dump without failures, and else to the first failure. -/
theorem typeForms_result (collects : dump.Collects options types) :
    (typeForms options types).result =
      match dump.failures with
      | [] => .ok dump.forms
      | error :: _ => .error (.error error) := by
  induction collects with
  | nothing => rfl
  | @form type types dump form ok _ inductionHypothesis =>
      -- A form in front changes no failure, so the first failure is that of the rest.
      have goesOn : (typeForms options (type :: types)).result =
          (typeForms options types).result.map fun forms => form :: forms := by
        simp [typeForms, Run.each, Run.andThen, ok, Run.after, Run.map]
      rw [goesOn, inductionHypothesis]
      cases failures : dump.failures <;> simp [Dump.withForm, failures, Except.map]
  | failure failed _ _ =>
      simp [typeForms, Run.each, Run.andThen, failed, Dump.withFailure]

end Dump.Collects

theorem typesAmong_types (first : String) (types : List HostType) :
    typesAmong first (types.map .type) = .ok types := by
  induction types with
  | nil => rfl
  | cons type types inductionHypothesis =>
      rw [List.map_cons, typesAmong, inductionHypothesis]
      rfl

theorem typesAmong_of_other {arguments : List TypeArgument} {value : Data} (first : String)
    (member : .other value ∈ arguments) : ∃ fault, typesAmong first arguments = .error fault := by
  fun_induction typesAmong first arguments with
  | case1 => simp at member
  | case2 type rest inductionHypothesis =>
      obtain ⟨fault, refused⟩ := inductionHypothesis (by simpa using member)
      exact ⟨fault, by rw [refused]; rfl⟩
  | case3 | case4 => exact ⟨_, rfl⟩

/-- Nothing is done if some given value is no type. A dump of types that is not stopped has what
each type comes to alone, in order: the forms of those that succeed, and for each of the others
the error of its first failing method in the order of names; and it leaves the diagnostics that
each leaves alone. The strict run comes to the same forms if there is no failure, and otherwise to
the first of them. -/
theorem dumpGiven_isolates (options : SerializeOptions) :
    (∀ arguments : List TypeArgument, (∃ value, .other value ∈ arguments) →
      ∃ fault, dumpGiven options arguments = .error fault ∧
        givenForms options arguments = .error fault) ∧
    ∀ types : List HostType,
      let dumpRun := dumpTypes options types
      let formsRun := typeForms options types
      dumpGiven options (types.map .type) = .ok dumpRun ∧
        givenForms options (types.map .type) = .ok formsRun ∧
        ∀ dump, dumpRun.result = .ok dump →
          dump.forms = types.filterMap (fun type => (type.form options).result.toOption) ∧
          List.Forall₂ (fun type error => type.FailsWith options error)
            (types.filter fun type => (type.form options).result.toOption.isNone)
            dump.failures ∧
          dump.forms.length + dump.failures.length = types.length ∧
          dumpRun.findings = types.flatMap (fun type => (type.form options).findings) ∧
          (dump.failures = [] → formsRun.result = .ok dump.forms) ∧
          ∀ error later, dump.failures = error :: later →
            formsRun.result = .error (.error error) := by
  refine ⟨?refused, fun types => ⟨?dumped, ?formed, ?isolated⟩⟩
  case refused =>
    rintro arguments ⟨value, member⟩
    obtain ⟨fault, refused⟩ :=
      typesAmong_of_other ((arguments.head?.map TypeArgument.display).getD "") member
    exact ⟨fault, by rw [dumpGiven, givenTypes, refused]; rfl,
      by rw [givenForms, givenTypes, refused]; rfl⟩
  case dumped =>
    rw [dumpGiven, givenTypes, typesAmong_types]
    rfl
  case formed =>
    rw [givenForms, givenTypes, typesAmong_types]
    rfl
  case isolated =>
    intro dump ok
    have collects := dumpTypes_collects ok
    have strict := collects.typeForms_result
    refine ⟨collects.forms_eq, collects.forall₂_failures, collects.length_eq,
      findings_dumpTypes ok, ?_, ?_⟩
    · intro clean
      rw [strict, clean]
    · intro error later failures
      rw [strict, failures]

/-- A class whose second method in the order of names is the first to fail. -/
def brokenClass : HostType :=
  let broken : Node := ⟨.known .hash, .tuple [.data (.text "a")], .null, .null, 0, none⟩
  let stack : Node := ⟨.known .cref, .null, .null, .null, 0, none⟩
  { name := "Broken"
    serial := 0
    superclass := some "Object"
    methods := [("z", .node broken), ("m", .node broken), ("a", .node stack)] }

def plainModule : HostType where
  name := "Plain"
  serial := 0
  isModule := true
  methods := [("me", .node ⟨.known .selfRef, .null, .null, .null, 0, none⟩)]

def brokenError : SerializationError :=
  ⟨.structural, "odd number list for hash (1 entries)", ⟨some "hash", some "Broken", some "m"⟩⟩

theorem brokenClass_result : (brokenClass.form {}).result = .error (.error brokenError) := by
  have order : brokenClass.sortedMethodNames = ["a", "m", "z"] := by
    simp [HostType.sortedMethodNames, HostType.methodNames, brokenClass, sortedTexts,
      List.mergeSort, List.MergeSort.Internal.splitInTwo]
  have first : (brokenClass.methodForm {} "a").result =
      .ok (.seq [.atom "defn", .atom "a", .seq [.atom "unhandled", .int 84]]) := by
    rw [HostType.methodForm_result rfl]
    cbv
  have second : (brokenClass.methodForm {} "m").result = .error (.error brokenError) := by
    rw [HostType.methodForm_result rfl]
    cbv
  simp [HostType.form, order, Run.each, Run.andThen, Run.noting, Run.after, Run.map, first,
    second, Except.map]

theorem plainModule_result : (plainModule.form {}).result = .ok (.seq [.atom "module",
    .atom "Plain", .seq [.atom "defn", .atom "me", .seq [.atom "self"]]]) := by
  have order : plainModule.sortedMethodNames = ["me"] := by
    simp [HostType.sortedMethodNames, HostType.methodNames, plainModule, sortedTexts]
  have only : (plainModule.methodForm {} "me").result =
      .ok (.seq [.atom "defn", .atom "me", .seq [.atom "self"]]) := by
    rw [HostType.methodForm_result rfl]
    cbv
  have header : plainModule.header = [.atom "module", .atom "Plain"] := rfl
  simp [HostType.form, order, Run.each, Run.andThen, Run.noting, Run.after, Run.map, Run.done,
    only, header, Except.map]

/-- A module between two classes that fail keeps its form, and each class leaves its error. A
dump with something else among the types is refused. -/
theorem dumpGiven_isolates_mixed :
    let types := [brokenClass, plainModule, brokenClass]
    (∃ fault, dumpGiven {} [.type plainModule, .other (.text "me")] = .error fault) ∧
      ∃ dump : Dump, (dumpTypes {} types).result = .ok dump ∧
        dump.failures = [brokenError, brokenError] ∧
        dump.forms.length + dump.failures.length = types.length ∧
        (dumpTypes {} types).findings =
          types.flatMap (fun type => (type.form {}).findings) ∧
        (typeForms {} types).result = .error (.error brokenError) := by
  intro types
  have dumped : ∃ forms, (dumpTypes {} types).result =
      .ok ⟨forms, [brokenError, brokenError]⟩ := by
    simp [types, dumpTypes, brokenClass_result, plainModule_result, Run.after, Run.map,
      Run.noting, Run.done, Except.map, Dump.withForm, Dump.withFailure]
  obtain ⟨forms, ok⟩ := dumped
  obtain ⟨refused, isolated⟩ := dumpGiven_isolates {}
  obtain ⟨fault, dumpRefused, -⟩ := refused [.type plainModule, .other (.text "me")]
    ⟨.text "me", by simp⟩
  obtain ⟨-, -, whole⟩ := isolated types
  obtain ⟨-, -, length, findings, -, strict⟩ := whole _ ok
  exact ⟨⟨fault, dumpRefused⟩, _, ok, rfl, length, findings, strict _ _ rfl⟩

end NodeForms
