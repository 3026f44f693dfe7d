import NodeForms.Proofs.Batch.Isolation
import NodeForms.Proofs.Serialize.Failures
import NodeForms.Proofs.Serialize.Limit

/-!
# Where errors happened

An error is raised without a place, by the rule of a node or because no further visit is allowed.
The run that it ends says where: it fills in the tag of the node that is visited at this point,
and the names of the type and the method at hand. What is wrong stays as it was raised. So each
error of a method, of types, or of a dump names the type and the method that fail.
-/

namespace NodeForms

def ErrorContext.fields : List (ErrorContext → Option String) :=
  [ErrorContext.kind, ErrorContext.typeName, ErrorContext.methodName]

namespace ErrorContext

variable (context more : ErrorContext)

theorem fill_field {field : ErrorContext → Option String} (isField : field ∈ fields) :
    field (context.fill more) = (field context).or (field more) := by
  rcases List.mem_cons.mp isField with rfl | isField
  · rfl
  · rcases List.mem_cons.mp isField with rfl | isField
    · rfl
    · rw [List.mem_singleton.mp isField]
      rfl

theorem fill_fill : (context.fill more).fill more = context.fill more := by
  simp only [fill, Option.or_assoc, Option.or_self]

theorem empty_fill : fill {} more = more := rfl

end ErrorContext

/-- A node at which a run ends in an error, and the error as it is raised there: by the rule of
the node that is visited last, or because the next node is beyond the limit. -/
inductive SerializeOptions.Raises (options : SerializeOptions) (root : Option Node) :
    Node → SerializationError → Prop
  | rule {node : Node} {before : List Node} {locals : Locals} {fault : RuleFault}
      {raised : SerializationError} :
      (serialize options root).visited = before ++ [node] → ¬node.kind = .known .newline →
        node.parts? locals = some (.error fault) → fault.toFailure = .error raised →
          Raises options root node raised
  | limit {node : Node} {limit : Int} :
      options.limit = some limit →
        (serialize options.unlimited root).visited[limit.toNat]? = some node →
          (serialize options root).visited =
            (serialize options.unlimited root).visited.take limit.toNat →
            Raises options root node
              ⟨.nodeLimit limit, "node limit of " ++ integerText limit ++ " exceeded", {}⟩

theorem RuleFault.toFailure_context {fault : RuleFault} {raised : SerializationError}
    (raises : fault.toFailure = .error raised) : raised.context = {} := by
  cases fault <;> cases raises <;> rfl

theorem SerializeOptions.ruleFailure_eq_error {options : SerializeOptions} {node : Node}
    {fault : RuleFault} {error : SerializationError}
    (failed : options.ruleFailure node fault = .error error) :
    ∃ raised, fault.toFailure = .error raised ∧
      error = { raised with context := options.contextAt node } := by
  unfold ruleFailure at failed
  split at failed
  · rename_i raised raises
    obtain rfl := Failure.error.inj failed
    refine ⟨raised, raises, ?_⟩
    rw [SerializationError.withContext, RuleFault.toFailure_context raises, ErrorContext.empty_fill]
  · rename_i noError
    exact absurd failed (noError error)

/-- An error of a run without a limit comes from the rule of the node visited last. -/
theorem serialize_unlimited_error {options : SerializeOptions} (held : options.closures = .held)
    {root : Option Node} {error : SerializationError}
    (failed : (serialize options.unlimited root).result = .error (.error error)) :
    ∃ node before locals fault, (serialize options.unlimited root).visited = before ++ [node] ∧
      ¬node.kind = .known .newline ∧ node.parts? locals = some (.error fault) ∧
        options.ruleFailure node fault = .error error := by
  rw [serialize_eq_outcome options.unlimited held] at failed ⊢
  obtain ⟨before, fails⟩ := walkTree_endsAtFailure options.unlimited root _ failed
  rw [Walk.outcome]
  generalize (walkTree options.unlimited root).visited = visited at fails ⊢
  generalize isError : Failure.error error = reason at fails
  cases fails with
  | spent hasLimit => cases hasLimit
  | misplaced => cases isError
  | rule noMarker refused => exact ⟨_, before, _, _, rfl, noMarker, refused, rfl⟩

/-- Each error that ends a run has the tag of the node at which it is raised, the names that the
run was given, and all else as it was raised. -/
theorem serialize_error {options : SerializeOptions} (held : options.closures = .held)
    {root : Option Node} {error : SerializationError}
    (failed : (serialize options root).result = .error (.error error)) :
    ∃ node raised, options.Raises root node raised ∧
      error = { raised with context := options.contextAt node } := by
  -- Unless it is cut short by the limit, the run is the one without a limit.
  have ofRule (same : serialize options root = serialize options.unlimited root) :
      ∃ node raised, options.Raises root node raised ∧
        error = { raised with context := options.contextAt node } := by
    rw [same] at failed
    obtain ⟨node, before, locals, fault, last, noMarker, refused, fails⟩ :=
      serialize_unlimited_error held failed
    obtain ⟨raised, raises, located⟩ := options.ruleFailure_eq_error fails
    exact ⟨node, raised, .rule (same ▸ last) noMarker refused raises, located⟩
  cases isLimit : options.limit with
  | none =>
      have isUnlimited : options.unlimited = options := by
        rw [SerializeOptions.unlimited, ← isLimit]
      exact ofRule (by rw [isUnlimited])
  | some limit =>
      have isLimited : options.limited limit = options := by
        rw [SerializeOptions.limited, ← isLimit]
      have heldUnlimited : options.unlimited.closures = .held := held
      have within :=
        serialize_limited_eq_within options limit root (serialize_settles heldUnlimited root)
      rw [isLimited] at within
      cases next : (serialize options.unlimited root).visited[limit.toNat]? with
      | none => exact ofRule (by rw [within, Outcome.within, next])
      | some node =>
          rw [Outcome.within_of_getElem? next] at within
          have raises := SerializeOptions.Raises.limit isLimit next (congrArg Outcome.visited within)
          refine ⟨node, _, raises, ?_⟩
          rw [within, SerializeOptions.exhausted, isLimit] at failed
          exact (Failure.error.inj (Except.error.inj failed)).symm

/-- An error that names a type and a method. -/
def SerializationError.Names (error : SerializationError) (type : HostType) (method : String) :
    Prop :=
  error.context.typeName = some type.displayName ∧ error.context.methodName = some method

/-- An error of the first method of a type that fails, in the order of names, which names both. -/
def HostType.FailsAndNames (options : SerializeOptions) (type : HostType)
    (error : SerializationError) : Prop :=
  ∃ before method after, type.sortedMethodNames = before ++ method :: after ∧
    (∀ earlier ∈ before, ∃ form, (type.methodForm options earlier).result = .ok form) ∧
    (type.methodForm options method).result = .error (.error error) ∧ error.Names type method

section

variable {options : SerializeOptions} {type : HostType} {error : SerializationError}

theorem serializePayload_error (held : options.closures = .held) {payload : Value}
    (failed : (serializePayload options payload).result = .error (.error error)) :
    error.context.typeName = options.typeName ∧ error.context.methodName = options.methodName := by
  have ofRun {root : Option Node} (failed : (serialize options root).result = .error (.error error)) :
      error.context.typeName = options.typeName ∧ error.context.methodName = options.methodName := by
    obtain ⟨node, raised, -, rfl⟩ := serialize_error held failed
    exact ⟨rfl, rfl⟩
  rcases serializePayload_cases options payload with ⟨root, -, same⟩ | same | same
  · exact ofRun (same ▸ failed)
  · exact ofRun (same ▸ failed)
  · rw [same] at failed
    cases failed

theorem HostType.methodForm_error (held : options.closures = .held) {method : String}
    (failed : (type.methodForm options method).result = .error (.error error)) :
    error.Names type method := by
  cases found : type.method? method with
  | none =>
      rw [methodForm, found] at failed
      cases failed
  | some body =>
      rw [methodForm_result found] at failed
      have heldInside : (methodOptions options type method).closures = .held := held
      exact serializePayload_error heldInside (map_eq_error.mp failed)

theorem HostType.form_error (held : options.closures = .held)
    (failed : (type.form options).result = .error (.error error)) :
    type.FailsAndNames options error := by
  rcases type.form_cases options with
    ⟨methods, ok, -⟩ | ⟨before, method, after, reason, split, earlier, fails, ends, -⟩
  · rw [ok] at failed
    cases failed
  · rw [failed] at ends
    rw [← Except.error.inj ends] at fails
    exact ⟨before, method, after, split, earlier, fails, methodForm_error held fails⟩

theorem typeForms_error (held : options.closures = .held) {types : List HostType}
    (failed : (typeForms options types).result = .error (.error error)) :
    ∃ before type after, types = before ++ type :: after ∧
      (∀ earlier ∈ before, ∃ form, (earlier.form options).result = .ok form) ∧
      type.FailsAndNames options error := by
  rcases Run.each_cases (HostType.form options) types with
    ⟨forms, ok, -⟩ | ⟨before, type, after, reason, split, earlier, fails, ends, -⟩
  · rw [typeForms, ok] at failed
    cases failed
  · rw [typeForms, ends] at failed
    rw [Except.error.inj failed] at fails
    exact ⟨before, type, after, split, earlier, HostType.form_error held fails⟩

theorem dumpTypes_ne_error (types : List HostType) :
    (dumpTypes options types).result ≠ .error (.error error) := by
  induction types with
  | nil => simp [dumpTypes, Run.done]
  | cons type types ih =>
      rw [dumpTypes]
      intro failed
      -- Only a failure of another sort stops the dump, or the rest of it is stopped.
      cases result : (type.form options).result with
      | ok form =>
          rw [result] at failed
          exact ih (map_eq_error.mp failed)
      | error reason =>
          cases reason with
          | error skipped =>
              rw [result] at failed
              exact ih (map_eq_error.mp failed)
          | _ =>
              rw [result] at failed
              cases failed

end

/-- Errors say where they happened. The error of a run is the one that is raised at a node, with
the tag of this node and the names that the run was given, and nothing else is changed. The error
of a method names the type and the method, and that of a type its first failing method; the run
over types fails with the error of the first type that fails, and a dump, which no such error stops,
has one error for each. What is filled in for an error does not replace what is there, and is
filled in once. -/
theorem errors_located (options : SerializeOptions) (held : options.closures = .held) :
    (∀ root error, (serialize options root).result = .error (.error error) →
      ∃ node raised, options.Raises root node raised ∧
        error.family = raised.family ∧ error.bare = raised.bare ∧
          error.context = ⟨some node.tag, options.typeName, options.methodName⟩) ∧
    (∀ (type : HostType) method error,
      (type.methodForm options method).result = .error (.error error) → error.Names type method) ∧
    (∀ types error, (typeForms options types).result = .error (.error error) →
      ∃ before type after, types = before ++ type :: after ∧
        (∀ earlier ∈ before, ∃ form, (earlier.form options).result = .ok form) ∧
        type.FailsAndNames options error) ∧
    (∀ types,
      (∀ error, (dumpTypes options types).result ≠ .error (.error error)) ∧
      ∀ dump, (dumpTypes options types).result = .ok dump →
        List.Forall₂ (fun type error => type.FailsAndNames options error)
          (types.filter fun type => (type.form options).result.toOption.isNone) dump.failures) ∧
    ∀ (error : SerializationError) more,
      let filled := error.withContext more
      filled.family = error.family ∧ filled.bare = error.bare ∧
        (∀ field ∈ ErrorContext.fields,
          (∀ name, field error.context = some name → field filled.context = some name) ∧
          (field error.context = none → field filled.context = field more)) ∧
        filled.withContext more = filled := by
  refine ⟨fun root error failed => ?run, fun type method error failed => ?method,
    fun types error failed => ?types, fun types => ⟨fun error => ?unstopped, fun dump ok => ?dump⟩,
    fun error more => ?filling⟩
  case run =>
    obtain ⟨node, raised, raises, rfl⟩ := serialize_error held failed
    exact ⟨node, raised, raises, rfl, rfl, rfl⟩
  case method => exact HostType.methodForm_error held failed
  case types => exact typeForms_error held failed
  case unstopped => exact dumpTypes_ne_error types
  case dump =>
    exact (dumpTypes_collects ok).forall₂_failures.imp fun type error fails =>
      HostType.form_error held fails.alone
  case filling =>
    intro filled
    refine ⟨rfl, rfl, fun field isField => ⟨fun name isSet => ?_, fun isMissing => ?_⟩, ?_⟩
    · exact (error.context.fill_field more isField).trans (by rw [isSet, Option.some_or])
    · exact (error.context.fill_field more isField).trans (by rw [isMissing, Option.none_or])
    · exact congrArg (SerializationError.mk error.family error.bare) (error.context.fill_fill more)

/-- A list of keys and values within a block lacks a value: the error names the list and not the
block. The first of two types is the one that fails, and its error names it and the method. -/
theorem errors_located_nested :
    let entries : Node := ⟨.known .hash, .tuple [.data (.text "a")], .null, .null, 0, none⟩
    let root : Node := ⟨.known .block, .tuple [.node entries], .null, .null, 0, none⟩
    let options : SerializeOptions := { typeName := some "Broken", methodName := some "m" }
    (serialize options (some root)).result = .error (.error brokenError) ∧
      (∃ node raised, options.Raises (some root) node raised ∧ node.tag = "hash" ∧
        raised.family = .structural) ∧
      (typeForms {} [brokenClass, plainModule]).result = .error (.error brokenError) ∧
      ∃ type ∈ [brokenClass, plainModule], type.FailsAndNames {} brokenError := by
  intro entries root options
  have failed : (serialize options (some root)).result = .error (.error brokenError) := by cbv
  have strict : (typeForms {} [brokenClass, plainModule]).result =
      .error (.error brokenError) := by
    simp [typeForms, Run.each, Run.andThen, brokenClass_result]
  obtain ⟨node, raised, raises, family, -, context⟩ :=
    (errors_located options rfl).1 (some root) brokenError failed
  obtain ⟨before, type, after, split, -, fails⟩ := (errors_located {} rfl).2.2.1 _ _ strict
  have isTag : some "hash" = some node.tag := congrArg ErrorContext.kind context
  have isMember : type ∈ [brokenClass, plainModule] := by
    rw [split]
    exact List.mem_append_right _ List.mem_cons_self
  exact ⟨failed, ⟨node, raised, raises, (Option.some.inj isTag).symm, family.symm⟩, strict, type,
    isMember, fails⟩

end NodeForms
