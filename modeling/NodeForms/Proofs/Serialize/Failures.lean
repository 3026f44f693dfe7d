import NodeForms.Proofs.Serialize.Simulation

/-!
# Where a walk fails

A walk ends at its first failure. Either the rule of the node visited last gives no parts, or
what would be visited next cannot be: the limit is reached, or a payload stands in the place of a
node.
-/

namespace NodeForms

/-- A failure of a run that visited some nodes, with those visited before the failing one. -/
inductive SerializeOptions.FailsAt (options : SerializeOptions) :
    List Node → List Node → Failure → Prop
  | spent {node : Node} {before : List Node} :
      options.limit.isSome = true → FailsAt options before before (options.exhausted node)
  | misplaced {before : List Node} : FailsAt options before before (.payload .noNode)
  | rule {node : Node} {locals : Locals} {fault : RuleFault} {before : List Node} :
      ¬node.kind = .known .newline → node.parts? locals = some (.error fault) →
        FailsAt options before (before ++ [node]) (options.ruleFailure node fault)

namespace SerializeOptions.FailsAt

variable {options : SerializeOptions} {before visited : List Node} {reason : Failure}

theorem append (first : List Node) (fails : options.FailsAt before visited reason) :
    options.FailsAt (first ++ before) (first ++ visited) reason := by
  cases fails with
  | spent hasLimit => exact .spent hasLimit
  | misplaced => exact .misplaced
  | rule noMarker refused =>
      rw [← List.append_assoc]
      exact .rule noMarker refused

end SerializeOptions.FailsAt

def Walk.EndsAtFailure (options : SerializeOptions) (walk : Walk) : Prop :=
  ∀ reason, walk.result = .error reason → ∃ before, options.FailsAt before walk.visited reason

namespace Walk.EndsAtFailure

variable {options : SerializeOptions} {first second : Walk} {node : Node}

theorem done (forms : List Sexp) : (Walk.done forms).EndsAtFailure options := by
  intro reason failed
  cases failed

theorem failed {reason : Failure} (fails : options.FailsAt [] [] reason) :
    (Walk.failed reason).EndsAtFailure options := by
  intro other failed
  obtain rfl := Except.error.inj failed
  exact ⟨[], fails⟩

theorem andThen (ofFirst : first.EndsAtFailure options) (ofSecond : second.EndsAtFailure options) :
    (first.andThen second).EndsAtFailure options := by
  cases result : first.result with
  | error reason => rwa [Walk.andThen_of_error result]
  | ok forms =>
      rw [Walk.andThen_of_ok result]
      intro reason failed
      cases later : second.result with
      | ok others => simp [later, Except.map] at failed
      | error other =>
          obtain rfl : other = reason := by simpa [later, Except.map] using failed
          obtain ⟨before, fails⟩ := ofSecond other later
          exact ⟨first.visited ++ before, fails.append first.visited⟩

theorem enclosed (tag : String) (of : first.EndsAtFailure options) :
    (first.enclosed tag).EndsAtFailure options := by
  intro reason failed
  cases result : first.result with
  | ok forms => simp [Walk.enclosed, result, Except.map] at failed
  | error other =>
      obtain rfl : other = reason := by simpa [Walk.enclosed, result, Except.map] using failed
      exact of other result

theorem after (node : Node) (of : first.EndsAtFailure options) :
    (first.after node).EndsAtFailure options := by
  intro reason failed
  obtain ⟨before, fails⟩ := of reason failed
  exact ⟨node :: before, fails.append [node]⟩

end Walk.EndsAtFailure

/-- Every walk that fails does so at its end. -/
theorem walk_endsAtFailure (options : SerializeOptions) :
    (∀ seen locals node, (walkNode options seen locals node).EndsAtFailure options) ∧
      (∀ seen locals parts, (walkParts options seen locals parts).EndsAtFailure options) ∧
      (∀ seen locals part, (walkPart options seen locals part).EndsAtFailure options) ∧
      ∀ seen locals payload, (walkSlot options seen locals payload).EndsAtFailure options := by
  apply walk_all options (Walk.EndsAtFailure options)
  case done => exact .done
  case misplaced => exact .failed .misplaced
  case spent =>
    intro seen node isSpent
    obtain ⟨limit, isLimit, -⟩ := (Option.any_eq_true _ _).mp isSpent
    exact .failed (.spent (by rw [isLimit, Option.isSome_some]))
  case marker =>
    intro node walk _ of
    exact .after node of
  case unhandled =>
    intro node locals _ _
    exact .after node (.done _)
  case fault =>
    intro node locals fault noMarker refused reason failed
    obtain rfl := Except.error.inj failed
    exact ⟨[], .rule noMarker refused⟩
  case parts =>
    intro node locals parts walk _ _ of
    exact .after node (.enclosed node.tag of)
  case group =>
    intro tag walk of
    exact .enclosed tag of
  case andThen =>
    intro first second ofFirst ofSecond
    exact .andThen ofFirst ofSecond

theorem walkTree_endsAtFailure (options : SerializeOptions) (root : Option Node) :
    (walkTree options root).EndsAtFailure options := by
  cases root with
  | none => exact .done _
  | some root => exact (walk_endsAtFailure options).1 0 .absent root

/-- A run whose closures are held by the nodes ends in forms or in a failure of its own. -/
theorem serialize_settles {options : SerializeOptions} (held : options.closures = .held)
    (root : Option Node) : (serialize options root).result ≠ .error .endless := by
  intro endless
  rw [serialize_eq_outcome options held] at endless
  obtain ⟨before, fails⟩ := walkTree_endsAtFailure options root _ endless
  generalize (walkTree options root).visited = visited, isEndless : Failure.endless = reason at fails
  cases fails with
  | spent hasLimit =>
      obtain ⟨limit, isLimit⟩ := Option.isSome_iff_exists.mp hasLimit
      simp [SerializeOptions.exhausted, isLimit] at isEndless
  | misplaced => cases isEndless
  | @rule node locals fault before noMarker refused =>
      unfold SerializeOptions.ruleFailure at isEndless
      cases fault <;> cases isEndless

end NodeForms
