import NodeForms.Proofs.Serialize.Steps

/-!
# Node limits

A limit on visits cuts a run short and changes nothing else. The limited run comes to what the
unlimited one comes to if that takes no more visits than allowed; otherwise it fails at the first
visit beyond the limit, with the diagnostics of the visits before it.
-/

namespace NodeForms

namespace SerializeOptions

/-- A run without a limit. -/
def unlimited (options : SerializeOptions) : SerializeOptions := { options with limit := none }

def limited (options : SerializeOptions) (limit : Int) : SerializeOptions :=
  { options with limit := some limit }

/-- The error of a visit beyond a limit. -/
def limitError (options : SerializeOptions) (limit : Int) (node : Node) : SerializationError where
  family := .nodeLimit limit
  bare := "node limit of " ++ integerText limit ++ " exceeded"
  context := ⟨some node.tag, options.typeName, options.methodName⟩

end SerializeOptions

theorem serialize_limited_eq_within (options : SerializeOptions) (limit : Int)
    (root : Option Node)
    (settles : (serialize options.unlimited root).result ≠ .error .endless) :
    serialize (options.limited limit) root =
      (serialize options.unlimited root).within (options.limited limit) limit.toNat := by
  cases root with
  | none =>
      rw [serialize_none, serialize_none]
      exact (Outcome.within_of_length_le (Nat.zero_le _)).symm
  | some root =>
      rw [serialize_some] at settles ⊢
      rw [serialize_some]
      have runs := runs_runTasks rfl _ _ _ _ settles
      have same := (runs.withLimit (some limit)).runTasks_eq limit.toNat
      rwa [List.length_nil, Nat.zero_add] at same

/-- A limited run is the unlimited one as long as that visits no more nodes than allowed, be it
done or failed at the last of them. Otherwise it visits as many nodes as allowed, leaves their
diagnostics, and fails at the next one; a limit below zero allows no visit. -/
theorem serialize_limited (options : SerializeOptions) (limit : Int) (root : Option Node)
    (settles : (serialize options.unlimited root).result ≠ .error .endless) :
    let free := serialize options.unlimited root
    let bounded := serialize (options.limited limit) root
    ((free.visited.length : Int) ≤ limit ∨ free.visited = [] → bounded = free) ∧
      (limit < free.visited.length → free.visited ≠ [] →
        ∃ node, free.visited[limit.toNat]? = some node ∧
          bounded.visited = free.visited.take limit.toNat ∧
          bounded.diagnostics options.context =
            Outcome.diagnostics { free with visited := free.visited.take limit.toNat }
              options.context ∧
          bounded.result = .error (.error (options.limitError limit node))) ∧
      ∀ reason, free.result = .error reason → reason = .payload .noNode ∨
        ∃ before node lists locals, free.visited = before ++ [node] ∧
          options.unlimited.visitStep lists locals node = .error reason := by
  intro free bounded
  have within : bounded = free.within (options.limited limit) limit.toNat :=
    serialize_limited_eq_within options limit root settles
  refine ⟨?_, ?_, ?_⟩
  · intro enough
    rw [within, Outcome.within_of_length_le]
    rcases enough with enough | nothing
    · omega
    · simp [nothing]
  · intro exceeded visits
    have inside : limit.toNat < free.visited.length := by
      have := List.length_pos_iff.mpr visits
      omega
    have next := List.getElem?_eq_getElem inside
    rw [Outcome.within_of_getElem? next] at within
    rw [within]
    exact ⟨_, next, rfl, rfl, rfl⟩
  -- Without a limit, a run that fails ends with the visit that is at fault.
  · intro reason failed
    cases root with
    | none =>
        rw [show free = _ from serialize_none _] at failed
        cases failed
    | some root =>
        have same : free = _ := serialize_some options.unlimited root
        rw [same] at failed ⊢
        rw [serialize_some] at settles
        exact (runs_runTasks rfl _ _ _ _ settles).exists_last_of_error failed

def runtimeBlock : Node :=
  ⟨.known .block, .tuple [.node ⟨.known .cref, .null, .null, .null, 0, none⟩,
    .node ⟨.known .selfRef, .null, .null, .null, 0, none⟩], .null, .null, 0, none⟩

theorem serialize_limited_runtimeBlock :
    let free := serialize (SerializeOptions.unlimited {}) (some runtimeBlock)
    let bounded := serialize (SerializeOptions.limited {} 2) (some runtimeBlock)
    free.result ≠ .error .endless ∧ (2 : Int) < free.visited.length ∧
      ∃ node, node.tag = "self" ∧
        bounded.result = .error (.error (SerializeOptions.limitError {} 2 node)) := by
  have result : (serialize (SerializeOptions.unlimited {}) (some runtimeBlock)).result =
      .ok [.seq [.atom "block", .seq [.atom "unhandled", .int 84], .seq [.atom "self"]]] := by cbv
  have visits : (serialize (SerializeOptions.unlimited {})
      (some runtimeBlock)).visited.map Node.tag = ["block", "cref", "self"] := by cbv
  intro free bounded
  have settles : free.result ≠ .error .endless := by simp [free, result]
  have length : free.visited.length = 3 := by simpa using congrArg List.length visits
  have exceeded : (2 : Int) < free.visited.length := by rw [length]; decide
  have visited : free.visited ≠ [] := List.ne_nil_of_length_pos (by rw [length]; decide)
  obtain ⟨node, third, -, -, fails⟩ :=
    (serialize_limited {} 2 (some runtimeBlock) settles).2.1 exceeded visited
  have tag : (free.visited.map Node.tag)[2]? = some node.tag := by
    rw [List.getElem?_map]
    exact congrArg (Option.map Node.tag) third
  rw [visits] at tag
  exact ⟨settles, exceeded, node, (Option.some.inj tag).symm, fails⟩

/-- An absent tree takes no visit, so no limit is ever exceeded, not even one below zero. -/
theorem serialize_absent_limited :
    let free := serialize (SerializeOptions.unlimited {}) none
    free.result = .ok [] ∧ ¬(free.visited.length : Int) ≤ -1 ∧
      (serialize (SerializeOptions.limited {} (-1)) none).result = .ok [] := by
  rw [serialize_none, serialize_none]
  exact ⟨rfl, by decide, rfl⟩

end NodeForms
