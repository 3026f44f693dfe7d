import NodeForms.Proofs.Serialize.Failures
import NodeForms.Proofs.Serialize.Limit

/-!
# The work loop ends

The run once more as a loop without any bound of its own: take an entry off the stack, do what it
asks for, and go on until nothing is left. A visit is counted first and then compared with the
limit. If closures are held by the nodes, the loop ends since what the stack can reach gets less
with every visit, and it visits no node more often than it occurs in the graph. If there is a
limit, the loop ends whatever closures it is given, even if a closure leads back to itself, and
even if what is behind a handle changes on the way.
-/

namespace NodeForms

def Entry.reach (entry : Entry) : List Node :=
  match entry.work with
  | .visit payload => payload.reach
  | _ => []

theorem Value.reach_of_noNode {payload : Value} (noNode : ∀ child, payload = .node child → False) :
    payload.reach = [] := by
  cases payload with
  | node child => exact (noNode child rfl).elim
  | _ => rfl

namespace Pending

def reach (pending : Pending) : List Node := pending.stack.flatMap Entry.reach

mutual
theorem reach_schedulePart (frame : Nat) (locals : Locals) : (part : Part) → (pending : Pending) →
    (schedulePart frame locals part pending).reach = part.reach ++ pending.reach
  | .value form, pending => rfl
  | .node child, pending => rfl
  | .scoped child inner, pending => by
      rw [schedulePart, Part.reach]
      split
      · rename_i isEmpty
        cases child with
        | node child => cases isEmpty
        | _ => rfl
      · rfl
  | .group tag members, pending => by
      rw [schedulePart, Part.reach, reach_schedule]
      rfl
theorem reach_schedule (frame : Nat) (locals : Locals) : (parts : List Part) →
    (pending : Pending) →
    (schedule frame locals parts pending).reach = Part.listReach parts ++ pending.reach
  | [], pending => rfl
  | part :: parts, pending => by
      rw [schedule, Part.listReach, reach_schedulePart, reach_schedule, List.append_assoc]
end

end Pending

theorem SerializeOptions.visit_reach {options : SerializeOptions} {node : Node} {target : Nat}
    {locals : Locals} {pending next : Pending} (held : options.closures = .held)
    (visits : options.visit node target locals pending = .ok next) :
    (node :: next.reach).Subperm (node.reach ++ pending.reach) := by
  unfold visit at visits
  split at visits
  · rename_i isMarker
    obtain rfl := Except.ok.inj visits
    exact (List.subperm_append_right pending.reach).mpr (Node.marked_reach isMarker)
  · split at visits
    · cases visits
    · rename_i first parts opens
      obtain rfl := Except.ok.inj visits
      rw [Pending.reach_schedule]
      suffices reaches : List.Subperm (node :: Part.listReach parts) node.reach from
        (List.subperm_append_right pending.reach).mpr reaches
      unfold openNode at opens
      split at opens
      · obtain ⟨-, rfl⟩ := Prod.mk.inj (Except.ok.inj opens)
        exact node.self_reach
      · rename_i rule hasRule
        split at opens
        · cases opens
        · rename_i found applied
          obtain ⟨-, rfl⟩ := Prod.mk.inj (Except.ok.inj opens)
          have found : node.parts? locals = some (.ok found) := by
            rw [scope, held] at applied
            rw [Node.parts?, hasRule, Option.map_some, applied]
          exact Node.parts?_reach found

/-- What the loop has at hand: the nodes visited so far, with the latest first, the lists under
construction, and the stack. -/
structure WorkState where
  counted : List Node := []
  pending : Pending

def WorkState.start (root : Option Node) : WorkState :=
  { pending := ⟨.start, [.ofRoot (.ofNode? root)]⟩ }

inductive WorkTurn where
  | next (state : WorkState)
  /-- The loop ends, with all visits in order and the forms or the failure. -/
  | stop (counted : List Node) (result : Except Failure (List Sexp))

namespace SerializeOptions

/-- One turn of the loop. What is behind a handle may depend on the visits so far. -/
def turn (options : SerializeOptions) (access : List Node → ClosureAccess) (state : WorkState) :
    WorkTurn :=
  match state with
  | ⟨counted, frames, []⟩ => .stop counted.reverse (.ok (frames.items Frames.top))
  | ⟨counted, frames, ⟨.emit form, target, _⟩ :: rest⟩ =>
      .next ⟨counted, frames.push target form, rest⟩
  | ⟨counted, frames, ⟨.close frame, target, _⟩ :: rest⟩ =>
      .next ⟨counted, frames.push target (frames.build frame), rest⟩
  | ⟨counted, frames, ⟨.visit (.node node), target, locals⟩ :: rest⟩ =>
      if options.isSpent counted.length then
        .stop (node :: counted).reverse (.error (options.exhausted node))
      else
        match { options with closures := access counted }.visit node target locals
            ⟨frames, rest⟩ with
        | .error reason => .stop (node :: counted).reverse (.error reason)
        | .ok pending => .next ⟨node :: counted, pending⟩
  | ⟨counted, frames, ⟨.visit payload, _, _⟩ :: rest⟩ =>
      if payload.isNull then .next ⟨counted, frames, rest⟩
      else .stop counted.reverse (.error (.payload .noNode))

/-- The loop for so many turns at most: its visits and what it comes to, if it ends by then. -/
def loop (options : SerializeOptions) (access : List Node → ClosureAccess) :
    Nat → WorkState → Option (List Node × Except Failure (List Sexp))
  | 0, _ => none
  | turns + 1, state =>
      match options.turn access state with
      | .next next => loop options access turns next
      | .stop counted result => some (counted, result)

variable {options : SerializeOptions} {access : List Node → ClosureAccess}

/-- A turn either takes an entry off the stack, with the same visits, or it visits the node of the
topmost entry and goes on with what the visit leads to. -/
theorem turn_cases {state next : WorkState} (goesOn : options.turn access state = .next next) :
    (∃ entry, state.pending.stack = entry :: next.pending.stack ∧ entry.reach = [] ∧
      next.counted = state.counted) ∨
    ∃ node target locals rest pending,
      state.pending.stack = ⟨.visit (.node node), target, locals⟩ :: rest ∧
      ¬options.isSpent state.counted.length = true ∧
      { options with closures := access state.counted }.visit node target locals
        ⟨state.pending.frames, rest⟩ = .ok pending ∧
      next = ⟨node :: state.counted, pending⟩ := by
  unfold turn at goesOn
  split at goesOn
  case h_1 => cases goesOn
  case h_2 | h_3 =>
    obtain rfl := WorkTurn.next.inj goesOn
    exact .inl ⟨_, rfl, rfl, rfl⟩
  case h_4 counted frames node target locals rest =>
    split at goesOn
    · cases goesOn
    · rename_i notSpent
      split at goesOn
      · cases goesOn
      · rename_i pending visits
        obtain rfl := WorkTurn.next.inj goesOn
        exact .inr ⟨node, target, locals, rest, pending, rfl, notSpent, visits, rfl⟩
  case h_5 noNode =>
    split at goesOn
    · obtain rfl := WorkTurn.next.inj goesOn
      exact .inl ⟨_, rfl, Value.reach_of_noNode noNode, rfl⟩
    · cases goesOn

/-- When the loop ends, at most the node of the topmost entry is counted on top. -/
theorem turn_stop {state : WorkState} {counted : List Node}
    {result : Except Failure (List Sexp)} (stops : options.turn access state = .stop counted result) :
    counted = state.counted.reverse ∨
      ∃ node target locals rest,
        state.pending.stack = ⟨.visit (.node node), target, locals⟩ :: rest ∧
        counted = state.counted.reverse ++ [node] := by
  unfold turn at stops
  split at stops
  case h_1 =>
    obtain ⟨rfl, -⟩ := WorkTurn.stop.inj stops
    exact .inl rfl
  case h_2 | h_3 => cases stops
  case h_4 counted frames node target locals rest =>
    refine .inr ⟨node, target, locals, rest, rfl, ?_⟩
    rw [← List.reverse_cons]
    split at stops
    · exact (WorkTurn.stop.inj stops).1.symm
    · split at stops
      · exact (WorkTurn.stop.inj stops).1.symm
      · cases stops
  case h_5 =>
    split at stops
    · cases stops
    · obtain ⟨rfl, -⟩ := WorkTurn.stop.inj stops
      exact .inl rfl

theorem exists_loop (rank : WorkState → Nat × Nat)
    (falls : ∀ state next, options.turn access state = .next next →
      Prod.Lex (· < ·) (· < ·) (rank next) (rank state)) (state : WorkState) :
    ∃ turns counted result, options.loop access turns state = some (counted, result) := by
  cases turned : options.turn access state with
  | stop counted result => exact ⟨1, counted, result, by rw [loop, turned]⟩
  | next next =>
      obtain ⟨turns, counted, result, ends⟩ := exists_loop rank falls next
      exact ⟨turns + 1, counted, result, by rw [loop, turned]; exact ends⟩
termination_by rank state
decreasing_by exact falls state next turned

theorem loop_ends (Keeps : WorkState → Prop)
    (Ends : List Node → Except Failure (List Sexp) → Prop)
    (keeps : ∀ state next, Keeps state → options.turn access state = .next next → Keeps next)
    (ends : ∀ state counted result, Keeps state →
      options.turn access state = .stop counted result → Ends counted result)
    {turns : Nat} {state : WorkState} {counted : List Node} {result : Except Failure (List Sexp)}
    (kept : Keeps state) (ended : options.loop access turns state = some (counted, result)) :
    Ends counted result := by
  induction turns generalizing state with
  | zero => cases ended
  | succ turns ih =>
      rw [loop] at ended
      cases turned : options.turn access state with
      | next next =>
          rw [turned] at ended
          exact ih (keeps state next kept turned) ended
      | stop visits outcome =>
          rw [turned] at ended
          obtain ⟨rfl, rfl⟩ := Prod.mk.inj (Option.some.inj ended)
          exact ends state visits outcome kept turned

theorem turn_reach {state next : WorkState} (held : ∀ counted, access counted = .held)
    (goesOn : options.turn access state = .next next) :
    (next.counted ++ next.pending.reach).Subperm (state.counted ++ state.pending.reach) ∧
      Prod.Lex (· < ·) (· < ·) (next.pending.reach.length, next.pending.stack.length)
        (state.pending.reach.length, state.pending.stack.length) := by
  rcases turn_cases goesOn with
    ⟨entry, isFirst, noVisit, same⟩ |
      ⟨node, target, locals, rest, pending, isFirst, -, visits, rfl⟩
  · have sameReach : state.pending.reach = next.pending.reach := by
      rw [Pending.reach, isFirst, List.flatMap_cons, noVisit]
      rfl
    rw [same, sameReach, isFirst]
    exact ⟨.refl _, .right _ (Nat.lt_succ_self _)⟩
  · have reached := visit_reach (held state.counted) visits
    have atTop : state.pending.reach =
        node.reach ++ Pending.reach ⟨state.pending.frames, rest⟩ := by
      rw [Pending.reach, isFirst, List.flatMap_cons]
      rfl
    rw [atTop]
    refine ⟨?_, .left _ _ ?_⟩
    · -- The node moves from what is to be reached to the visits, in front of them.
      have moved : (node :: state.counted ++ pending.reach).Perm
          (state.counted ++ node :: pending.reach) := List.perm_middle.symm
      exact moved.subperm.trans ((List.subperm_append_left _).mpr reached)
    · exact reached.length_le

theorem loop_subperm (held : ∀ counted, access counted = .held) {turns : Nat} {state : WorkState}
    {counted : List Node} {result : Except Failure (List Sexp)}
    (ended : options.loop access turns state = some (counted, result)) :
    counted.Subperm (state.counted ++ state.pending.reach) := by
  let Keeps (later : WorkState) : Prop :=
    (later.counted ++ later.pending.reach).Subperm (state.counted ++ state.pending.reach)
  refine loop_ends Keeps (fun visits _ => visits.Subperm (state.counted ++ state.pending.reach))
    ?_ ?_ (List.Subperm.refl _) ended
  · intro earlier later kept goesOn
    exact (turn_reach held goesOn).1.trans kept
  · intro last visits result kept stops
    have atEnd : visits.Subperm (last.counted ++ last.pending.reach) := by
      rcases turn_stop stops with rfl | ⟨node, target, locals, rest, isFirst, rfl⟩
      · exact (List.reverse_perm _).subperm.trans (List.sublist_append_left _ _).subperm
      · have reached : [node].Subperm last.pending.reach := by
          rw [Pending.reach, isFirst, List.flatMap_cons]
          exact node.self_reach.trans (List.sublist_append_left _ _).subperm
        exact (List.reverse_perm _).subperm.append reached
    exact atEnd.trans kept

/-- Within a limit each turn uses up a visit or an entry of the stack. -/
theorem turn_limited {limit : Nat} (isLimit : options.limit = some (limit : Int))
    {state next : WorkState} (goesOn : options.turn access state = .next next) :
    (state.counted.length ≤ limit → next.counted.length ≤ limit) ∧
      Prod.Lex (· < ·) (· < ·) (limit - next.counted.length, next.pending.stack.length)
        (limit - state.counted.length, state.pending.stack.length) := by
  rcases turn_cases goesOn with
    ⟨entry, isFirst, -, same⟩ | ⟨node, target, locals, rest, pending, -, notSpent, -, rfl⟩
  · rw [same, isFirst]
    exact ⟨id, .right _ (Nat.lt_succ_self _)⟩
  · have below : state.counted.length < limit := by
      rw [isSpent, isLimit, Option.any_some, decide_eq_true_eq] at notSpent
      omega
    rw [List.length_cons]
    exact ⟨fun _ => below, .left _ _ (by omega)⟩

/-- Within a limit only the visit beyond it can come on top. -/
theorem loop_length_le {limit : Nat} (isLimit : options.limit = some (limit : Int)) {turns : Nat}
    {state : WorkState} {counted : List Node} {result : Except Failure (List Sexp)}
    (within : state.counted.length ≤ limit)
    (ended : options.loop access turns state = some (counted, result)) :
    counted.length ≤ limit + 1 := by
  refine loop_ends (fun state => state.counted.length ≤ limit)
    (fun counted _ => counted.length ≤ limit + 1) ?_ ?_ within ended
  · intro state next within goesOn
    exact (turn_limited isLimit goesOn).1 within
  · intro state counted result within stops
    rcases turn_stop stops with rfl | ⟨node, target, locals, rest, -, rfl⟩
    · rw [List.length_reverse]
      omega
    · rw [List.length_append, List.length_reverse, List.length_singleton]
      omega

end SerializeOptions

namespace SerializeOptions

/-- Visits that are left to a run after some: what remains of the limit. Without one it may be any
number that turns out to be enough. -/
def Leaves (options : SerializeOptions) (allowed : Nat) (counted : List Node) : Prop :=
  ∀ limit ∈ options.limit, allowed = limit.toNat - counted.length

/-- An outcome as the loop ends: with the same result, and with all its visits but one that was
beyond the limit. -/
structure EndsAs (outcome : Outcome) (counted : List Node) (result : Except Failure (List Sexp)) :
    Prop where
  result : outcome.result = result
  visited : outcome.visited <+: counted

variable {options : SerializeOptions} {state : WorkState} {outcome : Outcome}

def ComesTo (options : SerializeOptions) (outcome : Outcome) (state : WorkState) : Prop :=
  ∃ allowed, options.Leaves allowed state.counted ∧
    runStack options allowed state.counted state.pending.frames state.pending.stack = outcome

theorem isSpent_of_leaves_zero {counted : List Node} (leaves : options.Leaves 0 counted)
    (hasLimit : options.limit.isSome = true) : options.isSpent counted.length = true := by
  obtain ⟨limit, isLimit⟩ := Option.isSome_iff_exists.mp hasLimit
  have spent := leaves limit isLimit
  rw [isSpent, isLimit, Option.any_some, decide_eq_true_eq]
  omega

theorem not_isSpent_of_leaves_succ {allowed : Nat} {counted : List Node}
    (leaves : options.Leaves (allowed + 1) counted) :
    ¬options.isSpent counted.length = true := by
  rw [isSpent, Option.any_eq_true]
  rintro ⟨limit, isLimit, spent⟩
  have left := leaves limit isLimit
  rw [decide_eq_true_eq] at spent
  omega

theorem Leaves.step {allowed : Nat} {counted : List Node}
    (leaves : options.Leaves (allowed + 1) counted) (node : Node) :
    options.Leaves allowed (node :: counted) := by
  intro limit isLimit
  have left := leaves limit isLimit
  rw [List.length_cons]
  omega

theorem ComesTo.turn (comesTo : options.ComesTo outcome state)
    (settles : options.limit = none → outcome.result ≠ .error .endless) :
    (∃ next, options.turn (fun _ => options.closures) state = .next next ∧
      options.ComesTo outcome next) ∨
    ∃ counted result, options.turn (fun _ => options.closures) state = .stop counted result ∧
      EndsAs outcome counted result := by
  obtain ⟨allowed, leaves, rfl⟩ := comesTo
  unfold SerializeOptions.turn
  split <;> dsimp only at leaves settles ⊢
  case h_1 => exact .inr ⟨_, _, rfl, by rw [runStack], by rw [runStack]⟩
  case h_2 | h_3 => exact .inl ⟨_, rfl, allowed, leaves, by rw [runStack]⟩
  case h_4 counted frames node target locals rest =>
    cases allowed with
    | zero =>
        -- The visits run out under a limit only, or else the run would be endless.
        have hasLimit : options.limit.isSome = true := by
          by_contra noLimit
          rw [Option.not_isSome_iff_eq_none] at noLimit
          refine settles noLimit ?_
          rw [runStack, exhausted, noLimit]
        rw [if_pos (isSpent_of_leaves_zero leaves hasLimit)]
        refine .inr ⟨_, _, rfl, by rw [runStack], ?_⟩
        rw [runStack, List.reverse_cons]
        exact List.prefix_append _ _
    | succ allowed =>
        rw [if_neg (not_isSpent_of_leaves_succ leaves)]
        have same : { options with closures := options.closures } = options := rfl
        rw [same]
        cases visits : options.visit node target locals ⟨frames, rest⟩ with
        | error reason =>
            exact .inr ⟨_, _, rfl, by rw [runStack, visits], by rw [runStack, visits]⟩
        | ok pending =>
            exact .inl ⟨_, rfl, allowed, leaves.step node, by rw [runStack, visits]⟩
  case h_5 noNode =>
    split
    · rename_i isEmpty
      refine .inl ⟨_, rfl, allowed, leaves, ?_⟩
      rw [runStack, if_pos isEmpty]
      exact noNode
    · rename_i isFilled
      refine .inr ⟨_, _, rfl, ?_, ?_⟩ <;> rw [runStack, if_neg isFilled] <;> exact noNode

theorem ComesTo.endsAs (comesTo : options.ComesTo outcome state)
    (settles : options.limit = none → outcome.result ≠ .error .endless) {turns : Nat}
    {counted : List Node} {result : Except Failure (List Sexp)}
    (ended : options.loop (fun _ => options.closures) turns state = some (counted, result)) :
    EndsAs outcome counted result := by
  refine loop_ends (options.ComesTo outcome) (EndsAs outcome) ?_ ?_ comesTo ended
  · intro state next comesTo goesOn
    rcases comesTo.turn settles with ⟨other, turned, further⟩ | ⟨counted, result, turned, -⟩
    · rw [turned] at goesOn
      exact WorkTurn.next.inj goesOn ▸ further
    · rw [turned] at goesOn
      cases goesOn
  · intro state counted result comesTo stops
    rcases comesTo.turn settles with ⟨next, turned, -⟩ | ⟨visits, outcome, turned, ends⟩
    · rw [turned] at stops
      cases stops
    · rw [turned] at stops
      obtain ⟨rfl, rfl⟩ := WorkTurn.stop.inj stops
      exact ends

theorem comesTo_start (options : SerializeOptions) (root : Option Node) :
    options.ComesTo (serialize options root) (.start root) := by
  refine ⟨options.allowance (.ofNode? root), fun limit isLimit => ?_, rfl⟩
  rw [allowance, isLimit]
  rfl

end SerializeOptions

/-- The loop ends. With closures held by the nodes it ends with or without a limit, and it visits
each node of the graph at most as often as the node occurs there. With a limit it ends whatever is
behind the handles, be it another thing at each visit, and it comes to at most one visit more than
the limit, which is the one that is refused. In both cases it ends as the run does. -/
theorem loop_terminates (options : SerializeOptions) (root : Option Node) :
    (let heldOptions : SerializeOptions := { options with closures := .held }
      let run := serialize heldOptions root
      ∃ turns counted,
        heldOptions.loop (fun _ => .held) turns (.start root) = some (counted, run.result) ∧
          run.visited <+: counted ∧ counted.Subperm (root.toList.flatMap Node.nodes)) ∧
    ∀ limit : Nat,
      let limitedOptions := options.limited limit
      let run := serialize limitedOptions root
      (∀ access : List Node → ClosureAccess, ∃ turns counted result,
        limitedOptions.loop access turns (.start root) = some (counted, result) ∧
          counted.length ≤ limit + 1) ∧
      ∃ turns counted,
        limitedOptions.loop (fun _ => options.closures) turns (.start root) =
            some (counted, run.result) ∧
          run.visited <+: counted ∧ counted.length ≤ limit + 1 := by
  refine ⟨?held, fun limit => ?limited⟩
  case held =>
    intro heldOptions run
    -- A visit takes its own node out of what can be reached; any other turn takes an entry away.
    have falls (state next : WorkState)
        (goesOn : heldOptions.turn (fun _ => .held) state = .next next) :=
      (SerializeOptions.turn_reach (fun _ => rfl) goesOn).2
    obtain ⟨turns, counted, result, ended⟩ :=
      SerializeOptions.exists_loop
        (fun state => (state.pending.reach.length, state.pending.stack.length)) falls (.start root)
    have ends := (heldOptions.comesTo_start root).endsAs
      (fun _ => serialize_settles rfl root) ended
    have subperm := SerializeOptions.loop_subperm (fun _ => rfl) ended
    obtain ⟨rfl, visited⟩ := ends
    refine ⟨turns, counted, ended, visited, ?_⟩
    have reached : (WorkState.start root).pending.reach.Subperm
        (root.toList.flatMap Node.nodes) := by
      cases root with
      | none => exact .refl _
      | some root => exact (root.reach_sublist.append_right []).subperm
    exact subperm.trans reached
  case limited =>
    intro limitedOptions run
    have ends (access : List Node → ClosureAccess) : ∃ turns counted result,
        limitedOptions.loop access turns (.start root) = some (counted, result) ∧
          counted.length ≤ limit + 1 := by
      -- What can be reached may grow at a handle, so only the visits that are left can count.
      have falls (state next : WorkState)
          (goesOn : limitedOptions.turn access state = .next next) :=
        (SerializeOptions.turn_limited rfl goesOn).2
      obtain ⟨turns, counted, result, ended⟩ :=
        SerializeOptions.exists_loop
          (fun state => (limit - state.counted.length, state.pending.stack.length)) falls
          (.start root)
      exact ⟨turns, counted, result, ended,
        SerializeOptions.loop_length_le rfl (Nat.zero_le _) ended⟩
    refine ⟨ends, ?_⟩
    obtain ⟨turns, counted, result, ended, few⟩ := ends fun _ => options.closures
    obtain ⟨rfl, visited⟩ := (limitedOptions.comesTo_start root).endsAs (fun unlimited => by
      cases unlimited) ended
    exact ⟨turns, counted, ended, visited, few⟩

/-- A handle behind which the same handle is found again: the loop goes round until the limit is
used up, and the visit beyond it is refused. -/
example :
    let again : Node := ⟨.known .bmethod, .null, .null, .data (.text "h"), 0, none⟩
    let handles := [("h", Value.closure .null (.node again) none)]
    let options : SerializeOptions := { closures := .ofTable handles, limit := some 2 }
    (options.loop (fun _ => options.closures) 12 (.start (some again))).map
      (fun ended => ended.1.length) = some 3 := by
  cbv

end NodeForms
