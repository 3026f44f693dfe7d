import NodeForms.Proofs.Serialize.Frames
import NodeForms.Proofs.Serialize.WellTyped
import Mathlib.Data.List.ModifyLast

/-!
# Parameters

What comes of an `args` node that passes its check, under each local table: at which positions of
the table its parameters stand, which of them is the first that the table does not have, and the
form that names them in order.
-/

namespace NodeForms

namespace Node

def requiredCount (node : Node) : Nat := (node.u3.int?.getD 0).toNat

def restNumber (node : Node) : Int := node.u2.int?.getD (-1)

def DeclaresNothing (node : Node) : Prop :=
  node.u3.int?.getD 0 = 0 ∧ node.u1.isNull = true ∧ node.restNumber = -1

end Node

/-- How many defaults a slot holds: the statements of a block, if they can be gone through, or one
other node. -/
def defaultsHeld : Value → Except RuleFault Nat
  | .node opt =>
      if opt.kind = .known .block then (Rule.iterated opt.u1).map List.length else .ok 1
  | _ => .ok 0

def placesFrom (position : Int) (count : Nat) : List Int :=
  (List.range count).map fun index : Nat => position + index

/-- The positions of parameters: of the required ones, from the first one that is not reserved on,
of those with a default right behind them, and of the rest parameter, if it has a name. -/
def parameterPlaces (required optional : Nat) (rest : Int) : List Int :=
  placesFrom LocalTable.reservedCount required ++
    placesFrom (LocalTable.reservedCount + required) optional ++
    if 0 < rest then [rest + 1] else []

def writtenNames (rest : Int) (names : List String) : List String :=
  if 0 < rest then names.modifyLast ("*" ++ ·) else names

def defaultsOutcome (options : SerializeOptions) (allowed : Nat) (locals : Locals) :
    Value → Outcome
  | .node opt => opt.outcome options allowed locals
  | _ => ⟨[], .ok []⟩

/-- What comes of an `args` node with names in front of what comes of its defaults. -/
def Outcome.behindNames (inner : Outcome) (node : Node) (names : List String) : Outcome :=
  ⟨node :: inner.visited,
    inner.result.map fun forms => [.seq (.atom "args" :: (names.map .atom ++ forms))]⟩

def LocalTable.firstMissing (table : LocalTable) (places : List Int) : Option Int :=
  places.find? fun place => decide ((table.size : Int) ≤ place)

namespace SerializeOptions

variable (options : SerializeOptions) (node : Node)

/-- The failure of a node that refers to a position beyond a table. -/
def outOfTable (place : Int) (size : Nat) : Failure :=
  .error ⟨.outOfRange place size, RuleFault.outOfTableMessage (integerText place) size,
    options.contextAt node⟩

/-- The failure of a node whose rest number means nothing. -/
def unrecognizedRest : Failure :=
  .error ⟨.structural, "unrecognized rest argument value " ++ integerText node.restNumber,
    options.contextAt node⟩

end SerializeOptions

theorem Value.int?_of_isNull {value : Value} (isEmpty : value.isNull = true) :
    value.int? = none := by
  unfold int?
  split
  · cases isEmpty
  · rfl

theorem LocalTable.resolve_of_le {table : LocalTable} {place : Int} (outside : table.size ≤ place) :
    table.resolve place = .error (.outOfTable place table.size) := by
  have noName : table.get? place = none := by
    unfold LocalTable.get?
    unfold LocalTable.size at outside
    split
    · rfl
    · rw [List.getElem?_eq_none_iff]
      omega
  rw [LocalTable.resolve, noName]

theorem LocalTable.exists_resolve {table : LocalTable} {place : Int} (notNegative : 0 ≤ place)
    (inside : place < table.size) :
    ∃ name, table.get? place = some name ∧ table.resolve place = .ok name := by
  have bound : place.toNat < table.names.length := by
    unfold LocalTable.size at inside
    omega
  have named : table.get? place = some table.names[place.toNat] := by
    rw [LocalTable.get?, if_neg (Int.not_lt.mpr notNegative), List.getElem?_eq_getElem bound]
  exact ⟨_, named, by rw [LocalTable.resolve, named]⟩

theorem mapM_resolve_of_missing {table : LocalTable} {places : List Int}
    (notNegative : ∀ place ∈ places, 0 ≤ place) {place : Int}
    (missing : table.firstMissing places = some place) :
    places.mapM table.resolve = .error (.outOfTable place table.size) := by
  induction places with
  | nil => cases missing
  | cons first others ih =>
      rw [List.forall_mem_cons] at notNegative
      rw [LocalTable.firstMissing] at missing
      rw [List.mapM_cons]
      by_cases outside : (table.size : Int) ≤ first
      · rw [List.find?_cons_of_pos (by simpa using outside)] at missing
        cases missing
        rw [LocalTable.resolve_of_le outside]
        rfl
      · rw [List.find?_cons_of_neg (by simpa using outside)] at missing
        obtain ⟨name, -, resolved⟩ :=
          LocalTable.exists_resolve notNegative.1 (Int.not_le.mp outside)
        rw [resolved, ih notNegative.2 missing]
        rfl

theorem exists_mapM_resolve {table : LocalTable} {places : List Int}
    (notNegative : ∀ place ∈ places, 0 ≤ place) (noneMissing : table.firstMissing places = none) :
    ∃ names, List.Forall₂ (fun place name => table.get? place = some name) places names ∧
      places.mapM table.resolve = .ok names := by
  induction places with
  | nil => exact ⟨[], .nil, rfl⟩
  | cons first others ih =>
      rw [List.forall_mem_cons] at notNegative
      rw [LocalTable.firstMissing, List.find?_eq_none, List.forall_mem_cons,
        decide_eq_true_eq] at noneMissing
      obtain ⟨name, named, resolved⟩ :=
        LocalTable.exists_resolve notNegative.1 (Int.not_le.mp noneMissing.1)
      obtain ⟨names, rest, taken⟩ :=
        ih notNegative.2 (List.find?_eq_none.mpr noneMissing.2)
      refine ⟨name :: names, .cons named rest, ?_⟩
      rw [List.mapM_cons, resolved, taken]
      rfl

theorem placesFrom_succ (position : Int) (count : Nat) :
    placesFrom position (count + 1) = position :: placesFrom (position + 1) count := by
  simp only [placesFrom, List.range_succ_eq_map, List.map_cons, List.map_map, Function.comp_def]
  refine congrArg₂ List.cons (by simp) (List.map_congr_left fun index _ => ?_)
  omega

theorem placesFrom_notNegative {position : Int} (notNegative : 0 ≤ position) (count : Nat) :
    ∀ place ∈ placesFrom position count, 0 ≤ place := by
  intro place member
  obtain ⟨index, -, rfl⟩ := List.mem_map.mp member
  omega

theorem parameterPlaces_notNegative (required optional : Nat) (rest : Int) :
    ∀ place ∈ parameterPlaces required optional rest, 0 ≤ place := by
  intro place member
  rw [parameterPlaces, List.mem_append, List.mem_append] at member
  rcases member with (inRequired | inOptional) | inRest
  · exact placesFrom_notNegative (by decide) required place inRequired
  · exact placesFrom_notNegative (by omega) optional place inOptional
  · split at inRest
    · rw [List.mem_singleton] at inRest
      omega
    · cases inRest

namespace Rule

def nameParts (names : List String) : List Part := names.map fun name => .value (.atom name)

theorem tableRun_eq (table : LocalTable) (position : Int) (count : Nat) :
    tableRun (.table table) position count =
      nameParts <$> (placesFrom position count).mapM table.resolve := by
  induction count generalizing position with
  | zero => rfl
  | succ count ih =>
      rw [tableRun, placesFrom_succ, List.mapM_cons, ih, Locals.resolve]
      cases table.resolve position with
      | error fault => rfl
      | ok name => cases (placesFrom (position + 1) count).mapM table.resolve <;> rfl

theorem restAt_eq (table : LocalTable) (rest : Int) :
    restAt (.table table) rest =
      (if 0 < rest then [rest + 1] else []).mapM table.resolve >>= fun names =>
        if rest = 0 ∨ rest < -2 then .error (.restUnrecognized (integerText rest))
        else .ok (nameParts (writtenNames rest names)) := by
  unfold restAt
  by_cases named : 0 < rest
  · have recognized : ¬(rest = 0 ∨ rest < -2) := by omega
    rw [if_pos named, if_pos named, List.mapM_cons, List.mapM_nil, Locals.resolve]
    cases table.resolve (rest + 1) with
    | error fault => rfl
    | ok name =>
        have starred : [name].modifyLast ("*" ++ ·) = ["*" ++ name] :=
          List.modifyLast_concat _ name []
        simp [bind, Except.bind, pure, Except.pure, Except.map, recognized, writtenNames, named,
          nameParts, starred]
  · rw [if_neg named, if_neg named, List.mapM_nil]
    by_cases marks : rest = -1 ∨ rest = -2
    · have recognized : ¬(rest = 0 ∨ rest < -2) := by omega
      rw [if_pos marks]
      simp [bind, Except.bind, pure, Except.pure, recognized, writtenNames, named, nameParts]
    · have unrecognized : rest = 0 ∨ rest < -2 := by omega
      rw [if_neg marks]
      simp [bind, Except.bind, pure, Except.pure, unrecognized]

theorem countOf_eq {payload : Value} (admits : Expected.integer.admits payload = true) :
    countOf payload = .ok (payload.int?.getD 0) := by
  rcases Value.integer_of_admits admits with isEmpty | ⟨number, rfl⟩
  · rw [Value.int?_of_isNull isEmpty]
    unfold countOf
    split
    · cases isEmpty
    · cases isEmpty
    · rw [if_neg (by simp [Value.isTruthy_of_isNull isEmpty])]
      rfl
  · rfl

theorem restParts_eq {node : Node} (admits : Expected.integer.admits node.u2 = true)
    (locals : Locals) : restParts locals node.u2 = restAt locals node.restNumber := by
  rcases Value.integer_of_admits admits with isEmpty | ⟨number, same⟩
  · have noRest : node.restNumber = -1 := by rw [Node.restNumber, Value.int?_of_isNull isEmpty]; rfl
    rw [noRest]
    unfold restParts
    split <;> rename_i same
    case h_5 =>
      rw [if_pos isEmpty]
      rfl
    all_goals
      rw [same] at isEmpty
      cases isEmpty
  · rw [Node.restNumber, same]
    rfl

theorem exists_defaultCount {slot : Value} (admits : Expected.node.admits slot = true) :
    ∃ opt, nodeOrNone slot = .ok opt ∧ defaultCount opt = defaultsHeld slot := by
  rcases Value.node_of_admits admits with isEmpty | ⟨opt, rfl⟩
  · refine ⟨none, ?_, ?_⟩
    · unfold nodeOrNone
      split
      · cases isEmpty
      · rw [if_pos isEmpty]
    · unfold defaultsHeld
      split
      · cases isEmpty
      · rfl
  · exact ⟨some opt, rfl, rfl⟩

variable {scope : RuleScope} {table : LocalTable} {node : Node}

theorem declaresNothing_iff (second : Expected.integer.admits node.u2 = true)
    (third : Expected.integer.admits node.u3 = true) :
    (!isTruthy node.u3) ∧ node.u1.isNull ∧ hasNoRest node.u2 ↔ node.DeclaresNothing := by
  have noCount : (!isTruthy node.u3) = true ↔ node.u3.int?.getD 0 = 0 := by
    rcases Value.integer_of_admits third with isEmpty | ⟨number, same⟩
    · rw [Value.isTruthy_of_isNull isEmpty, Value.int?_of_isNull isEmpty]
      simp
    · rw [same]
      simp [isTruthy, Data.isTruthy, Scalar.isTruthy, Value.int?]
  have noRest : hasNoRest node.u2 = true ↔ node.restNumber = -1 := by
    rw [Node.restNumber]
    rcases Value.integer_of_admits second with isEmpty | ⟨number, same⟩
    · unfold hasNoRest
      rw [isEmpty, Bool.true_or, Value.int?_of_isNull isEmpty]
      exact ⟨fun _ => rfl, fun _ => rfl⟩
    · rw [same]
      simp [hasNoRest, Value.isNull, Data.isNull, Scalar.equals, Scalar.asNumber?, Value.int?]
  rw [noCount, noRest, Node.DeclaresNothing]

theorem arguments_of_bare (checked : node.slots.Fit (.known .args))
    (bare : scope.locals = .absent ∨ node.DeclaresNothing) : arguments scope node = .ok [] := by
  rw [← declaresNothing_iff (checked .second) (checked .third)] at bare
  rw [arguments, if_pos bare]

theorem writtenNames_append {rest : Int} {names : List String} (front : List String)
    (filled : 0 < rest → names ≠ []) :
    writtenNames rest (front ++ names) = front ++ writtenNames rest names := by
  unfold writtenNames
  split
  · exact List.modifyLast_append_of_right_ne_nil _ _ _ (filled ‹_›)
  · rfl

/-- Under a table the names are looked up one after the other, before the rest number is judged. -/
theorem arguments_eq (isTable : scope.locals = .table table) (checked : node.slots.Fit (.known .args))
    (declares : ¬node.DeclaresNothing) :
    arguments scope node = (do
      let required ←
        (placesFrom LocalTable.reservedCount node.requiredCount).mapM table.resolve
      let count ← defaultsHeld node.u1
      let optional ←
        (placesFrom (LocalTable.reservedCount + node.requiredCount) count).mapM table.resolve
      let rest ← (if 0 < node.restNumber then [node.restNumber + 1] else []).mapM table.resolve
      if node.restNumber = 0 ∨ node.restNumber < -2 then
        .error (.restUnrecognized (integerText node.restNumber))
      else
        .ok (nameParts (writtenNames node.restNumber (required ++ optional ++ rest)) ++
          Part.present node.u1)) := by
  have first : Expected.node.admits node.u1 = true := checked .first
  have second : Expected.integer.admits node.u2 = true := checked .second
  have third : Expected.integer.admits node.u3 = true := checked .third
  obtain ⟨opt, isOpt, counted⟩ := exists_defaultCount first
  have goesOn : ¬(scope.locals = .absent ∨
      (!isTruthy node.u3) ∧ node.u1.isNull ∧ hasNoRest node.u2) := by
    rw [declaresNothing_iff second third, isTable]
    simpa using declares
  have atRest : ∀ names,
      (if 0 < node.restNumber then [node.restNumber + 1] else []).mapM table.resolve = .ok names →
        0 < node.restNumber → names ≠ [] := by
    rintro names taken named rfl
    rw [if_pos named, List.mapM_cons, bind_eq_ok] at taken
    obtain ⟨name, -, taken⟩ := taken
    cases taken
  rw [arguments, if_neg goesOn, countOf_eq third, isTable, restParts_eq second, restAt_eq, isOpt,
    ok_bind, ← counted]
  simp only [ok_bind, tableRun_eq, bind_map_left, bind_assoc]
  refine bind_congr fun required => bind_congr fun count => bind_congr fun optional => ?_
  -- The star belongs to the last of all names, which is there if the rest number is a position.
  refine bind_congr_of_ok fun rest taken => ?_
  have written := writtenNames_append (required ++ optional) (atRest rest taken)
  by_cases unrecognized : node.restNumber = 0 ∨ node.restNumber < -2
  · rw [if_pos unrecognized, if_pos unrecognized]
    rfl
  · rw [if_neg unrecognized, if_neg unrecognized, written]
    simp [nameParts, bind, Except.bind]

theorem arguments_of_counted (isTable : scope.locals = .table table)
    (checked : node.slots.Fit (.known .args)) (declares : ¬node.DeclaresNothing) {count : Nat}
    (counted : defaultsHeld node.u1 = .ok count) :
    arguments scope node =
      (parameterPlaces node.requiredCount count node.restNumber).mapM table.resolve >>=
        fun names =>
          if node.restNumber = 0 ∨ node.restNumber < -2 then
            .error (.restUnrecognized (integerText node.restNumber))
          else .ok (nameParts (writtenNames node.restNumber names) ++ Part.present node.u1) := by
  rw [arguments_eq isTable checked declares, counted, parameterPlaces, List.mapM_append,
    List.mapM_append]
  simp only [bind_assoc, pure_bind]
  rfl

end Rule

section

variable {options : SerializeOptions} {allowed : Nat} {locals : Locals} {node : Node}

theorem runTasks_nameParts (visited : List Node) (lists : OpenLists) (names : List String)
    (parts : List Part) (rest : List Task) :
    runTasks options allowed visited lists
        (Task.ofParts locals (Rule.nameParts names ++ parts) ++ rest) =
      runTasks options allowed visited ⟨(names.map .atom).reverse ++ lists.inner, lists.outer⟩
        (Task.ofParts locals parts ++ rest) := by
  induction names generalizing lists with
  | nil => rfl
  | cons name names ih =>
      have emitted := ih (lists.push (.atom name))
      rw [Rule.nameParts, List.map_cons, List.cons_append, Task.ofParts, Task.ofPart,
        List.append_assoc, List.singleton_append, runTasks, ← Rule.nameParts, emitted]
      simp [OpenLists.push]

theorem visitStep_args (isArgs : node.kind = .known .args) (lists : OpenLists) :
    options.visitStep lists locals node =
      match Rule.arguments (options.scope locals) node with
      | .error fault => .error (options.ruleFailure node fault)
      | .ok parts => .ok (lists.enter "args", Task.ofParts locals parts ++ [.leave]) := by
  have noMarker : ¬node.kind = .known .newline := by simp [isArgs]
  have isTag : node.tag = "args" := by rw [Node.tag, isArgs]; rfl
  rw [SerializeOptions.visitStep, if_neg noMarker, isTag, isArgs]
  rfl

theorem outcome_args_error (isArgs : node.kind = .known .args) {fault : RuleFault}
    (refused : Rule.arguments (options.scope locals) node = .error fault) :
    node.outcome options (allowed + 1) locals =
      ⟨[node], .error (options.ruleFailure node fault)⟩ := by
  rw [Node.outcome_eq_runTasks, runTasks_visit, visitStep_args isArgs, refused]
  rfl

theorem outcome_args_ok (isArgs : node.kind = .known .args) {names : List String} {slot : Value}
    (isSite : slot.isNull = true ∨ ∃ child, slot = .node child)
    (found : Rule.arguments (options.scope locals) node =
      .ok (Rule.nameParts names ++ Part.present slot)) :
    node.outcome options (allowed + 1) locals =
      (defaultsOutcome options allowed locals slot).behindNames node names := by
  rw [Node.outcome_eq_runTasks, runTasks_visit, visitStep_args isArgs, found]
  dsimp only
  rw [List.append_nil, runTasks_nameParts]
  rcases isSite with isEmpty | ⟨child, rfl⟩
  · have noDefaults : defaultsOutcome options allowed locals slot = ⟨[], .ok []⟩ := by
      unfold defaultsOutcome
      split
      · cases isEmpty
      · rfl
    rw [noDefaults, Part.present, if_pos isEmpty]
    simp [Task.ofParts, runTasks, OpenLists.leave, OpenLists.enter, Outcome.behindNames, Except.map]
  · -- The defaults are a place of their own, with the open list around them.
    have isPart : Part.present (.node child) = [.node child] := rfl
    rw [isPart, Task.ofParts, Task.ofPart, Task.ofParts, List.append_nil, List.singleton_append,
      runTasks_eq_resume, defaultsOutcome]
    unfold Outcome.resume Outcome.behindNames
    cases (child.outcome options allowed locals).result with
    | error reason => simp [Except.map]
    | ok forms => simp [runTasks, OpenLists.leave, OpenLists.enter, Except.map]

/-- What comes of an `args` node that passes its check, wherever it is visited. Without a table, or
if it declares nothing, it is an empty list. Under a table the first position that the table does
not have is an error, and else a rest number that means nothing; if there is neither, the form has
the names at the positions in order, and then what comes of the defaults under the same table. Only
a block of defaults that cannot be gone through has no number of them, so all that can be wrong
before is a position of a required parameter. -/
theorem outcome_args (options : SerializeOptions) (allowed : Nat) (locals : Locals) (node : Node)
    (isArgs : node.kind = .known .args) (checked : node.check = .ok ()) :
    let outcome := node.outcome options (allowed + 1) locals
    (∀ pending lists target around rest, Pending.Does pending lists target around rest →
      ∀ visited,
        runStack options (allowed + 1) visited pending.frames
            (⟨.visit (.node node), target, locals⟩ :: pending.stack) =
          outcome.resume options (allowed + 1) visited lists rest) ∧
    (∀ visited lists rest,
      runTasks options (allowed + 1) visited lists (.visit node locals :: rest) =
        outcome.resume options (allowed + 1) visited lists rest) ∧
    (locals = .absent ∨ node.DeclaresNothing → outcome = ⟨[node], .ok [.seq [.atom "args"]]⟩) ∧
    ∀ table, locals = .table table → ¬node.DeclaresNothing →
      (∀ optional, defaultsHeld node.u1 = .ok optional →
        let places := parameterPlaces node.requiredCount optional node.restNumber
        (∀ place, table.firstMissing places = some place →
          outcome = ⟨[node], .error (options.outOfTable node place table.size)⟩) ∧
        (table.firstMissing places = none →
          (node.restNumber = 0 ∨ node.restNumber < -2 →
            outcome = ⟨[node], .error (options.unrecognizedRest node)⟩) ∧
          (¬(node.restNumber = 0 ∨ node.restNumber < -2) →
            ∃ names, List.Forall₂ (fun place name => table.get? place = some name) places names ∧
              outcome = (defaultsOutcome options allowed locals node.u1).behindNames node
                (writtenNames node.restNumber names)))) ∧
      ∀ fault, defaultsHeld node.u1 = .error fault →
        let places := placesFrom LocalTable.reservedCount node.requiredCount
        (∀ place, table.firstMissing places = some place →
          outcome = ⟨[node], .error (options.outOfTable node place table.size)⟩) ∧
        (table.firstMissing places = none →
          outcome = ⟨[node], .error (options.ruleFailure node fault)⟩) := by
  intro outcome
  have fit := Node.check_eq_ok_iff.mp checked
  rw [isArgs] at fit
  refine ⟨fun pending lists target around rest does visited =>
      runStack_eq_resume options _ visited does node locals,
    fun visited lists rest => runTasks_eq_resume options _ visited lists node locals rest,
    fun bare => ?_, fun table isTable declares => ⟨?_, ?_⟩⟩
  -- No table, or nothing declared: the tag stands alone.
  · have found : Rule.arguments (options.scope locals) node =
        .ok (Rule.nameParts [] ++ Part.present .null) := Rule.arguments_of_bare fit bare
    exact outcome_args_ok isArgs (.inl rfl) found
  · intro optional counted places
    have underTable : (options.scope locals).locals = .table table := isTable
    have applied := Rule.arguments_of_counted underTable fit declares counted
    have notNegative := parameterPlaces_notNegative node.requiredCount optional node.restNumber
    -- The names are looked up before the rest number is judged, so a missing one comes first.
    refine ⟨fun place missing => ?_, fun noneMissing => ?_⟩
    · rw [mapM_resolve_of_missing notNegative missing] at applied
      exact outcome_args_error isArgs applied
    · obtain ⟨names, named, resolved⟩ := exists_mapM_resolve notNegative noneMissing
      rw [resolved] at applied
      refine ⟨fun unrecognized => ?_, fun recognized => ⟨names, named, ?_⟩⟩
      · exact outcome_args_error isArgs (applied.trans (if_pos unrecognized))
      · exact outcome_args_ok isArgs (Value.node_of_admits (fit .first))
          (applied.trans (if_neg recognized))
  -- The required names are looked up before the defaults are counted.
  · intro fault uncounted places
    have underTable : (options.scope locals).locals = .table table := isTable
    have applied := Rule.arguments_eq underTable fit declares
    rw [uncounted] at applied
    have notNegative : ∀ place ∈ places, 0 ≤ place :=
      placesFrom_notNegative (by decide) node.requiredCount
    refine ⟨fun place missing => ?_, fun noneMissing => ?_⟩
    · rw [mapM_resolve_of_missing notNegative missing] at applied
      exact outcome_args_error isArgs applied
    · obtain ⟨names, -, resolved⟩ := exists_mapM_resolve notNegative noneMissing
      rw [resolved] at applied
      exact outcome_args_error isArgs applied

/-- A required parameter, one with a default, and a rest parameter with a name: the names stand in
front of the block with the default. -/
theorem outcome_args_optionalAndRest :
    let table := LocalTable.ofDeclared ["a", "b", "rest"]
    let default : Node := ⟨.known .lasgn, .data (.text "b"), .null, .null, 1, none⟩
    let block : Node := ⟨.known .block, .ofNodes [default], .null, .null, 1, none⟩
    let node : Node := ⟨.known .args, .node block, .data (.int 4), .data (.int 1), 1, none⟩
    let outcome := node.outcome {} 3 (.table table)
    node.check = .ok () ∧ ¬node.DeclaresNothing ∧ defaultsHeld node.u1 = .ok 1 ∧
      parameterPlaces node.requiredCount 1 node.restNumber = [3, 4, 5] ∧
      table.firstMissing [3, 4, 5] = none ∧
      outcome = (block.outcome {} 2 (.table table)).behindNames node ["a", "b", "*rest"] := by
  intro table default block node outcome
  have checked : node.check = .ok () := rfl
  have declares : ¬node.DeclaresNothing := fun nothing => absurd nothing.1 (by decide)
  have counted : defaultsHeld node.u1 = .ok 1 := rfl
  have places : parameterPlaces node.requiredCount 1 node.restNumber = [3, 4, 5] := by decide
  have noneMissing : table.firstMissing [3, 4, 5] = none := by decide
  have ofTable := (outcome_args {} 2 (.table table) node rfl checked).2.2.2 table rfl declares
  obtain ⟨-, further⟩ := ofTable.1 1 counted
  rw [places] at further
  obtain ⟨names, named, formed⟩ := (further noneMissing).2 (by decide)
  obtain rfl : ["a", "b", "rest"] = names := by
    rcases named with _ | ⟨first, _ | ⟨second, _ | ⟨third, ⟨⟩⟩⟩⟩
    obtain rfl : "a" = _ := Option.some.inj first
    obtain rfl : "b" = _ := Option.some.inj second
    obtain rfl : "rest" = _ := Option.some.inj third
    rfl
  exact ⟨checked, declares, counted, places, noneMissing, formed⟩

end

end NodeForms
