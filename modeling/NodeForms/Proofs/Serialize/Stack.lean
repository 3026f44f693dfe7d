import NodeForms.Proofs.Serialize.Tasks
import Mathlib.Data.List.Perm.Basic

/-!
# The work stack does the tasks

Entries of the work stack write into lists known by their numbers, while tasks write into the
innermost open list. Both do the same: at any time the entries on top write into one list, which
is open, those below the entry that closes it into the list around it, and so on, up to the list
of the whole tree. The list of a group is opened as soon as the group is put on the stack, long
before its turn; nothing else is written into it until then.
-/

namespace NodeForms

namespace Frames

variable {frames : Frames} {frame other : Nat}

@[simp] theorem size_push (form : Sexp) : (frames.push frame form).size = frames.size :=
  Array.size_modify

@[simp] theorem size_openList (first : Sexp) : (frames.openList first).size = frames.size + 1 :=
  Array.size_push _

theorem items_push_self (inside : frame < frames.size) (form : Sexp) :
    (frames.push frame form).items frame = frames.items frame ++ [form] := by
  have found : frames.builders[frame]? = some frames.builders[frame] :=
    Array.getElem?_eq_getElem inside
  simp [items, push, Array.getElem?_modify, found]

theorem items_push_of_ne (apart : other ≠ frame) (form : Sexp) :
    (frames.push frame form).items other = frames.items other := by
  simp [items, push, Array.getElem?_modify, apart.symm]

theorem items_openList_self (first : Sexp) :
    (frames.openList first).items frames.size = [first] := by
  simp [items, openList, size]

theorem items_openList_of_lt (inside : frame < frames.size) (first : Sexp) :
    (frames.openList first).items frame = frames.items frame := by
  have apart : frame ≠ frames.builders.size := Nat.ne_of_lt inside
  simp [items, openList, Array.getElem?_push, apart]

end Frames

/-- The entries of a stack stand for tasks. The topmost ones write into `target`, the others into
the lists `around` it; `later` are the lists of the groups whose turn has not come, with their
tags. -/
inductive StandsFor : Nat → List Nat → List (Nat × String) → List Entry → List Task → Prop
  | done : StandsFor Frames.top [] [] [] []
  | emit {target : Nat} {around : List Nat} {later : List (Nat × String)} {stack : List Entry}
      {tasks : List Task} (form : Sexp) (locals : Locals)
      (rest : StandsFor target around later stack tasks) :
      StandsFor target around later (⟨.emit form, target, locals⟩ :: stack) (.emit form :: tasks)
  | visit {target : Nat} {around : List Nat} {later : List (Nat × String)} {stack : List Entry}
      {tasks : List Task} (node : Node) (locals : Locals)
      (rest : StandsFor target around later stack tasks) :
      StandsFor target around later (⟨.visit (.node node), target, locals⟩ :: stack)
        (.visit node locals :: tasks)
  | empty {target : Nat} {around : List Nat} {later : List (Nat × String)} {stack : List Entry}
      {tasks : List Task} {payload : Value} (locals : Locals) (isEmpty : payload.isNull = true)
      (rest : StandsFor target around later stack tasks) :
      StandsFor target around later (⟨.visit payload, target, locals⟩ :: stack) tasks
  | refuse {target : Nat} {around : List Nat} {later : List (Nat × String)} {stack : List Entry}
      {tasks : List Task} {payload : Value} (locals : Locals)
      (noNode : ∀ child, payload ≠ .node child) (isFilled : ¬payload.isNull = true)
      (rest : StandsFor target around later stack tasks) :
      StandsFor target around later (⟨.visit payload, target, locals⟩ :: stack) (.refuse :: tasks)
  | close {target outer : Nat} {around : List Nat} {later : List (Nat × String)}
      {stack : List Entry} {tasks : List Task} (locals : Locals)
      (rest : StandsFor outer around later stack tasks) :
      StandsFor target (outer :: around) later (⟨.close target, outer, locals⟩ :: stack)
        (.leave :: tasks)
  | enter {target group : Nat} {around : List Nat} {later : List (Nat × String)}
      {stack : List Entry} {tasks : List Task} (tag : String)
      (rest : StandsFor group (target :: around) later stack tasks) :
      StandsFor target around ((group, tag) :: later) stack (.enter tag :: tasks)

/-- The lists hold what the open lists hold, and those of the later groups nothing but their
tags. All of them are different lists. -/
structure Frames.Hold (frames : Frames) (lists : OpenLists) (target : Nat) (around : List Nat)
    (later : List (Nat × String)) : Prop where
  inner : frames.items target = lists.inner.reverse
  outer : around.map frames.items = lists.outer.map List.reverse
  tags : ∀ group ∈ later, frames.items group.1 = [.atom group.2]
  distinct : (target :: (around ++ later.map Prod.fst)).Nodup
  inside : ∀ frame ∈ target :: (around ++ later.map Prod.fst), frame < frames.size

namespace Frames.Hold

variable {frames : Frames} {lists : OpenLists} {target : Nat} {around : List Nat}
  {later : List (Nat × String)}

/-- What is written into the innermost list does not show in any other one. -/
theorem push (hold : frames.Hold lists target around later) (form : Sexp) :
    (frames.push target form).Hold (lists.push form) target around later where
  inner := by
    rw [items_push_self (hold.inside target List.mem_cons_self), hold.inner]
    exact List.reverse_cons.symm
  outer := by
    refine (List.map_congr_left fun frame isOuter => items_push_of_ne ?_ form).trans hold.outer
    rintro rfl
    exact (List.nodup_cons.mp hold.distinct).1 (List.mem_append_left _ isOuter)
  tags group isLater := by
    rw [← hold.tags group isLater]
    refine items_push_of_ne (fun same => ?_) form
    have isListed : group.1 ∈ later.map Prod.fst := List.mem_map_of_mem isLater
    exact (List.nodup_cons.mp hold.distinct).1 (List.mem_append_right _ (same ▸ isListed))
  distinct := hold.distinct
  inside := by simpa using hold.inside

theorem enter {group : Nat} {tag : String} :
    frames.Hold lists target around ((group, tag) :: later) ↔
      frames.Hold (lists.enter tag) group (target :: around) later := by
  have moved : (target :: (around ++ group :: later.map Prod.fst)).Perm
      (group :: (target :: around ++ later.map Prod.fst)) := by
    rw [← List.cons_append]
    exact List.perm_middle
  constructor
  · intro hold
    refine ⟨hold.tags _ List.mem_cons_self, ?_, fun later isLater =>
      hold.tags later (List.mem_cons_of_mem _ isLater), moved.nodup hold.distinct,
      fun frame isListed => hold.inside frame (moved.mem_iff.mpr isListed)⟩
    rw [List.map_cons, hold.inner, hold.outer]
    rfl
  · intro hold
    obtain ⟨inner, outer⟩ := List.cons.inj hold.outer
    refine ⟨inner, outer, List.forall_mem_cons.mpr ⟨hold.inner, hold.tags⟩,
      moved.symm.nodup hold.distinct,
      fun frame isListed => hold.inside frame (moved.mem_iff.mp isListed)⟩

theorem openList (hold : frames.Hold lists target around later) (tag : String) :
    (frames.openList (.atom tag)).Hold (lists.enter tag) frames.size (target :: around) later where
  inner := items_openList_self _
  outer := by
    have kept : ∀ frame ∈ target :: around,
        (frames.openList (.atom tag)).items frame = frames.items frame := fun frame isOpen =>
      items_openList_of_lt (hold.inside frame (List.mem_append_left _ isOpen)) _
    rw [List.map_congr_left kept, List.map_cons, hold.inner, hold.outer]
    rfl
  tags group isLater := by
    have isListed : group.1 ∈ later.map Prod.fst := List.mem_map_of_mem isLater
    rw [items_openList_of_lt (hold.inside _
      (List.mem_cons_of_mem _ (List.mem_append_right _ isListed)))]
    exact hold.tags group isLater
  distinct := by
    refine List.nodup_cons.mpr ⟨fun isListed => ?_, hold.distinct⟩
    exact Nat.lt_irrefl _ (hold.inside frames.size isListed)
  inside := by
    rw [size_openList]
    refine List.forall_mem_cons.mpr ⟨Nat.lt_succ_self _, fun frame isListed => ?_⟩
    exact Nat.lt_succ_of_lt (hold.inside frame isListed)

theorem close {outer : Nat} (hold : frames.Hold lists target (outer :: around) later) :
    (frames.push outer (frames.build target)).Hold lists.leave outer around later := by
  obtain ⟨inner, outerLists⟩ := lists
  cases outerLists with
  | nil => cases hold.outer
  | cons enclosing others =>
      obtain ⟨ofOuter, ofOthers⟩ := List.cons.inj hold.outer
      have below : frames.Hold ⟨enclosing, others⟩ outer around later :=
        ⟨ofOuter, ofOthers, hold.tags, (List.nodup_cons.mp hold.distinct).2,
          fun frame isListed => hold.inside frame (List.mem_cons_of_mem _ isListed)⟩
      rw [build, hold.inner]
      exact below.push _

end Frames.Hold

/-- Entries stand for tasks, and the lists hold what the open lists hold. -/
def Pending.Does (pending : Pending) (lists : OpenLists) (target : Nat) (around : List Nat)
    (tasks : List Task) : Prop :=
  ∃ later, StandsFor target around later pending.stack tasks ∧
    pending.frames.Hold lists target around later

namespace Pending

variable {pending : Pending} {lists : OpenLists} {target : Nat} {around : List Nat}
  {tasks : List Task}

theorem Does.visitPayload (does : pending.Does lists target around tasks) (payload : Value)
    (locals : Locals) :
    Does ⟨pending.frames, ⟨.visit payload, target, locals⟩ :: pending.stack⟩ lists target around
      (Task.ofVisit locals payload ++ tasks) := by
  obtain ⟨later, stands, hold⟩ := does
  refine ⟨later, ?_, hold⟩
  unfold Task.ofVisit
  split
  case h_1 child => exact stands.visit child locals
  case h_2 noNode =>
    split
    case isTrue isEmpty => exact stands.empty locals isEmpty
    case isFalse isFilled => exact stands.refuse locals noNode isFilled

theorem Does.openList (does : pending.Does lists target around tasks) (tag : String)
    (locals : Locals) :
    Does ⟨pending.frames.openList (.atom tag),
        ⟨.close pending.frames.size, target, locals⟩ :: pending.stack⟩
      (lists.enter tag) pending.frames.size (target :: around) (.leave :: tasks) := by
  obtain ⟨later, stands, hold⟩ := does
  exact ⟨later, stands.close locals, hold.openList tag⟩

mutual
theorem Does.schedulePart {pending : Pending} {lists : OpenLists} {target : Nat}
    {around : List Nat} {tasks : List Task} (does : pending.Does lists target around tasks)
    (locals : Locals) : (part : Part) →
    (NodeForms.schedulePart target locals part pending).Does lists target around
      (Task.ofPart locals part ++ tasks)
  | .value form => by
      obtain ⟨later, stands, hold⟩ := does
      rw [NodeForms.schedulePart, Task.ofPart]
      exact ⟨later, stands.emit form locals, hold⟩
  | .node child => by
      obtain ⟨later, stands, hold⟩ := does
      rw [NodeForms.schedulePart, Task.ofPart]
      exact ⟨later, stands.visit child locals, hold⟩
  | .scoped child inner => by
      rw [NodeForms.schedulePart, Task.ofPart]
      split
      case isTrue =>
        obtain ⟨later, stands, hold⟩ := does
        exact ⟨later, stands.emit .nil locals, hold⟩
      case isFalse => exact does.visitPayload child inner
  | .group tag members => by
      have inside := (does.openList tag locals).schedule locals members
      obtain ⟨later, stands, hold⟩ := inside
      rw [NodeForms.schedulePart, Task.ofPart, List.cons_append, List.append_assoc]
      exact ⟨_, stands.enter tag, Frames.Hold.enter.mpr hold⟩
theorem Does.schedule {pending : Pending} {lists : OpenLists} {target : Nat}
    {around : List Nat} {tasks : List Task} (does : pending.Does lists target around tasks)
    (locals : Locals) : (parts : List Part) →
    (NodeForms.schedule target locals parts pending).Does lists target around
      (Task.ofParts locals parts ++ tasks)
  | [] => by
      rw [NodeForms.schedule]
      exact does
  | part :: parts => by
      have others := does.schedule locals parts
      rw [NodeForms.schedule, Task.ofParts, List.append_assoc]
      exact others.schedulePart locals part
end

end Pending

section

variable {options : SerializeOptions}

theorem runTasks_unhandled (allowed : Nat) (visited : List Node) (lists : OpenLists) (node : Node)
    (rest : List Task) :
    runTasks options allowed visited (lists.enter "unhandled")
        (.emit (.int node.kind.id) :: .leave :: rest) =
      runTasks options allowed visited (lists.push (unhandledForm node)) rest := by
  rw [runTasks, runTasks]
  rfl

/-- A visit puts entries on the stack that stand for the tasks of the node. -/
theorem SerializeOptions.visit_does {pending : Pending} {lists : OpenLists} {target : Nat}
    {around : List Nat} {rest : List Task} (does : pending.Does lists target around rest)
    (allowed : Nat) (visited : List Node) (node : Node) (locals : Locals) :
    (∃ reason, options.visit node target locals pending = .error reason ∧
      runTasks options (allowed + 1) visited lists (.visit node locals :: rest) =
        ⟨(node :: visited).reverse, .error reason⟩) ∨
    ∃ next opened inside outside tasks, options.visit node target locals pending = .ok next ∧
      next.Does opened inside outside tasks ∧
      runTasks options (allowed + 1) visited lists (.visit node locals :: rest) =
        runTasks options allowed (node :: visited) opened tasks := by
  rw [runTasks, visit]
  by_cases isMarker : node.kind = .known .newline
  · simp only [if_pos isMarker]
    have marked : Pending.Does
        ⟨if options.markers then pending.frames.push target (lineMarker node)
          else pending.frames, pending.stack⟩
        (if options.markers then lists.push (lineMarker node) else lists) target around rest := by
      obtain ⟨later, stands, hold⟩ := does
      split
      · exact ⟨later, stands, hold.push _⟩
      · exact ⟨later, stands, hold⟩
    exact .inr ⟨_, _, target, around, _, rfl, marked.visitPayload node.u3 locals, rfl⟩
  · simp only [if_neg isMarker, openNode]
    cases hasRule : node.kind.rule? with
    | none =>
        have opened := (does.openList "unhandled" locals).schedule locals
          [.value (.int node.kind.id)]
        refine .inr ⟨_, _, _, _, _, rfl, opened, ?_⟩
        exact (runTasks_unhandled allowed (node :: visited) lists node rest).symm
    | some rule =>
        dsimp only
        cases rule (options.scope locals) node with
        | error fault => exact .inl ⟨_, rfl, rfl⟩
        | ok parts =>
            exact .inr ⟨_, _, _, _, _, rfl, (does.openList node.tag locals).schedule locals parts,
              rfl⟩

theorem runStack_eq_of_visits {allowed : Nat}
    (ofVisit : ∀ {frames lists target around later stack tasks} (visited : List Node)
      (node : Node) (locals : Locals), StandsFor target around later stack tasks →
        frames.Hold lists target around later →
          runStack options allowed visited frames
              (⟨.visit (.node node), target, locals⟩ :: stack) =
            runTasks options allowed visited lists (.visit node locals :: tasks))
    {frames : Frames} {lists : OpenLists} {target : Nat} {around : List Nat}
    {later : List (Nat × String)} {stack : List Entry} {tasks : List Task}
    (stands : StandsFor target around later stack tasks)
    (hold : frames.Hold lists target around later) (visited : List Node) :
    runStack options allowed visited frames stack =
      runTasks options allowed visited lists tasks := by
  induction stands generalizing frames lists with
  | done => rw [runStack, runTasks, hold.inner]
  | emit form locals rest inductionHypothesis =>
      rw [runStack, runTasks]
      exact inductionHypothesis (hold.push form)
  | visit node locals rest => exact ofVisit visited node locals rest hold
  | empty locals isEmpty rest inductionHypothesis =>
      rw [runStack, if_pos isEmpty]
      · exact inductionHypothesis hold
      · rintro child rfl
        cases isEmpty
  | refuse locals noNode isFilled rest =>
      rw [runStack, runTasks, if_neg isFilled]
      exact noNode
  | close locals rest inductionHypothesis =>
      rw [runStack, runTasks]
      exact inductionHypothesis hold.close
  | enter tag rest inductionHypothesis =>
      rw [runTasks]
      exact inductionHypothesis (Frames.Hold.enter.mp hold)

theorem runStack_eq_runTasks {pending : Pending} {lists : OpenLists} {target : Nat}
    {around : List Nat} {tasks : List Task} (does : pending.Does lists target around tasks)
    (allowed : Nat) (visited : List Node) :
    runStack options allowed visited pending.frames pending.stack =
      runTasks options allowed visited lists tasks := by
  induction allowed generalizing visited pending lists target around tasks with
  | zero =>
      obtain ⟨later, stands, hold⟩ := does
      refine runStack_eq_of_visits (fun visited node locals _ _ => ?_) stands hold visited
      rw [runStack, runTasks]
  | succ allowed inductionHypothesis =>
      obtain ⟨later, stands, hold⟩ := does
      refine runStack_eq_of_visits
        (fun {frames lists target around later stack tasks} visited node locals stands hold => ?_)
        stands hold visited
      have does : Pending.Does ⟨frames, stack⟩ lists target around tasks := ⟨later, stands, hold⟩
      rcases options.visit_does does allowed visited node locals with
        ⟨reason, fails, same⟩ | ⟨next, opened, inside, outside, tasks, ok, does, same⟩
      · rw [same, runStack, fails]
      · rw [same, runStack, ok]
        exact inductionHypothesis does (node :: visited)

theorem Pending.does_start : Pending.Does ⟨.start, []⟩ {} Frames.top [] [] :=
  ⟨[], .done, by constructor <;> simp [Frames.start, Frames.items, Frames.top, Frames.size]⟩

end

theorem serializePayload_eq_runTasks (options : SerializeOptions) (root : Value) :
    serializePayload options root =
      runTasks options (options.allowance root) [] {} (Task.ofVisit .absent root) := by
  have does := Pending.does_start.visitPayload root .absent
  rw [List.append_nil] at does
  exact runStack_eq_runTasks does _ []

theorem serialize_none (options : SerializeOptions) : serialize options none = ⟨[], .ok []⟩ := by
  rw [serialize, serializePayload_eq_runTasks]
  exact runTasks.eq_1 ..

theorem serialize_some (options : SerializeOptions) (root : Node) :
    serialize options (some root) =
      runTasks options (options.allowance (.node root)) [] {} [.visit root .absent] :=
  serializePayload_eq_runTasks options (.node root)

/-- What a slot holds is a tree, or nothing, or cannot be visited. -/
theorem serializePayload_cases (options : SerializeOptions) (root : Value) :
    (∃ node, root = .node node ∧ serializePayload options root = serialize options (some node)) ∨
      serializePayload options root = serialize options none ∨
      serializePayload options root = ⟨[], .error (.payload .noNode)⟩ := by
  cases root with
  | node node => exact .inl ⟨node, rfl, rfl⟩
  | _ =>
      right
      rw [serialize_none, serializePayload_eq_runTasks, Task.ofVisit]
      · split
        · left
          exact runTasks.eq_1 ..
        · right
          rw [runTasks]
          rfl
      · simp

end NodeForms
