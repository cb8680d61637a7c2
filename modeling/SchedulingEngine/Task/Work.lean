import Mathlib.Data.Set.Basic
import Mathlib.Logic.Relation

/-!
# Tasks (task.c)

A Task carries its work and a state. Two calls change it: `taskTransitionState` and
`taskConsumeWork`, which completes the Task when it takes the last of its work.

- `TaskEdge`: the transitions that task.h permits.
- `Task.Accounted`: what holds of a Task of which `consumed` units were taken.
- `task_work_conserved`: it holds after every sequence of calls.
-/

namespace SchedulingEngine

/-! ## The data -/

/-- `TaskState`; a caller may pass a value that is not one of its constants. -/
inductive TaskState where
  | created
  | queued
  | running
  | completed
  | failed
  | cancelled
  | rejected
  | outside (value : ℤ)
  deriving DecidableEq, Repr

inductive TaskPriority where
  | low
  | normal
  | high
  | outside (value : ℤ)
  deriving DecidableEq, Repr

structure Task where
  id : UInt64
  priority : TaskPriority
  state : TaskState
  totalWork : UInt64
  remainingWork : UInt64
  deriving DecidableEq, Repr

/-! ## The calls -/

/-- `task_transition_is_valid`. -/
def taskTransitionIsValid (current next : TaskState) : Bool :=
  match current with
  | .created => next = .queued || next = .cancelled || next = .rejected
  | .queued => next = .running || next = .cancelled
  | .running => next = .completed || next = .failed
  | .completed | .failed | .cancelled | .rejected | .outside _ => false

/-- `task_state_is_valid`. -/
def taskStateIsValid : TaskState → Bool
  | .created | .queued | .running | .completed | .failed | .cancelled | .rejected => true
  | .outside _ => false

/-- `task_priority_is_valid`. -/
def taskPriorityIsValid : TaskPriority → Bool
  | .low | .normal | .high => true
  | .outside _ => false

/-- `task_init` on the storage of the caller. -/
def taskInit (task : Task) (id : UInt64) (priority : TaskPriority) (totalWork : UInt64) :
    Task × Bool :=
  if !taskPriorityIsValid priority || totalWork = 0 then (task, false)
  else ({ id, priority, state := .created, totalWork, remainingWork := totalWork }, true)

/-- `task_transition_state` on a Task. -/
def taskTransitionState (task : Task) (newState : TaskState) : Task × Bool :=
  if !taskStateIsValid newState || !taskTransitionIsValid task.state newState then (task, false)
  else ({ task with state := newState }, true)

/-- `task_consume_work` on a Task. -/
def taskConsumeWork (task : Task) (workUnits : UInt64) : Task × Bool :=
  if workUnits = 0 || !taskStateIsValid task.state || task.state ≠ .running
      || task.remainingWork = 0 || workUnits > task.remainingWork then
    (task, false)
  else if workUnits = task.remainingWork then
    let (task, transitioned) := taskTransitionState task .completed
    if !transitioned then (task, false) else ({ task with remainingWork := 0 }, true)
  else ({ task with remainingWork := task.remainingWork - workUnits }, true)

inductive TaskCall where
  | transition (newState : TaskState)
  | consume (workUnits : UInt64)
  deriving DecidableEq, Repr

/-- One call on a Task: the Task afterwards and the answer. -/
def taskCall (task : Task) : TaskCall → Task × Bool
  | .transition newState => taskTransitionState task newState
  | .consume workUnits => taskConsumeWork task workUnits

/-- A sequence of calls. -/
def taskRun (task : Task) (calls : List TaskCall) : Task :=
  calls.foldl (fun task call => (taskCall task call).1) task

/-- What a call takes if it succeeds. -/
def TaskCall.amount : TaskCall → ℕ
  | .transition _ => 0
  | .consume workUnits => workUnits.toNat

/-- The amounts of the successful `task_consume_work` calls, in exact arithmetic. -/
def consumedWork (task : Task) : List TaskCall → ℕ
  | [] => 0
  | call :: calls =>
    (if (taskCall task call).2 then call.amount else 0) + consumedWork (taskCall task call).1 calls

/-! ## What the header promises -/

/-- The permitted transitions of task.h. -/
inductive TaskEdge : TaskState → TaskState → Prop where
  | enqueue : TaskEdge .created .queued
  | cancelCreated : TaskEdge .created .cancelled
  | reject : TaskEdge .created .rejected
  | run : TaskEdge .queued .running
  | cancelQueued : TaskEdge .queued .cancelled
  | complete : TaskEdge .running .completed
  | fail : TaskEdge .running .failed

/-- The states that no transition leaves. -/
def TaskState.terminal : TaskState → Bool
  | .completed | .failed | .cancelled | .rejected => true
  | _ => false

/-- The states in which no work has been taken. -/
def TaskState.untouched : TaskState → Bool
  | .created | .queued | .cancelled | .rejected => true
  | _ => false

/-- `task_transition_is_valid` answers for the edges of the header. -/
theorem taskTransitionIsValid_iff (current next : TaskState) :
    taskTransitionIsValid current next = true ↔ TaskEdge current next := by
  constructor
  · intro h
    cases current <;> simp [taskTransitionIsValid] at h
    · rcases h with (rfl | rfl) | rfl
      · exact .enqueue
      · exact .cancelCreated
      · exact .reject
    · rcases h with rfl | rfl
      · exact .run
      · exact .cancelQueued
    · rcases h with rfl | rfl
      · exact .complete
      · exact .fail
  · intro h
    cases h <;> rfl

theorem TaskEdge.not_terminal {current next : TaskState} (h : TaskEdge current next) :
    current.terminal = false := by
  cases h <;> rfl

/-- Work is taken in `RUNNING` only, and what comes after it is not untouched. -/
theorem TaskEdge.untouched {current next : TaskState} (h : TaskEdge current next)
    (hnext : next.untouched = true) : current.untouched = true := by
  cases h with
  | run => cases hnext
  | complete => cases hnext
  | fail => cases hnext
  | _ => rfl

/-! ## What one call does -/

/-- The outcomes of a call. -/
inductive TaskCallSpec (task : Task) : TaskCall → Task × Bool → Prop where
  | refused (call : TaskCall) : TaskCallSpec task call (task, false)
  | moved {newState : TaskState} (h : TaskEdge task.state newState) :
      TaskCallSpec task (.transition newState) ({ task with state := newState }, true)
  | exhausted {workUnits : UInt64} (hstate : task.state = .running)
      (hpos : workUnits ≠ 0) (hall : workUnits = task.remainingWork) :
      TaskCallSpec task (.consume workUnits)
        ({ task with state := .completed, remainingWork := 0 }, true)
  | worked {workUnits : UInt64} (hstate : task.state = .running)
      (hlt : workUnits < task.remainingWork) :
      TaskCallSpec task (.consume workUnits)
        ({ task with remainingWork := task.remainingWork - workUnits }, true)

theorem taskTransitionState_spec (task : Task) (newState : TaskState) :
    TaskCallSpec task (.transition newState) (taskTransitionState task newState) := by
  unfold taskTransitionState
  split
  · exact .refused _
  · rename_i hvalid
    have hedge : taskTransitionIsValid task.state newState = true := by
      simp only [Bool.or_eq_true, Bool.not_eq_true', not_or, Bool.not_eq_false] at hvalid
      exact hvalid.2
    exact .moved ((taskTransitionIsValid_iff _ _).mp hedge)

/-- A running Task can be completed. -/
theorem taskTransitionState_completed {task : Task} (h : task.state = .running) :
    taskTransitionState task .completed = ({ task with state := .completed }, true) := by
  unfold taskTransitionState
  rw [h]
  rfl

theorem taskConsumeWork_spec (task : Task) (workUnits : UInt64) :
    TaskCallSpec task (.consume workUnits) (taskConsumeWork task workUnits) := by
  unfold taskConsumeWork
  split
  · exact .refused _
  · rename_i hguard
    simp only [Bool.or_eq_true, decide_eq_true_eq, Bool.not_eq_true', not_or, Decidable.not_not,
      gt_iff_lt, UInt64.not_lt] at hguard
    obtain ⟨⟨⟨⟨hpos, -⟩, hstate⟩, -⟩, hle⟩ := hguard
    split
    · rename_i hall
      -- the nested transition cannot fail, so state and work change together
      rw [taskTransitionState_completed hstate]
      exact .exhausted hstate hpos hall
    · rename_i hne
      exact .worked hstate (UInt64.lt_of_le_of_ne hle hne)

/-- **What a call can do**: nothing, or a permitted change with the answer `true`. -/
theorem taskCall_spec (task : Task) (call : TaskCall) :
    TaskCallSpec task call (taskCall task call) := by
  cases call with
  | transition newState => exact taskTransitionState_spec task newState
  | consume workUnits => exact taskConsumeWork_spec task workUnits

theorem TaskCallSpec.unchanged {task : Task} {call : TaskCall} {out : Task × Bool}
    (h : TaskCallSpec task call out) (hfalse : out.2 = false) : out.1 = task := by
  cases h with
  | refused => rfl
  | moved => cases hfalse
  | exhausted => cases hfalse
  | worked => cases hfalse

/-- Terminal states refuse every call. -/
theorem TaskCallSpec.terminal {task : Task} {call : TaskCall} {out : Task × Bool}
    (h : TaskCallSpec task call out) (hterminal : task.state.terminal = true) : out.1 = task := by
  cases h with
  | refused => rfl
  | moved hedge => exact absurd hterminal (by simp [hedge.not_terminal])
  | exhausted hstate => exact absurd hterminal (by simp [hstate, TaskState.terminal])
  | worked hstate => exact absurd hterminal (by simp [hstate, TaskState.terminal])

theorem TaskCallSpec.edge {task : Task} {call : TaskCall} {out : Task × Bool}
    (h : TaskCallSpec task call out) :
    out.1.state = task.state ∨ TaskEdge task.state out.1.state := by
  cases h with
  | refused => exact .inl rfl
  | moved hedge => exact .inr hedge
  | exhausted hstate =>
    right
    rw [hstate]
    exact .complete
  | worked => exact .inl rfl

/-! ## Whole sequences -/

/-- A Task made with `id`, `priority` and `total`, after `consumed` units of its work. -/
structure Task.Accounted (id : UInt64) (priority : TaskPriority) (total : UInt64) (consumed : ℕ)
    (task : Task) : Prop where
  id_eq : task.id = id
  priority_eq : task.priority = priority
  total_eq : task.totalWork = total
  balance : task.remainingWork.toNat + consumed = total.toNat
  exhausted : task.remainingWork = 0 → task.state = .completed
  untouched : task.state.untouched = true → consumed = 0
  path : Relation.ReflTransGen TaskEdge .created task.state

section Run

variable {id total : UInt64} {priority : TaskPriority} {consumed : ℕ} {task : Task}

theorem taskInit_accounted {storage : Task}
    (h : taskInit storage id priority total = (task, true)) :
    task.Accounted id priority total 0 := by
  unfold taskInit at h
  split at h
  · cases h
  · rename_i hguard
    simp only [Bool.or_eq_true, decide_eq_true_eq, not_or] at hguard
    cases h
    exact ⟨rfl, rfl, rfl, rfl, fun hzero => absurd hzero hguard.2, fun _ => rfl, .refl⟩

/-- **Step lemma**: a call keeps the account, with what it took added. -/
theorem TaskCallSpec.accounted {call : TaskCall} {out : Task × Bool}
    (h : TaskCallSpec task call out) (hacc : task.Accounted id priority total consumed) :
    out.1.Accounted id priority total (consumed + if out.2 then call.amount else 0) := by
  cases h with
  | refused => exact hacc
  | moved hedge =>
    refine { hacc with
      exhausted := ?_
      untouched := ?_
      path := hacc.path.tail hedge }
    · intro hzero
      -- a Task without work is completed, and that state is left by no edge
      have hcompleted := hacc.exhausted hzero
      have hterminal := hedge.not_terminal
      rw [hcompleted] at hterminal
      cases hterminal
    · intro huntouched
      exact hacc.untouched (hedge.untouched huntouched)
  | exhausted hstate hpos hall =>
    refine ⟨hacc.id_eq, hacc.priority_eq, hacc.total_eq, ?_, fun _ => rfl, nofun, ?_⟩
    · have hbalance := hacc.balance
      rw [← hall] at hbalance
      show 0 + (consumed + _) = _
      simp only [if_true, TaskCall.amount]
      omega
    · have hpath := hacc.path
      rw [hstate] at hpath
      exact hpath.tail .complete
  | worked hstate hlt =>
    have hsub : (task.remainingWork - _).toNat = task.remainingWork.toNat - _ :=
      UInt64.toNat_sub_of_le _ _ (UInt64.le_of_lt hlt)
    have hlt' := UInt64.lt_iff_toNat_lt.mp hlt
    refine ⟨hacc.id_eq, hacc.priority_eq, hacc.total_eq, ?_, ?_, ?_, hacc.path⟩
    · have hbalance := hacc.balance
      show (task.remainingWork - _).toNat + (consumed + _) = _
      rw [hsub]
      simp only [if_true, TaskCall.amount]
      omega
    · intro hzero
      have hzero' : (task.remainingWork - _).toNat = 0 := congrArg UInt64.toNat hzero
      rw [hsub] at hzero'
      omega
    · intro huntouched
      exact absurd huntouched (by simp [hstate, TaskState.untouched])

/-- **Run lemma**: a sequence of calls keeps the account. -/
theorem taskRun_accounted (hacc : task.Accounted id priority total consumed)
    (calls : List TaskCall) :
    (taskRun task calls).Accounted id priority total (consumed + consumedWork task calls) := by
  induction calls generalizing task consumed with
  | nil => exact hacc
  | cons call calls ih =>
    have hrest := ih ((taskCall_spec task call).accounted hacc)
    rw [Nat.add_assoc] at hrest
    exact hrest

end Run

/-- **Work is conserved** by every sequence of calls on an initialised Task. -/
theorem task_work_conserved {storage task : Task} {id total : UInt64} {priority : TaskPriority}
    (hinit : taskInit storage id priority total = (task, true)) (calls : List TaskCall) :
    let reached := taskRun task calls
    reached.remainingWork.toNat + consumedWork task calls = total.toNat ∧
      reached.id = id ∧ reached.priority = priority ∧ reached.totalWork = total ∧
      (reached.remainingWork = 0 → reached.state = .completed) ∧
      (reached.state.untouched = true → reached.remainingWork = total) ∧
      Relation.ReflTransGen TaskEdge .created reached.state ∧
      ∀ call,
        (reached.state.terminal = true → (taskCall reached call).1 = reached) ∧
        ((taskCall reached call).2 = false → (taskCall reached call).1 = reached) ∧
        ((taskCall reached call).1.state = reached.state ∨
          TaskEdge reached.state (taskCall reached call).1.state) := by
  intro reached
  have hacc : reached.Accounted id priority total (consumedWork task calls) := by
    have hrun := taskRun_accounted (taskInit_accounted hinit) calls
    rwa [Nat.zero_add] at hrun
  refine ⟨hacc.balance, hacc.id_eq, hacc.priority_eq, hacc.total_eq,
    hacc.exhausted, ?_, hacc.path, ?_⟩
  · intro huntouched
    have hbalance := hacc.balance
    rw [hacc.untouched huntouched] at hbalance
    exact UInt64.toNat_inj.mp hbalance
  · intro call
    have hspec := taskCall_spec reached call
    exact ⟨hspec.terminal, hspec.unchanged, hspec.edge⟩

/-- A Task of five units, run to its end in two parts with refused calls between them. -/
theorem task_work_conserved_completed :
    ∃ task : Task, taskInit ⟨0, .low, .created, 0, 0⟩ 7 .high 5 = (task, true) ∧
      let calls : List TaskCall :=
        [.transition .queued, .consume 1, .transition .running, .consume 2,
        .transition (.outside 9), .consume 4, .consume 3]
      (taskRun task calls).state = .completed ∧
        (taskRun task calls).remainingWork.toNat + consumedWork task calls = 5 := by
  have hinit : taskInit ⟨0, .low, .created, 0, 0⟩ 7 .high 5 =
      (⟨7, .high, .created, 5, 5⟩, true) := by
    decide
  refine ⟨⟨7, .high, .created, 5, 5⟩, hinit, by decide, ?_⟩
  exact (task_work_conserved hinit _).1

end SchedulingEngine
