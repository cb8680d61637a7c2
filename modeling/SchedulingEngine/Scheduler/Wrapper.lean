import SchedulingEngine.Scheduler.Lifetimes

/-!
# The public wrapper (scheduler.h)

A `Scheduler` of scheduler.h is a pointer to its implementation: `NULL` before
`scheduler_init` and after `scheduler_destroy`. Any number of lifetimes follow one
another in it, each with its own worker count, capacity and backend.

- `schedulerInitCall` is `scheduler_init` with the outcomes of all its backend calls.
- `WrapperSteps` are the runs: `scheduler_init` and the calls on an empty wrapper happen
  between the lifecycle calls of a lifetime, and `scheduler_destroy` ends it.
-/

namespace SchedulingEngine

open Concurrency

variable {W : ℕ} {C P : Type}

/-! ## `scheduler_init` -/

inductive SchedSyncResult where
  | ok
  | errorInvalidArgument
  | errorSystem
  deriving DecidableEq, Repr

def mapTaskQueueResult : TaskQueueResult → ConcurrentTaskQueueResult
  | .ok => .ok
  | .errorInvalidArgument => .errorInvalidArgument
  | .errorAllocation => .errorAllocation
  | _ => .errorSystem

def mapSyncResult : SchedSyncResult → ConcurrentTaskQueueResult
  | .ok => .ok
  | .errorInvalidArgument => .errorInvalidArgument
  | .errorSystem => .errorSystem

def mapQueueInitResult : ConcurrentTaskQueueResult → SchedulerResult
  | .ok => .ok
  | .errorAllocation => .errorAllocation
  | _ => .errorSystem

/-- What the backend answers to `concurrent_task_queue_init`: its two allocations and its
three sync objects. -/
structure QueueInitOutcomes where
  items : Bool
  implementation : Bool
  mutex : SchedSyncResult
  notEmpty : SchedSyncResult
  notFull : SchedSyncResult

/-- What it answers to the rest of `scheduler_init`. -/
structure InitOutcomes where
  implementation : Bool
  queue : QueueInitOutcomes
  lifecycleMutex : SchedSyncResult
  lifecycleCondition : SchedSyncResult

/-- `concurrent_task_queue_init`, with the ring it leaves. -/
def concurrentTaskQueueInitCall (capacity : ℕ) (backend : QueueInitOutcomes) :
    ConcurrentTaskQueueResult × Option (TaskQueue P) :=
  if capacity = 0 ∨ capacity > sizeMax / taskPointerSize then (.errorInvalidArgument, none)
  else
    let (r, queue) := taskQueueInit capacity backend.items
    if r ≠ .ok then (mapTaskQueueResult r, none)
    else if backend.implementation = false then (.errorAllocation, none)
    else if backend.mutex ≠ .ok then (mapSyncResult backend.mutex, none)
    else if backend.notEmpty ≠ .ok then (mapSyncResult backend.notEmpty, none)
    else if backend.notFull ≠ .ok then (mapSyncResult backend.notFull, none)
    else (.ok, queue)

/-- The wrapper and, while it holds one, the scheduler and the threads around it. -/
inductive Wrapper (C P : Type) where
  | empty
  | holding {W : ℕ} (cfg : SchedulerConfig W) (s : SchedulerPool W C P)

/-- `scheduler_init` with the arguments in `cfg`; `scheduler` and `execute` say whether
these pointers are set. -/
def schedulerInitCall (scheduler execute : Bool) (cfg : SchedulerConfig W) (backend : InitOutcomes)
    (wrapper : Wrapper C P) : SchedulerResult × Wrapper C P :=
  if scheduler = false ∨ cfg.capacity = 0 ∨ W = 0 ∨ execute = false then
    (.errorInvalidArgument, wrapper)
  else
    match wrapper with
    | .holding _ _ => (.errorInvalidState, wrapper)
    | .empty =>
      if backend.implementation = false then (.errorAllocation, .empty)
      else
        match concurrentTaskQueueInitCall cfg.capacity backend.queue with
        | (.ok, some queue) =>
          if backend.lifecycleMutex ≠ .ok then (.errorSystem, .empty)
          else if backend.lifecycleCondition ≠ .ok then (.errorSystem, .empty)
          else (.ok, .holding cfg (schedulerInitial queue))
        | (r, _) => (mapQueueInitResult r, .empty)

/-- The ring of an initialised queue is the one that `task_queue_init` made. -/
theorem concurrentTaskQueueInitCall_ok {capacity : ℕ} {backend : QueueInitOutcomes}
    {queue : TaskQueue P} (h : concurrentTaskQueueInitCall capacity backend = (.ok, some queue)) :
    taskQueueInit capacity true = (.ok, some queue) := by
  have hnone : ∀ {r : ConcurrentTaskQueueResult},
      (r, (none : Option (TaskQueue P))) ≠ (.ok, some queue) := nofun
  unfold concurrentTaskQueueInitCall at h
  dsimp only at h
  split at h
  · exact (hnone h).elim
  split at h
  · exact (hnone h).elim
  rename_i hguard hr
  -- every failure after the ring leaves no queue
  iterate 4
    split at h
    · exact (hnone h).elim
  have hring : taskQueueInit capacity backend.items = (.ok, some queue) :=
    Prod.ext (Decidable.not_not.mp hr) (Prod.mk.inj h).2
  cases hitems : backend.items with
  | true => rwa [hitems] at hring
  | false =>
    rw [hitems, taskQueueInit, if_neg hguard] at hring
    cases hring

/-- What `scheduler_init` can do to the wrapper. -/
theorem schedulerInitCall_cases (scheduler execute : Bool) (cfg : SchedulerConfig W)
    (backend : InitOutcomes) (wrapper : Wrapper C P) :
    (schedulerInitCall scheduler execute cfg backend wrapper).2 = wrapper ∨
      0 < W ∧ ∃ queue, taskQueueInit cfg.capacity true = (.ok, some queue) ∧
        schedulerInitCall scheduler execute cfg backend wrapper
          = (.ok, .holding cfg (schedulerInitial queue)) := by
  unfold schedulerInitCall
  split
  · exact .inl rfl
  · rename_i hguard
    have hW : 0 < W := by
      rw [Nat.pos_iff_ne_zero]
      exact fun h => hguard (.inr (.inr (.inl h)))
    split
    · exact .inl rfl
    · split
      · exact .inl rfl
      · split
        · rename_i hqueue
          split
          · exact .inl rfl
          · split
            · exact .inl rfl
            · exact .inr ⟨hW, _, concurrentTaskQueueInitCall_ok hqueue, rfl⟩
        · exact .inl rfl

/-- A rejected `scheduler_init` leaves the wrapper as it is. -/
theorem schedulerInitCall_rejected {scheduler execute : Bool} {cfg : SchedulerConfig W}
    {backend : InitOutcomes} {wrapper : Wrapper C P}
    (h : (schedulerInitCall scheduler execute cfg backend wrapper).1.isInvalid = true) :
    (schedulerInitCall scheduler execute cfg backend wrapper).2 = wrapper := by
  rcases schedulerInitCall_cases scheduler execute cfg backend wrapper with hsame | ⟨-, _, -, hok⟩
  · exact hsame
  · rw [hok] at h
    cases h

/-! ## Lifetimes -/

/-- The answer of a call on a wrapper that holds no scheduler; the calls of the fault plan
answer `false`. -/
def answerEmpty : LifecycleCall → Option SchedulerResult
  | .start | .shutdown | .join => some .errorInvalidState
  | .destroy => some .ok
  | .faultConfigure _ _ | .faultReset => none

section Runs

variable [DecidableEq C] [Fintype C]

/-- One step around a wrapper. Lifecycle calls are serialised, and nobody else uses a
scheduler that is being freed. -/
inductive WrapperStep : Wrapper C P → Wrapper C P → Prop where
  | init {W : ℕ} (scheduler execute : Bool) (cfg : SchedulerConfig W) (backend : InitOutcomes) :
      WrapperStep .empty (schedulerInitCall scheduler execute cfg backend .empty).2
  | initAgain {V W : ℕ} (scheduler execute : Bool) (cfg : SchedulerConfig W)
      (backend : InitOutcomes) (held : SchedulerConfig V) (s : SchedulerPool V C P)
      (hbetween : (s.pc .controller).between = true) :
      WrapperStep (.holding held s)
        (schedulerInitCall scheduler execute cfg backend (.holding held s)).2
  | answer (call : LifecycleCall) (r : SchedulerResult) (h : answerEmpty call = some r) :
      WrapperStep .empty .empty
  | run {W : ℕ} (cfg : SchedulerConfig W) {s s' : SchedulerPool W C P}
      (h : (schedulerProgram cfg).Step s s') : WrapperStep (.holding cfg s) (.holding cfg s')
  | destroy {W : ℕ} (cfg : SchedulerConfig W) (s : SchedulerPool W C P)
      (hfree : s.pc .controller = .controller .destroyFree)
      (hidle : ∀ c, s.pc (.client c) = .call .idle) : WrapperStep (.holding cfg s) .empty

/-- The runs over any number of lifetimes. -/
def WrapperSteps : Wrapper C P → Wrapper C P → Prop := Relation.ReflTransGen WrapperStep

/-- The scheduler in the wrapper is one that its configuration can reach. -/
def Wrapper.Sound : Wrapper C P → Prop
  | .empty => True
  | .holding cfg s => SchedulerReachable cfg s

theorem schedulerInitCall_sound (scheduler execute : Bool) (cfg : SchedulerConfig W)
    (backend : InitOutcomes) {wrapper : Wrapper C P} (h : wrapper.Sound) :
    (schedulerInitCall scheduler execute cfg backend wrapper).2.Sound := by
  rcases schedulerInitCall_cases scheduler execute cfg backend wrapper with
    hsame | ⟨hW, queue, hinit, hok⟩
  · rw [hsame]
    exact h
  · rw [hok]
    exact ⟨hW, queue, hinit, .refl⟩

theorem WrapperStep.sound {w w' : Wrapper C P} (h : WrapperStep w w') (hsound : w.Sound) :
    w'.Sound := by
  cases h with
  | init scheduler execute cfg backend =>
    exact schedulerInitCall_sound scheduler execute cfg backend hsound
  | initAgain scheduler execute cfg backend held s hbetween =>
    exact schedulerInitCall_sound scheduler execute cfg backend hsound
  | answer call r h => trivial
  | run cfg h => exact SchedulerReachable.tail hsound (.single h)
  | destroy cfg s hfree hidle => trivial

/-- **Every scheduler that any run of lifetimes shows is a reachable one.** -/
theorem WrapperSteps.sound {w : Wrapper C P} (h : WrapperSteps .empty w) : w.Sound := by
  induction h with
  | refl => trivial
  | tail _ hstep ih => exact hstep.sound ih

theorem WrapperSteps.run {cfg : SchedulerConfig W} {w : Wrapper C P} {s s' : SchedulerPool W C P}
    (h : WrapperSteps w (.holding cfg s)) (hsteps : (schedulerProgram cfg).Steps s s') :
    WrapperSteps w (.holding cfg s') := by
  induction hsteps with
  | refl => exact h
  | tail _ hstep ih => exact .tail ih (.run cfg hstep)

/-- **The lifecycle of a scheduler**, in any of its lifetimes: what its state says between
two lifecycle calls, the path of its states, and that a rejected call changes nothing. -/
theorem lifecycle_invariant {cfg : SchedulerConfig W} {s : SchedulerPool W C P}
    (h : WrapperSteps .empty (.holding cfg s)) :
    ((s.pc .controller).between = true → BetweenCalls s) ∧
    s.shared.history.states.count .running ≤ 1 ∧
    (statePath s.shared.history.states <+: [.initialized, .failed, .stopped] ∨
      statePath s.shared.history.states <+: [.initialized, .running, .shuttingDown, .stopped] ∨
      statePath s.shared.history.states
        <+: [.initialized, .running, .shuttingDown, .failed, .stopped]) ∧
    (∀ ls s' call r, s.pc .controller = .controller .idle →
      (schedulerProgram cfg).run ls s = some s' →
      (schedulerProgram cfg).Every
        (fun u t _ => t = .controller → (u.pc .controller).answered = false) ls s →
      s'.pc .controller = .controller (.returned call r) → r.isInvalid = true →
      (schedulerProgram cfg).Every
        (fun u t u' => t = .controller → u'.shared.unlockLifecycle = u.shared.unlockLifecycle)
        ls s) ∧
    ∀ (V : ℕ) (scheduler execute : Bool) (again : SchedulerConfig V) (backend : InitOutcomes)
      (wrapper : Wrapper C P),
      (schedulerInitCall scheduler execute again backend wrapper).1.isInvalid = true →
        (schedulerInitCall scheduler execute again backend wrapper).2 = wrapper := by
  have hreach : SchedulerReachable cfg s := h.sound
  refine ⟨hreach.betweenCalls, hreach.onPath.running_le, hreach.onPath.begins, ?_, ?_⟩
  · intro ls s' call r _ hrun hcall hreturned hinvalid
    refine (hreach.rejected hrun hcall ?_).2
    rw [hreturned]
    exact hinvalid
  · intro V scheduler execute again backend wrapper hinvalid
    exact schedulerInitCall_rejected hinvalid

/-- A backend that refuses nothing. -/
def reliableInit : InitOutcomes := ⟨true, ⟨true, true, .ok, .ok, .ok⟩, .ok, .ok⟩

theorem lifecycle_invariant_after_lifetime :
    ∃ s : SchedulerPool 1 (Fin 2) ℕ, WrapperSteps .empty (.holding reliableConfig s) ∧
      s.shared.lifecycle.state = .stopped ∧ s.shared.queue.shutdownRequested = true ∧
      s.shared.history.states.count .running = 1 := by
  obtain ⟨s, hsteps, hobs⟩ := Program.exists_of_run (schedulerProgram reliableConfig)
    lifetimeSchedule (schedulerInitial smallQueue)
    (fun s : SchedulerPool 1 (Fin 2) ℕ =>
      ((s.pc .controller).between, s.shared.lifecycle.state,
        s.shared.history.states.count .running))
    (v := (true, .stopped, 1)) (by decide +kernel)
  obtain ⟨hbetween, hobs⟩ := Prod.mk.inj hobs
  obtain ⟨hstate, hcount⟩ := Prod.mk.inj hobs
  have hinit : WrapperStep (C := Fin 2) (P := ℕ) .empty
      (.holding reliableConfig (schedulerInitial smallQueue)) :=
    .init true true reliableConfig reliableInit
  have hrun := WrapperSteps.run (.single hinit) hsteps
  exact ⟨s, hrun, hstate, ((lifecycle_invariant hrun).1 hbetween).closed (.inr (.inl hstate)),
    hcount⟩

end Runs

end SchedulingEngine
