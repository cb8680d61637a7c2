import Mathlib.Data.Fintype.Sum
import SchedulingEngine.Observability.Snapshot
import SchedulingEngine.Queue.ConcurrentTaskQueue
import SchedulingEngine.Scheduler.FaultInjection

/-!
# The state of the scheduler (scheduler.c)

One scheduler is used by one controlling thread, which makes the lifecycle calls one
after the other, by any finite number of client threads, which submit Tasks and
capture snapshots, and by its `W` worker threads. `Scheduler` groups the fields of
`SchedulerImplementation` by the lock that guards them; the per-worker slots of
`WorkerContext` are read and written by single atomic accesses.

Where a thread stands is a program counter: `CallPc` inside a submission or a
snapshot capture (made by a client, or by a worker in the middle of its callback),
`WorkerPc` inside `scheduler_worker_entry`, `ControllerPc` inside a lifecycle call.
A counter that ends in `Lock` is about to take a mutex, one that ends in `Unlock` is
about to give it back.

`SchedulerHistory` is a log that no operation reads.
-/

namespace SchedulingEngine

open Concurrency

inductive SchedulerResult where
  | ok
  | errorInvalidArgument
  | errorInvalidState
  | errorAllocation
  | errorQueueFull
  | errorShutdown
  | errorSystem
  deriving DecidableEq, Repr

/-- `WORKER_RESULT_*`. -/
inductive WorkerResult where
  | ok
  | invalidContext
  | synchronization
  | queue
  deriving DecidableEq, Repr

/-- The threads around a scheduler with `W` workers and the clients `C`. -/
inductive Thread (W : ℕ) (C : Type) where
  | controller
  | worker (i : Fin W)
  | client (c : C)
  deriving DecidableEq, Repr

/-- One controller, the workers and the clients. -/
def Thread.equiv (W : ℕ) (C : Type) : Unit ⊕ Fin W ⊕ C ≃ Thread W C where
  toFun
    | .inl () => .controller
    | .inr (.inl i) => .worker i
    | .inr (.inr c) => .client c
  invFun
    | .controller => .inl ()
    | .worker i => .inr (.inl i)
    | .client c => .inr (.inr c)
  left_inv := by rintro (_ | _ | _) <;> rfl
  right_inv := by rintro (_ | _ | _) <;> rfl

instance {W : ℕ} {C : Type} [Fintype C] : Fintype (Thread W C) :=
  Fintype.ofEquiv _ (Thread.equiv W C)

/-- The condition variables of the scheduler and of its queue. -/
inductive SchedulerCondition where
  | queue (c : QueueCondition)
  | lifecycle
  | worker
  deriving DecidableEq, Repr

/-- The configuration of a scheduler: the arguments of `scheduler_init`, what the
backend may do, and the two build switches. -/
structure SchedulerConfig (W : ℕ) where
  capacity : ℕ
  transitionSignaling : Bool
  faultInjection : Bool
  waitMayFail : Bool
  allocationMayFail : Bool
  syncInitMayFail : Bool
  createMayFail : Bool
  joinMayFail : Bool
  deriving DecidableEq, Repr

def SchedulerConfig.queue {W : ℕ} (cfg : SchedulerConfig W) : QueueConfig :=
  ⟨cfg.transitionSignaling, cfg.waitMayFail⟩

/-- `WorkerContext`; `scheduler` says whether its pointer is set. -/
structure WorkerContext where
  scheduler : Bool := false
  workerIndex : ℕ := 0
  dequeuedCount : ℕ := 0
  callbackStartedCount : ℕ := 0
  callbackSucceededCount : ℕ := 0
  callbackFailedCount : ℕ := 0
  currentlyRunningCount : ℕ := 0
  accountingOverflow : Bool := false
  deriving DecidableEq, Repr

/-- The fields guarded by `lifecycle_mutex`. -/
structure LifecycleDomain (T : Type) where
  mutex : Option T
  state : SchedulerState
  activeSubmitterCount : ℕ
  submittedCount : ℕ
  acceptedCount : ℕ
  rejectedCount : ℕ
  accountingOverflow : Bool
  workerSyncInitialized : Bool
  deriving DecidableEq, Repr

/-- The worker arrays and the fields guarded by `worker_mutex`. An array is `none`
while its pointer is `NULL`; `threads i` says whether the handle of worker `i` has an
implementation. -/
structure WorkerDomain (W : ℕ) (T : Type) where
  mutex : Option T
  mutexInitialized : Bool
  conditionInitialized : Bool
  threads : Option (Fin W → Bool)
  workerContexts : Option (Fin W → WorkerContext)
  startedWorkerCount : ℕ
  createdWorkerCount : ℕ
  readyWorkerCount : ℕ
  activeWorkerCount : ℕ
  joinedWorkerCount : ℕ
  dequeuedCount : ℕ
  callbackStartedCount : ℕ
  successfulCallbackCount : ℕ
  failedCallbackCount : ℕ
  workerStartupFailureCount : ℕ
  workerRuntimeFailureCount : ℕ
  joinFailureCount : ℕ
  accountingOverflow : Bool
  infrastructureFailure : Bool

/-- What happened so far: the pointers whose submission returned `SCHEDULER_OK`, the
pointers passed to the callback, those for which it returned, the values assigned to
`state`, and the result of the first `scheduler_join` that got past its state check. -/
structure SchedulerHistory (P : Type) where
  accepted : List P
  invoked : List P
  completed : List P
  states : List SchedulerState
  firstJoin : Option SchedulerResult

/-- `SchedulerImplementation`. -/
structure Scheduler (W : ℕ) (C P : Type) where
  queue : ConcurrentTaskQueue (Thread W C) P
  lifecycle : LifecycleDomain (Thread W C)
  worker : WorkerDomain W (Thread W C)
  faultPlan : SchedulerFaultPlan
  history : SchedulerHistory P

/-! ## Program counters -/

/-- `scheduler_submit` and `scheduler_try_submit`. -/
inductive SubmitKind where
  | submit
  | trySubmit
  deriving DecidableEq, Repr

/-- The atomic loads of one worker's slot, in the order of `scheduler_capture_snapshot`. -/
inductive SlotField where
  | dequeued
  | callbackStarted
  | callbackSucceeded
  | callbackFailed
  | currentlyRunning
  | accountingOverflow
  deriving DecidableEq, Repr

/-- Inside a submission or a snapshot capture. -/
inductive CallPc (P : Type) where
  | idle
  | registerLock (kind : SubmitKind) (task : P)
  | registerUnlock (kind : SubmitKind) (task : P) (r : SchedulerResult)
  | enqueue (kind : SubmitKind) (task : P) (q : QueuePc P)
  | deregisterLock (task : P) (operationResult : SchedulerResult)
  | deregisterUnlock (task : P) (r : SchedulerResult)
  | submitted (r : SchedulerResult)
  | captureLifecycleLock
  | captureLifecycleUnlock (temporary : SchedulerSnapshot) (workerSyncAvailable : Bool)
  | captureWorkerLock (temporary : SchedulerSnapshot)
  | captureLoad (temporary : SchedulerSnapshot) (index : ℕ) (field : SlotField)
  | captureWorkerUnlock (temporary : SchedulerSnapshot)
  | captureQueue (temporary : SchedulerSnapshot) (q : QueuePc P)
  | captured (snapshot : Option SchedulerSnapshot)
  deriving DecidableEq

/-- Inside `scheduler_worker_entry`. -/
inductive WorkerPc (P : Type) where
  | notCreated
  | entry
  | registerUnlock
  | dequeue (q : QueuePc P)
  | accountDequeued (task : P)
  | accountStarted (task : P)
  | accountRunning (task : P)
  | invoke (task : P) (runningAccounted : Bool)
  | callback (task : P) (runningAccounted : Bool) (call : CallPc P)
  | accountResult (runningAccounted : Bool) (succeeded : Bool)
  | accountRunningDone
  | queueShutdown (q : QueuePc P) (r : WorkerResult)
  | exitLock (r : WorkerResult)
  | exitUnlock (r : WorkerResult)
  | finished (r : WorkerResult)
  deriving DecidableEq

/-- The calls that the controlling thread makes. -/
inductive LifecycleCall where
  | start
  | shutdown
  | join
  | destroy
  | faultConfigure (point : SchedulerFaultPoint) (triggerOccurrence : ℕ)
  | faultReset
  deriving DecidableEq

/-- Who drains the active submitters: `scheduler_shutdown`, holding the result of the
queue's shutdown, or `scheduler_join`. -/
inductive DrainCaller where
  | shutdown (result : SchedulerResult)
  | join
  deriving DecidableEq

/-- Who runs `release_workers`: a start that gives up, or `scheduler_join`. -/
inductive ReleaseCaller where
  | abort
  | join
  deriving DecidableEq

/-- What `release_workers` records about a worker under `worker_mutex`. -/
inductive JoinEvent where
  | nativeFailed
  | injected
  | joined
  deriving DecidableEq

/-- Inside a lifecycle call. -/
inductive ControllerPc (P : Type) where
  | idle
  | returned (call : LifecycleCall) (r : SchedulerResult)
  | startLock
  | startUnlock (accepted : Bool)
  | startAllocate
  | startSyncInit
  | startSyncLock
  | startSyncUnlock
  | createLock (index : ℕ)
  | createUnlock (index : ℕ) (created : Bool)
  | readyLock
  | readyWait
  | readyAsleep
  | readyWoken
  | readyUnlock (succeeded : Bool)
  | runLock
  | runUnlock
  | abortQueue (q : QueuePc P)
  | releaseJoin (caller : ReleaseCaller) (index : ℕ) (result : SchedulerResult) (allJoined : Bool)
  | releaseLock (caller : ReleaseCaller) (index : ℕ) (event : JoinEvent)
      (result : SchedulerResult) (allJoined : Bool)
  | releaseUnlock (caller : ReleaseCaller) (index : ℕ) (event : JoinEvent)
      (result : SchedulerResult) (allJoined : Bool)
  | foldLock (caller : ReleaseCaller) (result : SchedulerResult)
  | foldUnlock (caller : ReleaseCaller) (result : SchedulerResult)
  | setStateLock (state : SchedulerState) (call : LifecycleCall) (r : SchedulerResult)
  | setStateUnlock (call : LifecycleCall) (r : SchedulerResult)
  | shutdownLock
  | shutdownUnlock (answer : Option SchedulerResult)
  | shutdownQueue (q : QueuePc P)
  | drainLock (caller : DrainCaller)
  | drainWait (caller : DrainCaller)
  | drainAsleep (caller : DrainCaller)
  | drainWoken (caller : DrainCaller)
  | drainUnlock (caller : DrainCaller) (succeeded : Bool)
  | joinLock
  | joinUnlock (answer : SchedulerResult)
  | destroyLock
  | destroyUnlock (accepted : Bool)
  | destroyFree
  | faultLock (call : LifecycleCall)
  | faultUnlock (configured : Bool)
  | faultReturned (configured : Bool)
  deriving DecidableEq

/-- The program counter of a thread. -/
inductive SchedulerPc (W : ℕ) (P : Type) where
  | call (pc : CallPc P)
  | worker (i : Fin W) (pc : WorkerPc P)
  | controller (pc : ControllerPc P)
  deriving DecidableEq

/-- What a thread asks for when it is free to choose: a submission (`none`: of a
`NULL` Task), a capture, the return of its callback, or a lifecycle call (`none`: on a
`NULL` scheduler). -/
inductive Request (P : Type) where
  | none
  | submit (kind : SubmitKind) (task : Option P)
  | capture
  | callbackReturns (succeeded : Bool)
  | lifecycle (call : LifecycleCall) (nonNull : Bool)
  deriving DecidableEq

/-- The scheduler's choices at one step: the sleeper a signal wakes, the outcomes of
up to two backend calls, the result a native join hands over, and the request of a
thread that is free to choose. -/
structure SchedulerChoice (W : ℕ) (C P : Type) where
  woken : Option (Thread W C) := none
  succeeds : Bool := true
  alsoSucceeds : Bool := true
  workerResult : WorkerResult := .ok
  request : Request P := .none

/-- What the choice means inside the queue. -/
def SchedulerChoice.queue {W : ℕ} {C P : Type} (choice : SchedulerChoice W C P) :
    QueueChoice (Thread W C) P where
  woken := choice.woken
  waitSucceeds := choice.succeeds

abbrev SchedulerEffect (W : ℕ) (C : Type) := Effect (Thread W C) SchedulerCondition WorkerResult

end SchedulingEngine
