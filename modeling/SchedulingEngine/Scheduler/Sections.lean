import SchedulingEngine.Scheduler.State

/-!
# The critical sections of the scheduler (scheduler.c)

What the scheduler's functions compute between two synchronization calls, each on
the domain that its lock guards, and the single atomic stores by which a worker
accounts for its Task.
-/

namespace SchedulingEngine

open Concurrency

variable {W : ℕ} {C P : Type}

/-- `sizeof(SchedThread)`. -/
def schedThreadSize : ℕ := 8

/-- `sizeof(WorkerContext)`. -/
def workerContextSize : ℕ := 128

/-! ## Results of the queue -/

/-- `map_try_enqueue_result`. -/
def mapTryEnqueueResult : ConcurrentTaskQueueResult → SchedulerResult
  | .ok => .ok
  | .errorFull => .errorQueueFull
  | .errorShutdown => .errorShutdown
  | _ => .errorSystem

/-- `map_blocking_enqueue_result`. -/
def mapBlockingEnqueueResult : ConcurrentTaskQueueResult → SchedulerResult
  | .ok => .ok
  | .errorShutdown => .errorShutdown
  | _ => .errorSystem

/-- `map_queue_shutdown_result`. -/
def mapQueueShutdownResult : ConcurrentTaskQueueResult → SchedulerResult
  | .ok => .ok
  | _ => .errorSystem

/-- The status of a queue call that has one. -/
def QueueReturn.result : QueueReturn P → ConcurrentTaskQueueResult
  | .status result _ => result
  | _ => .errorSystem

/-- What the call stored through its `Task **`. -/
def QueueReturn.output : QueueReturn P → Option P
  | .status _ output => output
  | _ => none

def SubmitKind.operation (kind : SubmitKind) (task : P) : QueueOperation P :=
  match kind with
  | .submit => .enqueue task
  | .trySubmit => .tryEnqueue task

def SubmitKind.mapResult : SubmitKind → ConcurrentTaskQueueResult → SchedulerResult
  | .submit => mapBlockingEnqueueResult
  | .trySubmit => mapTryEnqueueResult

/-! ## Critical sections of lifecycle_mutex -/

section Lifecycle

variable {T : Type}

/-- `register_submitter`, between its lock and its unlock. -/
def registerSubmitter (l : LifecycleDomain T) : LifecycleDomain T × SchedulerResult :=
  let (submittedCount, accountingOverflow) :=
    incrementSaturating l.submittedCount l.accountingOverflow
  let l := { l with submittedCount, accountingOverflow }
  if l.state ≠ .running then
    let (rejectedCount, accountingOverflow) :=
      incrementSaturating l.rejectedCount l.accountingOverflow
    ({ l with rejectedCount, accountingOverflow },
      if l.state = .shuttingDown ∨ l.state = .stopped then .errorShutdown else .errorInvalidState)
  else ({ l with activeSubmitterCount := l.activeSubmitterCount + 1 }, .ok)

/-- `deregister_submitter`, between its lock and its unlock: the domain, the result of
the submission, and whether `lifecycle_condition` is broadcast. -/
def deregisterSubmitter (l : LifecycleDomain T) (operationResult : SchedulerResult) :
    LifecycleDomain T × SchedulerResult × Bool :=
  let l :=
    if operationResult = .ok then
      let (acceptedCount, accountingOverflow) :=
        incrementSaturating l.acceptedCount l.accountingOverflow
      { l with acceptedCount, accountingOverflow }
    else
      let (rejectedCount, accountingOverflow) :=
        incrementSaturating l.rejectedCount l.accountingOverflow
      { l with rejectedCount, accountingOverflow }
  let (l, result) :=
    if l.activeSubmitterCount = 0 then (l, .errorSystem)
    else ({ l with activeSubmitterCount := l.activeSubmitterCount - 1 }, operationResult)
  (l, result, l.activeSubmitterCount = 0)

/-- The part of a snapshot copied under `lifecycle_mutex`, and whether the worker
domain may be locked. -/
def captureLifecycle (W : ℕ) (l : LifecycleDomain T) : SchedulerSnapshot × Bool :=
  ({ version := snapshotVersion
     consistency := consistencyDomainExact
     state := snapshotStateFromInternal l.state
     submissionsOpen := l.state = .running
     shutdownStarted := l.state = .shuttingDown || l.state = .stopped
     configuredWorkerCount := W
     submittedCount := l.submittedCount
     acceptedCount := l.acceptedCount
     rejectedCount := l.rejectedCount
     overflowDetected := l.accountingOverflow }, l.workerSyncInitialized)

end Lifecycle

/-! ## Critical sections of worker_mutex -/

section Worker

variable {T : Type}

/-- `record_worker_exit`, between its lock and its unlock. -/
def recordWorkerExit (w : WorkerDomain W T) (workerResult : WorkerResult) :
    WorkerDomain W T × WorkerResult :=
  let failure (w : WorkerDomain W T) : WorkerDomain W T :=
    let (workerRuntimeFailureCount, accountingOverflow) :=
      incrementSaturating w.workerRuntimeFailureCount w.accountingOverflow
    { w with infrastructureFailure := true, workerRuntimeFailureCount, accountingOverflow }
  let (w, workerResult) :=
    if w.activeWorkerCount = 0 then (failure w, .synchronization)
    else ({ w with activeWorkerCount := w.activeWorkerCount - 1 }, workerResult)
  (if workerResult ≠ .ok then failure w else w, workerResult)

/-- The part of a snapshot copied under `worker_mutex` before the per-worker slots. -/
def captureWorker (w : WorkerDomain W T) (temporary : SchedulerSnapshot) : SchedulerSnapshot :=
  { temporary with
    createdWorkerCount := w.createdWorkerCount
    readyWorkerCount := w.readyWorkerCount
    activeWorkerCount := w.activeWorkerCount
    joinedWorkerCount := w.joinedWorkerCount
    workerStartupFailureCount := w.workerStartupFailureCount
    workerRuntimeFailureCount := w.workerRuntimeFailureCount
    joinFailureCount := w.joinFailureCount
    dequeuedCount := w.dequeuedCount
    callbackStartedCount := w.callbackStartedCount
    callbackSucceededCount := w.successfulCallbackCount
    callbackFailedCount := w.failedCallbackCount
    overflowDetected := temporary.overflowDetected || w.accountingOverflow }

/-- One atomic load of a slot into the snapshot. -/
def captureField (context : WorkerContext) (temporary : SchedulerSnapshot) :
    SlotField → SchedulerSnapshot
  | .dequeued =>
    let (dequeuedCount, overflowDetected) :=
      addSaturating temporary.dequeuedCount context.dequeuedCount temporary.overflowDetected
    { temporary with dequeuedCount, overflowDetected }
  | .callbackStarted =>
    let (callbackStartedCount, overflowDetected) := addSaturating temporary.callbackStartedCount
      context.callbackStartedCount temporary.overflowDetected
    { temporary with callbackStartedCount, overflowDetected }
  | .callbackSucceeded =>
    let (callbackSucceededCount, overflowDetected) := addSaturating
      temporary.callbackSucceededCount context.callbackSucceededCount temporary.overflowDetected
    { temporary with callbackSucceededCount, overflowDetected }
  | .callbackFailed =>
    let (callbackFailedCount, overflowDetected) := addSaturating temporary.callbackFailedCount
      context.callbackFailedCount temporary.overflowDetected
    { temporary with callbackFailedCount, overflowDetected }
  | .currentlyRunning =>
    let (currentlyRunningCount, overflowDetected) := addSaturating
      temporary.currentlyRunningCount context.currentlyRunningCount temporary.overflowDetected
    { temporary with currentlyRunningCount, overflowDetected }
  | .accountingOverflow =>
    { temporary with
      overflowDetected := temporary.overflowDetected || context.accountingOverflow }

/-- The load after this one, if it is of the same slot. -/
def SlotField.next : SlotField → Option SlotField
  | .dequeued => some .callbackStarted
  | .callbackStarted => some .callbackSucceeded
  | .callbackSucceeded => some .callbackFailed
  | .callbackFailed => some .currentlyRunning
  | .currentlyRunning => some .accountingOverflow
  | .accountingOverflow => none

/-- The fold of one worker's slot into the totals. -/
def foldContext (w : WorkerDomain W T) (context : WorkerContext) : WorkerDomain W T :=
  let (dequeuedCount, overflow) :=
    addSaturating w.dequeuedCount context.dequeuedCount w.accountingOverflow
  let (callbackStartedCount, overflow) :=
    addSaturating w.callbackStartedCount context.callbackStartedCount overflow
  let (successfulCallbackCount, overflow) :=
    addSaturating w.successfulCallbackCount context.callbackSucceededCount overflow
  let (failedCallbackCount, overflow) :=
    addSaturating w.failedCallbackCount context.callbackFailedCount overflow
  { w with
    dequeuedCount, callbackStartedCount, successfulCallbackCount, failedCallbackCount
    accountingOverflow := overflow || context.accountingOverflow }

/-- The last critical section of `release_workers`: fold the started workers' slots and
free the arrays. Not possible if there is a slot to read and no array. -/
def foldWorkers (w : WorkerDomain W T) : Option (WorkerDomain W T) :=
  let release (w : WorkerDomain W T) : WorkerDomain W T :=
    { w with
      threads := none
      workerContexts := none
      startedWorkerCount := 0
      readyWorkerCount := 0 }
  match w.workerContexts with
  | none => if w.startedWorkerCount = 0 then some (release w) else none
  | some contexts => some (release
      (((List.finRange W).take w.startedWorkerCount).foldl
        (fun w i => foldContext w (contexts i)) w))

/-- What `release_workers` counts for a worker under `worker_mutex`. -/
def recordJoin (w : WorkerDomain W T) : JoinEvent → WorkerDomain W T
  | .nativeFailed | .injected =>
    let (joinFailureCount, accountingOverflow) :=
      incrementSaturating w.joinFailureCount w.accountingOverflow
    { w with joinFailureCount, accountingOverflow }
  | .joined => { w with joinedWorkerCount := w.joinedWorkerCount + 1 }

/-- `sched_thread_destroy` on the handle of worker `i`. -/
def destroyThread (w : WorkerDomain W T) (i : Fin W) : WorkerDomain W T :=
  { w with threads := w.threads.map fun threads => Function.update threads i false }

/-- The slot of worker `i`, rewritten. -/
def setContext (w : WorkerDomain W T) (i : Fin W) (f : WorkerContext → WorkerContext) :
    WorkerDomain W T :=
  { w with
    workerContexts := w.workerContexts.map fun contexts =>
      Function.update contexts i (f (contexts i)) }

end Worker

/-! ## Single atomic stores of a worker -/

/-- Count a dequeued Task. -/
def accountDequeued (context : WorkerContext) : WorkerContext :=
  let (dequeuedCount, accountingOverflow, _) :=
    incrementSingleWriterAtomic context.dequeuedCount context.accountingOverflow
  { context with dequeuedCount, accountingOverflow }

/-- Count a callback about to start. -/
def accountStarted (context : WorkerContext) : WorkerContext :=
  let (callbackStartedCount, accountingOverflow, _) :=
    incrementSingleWriterAtomic context.callbackStartedCount context.accountingOverflow
  { context with callbackStartedCount, accountingOverflow }

/-- Count a running callback; `running_accounted` is whether it was counted. -/
def accountRunning (context : WorkerContext) : WorkerContext × Bool :=
  let (currentlyRunningCount, accountingOverflow, accounted) :=
    incrementSingleWriterAtomic context.currentlyRunningCount context.accountingOverflow
  ({ context with currentlyRunningCount, accountingOverflow }, accounted)

/-- Count the outcome of a callback. -/
def accountResult (succeeded : Bool) (context : WorkerContext) : WorkerContext :=
  if succeeded then
    let (callbackSucceededCount, accountingOverflow, _) :=
      incrementSingleWriterAtomic context.callbackSucceededCount context.accountingOverflow
    { context with callbackSucceededCount, accountingOverflow }
  else
    let (callbackFailedCount, accountingOverflow, _) :=
      incrementSingleWriterAtomic context.callbackFailedCount context.accountingOverflow
    { context with callbackFailedCount, accountingOverflow }

/-- Take a callback off the running ones; the subtraction wraps. -/
def accountRunningDone (context : WorkerContext) : WorkerContext :=
  { context with
    currentlyRunningCount :=
      if context.currentlyRunningCount = 0 then uint64Max else context.currentlyRunningCount - 1 }

end SchedulingEngine
