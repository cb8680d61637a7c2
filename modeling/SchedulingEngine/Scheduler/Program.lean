import SchedulingEngine.Concurrency.Embedding
import SchedulingEngine.Scheduler.Sections

/-!
# The scheduler as a program (scheduler.c)

One step of a thread is one synchronization call, native call, atomic access or
callback boundary, with the local code up to the next one. Mutexes on initialised
objects lock and unlock without failing; what else the backend may refuse is said by
the configuration, and a failed wait returns with the mutex held. A step that would
follow a `NULL` array is not possible.

The queue calls are embedded: a counter that holds a `QueuePc` runs `queueAct` until
the call returns (`insideQueue`).
-/

namespace SchedulingEngine

open Concurrency

variable {W : ℕ} {C P : Type}

/-- The outcome of a step: the scheduler, where the thread stands, its effects. -/
abbrev SchedulerStep (W : ℕ) (C P π : Type) := Scheduler W C P × π × List (SchedulerEffect W C)

/-- The outcome of a backend call that may fail only if the configuration says so. -/
def backendOutcome (mayFail succeeds : Bool) : Bool := succeeds || !mayFail

/-- `scheduler_fault_should_trigger`, in the builds that have it. -/
def consultFaultPlan (cfg : SchedulerConfig W) (plan : SchedulerFaultPlan)
    (point : SchedulerFaultPoint) : SchedulerFaultPlan × Bool :=
  if cfg.faultInjection then schedulerFaultShouldTrigger plan point else (plan, false)

section Locks

variable (sh : Scheduler W C P)

/-- `lifecycle_mutex` taken and given back. -/
def Scheduler.lockLifecycle (t : Thread W C) : Scheduler W C P :=
  { sh with lifecycle := { sh.lifecycle with mutex := some t } }

def Scheduler.unlockLifecycle : Scheduler W C P :=
  { sh with lifecycle := { sh.lifecycle with mutex := none } }

/-- `worker_mutex` taken and given back. -/
def Scheduler.lockWorker (t : Thread W C) : Scheduler W C P :=
  { sh with worker := { sh.worker with mutex := some t } }

def Scheduler.unlockWorker : Scheduler W C P :=
  { sh with worker := { sh.worker with mutex := none } }

/-- The assignment of `set_scheduler_state` and its siblings. -/
def Scheduler.setState (state : SchedulerState) : Scheduler W C P :=
  { sh with
    lifecycle := { sh.lifecycle with state }
    history := { sh.history with states := sh.history.states ++ [state] } }

end Locks

variable [DecidableEq C]

/-- A thread inside a queue call: a step of the queue, or the code after its return. -/
def insideQueue {π : Type} (cfg : SchedulerConfig W) (t : Thread W C)
    (choice : SchedulerChoice W C P) (sh : Scheduler W C P) (inside : QueuePc P → π)
    (resume : QueueReturn P → π) : QueuePc P → Option (SchedulerStep W C P π)
  | .returned _ r => some (sh, resume r, [])
  | q => (queueAct cfg.queue t choice.queue sh.queue q).map fun (queue, q, fx) =>
    ({ sh with queue }, inside q, fx.map (Effect.lift .queue))

/-! ## Submissions and captures -/

/-- One step inside `scheduler_submit`, `scheduler_try_submit` or
`scheduler_capture_snapshot`. -/
def callAct (cfg : SchedulerConfig W) (t : Thread W C) (choice : SchedulerChoice W C P)
    (sh : Scheduler W C P) : CallPc P → Option (SchedulerStep W C P (CallPc P))
  | .idle =>
    match choice.request with
    | .submit kind (some task) => some (sh, .registerLock kind task, [])
    | .submit _ none => some (sh, .submitted .errorInvalidArgument, [])
    | .capture => some (sh, .captureLifecycleLock, [])
    | _ => none
  | .registerLock kind task =>
    if sh.lifecycle.mutex = none then
      let (lifecycle, r) := registerSubmitter (sh.lockLifecycle t).lifecycle
      some ({ sh with lifecycle }, .registerUnlock kind task r, [])
    else none
  | .registerUnlock kind task r =>
    if sh.lifecycle.mutex = some t then
      some (sh.unlockLifecycle,
        if r = .ok then .enqueue kind task (.lock (kind.operation task)) else .submitted r, [])
    else none
  | .enqueue kind task q =>
    insideQueue cfg t choice sh (.enqueue kind task)
      (fun r => .deregisterLock task (kind.mapResult r.result)) q
  | .deregisterLock task operationResult =>
    if sh.lifecycle.mutex = none then
      let (lifecycle, r, broadcast) :=
        deregisterSubmitter (sh.lockLifecycle t).lifecycle operationResult
      some ({ sh with lifecycle }, .deregisterUnlock task r,
        if broadcast then [.broadcast .lifecycle] else [])
    else none
  | .deregisterUnlock task r =>
    if sh.lifecycle.mutex = some t then
      let accepted := if r = .ok then sh.history.accepted ++ [task] else sh.history.accepted
      some ({ sh.unlockLifecycle with history := { sh.history with accepted } }, .submitted r, [])
    else none
  | .submitted _ => some (sh, .idle, [])
  | .captureLifecycleLock =>
    if sh.lifecycle.mutex = none then
      let (temporary, workerSyncAvailable) := captureLifecycle W sh.lifecycle
      some (sh.lockLifecycle t, .captureLifecycleUnlock temporary workerSyncAvailable, [])
    else none
  | .captureLifecycleUnlock temporary workerSyncAvailable =>
    if sh.lifecycle.mutex = some t then
      some (sh.unlockLifecycle,
        if workerSyncAvailable then .captureWorkerLock temporary
        else .captureQueue temporary (.lock .captureRuntimeSnapshot), [])
    else none
  | .captureWorkerLock temporary =>
    if sh.worker.mutex = none ∧ sh.worker.mutexInitialized = true then
      let temporary := captureWorker sh.worker temporary
      some (sh.lockWorker t,
        if 0 < sh.worker.startedWorkerCount then .captureLoad temporary 0 .dequeued
        else .captureWorkerUnlock temporary, [])
    else none
  | .captureLoad temporary index field =>
    match sh.worker.workerContexts with
    | none => none
    | some contexts =>
      if h : index < W then
        let temporary := captureField (contexts ⟨index, h⟩) temporary field
        some (sh,
          match field.next with
          | some field => .captureLoad temporary index field
          | none =>
            if index + 1 < sh.worker.startedWorkerCount then
              .captureLoad temporary (index + 1) .dequeued
            else .captureWorkerUnlock temporary, [])
      else none
  | .captureWorkerUnlock temporary =>
    if sh.worker.mutex = some t then
      some (sh.unlockWorker, .captureQueue temporary (.lock .captureRuntimeSnapshot), [])
    else none
  | .captureQueue temporary q =>
    insideQueue cfg t choice sh (.captureQueue temporary)
      (fun r => .captured (match r with
        | .snapshot value => value.map fun queue =>
          { temporary with
            queueCapacity := queue.capacity
            queueCurrentSize := queue.currentSize
            queueHighWaterMark := queue.highWaterMark }
        | _ => none)) q
  | .captured _ => some (sh, .idle, [])

/-! ## Workers -/

/-- Where a worker goes with the answer of `concurrent_task_queue_dequeue`. -/
def afterDequeue (r : QueueReturn P) : WorkerPc P :=
  if r.result = .errorShutdown then .exitLock .ok
  else
    match r.result, r.output with
    | .ok, some task => .accountDequeued task
    | _, _ => .queueShutdown (.lock .shutdown) .queue

/-- One atomic store of worker `i` to its slot. -/
def storeSlot (i : Fin W) (sh : Scheduler W C P) (f : WorkerContext → WorkerContext) :
    Scheduler W C P :=
  { sh with worker := setContext sh.worker i f }

/-- One step inside `scheduler_worker_entry`. -/
def workerAct (cfg : SchedulerConfig W) (i : Fin W) (t : Thread W C)
    (choice : SchedulerChoice W C P) (sh : Scheduler W C P) :
    WorkerPc P → Option (SchedulerStep W C P (WorkerPc P))
  | .notCreated => none
  | .entry =>
    match sh.worker.workerContexts with
    | none => none
    | some contexts =>
      if (contexts i).scheduler = false ∨ W ≤ (contexts i).workerIndex then
        some (sh, .finished .invalidContext, [])
      else if sh.worker.mutex = none ∧ sh.worker.mutexInitialized = true then
        some ({ sh with
          worker := { sh.worker with
            mutex := some t
            activeWorkerCount := sh.worker.activeWorkerCount + 1
            readyWorkerCount := sh.worker.readyWorkerCount + 1 } },
          .registerUnlock, [.broadcast .worker])
      else none
  | .registerUnlock =>
    if sh.worker.mutex = some t then some (sh.unlockWorker, .dequeue (.lock .dequeue), []) else none
  | .dequeue q => insideQueue cfg t choice sh .dequeue afterDequeue q
  | .accountDequeued task =>
    if sh.worker.workerContexts.isSome then
      some (storeSlot i sh accountDequeued, .accountStarted task, [])
    else none
  | .accountStarted task =>
    if sh.worker.workerContexts.isSome then
      some (storeSlot i sh accountStarted, .accountRunning task, [])
    else none
  | .accountRunning task =>
    match sh.worker.workerContexts with
    | none => none
    | some contexts =>
      some (storeSlot i sh fun context => (accountRunning context).1,
        .invoke task (accountRunning (contexts i)).2, [])
  | .invoke task runningAccounted =>
    some ({ sh with history := { sh.history with invoked := sh.history.invoked ++ [task] } },
      .callback task runningAccounted .idle, [])
  | .callback task runningAccounted call =>
    match call, choice.request with
    | .idle, .callbackReturns succeeded =>
      some ({ sh with history := { sh.history with completed := sh.history.completed ++ [task] } },
        .accountResult runningAccounted succeeded, [])
    | call, _ => (callAct cfg t choice sh call).map fun (sh, call, fx) =>
      (sh, .callback task runningAccounted call, fx)
  | .accountResult runningAccounted succeeded =>
    if sh.worker.workerContexts.isSome then
      some (storeSlot i sh (accountResult succeeded),
        if runningAccounted then .accountRunningDone else .dequeue (.lock .dequeue), [])
    else none
  | .accountRunningDone =>
    if sh.worker.workerContexts.isSome then
      some (storeSlot i sh accountRunningDone, .dequeue (.lock .dequeue), [])
    else none
  | .queueShutdown q r =>
    insideQueue cfg t choice sh (fun q => .queueShutdown q r) (fun _ => .exitLock r) q
  | .exitLock r =>
    if sh.worker.mutex = none ∧ sh.worker.mutexInitialized = true then
      let (worker, r) := recordWorkerExit (sh.lockWorker t).worker r
      some ({ sh with worker }, .exitUnlock r, [])
    else none
  | .exitUnlock r =>
    if sh.worker.mutex = some t then some (sh.unlockWorker, .finished r, []) else none
  | .finished _ => none

/-! ## Lifecycle calls -/

/-- Where a lifecycle call begins. -/
def beginCall (cfg : SchedulerConfig W) : LifecycleCall → Option (ControllerPc P)
  | .start => some .startLock
  | .shutdown => some .shutdownLock
  | .join => some .joinLock
  | .destroy => some .destroyLock
  | call => if cfg.faultInjection then some (.faultLock call) else none

/-- The answer of a lifecycle call on a `NULL` scheduler. -/
def answerNull (cfg : SchedulerConfig W) : LifecycleCall → Option (ControllerPc P)
  | .faultConfigure _ _ | .faultReset =>
    if cfg.faultInjection then some (.faultReturned false) else none
  | call => some (.returned call .errorInvalidArgument)

/-- The two worker arrays of `scheduler_start`, with the fault plan consulted for each. -/
def allocateWorkers (cfg : SchedulerConfig W) (choice : SchedulerChoice W C P)
    (sh : Scheduler W C P) : Scheduler W C P :=
  let (faultPlan, firstFault) := consultFaultPlan cfg sh.faultPlan .allocation
  let (faultPlan, secondFault) := consultFaultPlan cfg faultPlan .allocation
  let allocated (fault succeeds : Bool) : Bool :=
    !fault && backendOutcome cfg.allocationMayFail succeeds
  { sh with
    faultPlan
    worker := { sh.worker with
      threads := if allocated firstFault choice.succeeds then some fun _ => false else none
      workerContexts :=
        if allocated secondFault choice.alsoSucceeds then some fun _ => {} else none } }

/-- `free` on both arrays. -/
def freeWorkers (sh : Scheduler W C P) : Scheduler W C P :=
  { sh with worker := { sh.worker with threads := none, workerContexts := none } }

/-- `worker_mutex` created, `worker_mutex` destroyed, `worker_condition` created. -/
def initWorkerMutex (sh : Scheduler W C P) : Scheduler W C P :=
  { sh with worker := { sh.worker with mutexInitialized := true } }

def destroyWorkerMutex (sh : Scheduler W C P) : Scheduler W C P :=
  { sh with worker := { sh.worker with mutexInitialized := false } }

def initWorkerCondition (sh : Scheduler W C P) : Scheduler W C P :=
  { sh with worker := { sh.worker with conditionInitialized := true } }

/-- Worker `i` counted as started, with its handle set. -/
def startWorker (w : WorkerDomain W (Thread W C)) (i : Fin W) : WorkerDomain W (Thread W C) :=
  { w with
    threads := w.threads.map fun threads => Function.update threads i true
    startedWorkerCount := w.startedWorkerCount + 1
    createdWorkerCount := w.createdWorkerCount + 1 }

/-- The creation of worker `i`, under `worker_mutex`. -/
def createWorker (cfg : SchedulerConfig W) (choice : SchedulerChoice W C P) (i : Fin W)
    (sh : Scheduler W C P) : SchedulerStep W C P (ControllerPc P) :=
  let sh := { sh with
    worker := setContext (sh.lockWorker .controller).worker i fun context =>
      { context with scheduler := true, workerIndex := i } }
  let (faultPlan, fault) := consultFaultPlan cfg sh.faultPlan .workerCreation
  if fault || !backendOutcome cfg.createMayFail choice.succeeds then
    let (workerStartupFailureCount, accountingOverflow) :=
      incrementSaturating sh.worker.workerStartupFailureCount sh.worker.accountingOverflow
    ({ sh with
      faultPlan
      worker := { sh.worker with workerStartupFailureCount, accountingOverflow } },
      .createUnlock i false, [])
  else
    ({ sh with faultPlan, worker := startWorker sh.worker i }, .createUnlock i true,
      [.spawn (.worker i)])

/-- The end of `release_workers` with result `result`, and the code of its caller up to
the next lock. -/
def afterRelease (sh : Scheduler W C P) (caller : ReleaseCaller) (result : SchedulerResult) :
    ControllerPc P :=
  match caller with
  | .abort => .setStateLock .failed .start .errorSystem
  | .join =>
    if sh.worker.threads.isSome then .setStateLock .failed .join .errorSystem
    else .setStateLock .stopped .join result

/-- The loop of `release_workers` at `index`. -/
def releaseWorker (cfg : SchedulerConfig W) (choice : SchedulerChoice W C P)
    (sh : Scheduler W C P) (caller : ReleaseCaller) (index : ℕ) (result : SchedulerResult)
    (allJoined : Bool) : Option (SchedulerStep W C P (ControllerPc P)) :=
  if index < sh.worker.startedWorkerCount then
    if h : index < W then
      let i : Fin W := ⟨index, h⟩
      match sh.worker.threads with
      | none => some (sh, .releaseJoin caller (index + 1) result allJoined, [])
      | some threads =>
        if threads i = false then
          some (sh, .releaseJoin caller (index + 1) result allJoined, [])
        else if backendOutcome cfg.joinMayFail choice.succeeds then
          let (faultPlan, injected) := consultFaultPlan cfg sh.faultPlan .workerJoin
          let sh := { sh with faultPlan }
          let joined : List (SchedulerEffect W C) := [.await (.worker i) choice.workerResult]
          if injected then
            some (sh, .releaseLock caller index .injected .errorSystem allJoined, joined)
          else if choice.workerResult ≠ .ok then
            some ({ sh with worker := destroyThread sh.worker i },
              .releaseJoin caller (index + 1) .errorSystem allJoined, joined)
          else some (sh, .releaseLock caller index .joined result allJoined, joined)
        else some (sh, .releaseLock caller index .nativeFailed .errorSystem false, [])
    else none
  else if allJoined then
    some (sh, .foldLock caller (if sh.worker.infrastructureFailure then .errorSystem else result),
      [])
  else some (sh, afterRelease sh caller .errorSystem, [])

/-- The loop test of the drain: wait while submitters are active. -/
def drainTest (sh : Scheduler W C P) (caller : DrainCaller) : ControllerPc P :=
  if sh.lifecycle.activeSubmitterCount ≠ 0 then .drainWait caller else .drainUnlock caller true

/-- The loop test of `scheduler_start`: wait while workers are missing. -/
def readyTest (sh : Scheduler W C P) : ControllerPc P :=
  if sh.worker.readyWorkerCount < W then .readyWait else .readyUnlock true

/-- Where the drain's caller goes after it. -/
def afterDrain (caller : DrainCaller) (succeeded : Bool) : ControllerPc P :=
  match caller, succeeded with
  | .shutdown result, true => .returned .shutdown result
  | .shutdown _, false => .returned .shutdown .errorSystem
  | .join, true => .releaseJoin .join 0 .ok true
  | .join, false => .returned .join .errorSystem

/-- A `scheduler_join` past its state check answers. -/
def Scheduler.recordFirstJoin (sh : Scheduler W C P) (r : SchedulerResult) : Scheduler W C P :=
  { sh with history := { sh.history with firstJoin := sh.history.firstJoin.or (some r) } }

/-- `scheduler_destroy`, between its lock and its unlock. -/
def destroyAccepted (sh : Scheduler W C P) : Bool :=
  (sh.lifecycle.state = .initialized || sh.lifecycle.state = .stopped
    || sh.lifecycle.state = .failed)
  && !(sh.lifecycle.activeSubmitterCount ≠ 0 || sh.worker.threads.isSome
    || sh.worker.workerContexts.isSome)

/-- One step inside a lifecycle call. Freeing the scheduler ends its lifetime and is no
step of it. -/
def controllerAct (cfg : SchedulerConfig W) (choice : SchedulerChoice W C P)
    (sh : Scheduler W C P) : ControllerPc P → Option (SchedulerStep W C P (ControllerPc P))
  | .idle =>
    match choice.request with
    | .lifecycle call true => (beginCall cfg call).map fun pc => (sh, pc, [])
    | .lifecycle call false => (answerNull cfg call).map fun pc => (sh, pc, [])
    | _ => none
  | .returned _ _ => some (sh, .idle, [])
  -- scheduler_start
  | .startLock =>
    if sh.lifecycle.mutex = none then
      if sh.lifecycle.state ≠ .initialized then
        some (sh.lockLifecycle .controller, .startUnlock false, [])
      else some ((sh.lockLifecycle .controller).setState .starting, .startUnlock true, [])
    else none
  | .startUnlock accepted =>
    if sh.lifecycle.mutex = some .controller then
      some (sh.unlockLifecycle,
        if accepted then .startAllocate else .returned .start .errorInvalidState, [])
    else none
  | .startAllocate =>
    if W > sizeMax / schedThreadSize ∨ W > sizeMax / workerContextSize then
      some (sh, .setStateLock .initialized .start .errorAllocation, [])
    else
      let sh := allocateWorkers cfg choice sh
      if sh.worker.threads.isNone || sh.worker.workerContexts.isNone then
        some (freeWorkers sh, .setStateLock .initialized .start .errorAllocation, [])
      else some (sh, .startSyncInit, [])
  | .startSyncInit =>
    if backendOutcome cfg.syncInitMayFail choice.succeeds then
      let sh := initWorkerMutex sh
      if backendOutcome cfg.syncInitMayFail choice.alsoSucceeds then
        some (initWorkerCondition sh, .startSyncLock, [])
      else
        some (freeWorkers (destroyWorkerMutex sh),
          .setStateLock .initialized .start .errorSystem, [])
    else some (freeWorkers sh, .setStateLock .initialized .start .errorSystem, [])
  | .startSyncLock =>
    if sh.lifecycle.mutex = none then
      let sh := sh.lockLifecycle .controller
      some ({ sh with lifecycle := { sh.lifecycle with workerSyncInitialized := true } },
        .startSyncUnlock, [])
    else none
  | .startSyncUnlock =>
    if sh.lifecycle.mutex = some .controller then some (sh.unlockLifecycle, .createLock 0, [])
    else none
  | .createLock index =>
    if sh.worker.mutex = none ∧ sh.worker.mutexInitialized = true then
      if h : index < W then some (createWorker cfg choice ⟨index, h⟩ sh) else none
    else none
  | .createUnlock index created =>
    if sh.worker.mutex = some .controller then
      some (sh.unlockWorker,
        if !created then .abortQueue (.lock .shutdown)
        else if index + 1 < W then .createLock (index + 1) else .readyLock, [])
    else none
  | .readyLock =>
    if sh.worker.mutex = none ∧ sh.worker.mutexInitialized = true then
      some (sh.lockWorker .controller, readyTest sh, [])
    else none
  | .readyWait =>
    if sh.worker.mutex = some .controller then some (sh.unlockWorker, .readyAsleep, []) else none
  | .readyAsleep => some (sh, .readyWoken, [])
  | .readyWoken =>
    if sh.worker.mutex = none ∧ sh.worker.mutexInitialized = true then
      some (sh.lockWorker .controller,
        if backendOutcome cfg.waitMayFail choice.succeeds then readyTest sh else .readyUnlock false,
        [])
    else none
  | .readyUnlock succeeded =>
    if sh.worker.mutex = some .controller then
      some (sh.unlockWorker, if succeeded then .runLock else .abortQueue (.lock .shutdown), [])
    else none
  | .runLock =>
    if sh.lifecycle.mutex = none then
      some ((sh.lockLifecycle .controller).setState .running, .runUnlock, [])
    else none
  | .runUnlock =>
    if sh.lifecycle.mutex = some .controller then
      some (sh.unlockLifecycle, .returned .start .ok, [])
    else none
  | .abortQueue q =>
    insideQueue cfg .controller choice sh .abortQueue (fun _ => .releaseJoin .abort 0 .ok true) q
  -- release_workers
  | .releaseJoin caller index result allJoined =>
    releaseWorker cfg choice sh caller index result allJoined
  | .releaseLock caller index event result allJoined =>
    if sh.worker.mutex = none ∧ sh.worker.mutexInitialized = true then
      some ({ sh with worker := recordJoin (sh.lockWorker .controller).worker event },
        .releaseUnlock caller index event result allJoined, [])
    else none
  | .releaseUnlock caller index event result allJoined =>
    if sh.worker.mutex = some .controller then
      let sh := sh.unlockWorker
      if h : index < W then
        some (if event = .nativeFailed then sh
            else { sh with worker := destroyThread sh.worker ⟨index, h⟩ },
          .releaseJoin caller (index + 1) result allJoined, [])
      else none
    else none
  | .foldLock caller result =>
    if sh.worker.mutex = none ∧ sh.worker.mutexInitialized = true then
      (foldWorkers (sh.lockWorker .controller).worker).map fun worker =>
        ({ sh with worker }, .foldUnlock caller result, [])
    else none
  | .foldUnlock caller result =>
    if sh.worker.mutex = some .controller then
      some (sh.unlockWorker, afterRelease sh caller result, [])
    else none
  -- set_scheduler_state
  | .setStateLock state call r =>
    if sh.lifecycle.mutex = none then
      some ((sh.lockLifecycle .controller).setState state, .setStateUnlock call r, [])
    else none
  | .setStateUnlock call r =>
    if sh.lifecycle.mutex = some .controller then
      some (if call = .join then sh.unlockLifecycle.recordFirstJoin r else sh.unlockLifecycle,
        .returned call r, [])
    else none
  -- scheduler_shutdown
  | .shutdownLock =>
    if sh.lifecycle.mutex = none then
      let locked := sh.lockLifecycle .controller
      match sh.lifecycle.state with
      | .stopped => some (locked, .shutdownUnlock (some .ok), [])
      | .running => some (locked.setState .shuttingDown, .shutdownUnlock none, [])
      | .shuttingDown => some (locked, .shutdownUnlock none, [])
      | _ => some (locked, .shutdownUnlock (some .errorInvalidState), [])
    else none
  | .shutdownUnlock answer =>
    if sh.lifecycle.mutex = some .controller then
      some (sh.unlockLifecycle,
        match answer with
        | some r => .returned .shutdown r
        | none => .shutdownQueue (.lock .shutdown), [])
    else none
  | .shutdownQueue q =>
    insideQueue cfg .controller choice sh .shutdownQueue
      (fun r => .drainLock (.shutdown (mapQueueShutdownResult r.result))) q
  | .drainLock caller =>
    if sh.lifecycle.mutex = none then some (sh.lockLifecycle .controller, drainTest sh caller, [])
    else none
  | .drainWait caller =>
    if sh.lifecycle.mutex = some .controller then some (sh.unlockLifecycle, .drainAsleep caller, [])
    else none
  | .drainAsleep caller => some (sh, .drainWoken caller, [])
  | .drainWoken caller =>
    if sh.lifecycle.mutex = none then
      some (sh.lockLifecycle .controller,
        if backendOutcome cfg.waitMayFail choice.succeeds then drainTest sh caller
        else .drainUnlock caller false, [])
    else none
  | .drainUnlock caller succeeded =>
    if sh.lifecycle.mutex = some .controller then
      some (if caller = .join ∧ succeeded = false
          then sh.unlockLifecycle.recordFirstJoin .errorSystem else sh.unlockLifecycle,
        afterDrain caller succeeded, [])
    else none
  -- scheduler_join
  | .joinLock =>
    if sh.lifecycle.mutex = none then
      some (sh.lockLifecycle .controller,
        match sh.lifecycle.state with
        | .stopped => .joinUnlock .ok
        | .shuttingDown | .failed => drainTest sh .join
        | _ => .joinUnlock .errorInvalidState, [])
    else none
  | .joinUnlock answer =>
    if sh.lifecycle.mutex = some .controller then
      some (sh.unlockLifecycle, .returned .join answer, [])
    else none
  -- scheduler_destroy
  | .destroyLock =>
    if sh.lifecycle.mutex = none then
      some (sh.lockLifecycle .controller, .destroyUnlock (destroyAccepted sh), [])
    else none
  | .destroyUnlock accepted =>
    if sh.lifecycle.mutex = some .controller then
      some (sh.unlockLifecycle,
        if accepted then .destroyFree else .returned .destroy .errorInvalidState, [])
    else none
  | .destroyFree => none
  -- scheduler_fault_configure and scheduler_fault_reset
  | .faultLock call =>
    if sh.lifecycle.mutex = none then
      let locked := sh.lockLifecycle .controller
      match call with
      | .faultConfigure point triggerOccurrence =>
        if sh.lifecycle.state = .initialized then
          let (faultPlan, configured) :=
            schedulerFaultPlanConfigure sh.faultPlan point triggerOccurrence
          some ({ locked with faultPlan }, .faultUnlock configured, [])
        else some (locked, .faultUnlock false, [])
      | _ =>
        some ({ locked with faultPlan := schedulerFaultPlanReset sh.faultPlan },
          .faultUnlock true, [])
    else none
  | .faultUnlock configured =>
    if sh.lifecycle.mutex = some .controller then
      some (sh.unlockLifecycle, .faultReturned configured, [])
    else none
  | .faultReturned _ => some (sh, .idle, [])

/-! ## The program -/

/-- Where the call stands inside the queue. -/
def CallPc.queue : CallPc P → QueuePc P
  | .enqueue _ _ q | .captureQueue _ q => q
  | _ => .idle

def WorkerPc.queue : WorkerPc P → QueuePc P
  | .dequeue q | .queueShutdown q _ => q
  | .callback _ _ call => call.queue
  | _ => .idle

def ControllerPc.queue : ControllerPc P → QueuePc P
  | .abortQueue q | .shutdownQueue q => q
  | _ => .idle

/-- Where the thread stands inside the queue. -/
def SchedulerPc.queue : SchedulerPc W P → QueuePc P
  | .call pc => pc.queue
  | .worker _ pc => pc.queue
  | .controller pc => pc.queue

def SchedulerPc.asleepOn : SchedulerPc W P → Option SchedulerCondition
  | .controller .readyAsleep => some .worker
  | .controller (.drainAsleep _) => some .lifecycle
  | pc => pc.queue.asleepOn.map .queue

def CallPc.wake : CallPc P → CallPc P
  | .enqueue kind task q => .enqueue kind task q.wake
  | .captureQueue temporary q => .captureQueue temporary q.wake
  | pc => pc

def WorkerPc.wake : WorkerPc P → WorkerPc P
  | .dequeue q => .dequeue q.wake
  | .queueShutdown q r => .queueShutdown q.wake r
  | .callback task runningAccounted call => .callback task runningAccounted call.wake
  | pc => pc

def ControllerPc.wake : ControllerPc P → ControllerPc P
  | .abortQueue q => .abortQueue q.wake
  | .shutdownQueue q => .shutdownQueue q.wake
  | .readyAsleep => .readyWoken
  | .drainAsleep caller => .drainWoken caller
  | pc => pc

def SchedulerPc.wake : SchedulerPc W P → SchedulerPc W P
  | .call pc => .call pc.wake
  | .worker i pc => .worker i pc.wake
  | .controller pc => .controller pc.wake

/-- One step of a thread. -/
def schedulerAct (cfg : SchedulerConfig W) (t : Thread W C) (choice : SchedulerChoice W C P)
    (sh : Scheduler W C P) : SchedulerPc W P → Option (SchedulerStep W C P (SchedulerPc W P))
  | .call pc => (callAct cfg t choice sh pc).map fun (sh, pc, fx) => (sh, .call pc, fx)
  | .worker i pc => (workerAct cfg i t choice sh pc).map fun (sh, pc, fx) => (sh, .worker i pc, fx)
  | .controller pc => (controllerAct cfg choice sh pc).map fun (sh, pc, fx) =>
    (sh, .controller pc, fx)

/-- The scheduler, its workers, its clients and its controller. -/
def schedulerProgram (cfg : SchedulerConfig W) :
    Program (Thread W C) (Scheduler W C P) (SchedulerPc W P) (SchedulerChoice W C P)
      SchedulerCondition WorkerResult where
  act := schedulerAct cfg
  asleepOn := SchedulerPc.asleepOn
  wake := SchedulerPc.wake
  dormant
    | .worker _ .notCreated => true
    | _ => false
  start
    | .worker i .notCreated => .worker i .entry
    | pc => pc
  finished
    | .worker _ (.finished r) => some r
    | _ => none

abbrev SchedulerPool (W : ℕ) (C P : Type) := Pool (Thread W C) (Scheduler W C P) (SchedulerPc W P)

/-- The scheduler as `scheduler_init` leaves it, around the ring of its queue. -/
def schedulerInit (queue : TaskQueue P) : Scheduler W C P where
  queue := concurrentTaskQueueInit queue
  lifecycle :=
    { mutex := none, state := .initialized, activeSubmitterCount := 0, submittedCount := 0,
      acceptedCount := 0, rejectedCount := 0, accountingOverflow := false,
      workerSyncInitialized := false }
  worker :=
    { mutex := none, mutexInitialized := false, conditionInitialized := false, threads := none,
      workerContexts := none, startedWorkerCount := 0, createdWorkerCount := 0,
      readyWorkerCount := 0, activeWorkerCount := 0, joinedWorkerCount := 0, dequeuedCount := 0,
      callbackStartedCount := 0, successfulCallbackCount := 0, failedCallbackCount := 0,
      workerStartupFailureCount := 0, workerRuntimeFailureCount := 0, joinFailureCount := 0,
      accountingOverflow := false, infrastructureFailure := false }
  faultPlan := schedulerFaultPlanInit
  history :=
    { accepted := [], invoked := [], completed := [], states := [.initialized], firstJoin := none }

/-- Nobody inside the scheduler, no worker created. -/
def schedulerInitial (queue : TaskQueue P) : SchedulerPool W C P where
  shared := schedulerInit queue
  pc
    | .controller => .controller .idle
    | .worker i => .worker i .notCreated
    | .client _ => .call .idle

/-- The states that a scheduler of the given configuration can reach. -/
def SchedulerReachable [Fintype C] (cfg : SchedulerConfig W) (s : SchedulerPool W C P) : Prop :=
  0 < W ∧ ∃ queue, taskQueueInit cfg.capacity true = (.ok, some queue) ∧
    (schedulerProgram cfg).Steps (schedulerInitial queue) s

end SchedulingEngine
