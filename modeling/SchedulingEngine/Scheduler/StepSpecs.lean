import SchedulingEngine.Scheduler.Program

/-!
# The steps of the scheduler, listed

`CallStepSpec`, `WorkerStepSpec` and `ControllerStepSpec` list the steps of a submission or a
capture, of a worker and of a lifecycle call, with what each finds and what it leaves. `Steps`
proves the lists complete, and all invariants of the scheduler are derived from them.
-/

namespace SchedulingEngine

open Concurrency

variable {W : ℕ} {C P : Type} [DecidableEq C]

section Specifications

variable (cfg : SchedulerConfig W) (t : Thread W C) (choice : SchedulerChoice W C P)
  (sh : Scheduler W C P)

/-- A step inside a queue call. -/
inductive InsideQueueSpec {π : Type} (inside : QueuePc P → π) (resume : QueueReturn P → π) :
    QueuePc P → SchedulerStep W C P π → Prop where
  | run {q q' : QueuePc P} {queue : ConcurrentTaskQueue (Thread W C) P}
      {fx : List (QueueEffect (Thread W C))}
      (hact : queueAct cfg.queue t choice.queue sh.queue q = some (queue, q', fx))
      (hq : ∀ op r, q ≠ .returned op r) :
      InsideQueueSpec inside resume q ({ sh with queue }, inside q', fx.map (Effect.lift .queue))
  | leave (op : QueueOperation P) (r : QueueReturn P) :
      InsideQueueSpec inside resume (.returned op r) (sh, resume r, [])

/-- The steps of a submission or a capture. -/
inductive CallStepSpec : CallPc P → SchedulerStep W C P (CallPc P) → Prop where
  | submit (kind : SubmitKind) (task : P) : CallStepSpec .idle (sh, .registerLock kind task, [])
  | submitNull : CallStepSpec .idle (sh, .submitted .errorInvalidArgument, [])
  | capture : CallStepSpec .idle (sh, .captureLifecycleLock, [])
  | register (kind : SubmitKind) (task : P) (hfree : sh.lifecycle.mutex = none) :
      CallStepSpec (.registerLock kind task)
        ({ sh with lifecycle := (registerSubmitter (sh.lockLifecycle t).lifecycle).1 },
          .registerUnlock kind task (registerSubmitter (sh.lockLifecycle t).lifecycle).2, [])
  | registered (kind : SubmitKind) (task : P) (hheld : sh.lifecycle.mutex = some t) :
      CallStepSpec (.registerUnlock kind task .ok)
        (sh.unlockLifecycle, .enqueue kind task (.lock (kind.operation task)), [])
  | rejected (kind : SubmitKind) (task : P) (r : SchedulerResult) (hr : r ≠ .ok)
      (hheld : sh.lifecycle.mutex = some t) :
      CallStepSpec (.registerUnlock kind task r) (sh.unlockLifecycle, .submitted r, [])
  | enqueue (kind : SubmitKind) (task : P) {q : QueuePc P} {out : SchedulerStep W C P (CallPc P)}
      (hq : InsideQueueSpec cfg t choice sh (.enqueue kind task)
        (fun r => .deregisterLock task (kind.mapResult r.result)) q out) :
      CallStepSpec (.enqueue kind task q) out
  | deregister (task : P) (r : SchedulerResult) (hfree : sh.lifecycle.mutex = none) :
      CallStepSpec (.deregisterLock task r)
        ({ sh with lifecycle := (deregisterSubmitter (sh.lockLifecycle t).lifecycle r).1 },
          .deregisterUnlock task (deregisterSubmitter (sh.lockLifecycle t).lifecycle r).2.1,
          if (deregisterSubmitter (sh.lockLifecycle t).lifecycle r).2.2 then
            [.broadcast .lifecycle] else [])
  | deregistered (task : P) (r : SchedulerResult) (hheld : sh.lifecycle.mutex = some t) :
      CallStepSpec (.deregisterUnlock task r)
        ({ sh.unlockLifecycle with
            history := { sh.history with
              accepted :=
                if r = .ok then sh.history.accepted ++ [task] else sh.history.accepted } },
          .submitted r, [])
  | submitted (r : SchedulerResult) : CallStepSpec (.submitted r) (sh, .idle, [])
  | captureLifecycle (hfree : sh.lifecycle.mutex = none) :
      CallStepSpec .captureLifecycleLock
        (sh.lockLifecycle t, .captureLifecycleUnlock (captureLifecycle W sh.lifecycle).1
          (captureLifecycle W sh.lifecycle).2, [])
  | captureNoWorkers (temporary : SchedulerSnapshot) (hheld : sh.lifecycle.mutex = some t) :
      CallStepSpec (.captureLifecycleUnlock temporary false)
        (sh.unlockLifecycle, .captureQueue temporary (.lock .captureRuntimeSnapshot), [])
  | captureLifecycleDone (temporary : SchedulerSnapshot) (hheld : sh.lifecycle.mutex = some t) :
      CallStepSpec (.captureLifecycleUnlock temporary true)
        (sh.unlockLifecycle, .captureWorkerLock temporary, [])
  | captureWorker (temporary : SchedulerSnapshot) (hfree : sh.worker.mutex = none)
      (hinit : sh.worker.mutexInitialized = true) (hstarted : 0 < sh.worker.startedWorkerCount) :
      CallStepSpec (.captureWorkerLock temporary)
        (sh.lockWorker t, .captureLoad (captureWorker sh.worker temporary) 0 .dequeued, [])
  | captureNoSlots (temporary : SchedulerSnapshot) (hfree : sh.worker.mutex = none)
      (hinit : sh.worker.mutexInitialized = true) (hstarted : sh.worker.startedWorkerCount = 0) :
      CallStepSpec (.captureWorkerLock temporary)
        (sh.lockWorker t, .captureWorkerUnlock (captureWorker sh.worker temporary), [])
  | captureLoad (temporary : SchedulerSnapshot) (index : Fin W) (field next : SlotField)
      (contexts : Fin W → WorkerContext) (hcontexts : sh.worker.workerContexts = some contexts)
      (hnext : field.next = some next) :
      CallStepSpec (.captureLoad temporary index field)
        (sh, .captureLoad (captureField (contexts index) temporary field) index next, [])
  | captureNextSlot (temporary : SchedulerSnapshot) (index : Fin W)
      (contexts : Fin W → WorkerContext) (hcontexts : sh.worker.workerContexts = some contexts)
      (hindex : (index : ℕ) + 1 < sh.worker.startedWorkerCount) :
      CallStepSpec (.captureLoad temporary index .accountingOverflow)
        (sh, .captureLoad (captureField (contexts index) temporary .accountingOverflow)
          (index + 1) .dequeued, [])
  | captureLastSlot (temporary : SchedulerSnapshot) (index : Fin W)
      (contexts : Fin W → WorkerContext) (hcontexts : sh.worker.workerContexts = some contexts)
      (hindex : sh.worker.startedWorkerCount ≤ (index : ℕ) + 1) :
      CallStepSpec (.captureLoad temporary index .accountingOverflow)
        (sh, .captureWorkerUnlock (captureField (contexts index) temporary .accountingOverflow), [])
  | captureWorkerDone (temporary : SchedulerSnapshot) (hheld : sh.worker.mutex = some t) :
      CallStepSpec (.captureWorkerUnlock temporary)
        (sh.unlockWorker, .captureQueue temporary (.lock .captureRuntimeSnapshot), [])
  | captureQueue (temporary : SchedulerSnapshot) {q : QueuePc P}
      {out : SchedulerStep W C P (CallPc P)}
      (hq : InsideQueueSpec cfg t choice sh (.captureQueue temporary)
        (fun r => .captured (match r with
          | .snapshot value => value.map fun queue =>
            { temporary with
              queueCapacity := queue.capacity
              queueCurrentSize := queue.currentSize
              queueHighWaterMark := queue.highWaterMark }
          | _ => none)) q out) :
      CallStepSpec (.captureQueue temporary q) out
  | captured (snapshot : Option SchedulerSnapshot) :
      CallStepSpec (.captured snapshot) (sh, .idle, [])

/-- The steps of worker `i`. -/
inductive WorkerStepSpec (i : Fin W) : WorkerPc P → SchedulerStep W C P (WorkerPc P) → Prop where
  | badContext (contexts : Fin W → WorkerContext)
    (hcontexts : sh.worker.workerContexts = some contexts)
      (hbad : (contexts i).scheduler = false ∨ W ≤ (contexts i).workerIndex) :
      WorkerStepSpec i .entry (sh, .finished .invalidContext, [])
  | register (hcontexts : sh.worker.workerContexts.isSome = true)
      (hfree : sh.worker.mutex = none) (hinit : sh.worker.mutexInitialized = true) :
      WorkerStepSpec i .entry
        ({ sh with
            worker := { sh.worker with
              mutex := some t
              activeWorkerCount := sh.worker.activeWorkerCount + 1
              readyWorkerCount := sh.worker.readyWorkerCount + 1 } },
          .registerUnlock, [.broadcast .worker])
  | registered (hheld : sh.worker.mutex = some t) :
      WorkerStepSpec i .registerUnlock (sh.unlockWorker, .dequeue (.lock .dequeue), [])
  | dequeue {q : QueuePc P} {out : SchedulerStep W C P (WorkerPc P)}
      (hq : InsideQueueSpec cfg t choice sh .dequeue afterDequeue q out) :
      WorkerStepSpec i (.dequeue q) out
  | accountDequeued (task : P) (hcontexts : sh.worker.workerContexts.isSome = true) :
      WorkerStepSpec i (.accountDequeued task)
        (storeSlot i sh accountDequeued, .accountStarted task, [])
  | accountStarted (task : P) (hcontexts : sh.worker.workerContexts.isSome = true) :
      WorkerStepSpec i (.accountStarted task)
        (storeSlot i sh accountStarted, .accountRunning task, [])
  | accountRunning (task : P) (contexts : Fin W → WorkerContext)
      (hcontexts : sh.worker.workerContexts = some contexts) :
      WorkerStepSpec i (.accountRunning task)
        (storeSlot i sh (fun context => (accountRunning context).1),
          .invoke task (accountRunning (contexts i)).2, [])
  | invoke (task : P) (runningAccounted : Bool) :
      WorkerStepSpec i (.invoke task runningAccounted)
        ({ sh with history := { sh.history with invoked := sh.history.invoked ++ [task] } },
          .callback task runningAccounted .idle, [])
  | callbackReturns (task : P) (runningAccounted succeeded : Bool) :
      WorkerStepSpec i (.callback task runningAccounted .idle)
        ({ sh with history := { sh.history with completed := sh.history.completed ++ [task] } },
          .accountResult runningAccounted succeeded, [])
  | call (task : P) (runningAccounted : Bool) {pc : CallPc P}
      {out : SchedulerStep W C P (CallPc P)} (hcall : CallStepSpec cfg t choice sh pc out) :
      WorkerStepSpec i (.callback task runningAccounted pc)
        (out.1, .callback task runningAccounted out.2.1, out.2.2)
  | accountResult (succeeded : Bool) (hcontexts : sh.worker.workerContexts.isSome = true) :
      WorkerStepSpec i (.accountResult true succeeded)
        (storeSlot i sh (accountResult succeeded), .accountRunningDone, [])
  | accountResultOnly (succeeded : Bool) (hcontexts : sh.worker.workerContexts.isSome = true) :
      WorkerStepSpec i (.accountResult false succeeded)
        (storeSlot i sh (accountResult succeeded), .dequeue (.lock .dequeue), [])
  | accountRunningDone (hcontexts : sh.worker.workerContexts.isSome = true) :
      WorkerStepSpec i .accountRunningDone
        (storeSlot i sh accountRunningDone, .dequeue (.lock .dequeue), [])
  | queueShutdown (r : WorkerResult) {q : QueuePc P} {out : SchedulerStep W C P (WorkerPc P)}
      (hq : InsideQueueSpec cfg t choice sh (fun q => .queueShutdown q r) (fun _ => .exitLock r)
        q out) :
      WorkerStepSpec i (.queueShutdown q r) out
  | exit (r : WorkerResult) (hfree : sh.worker.mutex = none)
      (hinit : sh.worker.mutexInitialized = true) :
      WorkerStepSpec i (.exitLock r)
        ({ sh with worker := (recordWorkerExit (sh.lockWorker t).worker r).1 },
          .exitUnlock (recordWorkerExit (sh.lockWorker t).worker r).2, [])
  | exited (r : WorkerResult) (hheld : sh.worker.mutex = some t) :
      WorkerStepSpec i (.exitUnlock r) (sh.unlockWorker, .finished r, [])

/-- The worker domain in which worker `i` is being created. -/
def creating (i : Fin W) : WorkerDomain W (Thread W C) :=
  setContext (sh.lockWorker .controller).worker i fun context =>
    { context with scheduler := true, workerIndex := i }

/-- The steps of the lifecycle calls. -/
inductive ControllerStepSpec : ControllerPc P → SchedulerStep W C P (ControllerPc P) → Prop where
  | call (call : LifecycleCall) (pc : ControllerPc P) (hcall : beginCall cfg call = some pc) :
      ControllerStepSpec .idle (sh, pc, [])
  | callNull (call : LifecycleCall) :
      ControllerStepSpec .idle (sh, .returned call .errorInvalidArgument, [])
  | faultNull : ControllerStepSpec .idle (sh, .faultReturned false, [])
  | returned (call : LifecycleCall) (r : SchedulerResult) :
      ControllerStepSpec (.returned call r) (sh, .idle, [])
  -- scheduler_start
  | startRefused (hfree : sh.lifecycle.mutex = none) (hstate : sh.lifecycle.state ≠ .initialized) :
      ControllerStepSpec .startLock (sh.lockLifecycle .controller, .startUnlock false, [])
  | start (hfree : sh.lifecycle.mutex = none) (hstate : sh.lifecycle.state = .initialized) :
      ControllerStepSpec .startLock
        ((sh.lockLifecycle .controller).setState .starting, .startUnlock true, [])
  | startRefusedUnlock (hheld : sh.lifecycle.mutex = some .controller) :
      ControllerStepSpec (.startUnlock false)
        (sh.unlockLifecycle, .returned .start .errorInvalidState, [])
  | startUnlock (hheld : sh.lifecycle.mutex = some .controller) :
      ControllerStepSpec (.startUnlock true) (sh.unlockLifecycle, .startAllocate, [])
  | sizeGuard (hsize : W > sizeMax / schedThreadSize ∨ W > sizeMax / workerContextSize) :
      ControllerStepSpec .startAllocate (sh, .setStateLock .initialized .start .errorAllocation, [])
  | allocationFailed (sh' : Scheduler W C P) (hsh : sh' = allocateWorkers cfg choice sh)
      (hfail : cfg.allocationMayFail = true ∨ cfg.faultInjection = true) :
      ControllerStepSpec .startAllocate
        (freeWorkers sh', .setStateLock .initialized .start .errorAllocation, [])
  | allocated (sh' : Scheduler W C P) (hsh : sh' = allocateWorkers cfg choice sh)
      (hthreads : sh'.worker.threads = some fun _ => false)
      (hcontexts : sh'.worker.workerContexts = some fun _ => {})
      (hsize : W ≤ sizeMax / schedThreadSize) :
      ControllerStepSpec .startAllocate (sh', .startSyncInit, [])
  | syncInit :
      ControllerStepSpec .startSyncInit
        (initWorkerCondition (initWorkerMutex sh), .startSyncLock, [])
  | syncInitFailed (mutexInitialized : Bool)
      (hmutex : mutexInitialized = true → sh.worker.mutexInitialized = true)
      (hfail : cfg.syncInitMayFail = true) :
      ControllerStepSpec .startSyncInit
        (freeWorkers { sh with worker := { sh.worker with mutexInitialized } },
          .setStateLock .initialized .start .errorSystem, [])
  | syncLock (hfree : sh.lifecycle.mutex = none) :
      ControllerStepSpec .startSyncLock
        ({ sh with
            lifecycle := { (sh.lockLifecycle .controller).lifecycle with
              workerSyncInitialized := true } },
          .startSyncUnlock, [])
  | syncUnlock (hheld : sh.lifecycle.mutex = some .controller) :
      ControllerStepSpec .startSyncUnlock (sh.unlockLifecycle, .createLock 0, [])
  | createFailed (i : Fin W) (faultPlan : SchedulerFaultPlan) (hfree : sh.worker.mutex = none)
      (hinit : sh.worker.mutexInitialized = true)
      (hfail : cfg.createMayFail = true ∨ cfg.faultInjection = true)
      (hplan : faultPlan = (consultFaultPlan cfg sh.faultPlan .workerCreation).1) :
      ControllerStepSpec (.createLock i)
        ({ sh with
            faultPlan
            worker := { creating sh i with
              workerStartupFailureCount := (incrementSaturating sh.worker.workerStartupFailureCount
                sh.worker.accountingOverflow).1
              accountingOverflow := (incrementSaturating sh.worker.workerStartupFailureCount
                sh.worker.accountingOverflow).2 } },
          .createUnlock i false, [])
  | created (i : Fin W) (faultPlan : SchedulerFaultPlan) (hfree : sh.worker.mutex = none)
      (hinit : sh.worker.mutexInitialized = true)
      (hplan : faultPlan = (consultFaultPlan cfg sh.faultPlan .workerCreation).1) :
      ControllerStepSpec (.createLock i)
        ({ sh with faultPlan, worker := startWorker (creating sh i) i }, .createUnlock i true,
          [.spawn (.worker i)])
  | createFailedUnlock (index : ℕ) (hheld : sh.worker.mutex = some .controller) :
      ControllerStepSpec (.createUnlock index false)
        (sh.unlockWorker, .abortQueue (.lock .shutdown), [])
  | createNext (index : ℕ) (hheld : sh.worker.mutex = some .controller) (hindex : index + 1 < W) :
      ControllerStepSpec (.createUnlock index true) (sh.unlockWorker, .createLock (index + 1), [])
  | createLast (index : ℕ) (hheld : sh.worker.mutex = some .controller) (hindex : W ≤ index + 1) :
      ControllerStepSpec (.createUnlock index true) (sh.unlockWorker, .readyLock, [])
  | readyLock (hfree : sh.worker.mutex = none) (hinit : sh.worker.mutexInitialized = true) :
      ControllerStepSpec .readyLock (sh.lockWorker .controller, readyTest sh, [])
  | readyWait (hheld : sh.worker.mutex = some .controller) :
      ControllerStepSpec .readyWait (sh.unlockWorker, .readyAsleep, [])
  | readySpurious : ControllerStepSpec .readyAsleep (sh, .readyWoken, [])
  | readyAgain (hfree : sh.worker.mutex = none) (hinit : sh.worker.mutexInitialized = true) :
      ControllerStepSpec .readyWoken (sh.lockWorker .controller, readyTest sh, [])
  | readyFailed (hfree : sh.worker.mutex = none) (hfail : cfg.waitMayFail = true) :
      ControllerStepSpec .readyWoken (sh.lockWorker .controller, .readyUnlock false, [])
  | readyFailedUnlock (hheld : sh.worker.mutex = some .controller) :
      ControllerStepSpec (.readyUnlock false) (sh.unlockWorker, .abortQueue (.lock .shutdown), [])
  | readyUnlock (hheld : sh.worker.mutex = some .controller) :
      ControllerStepSpec (.readyUnlock true) (sh.unlockWorker, .runLock, [])
  | run (hfree : sh.lifecycle.mutex = none) :
      ControllerStepSpec .runLock ((sh.lockLifecycle .controller).setState .running, .runUnlock, [])
  | runUnlock (hheld : sh.lifecycle.mutex = some .controller) :
      ControllerStepSpec .runUnlock (sh.unlockLifecycle, .returned .start .ok, [])
  | abortQueue {q : QueuePc P} {out : SchedulerStep W C P (ControllerPc P)}
      (hq : InsideQueueSpec cfg .controller choice sh .abortQueue
        (fun _ => .releaseJoin .abort 0 .ok true) q out) :
      ControllerStepSpec (.abortQueue q) out
  -- release_workers
  | releaseSkip (caller : ReleaseCaller) (i : Fin W) (result : SchedulerResult) (allJoined : Bool)
      (hindex : (i : ℕ) < sh.worker.startedWorkerCount)
      (hskip : ∀ threads, sh.worker.threads = some threads → threads i = false) :
      ControllerStepSpec (.releaseJoin caller i result allJoined)
        (sh, .releaseJoin caller (i + 1) result allJoined, [])
  | releaseNativeFailed (caller : ReleaseCaller) (i : Fin W) (result : SchedulerResult)
      (allJoined : Bool) (hfail : cfg.joinMayFail = true)
      (hindex : (i : ℕ) < sh.worker.startedWorkerCount)
      (hhandle : ∃ threads, sh.worker.threads = some threads ∧ threads i = true) :
      ControllerStepSpec (.releaseJoin caller i result allJoined)
        (sh, .releaseLock caller i .nativeFailed .errorSystem false, [])
  | releaseInjected (caller : ReleaseCaller) (i : Fin W) (result : SchedulerResult)
      (allJoined : Bool) (faultPlan : SchedulerFaultPlan) (workerResult : WorkerResult)
      (hfault : cfg.faultInjection = true) (hindex : (i : ℕ) < sh.worker.startedWorkerCount)
      (hhandle : ∃ threads, sh.worker.threads = some threads ∧ threads i = true)
      (hplan : consultFaultPlan cfg sh.faultPlan .workerJoin = (faultPlan, true)) :
      ControllerStepSpec (.releaseJoin caller i result allJoined)
        ({ sh with faultPlan }, .releaseLock caller i .injected .errorSystem allJoined,
          [.await (.worker i) workerResult])
  | releaseFailedWorker (caller : ReleaseCaller) (i : Fin W) (result : SchedulerResult)
      (allJoined : Bool) (faultPlan : SchedulerFaultPlan) (workerResult : WorkerResult)
      (hresult : workerResult ≠ .ok) (hindex : (i : ℕ) < sh.worker.startedWorkerCount)
      (hhandle : ∃ threads, sh.worker.threads = some threads ∧ threads i = true)
      (hplan : faultPlan = (consultFaultPlan cfg sh.faultPlan .workerJoin).1) :
      ControllerStepSpec (.releaseJoin caller i result allJoined)
        ({ sh with faultPlan, worker := destroyThread sh.worker i },
          .releaseJoin caller (i + 1) .errorSystem allJoined, [.await (.worker i) workerResult])
  | releaseJoined (caller : ReleaseCaller) (i : Fin W) (result : SchedulerResult)
      (allJoined : Bool) (faultPlan : SchedulerFaultPlan)
      (hindex : (i : ℕ) < sh.worker.startedWorkerCount)
      (hhandle : ∃ threads, sh.worker.threads = some threads ∧ threads i = true)
      (hplan : faultPlan = (consultFaultPlan cfg sh.faultPlan .workerJoin).1) :
      ControllerStepSpec (.releaseJoin caller i result allJoined)
        ({ sh with faultPlan }, .releaseLock caller i .joined result allJoined,
          [.await (.worker i) .ok])
  | releaseDone (caller : ReleaseCaller) (index : ℕ) (result : SchedulerResult)
      (hindex : sh.worker.startedWorkerCount ≤ index) :
      ControllerStepSpec (.releaseJoin caller index result true)
        (sh, .foldLock caller (if sh.worker.infrastructureFailure then .errorSystem else result),
          [])
  | releaseIncomplete (caller : ReleaseCaller) (index : ℕ) (result : SchedulerResult)
      (hindex : sh.worker.startedWorkerCount ≤ index) :
      ControllerStepSpec (.releaseJoin caller index result false)
        (sh, afterRelease sh caller .errorSystem, [])
  | releaseLock (caller : ReleaseCaller) (index : ℕ) (event : JoinEvent) (result : SchedulerResult)
      (allJoined : Bool) (hfree : sh.worker.mutex = none)
      (hinit : sh.worker.mutexInitialized = true) :
      ControllerStepSpec (.releaseLock caller index event result allJoined)
        ({ sh with worker := recordJoin (sh.lockWorker .controller).worker event },
          .releaseUnlock caller index event result allJoined, [])
  | releaseUnlockFailed (caller : ReleaseCaller) (i : Fin W) (result : SchedulerResult)
      (allJoined : Bool) (hheld : sh.worker.mutex = some .controller) :
      ControllerStepSpec (.releaseUnlock caller i .nativeFailed result allJoined)
        (sh.unlockWorker, .releaseJoin caller (i + 1) result allJoined, [])
  | releaseUnlock (caller : ReleaseCaller) (i : Fin W) (event : JoinEvent)
      (result : SchedulerResult) (allJoined : Bool) (hevent : event ≠ .nativeFailed)
      (hheld : sh.worker.mutex = some .controller) :
      ControllerStepSpec (.releaseUnlock caller i event result allJoined)
        ({ sh with worker := destroyThread sh.unlockWorker.worker i },
          .releaseJoin caller (i + 1) result allJoined, [])
  | fold (caller : ReleaseCaller) (result : SchedulerResult) (worker : WorkerDomain W (Thread W C))
      (hfree : sh.worker.mutex = none) (hinit : sh.worker.mutexInitialized = true)
      (hfold : foldWorkers (sh.lockWorker .controller).worker = some worker) :
      ControllerStepSpec (.foldLock caller result)
        ({ sh with worker }, .foldUnlock caller result, [])
  | foldUnlock (caller : ReleaseCaller) (result : SchedulerResult)
      (hheld : sh.worker.mutex = some .controller) :
      ControllerStepSpec (.foldUnlock caller result)
        (sh.unlockWorker, afterRelease sh caller result, [])
  -- set_scheduler_state
  | setState (state : SchedulerState) (call : LifecycleCall) (r : SchedulerResult)
      (hfree : sh.lifecycle.mutex = none) :
      ControllerStepSpec (.setStateLock state call r)
        ((sh.lockLifecycle .controller).setState state, .setStateUnlock call r, [])
  | setStateUnlock (call : LifecycleCall) (r : SchedulerResult) (hcall : call ≠ .join)
      (hheld : sh.lifecycle.mutex = some .controller) :
      ControllerStepSpec (.setStateUnlock call r) (sh.unlockLifecycle, .returned call r, [])
  | joinAnswered (r : SchedulerResult) (hheld : sh.lifecycle.mutex = some .controller) :
      ControllerStepSpec (.setStateUnlock .join r)
        (sh.unlockLifecycle.recordFirstJoin r, .returned .join r, [])
  -- scheduler_shutdown
  | shutdownStopped (hfree : sh.lifecycle.mutex = none) (hstate : sh.lifecycle.state = .stopped) :
      ControllerStepSpec .shutdownLock
        (sh.lockLifecycle .controller, .shutdownUnlock (some .ok), [])
  | shutdownRunning (hfree : sh.lifecycle.mutex = none) (hstate : sh.lifecycle.state = .running) :
      ControllerStepSpec .shutdownLock
        ((sh.lockLifecycle .controller).setState .shuttingDown, .shutdownUnlock none, [])
  | shutdownAgain (hfree : sh.lifecycle.mutex = none)
      (hstate : sh.lifecycle.state = .shuttingDown) :
      ControllerStepSpec .shutdownLock (sh.lockLifecycle .controller, .shutdownUnlock none, [])
  | shutdownRefused (hfree : sh.lifecycle.mutex = none)
      (hstate : sh.lifecycle.state ≠ .stopped ∧ sh.lifecycle.state ≠ .running ∧
        sh.lifecycle.state ≠ .shuttingDown) :
      ControllerStepSpec .shutdownLock
        (sh.lockLifecycle .controller, .shutdownUnlock (some .errorInvalidState), [])
  | shutdownAnswered (r : SchedulerResult) (hheld : sh.lifecycle.mutex = some .controller) :
      ControllerStepSpec (.shutdownUnlock (some r)) (sh.unlockLifecycle, .returned .shutdown r, [])
  | shutdownUnlock (hheld : sh.lifecycle.mutex = some .controller) :
      ControllerStepSpec (.shutdownUnlock none)
        (sh.unlockLifecycle, .shutdownQueue (.lock .shutdown), [])
  | shutdownQueue {q : QueuePc P} {out : SchedulerStep W C P (ControllerPc P)}
      (hq : InsideQueueSpec cfg .controller choice sh .shutdownQueue
        (fun r => .drainLock (.shutdown (mapQueueShutdownResult r.result))) q out) :
      ControllerStepSpec (.shutdownQueue q) out
  | drainLock (caller : DrainCaller) (hfree : sh.lifecycle.mutex = none) :
      ControllerStepSpec (.drainLock caller)
        (sh.lockLifecycle .controller, drainTest sh caller, [])
  | drainWait (caller : DrainCaller) (hheld : sh.lifecycle.mutex = some .controller) :
      ControllerStepSpec (.drainWait caller) (sh.unlockLifecycle, .drainAsleep caller, [])
  | drainSpurious (caller : DrainCaller) :
      ControllerStepSpec (.drainAsleep caller) (sh, .drainWoken caller, [])
  | drainAgain (caller : DrainCaller) (hfree : sh.lifecycle.mutex = none) :
      ControllerStepSpec (.drainWoken caller)
        (sh.lockLifecycle .controller, drainTest sh caller, [])
  | drainFailed (caller : DrainCaller) (hfree : sh.lifecycle.mutex = none)
      (hfail : cfg.waitMayFail = true) :
      ControllerStepSpec (.drainWoken caller)
        (sh.lockLifecycle .controller, .drainUnlock caller false, [])
  | shutdownDrained (result : SchedulerResult) (hheld : sh.lifecycle.mutex = some .controller) :
      ControllerStepSpec (.drainUnlock (.shutdown result) true)
        (sh.unlockLifecycle, .returned .shutdown result, [])
  | shutdownFailed (result : SchedulerResult) (hheld : sh.lifecycle.mutex = some .controller) :
      ControllerStepSpec (.drainUnlock (.shutdown result) false)
        (sh.unlockLifecycle, .returned .shutdown .errorSystem, [])
  | joinDrained (hheld : sh.lifecycle.mutex = some .controller) :
      ControllerStepSpec (.drainUnlock .join true)
        (sh.unlockLifecycle, .releaseJoin .join 0 .ok true, [])
  | joinFailed (hheld : sh.lifecycle.mutex = some .controller) :
      ControllerStepSpec (.drainUnlock .join false)
        (sh.unlockLifecycle.recordFirstJoin .errorSystem, .returned .join .errorSystem, [])
  -- scheduler_join
  | joinStopped (hfree : sh.lifecycle.mutex = none) (hstate : sh.lifecycle.state = .stopped) :
      ControllerStepSpec .joinLock (sh.lockLifecycle .controller, .joinUnlock .ok, [])
  | join (hfree : sh.lifecycle.mutex = none)
      (hstate : sh.lifecycle.state = .shuttingDown ∨ sh.lifecycle.state = .failed) :
      ControllerStepSpec .joinLock (sh.lockLifecycle .controller, drainTest sh .join, [])
  | joinRefused (hfree : sh.lifecycle.mutex = none)
      (hstate : sh.lifecycle.state ≠ .stopped ∧ sh.lifecycle.state ≠ .shuttingDown ∧
        sh.lifecycle.state ≠ .failed) :
      ControllerStepSpec .joinLock (sh.lockLifecycle .controller,
        .joinUnlock .errorInvalidState, [])
  | joinUnlock (answer : SchedulerResult) (hheld : sh.lifecycle.mutex = some .controller) :
      ControllerStepSpec (.joinUnlock answer) (sh.unlockLifecycle, .returned .join answer, [])
  -- scheduler_destroy
  | destroyLock (hfree : sh.lifecycle.mutex = none) :
      ControllerStepSpec .destroyLock
        (sh.lockLifecycle .controller, .destroyUnlock (destroyAccepted sh), [])
  | destroyRefused (hheld : sh.lifecycle.mutex = some .controller) :
      ControllerStepSpec (.destroyUnlock false)
        (sh.unlockLifecycle, .returned .destroy .errorInvalidState, [])
  | destroyUnlock (hheld : sh.lifecycle.mutex = some .controller) :
      ControllerStepSpec (.destroyUnlock true) (sh.unlockLifecycle, .destroyFree, [])
  -- scheduler_fault_configure and scheduler_fault_reset
  | faultLock (call : LifecycleCall) (faultPlan : SchedulerFaultPlan) (configured : Bool)
      (hfree : sh.lifecycle.mutex = none)
      (hplan : sh.lifecycle.state ≠ .initialized →
        faultPlan = sh.faultPlan ∨ faultPlan = schedulerFaultPlanReset sh.faultPlan) :
      ControllerStepSpec (.faultLock call)
        ({ sh.lockLifecycle .controller with faultPlan }, .faultUnlock configured, [])
  | faultUnlock (configured : Bool) (hheld : sh.lifecycle.mutex = some .controller) :
      ControllerStepSpec (.faultUnlock configured)
        (sh.unlockLifecycle, .faultReturned configured, [])
  | faultReturned (configured : Bool) :
      ControllerStepSpec (.faultReturned configured) (sh, .idle, [])

end Specifications

end SchedulingEngine
