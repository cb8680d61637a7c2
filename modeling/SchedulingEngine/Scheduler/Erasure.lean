import SchedulingEngine.Concurrency.Congruence
import SchedulingEngine.Scheduler.Program

/-!
# What no operation of the scheduler depends on

The counts of submissions are written by submitters and copied by captures, and nothing is
decided by them; the history is not even read. `bare` erases both, in the scheduler and in
the snapshots under way: two schedulers that differ in them only behave in the same way
under every schedule (`schedulerProgram_congruent`).
-/

namespace SchedulingEngine

open Concurrency

variable {W : ℕ} {C P : Type}

/-- Without the counts of submissions. -/
def LifecycleDomain.bare {T : Type} (l : LifecycleDomain T) : LifecycleDomain T :=
  { l with
    submittedCount := 0, acceptedCount := 0, rejectedCount := 0, accountingOverflow := false }

/-- Without the counts of submissions and the history. -/
def Scheduler.bare (sh : Scheduler W C P) : Scheduler W C P :=
  { sh with
    lifecycle := sh.lifecycle.bare
    history :=
      { accepted := [], invoked := [], completed := [], states := [], firstJoin := none } }

/-- Without what a snapshot copies of them. -/
def SchedulerSnapshot.bare (snapshot : SchedulerSnapshot) : SchedulerSnapshot :=
  { snapshot with
    submittedCount := 0, acceptedCount := 0, rejectedCount := 0, overflowDetected := false }

/-- A capture without the counts of submissions that it has copied. -/
def CallPc.bare : CallPc P → CallPc P
  | .captureLifecycleUnlock temporary workerSyncAvailable =>
    .captureLifecycleUnlock temporary.bare workerSyncAvailable
  | .captureWorkerLock temporary => .captureWorkerLock temporary.bare
  | .captureLoad temporary index field => .captureLoad temporary.bare index field
  | .captureWorkerUnlock temporary => .captureWorkerUnlock temporary.bare
  | .captureQueue temporary q => .captureQueue temporary.bare q
  | .captured snapshot => .captured (snapshot.map SchedulerSnapshot.bare)
  | pc => pc

/-- Only the call of a callback can hold a snapshot. -/
def WorkerPc.bare : WorkerPc P → WorkerPc P
  | .callback task runningAccounted call => .callback task runningAccounted call.bare
  | pc => pc

def SchedulerPc.bare : SchedulerPc W P → SchedulerPc W P
  | .call pc => .call pc.bare
  | .worker i pc => .worker i pc.bare
  | .controller pc => .controller pc

/-! ## The critical sections -/

/-- Registering decides by the state, so it does the same without the counts. -/
theorem registerSubmitter_bare {T : Type} (l : LifecycleDomain T) :
    (registerSubmitter l).1.bare = (registerSubmitter l.bare).1.bare ∧
      (registerSubmitter l).2 = (registerSubmitter l.bare).2 := by
  by_cases hstate : l.state = .running
  · simp [registerSubmitter, LifecycleDomain.bare, hstate]
  · simp only [registerSubmitter, LifecycleDomain.bare, ne_eq, hstate,
      not_false_eq_true, ↓reduceIte,
      true_and]
    rfl

/-- Deregistering decides by the number of active submitters. -/
theorem deregisterSubmitter_bare {T : Type} (l : LifecycleDomain T) (r : SchedulerResult) :
    (deregisterSubmitter l r).1.bare = (deregisterSubmitter l.bare r).1.bare ∧
      (deregisterSubmitter l r).2 = (deregisterSubmitter l.bare r).2 := by
  by_cases hactive : l.activeSubmitterCount = 0
  · by_cases hr : r = .ok <;> simp [deregisterSubmitter, LifecycleDomain.bare, hr, hactive]
  · by_cases hr : r = .ok <;> simp [deregisterSubmitter, LifecycleDomain.bare, hr, hactive]

/-- A load of a slot raises the flag that is erased, and else adds to the worker totals. -/
theorem captureField_bare (context : WorkerContext) (temporary : SchedulerSnapshot)
    (field : SlotField) :
    (captureField context temporary field).bare =
    (captureField context temporary.bare field).bare := by
  have hadd : ∀ target value overflow overflow',
      (addSaturating target value overflow).1 = (addSaturating target value overflow').1 := by
    intro target value overflow overflow'
    unfold addSaturating
    split <;> rfl
  cases field with
  | accountingOverflow => rfl
  | _ =>
    simp only [captureField, SchedulerSnapshot.bare, SchedulerSnapshot.mk.injEq, true_and, and_true]
    exact hadd _ _ _ _

/-! ## The steps -/

/-- What is kept of a step. -/
abbrev keep {π : Type} (look : π → π) (out : SchedulerStep W C P π) : SchedulerStep W C P π :=
  Program.seen Scheduler.bare look out

variable [DecidableEq C] (cfg : SchedulerConfig W) (t : Thread W C)
  (choice : SchedulerChoice W C P) (sh : Scheduler W C P)

omit [DecidableEq C] in
/-- The workers' slots are not erased. -/
theorem Scheduler.bare_workerContexts :
    sh.bare.worker.workerContexts = sh.worker.workerContexts := rfl

/-- The queue knows nothing of the counts. -/
theorem insideQueue_bare {π : Type} {look : π → π} (inside inside' : QueuePc P → π)
    {resume resume' : QueueReturn P → π} (hinside : ∀ q, look (inside q) = look (inside' q))
    (hresume : ∀ r, look (resume r) = look (resume' r)) (q : QueuePc P) :
    (insideQueue cfg t choice sh inside resume q).map (keep look)
      = (insideQueue cfg t choice sh.bare inside' resume' q).map (keep look) := by
  have hrun : ((queueAct cfg.queue t choice.queue sh.queue q).map fun out =>
        (({ sh with queue := out.1 }, inside out.2.1, out.2.2.map (Effect.lift .queue)) :
          SchedulerStep W C P π)).map (keep look)
      = ((queueAct cfg.queue t choice.queue sh.bare.queue q).map fun out =>
        (({ sh.bare with queue := out.1 }, inside' out.2.1, out.2.2.map (Effect.lift .queue)) :
          SchedulerStep W C P π)).map (keep look) := by
    show _ = ((queueAct cfg.queue t choice.queue sh.queue q).map _).map _
    cases queueAct cfg.queue t choice.queue sh.queue q with
    | none => rfl
    | some out => exact congrArg (fun b => some (_, b, _)) (hinside out.2.1)
  cases q with
  | returned op r => exact congrArg (fun b => some (sh.bare, b, [])) (hresume r)
  | _ => exact hrun

omit [DecidableEq C] in
/-- Two branches that agree after erasure agree as one branch. -/
theorem keep_ite {π : Type} {look : π → π} {G : Prop} [Decidable G]
    {o₁ o₂ o₁' o₂' : Option (SchedulerStep W C P π)}
    (h₁ : o₁.map (keep look) = o₁'.map (keep look))
    (h₂ : o₂.map (keep look) = o₂'.map (keep look)) :
    (if G then o₁ else o₂).map (keep look) = (if G then o₁' else o₂').map (keep look) := by
  split
  · exact h₁
  · exact h₂

omit [DecidableEq C] in
/-- A guarded step. -/
theorem keep_guard {π : Type} {look : π → π} {G : Prop} [Decidable G]
    {out out' : SchedulerStep W C P π} (h : keep look out = keep look out') :
    (if G then some out else none).map (keep look)
      = (if G then some out' else none).map (keep look) :=
  keep_ite (congrArg some h) rfl

omit [DecidableEq C] in
/-- A critical section of `lifecycle_mutex`. -/
theorem Scheduler.bare_lifecycle {l l' : LifecycleDomain (Thread W C)} (h : l.bare = l'.bare) :
    Scheduler.bare { sh with lifecycle := l } =
      Scheduler.bare { sh.bare with lifecycle := l' } := by
  simp only [Scheduler.bare, h]

/-- **A call takes the same step without the counts.** -/
theorem callAct_bare (pc : CallPc P) :
    (callAct cfg t choice sh pc).map (keep CallPc.bare)
      = (callAct cfg t choice sh.bare pc.bare).map (keep CallPc.bare) := by
  cases pc with
  | idle =>
    simp only [CallPc.bare, callAct]
    split <;> rfl
  -- the counts are written here, and the gate looks at the state
  | registerLock kind task =>
    have hact : ∀ sh : Scheduler W C P, callAct cfg t choice sh (.registerLock kind task)
        = if sh.lifecycle.mutex = none then
            some ({ sh with lifecycle := (registerSubmitter (sh.lockLifecycle t).lifecycle).1 },
              .registerUnlock kind task (registerSubmitter (sh.lockLifecycle t).lifecycle).2, [])
          else none := fun _ => rfl
    obtain ⟨h₁, h₂⟩ := registerSubmitter_bare (sh.lockLifecycle t).lifecycle
    have hpc : (CallPc.registerLock kind task).bare = .registerLock kind task := rfl
    rw [hact, hpc, hact]
    exact keep_guard (G := sh.lifecycle.mutex = none) (Prod.ext (sh.bare_lifecycle h₁)
      (congrArg (fun r => (CallPc.registerUnlock kind task r, [])) h₂))
  | registerUnlock kind task r =>
    refine keep_guard (G := sh.lifecycle.mutex = some t) (congrArg (Prod.mk _) ?_)
    split <;> rfl
  | enqueue kind task q =>
    exact insideQueue_bare cfg t choice sh _ _ (fun _ => rfl) (fun _ => rfl) q
  -- and here, where the broadcast looks at the number of active submitters
  | deregisterLock task r =>
    have hact : ∀ sh : Scheduler W C P, callAct cfg t choice sh (.deregisterLock task r)
        = if sh.lifecycle.mutex = none then
            some ({ sh with lifecycle := (deregisterSubmitter (sh.lockLifecycle t).lifecycle r).1 },
              .deregisterUnlock task (deregisterSubmitter (sh.lockLifecycle t).lifecycle r).2.1,
              if (deregisterSubmitter (sh.lockLifecycle t).lifecycle r).2.2 then
                [.broadcast .lifecycle] else [])
          else none := fun _ => rfl
    obtain ⟨h₁, h₂⟩ := deregisterSubmitter_bare (sh.lockLifecycle t).lifecycle r
    have hpc : (CallPc.deregisterLock task r).bare = .deregisterLock task r := rfl
    rw [hact, hpc, hact]
    exact keep_guard (G := sh.lifecycle.mutex = none) (Prod.ext (sh.bare_lifecycle h₁)
      (congrArg (fun out : SchedulerResult × Bool => (CallPc.deregisterUnlock task out.1,
        (if out.2 then [.broadcast .lifecycle] else [] : List (SchedulerEffect W C)))) h₂))
  | deregisterUnlock task r =>
    exact keep_guard (G := sh.lifecycle.mutex = some t) rfl
  | submitted r => rfl
  -- the only step that reads the counts, into fields that are erased as well
  | captureLifecycleLock =>
    exact keep_guard (G := sh.lifecycle.mutex = none) rfl
  | captureLifecycleUnlock temporary workerSyncAvailable =>
    refine keep_guard (G := sh.lifecycle.mutex = some t) ?_
    cases workerSyncAvailable <;> rfl
  | captureWorkerLock temporary =>
    refine keep_guard (G := sh.worker.mutex = none ∧ sh.worker.mutexInitialized = true)
      (congrArg (Prod.mk _) ?_)
    show (CallPc.bare (if 0 < sh.worker.startedWorkerCount then _ else _), _)
      = (CallPc.bare (if 0 < sh.worker.startedWorkerCount then _ else _), _)
    split <;> rfl
  -- the slots stay, so the same fields are loaded
  | captureLoad temporary index field =>
    simp only [callAct, CallPc.bare, sh.bare_workerContexts]
    cases sh.worker.workerContexts with
    | none => rfl
    | some contexts =>
      by_cases h : index < W
      · simp only [h, ↓reduceDIte, Option.map_some]
        refine congrArg (fun b => some (sh.bare, b, [])) ?_
        have hfield := captureField_bare (contexts ⟨index, h⟩) temporary field
        cases field.next with
        | some next => exact congrArg (CallPc.captureLoad · index next) hfield
        | none =>
          show CallPc.bare (if index + 1 < sh.worker.startedWorkerCount then _ else _)
            = CallPc.bare (if index + 1 < sh.worker.startedWorkerCount then _ else _)
          split
          · exact congrArg (CallPc.captureLoad · (index + 1) .dequeued) hfield
          · exact congrArg CallPc.captureWorkerUnlock hfield
      · simp only [h, ↓reduceDIte, Option.map_none]
  | captureWorkerUnlock temporary =>
    exact keep_guard (G := sh.worker.mutex = some t) rfl
  | captureQueue temporary q =>
    refine insideQueue_bare cfg t choice sh (CallPc.captureQueue temporary)
      (CallPc.captureQueue temporary.bare) (fun _ => rfl) (fun r => ?_) q
    cases r with
    | snapshot value => cases value <;> rfl
    | _ => rfl
  | captured snapshot => rfl

/-- So does a worker: what it counts are the stages of its Task, and these stay. -/
theorem workerAct_bare (i : Fin W) (pc : WorkerPc P) :
    (workerAct cfg i t choice sh pc).map (keep WorkerPc.bare)
      = (workerAct cfg i t choice sh.bare pc.bare).map (keep WorkerPc.bare) := by
  cases pc with
  | notCreated => rfl
  | entry =>
    simp only [workerAct, WorkerPc.bare, sh.bare_workerContexts]
    cases sh.worker.workerContexts with
    | none => rfl
    | some contexts =>
      by_cases hcontext : (contexts i).scheduler = false ∨ W ≤ (contexts i).workerIndex
      · simp only [hcontext, ↓reduceIte]
        rfl
      · simp only [hcontext, ↓reduceIte]
        exact keep_guard (G := sh.worker.mutex = none ∧ sh.worker.mutexInitialized = true) rfl
  | registerUnlock => exact keep_guard (G := sh.worker.mutex = some t) rfl
  | dequeue q => exact insideQueue_bare cfg t choice sh _ _ (fun _ => rfl) (fun _ => rfl) q
  | accountDequeued task => exact keep_guard (G := sh.worker.workerContexts.isSome) rfl
  | accountStarted task => exact keep_guard (G := sh.worker.workerContexts.isSome) rfl
  | accountRunning task =>
    simp only [workerAct, WorkerPc.bare, sh.bare_workerContexts]
    cases sh.worker.workerContexts <;> rfl
  | invoke task runningAccounted => rfl
  -- in a callback the call is erased with the worker
  | callback task runningAccounted call =>
    have hlift : ∀ (sh : Scheduler W C P) (call : CallPc P),
        ((callAct cfg t choice sh call).map fun out =>
          ((out.1, .callback task runningAccounted out.2.1, out.2.2) :
            SchedulerStep W C P (WorkerPc P))).map (keep WorkerPc.bare)
        = ((callAct cfg t choice sh call).map (keep CallPc.bare)).map fun out =>
          (out.1, .callback task runningAccounted out.2.1, out.2.2) := by
      intro sh call
      cases callAct cfg t choice sh call <;> rfl
    have hcall := congrArg (Option.map fun out =>
      ((out.1, .callback task runningAccounted out.2.1, out.2.2) :
        SchedulerStep W C P (WorkerPc P)))
      (callAct_bare cfg t choice sh call)
    rw [← hlift, ← hlift] at hcall
    cases call with
    | idle =>
      simp only [workerAct, WorkerPc.bare, CallPc.bare]
      split
      · rfl
      · exact hcall
    | _ => exact hcall
  | accountResult runningAccounted succeeded =>
    refine keep_guard (G := sh.worker.workerContexts.isSome) ?_
    cases runningAccounted <;> rfl
  | accountRunningDone => exact keep_guard (G := sh.worker.workerContexts.isSome) rfl
  | queueShutdown q r =>
    exact insideQueue_bare cfg t choice sh (WorkerPc.queueShutdown · r) (WorkerPc.queueShutdown · r)
      (fun _ => rfl) (fun _ => rfl) q
  | exitLock r =>
    exact keep_guard (G := sh.worker.mutex = none ∧ sh.worker.mutexInitialized = true) rfl
  | exitUnlock r => exact keep_guard (G := sh.worker.mutex = some t) rfl
  | finished r => rfl

omit t [DecidableEq C] in
/-- A join looks at the handles and at the workers. -/
theorem releaseWorker_bare (caller : ReleaseCaller) (index : ℕ) (result : SchedulerResult)
    (allJoined : Bool) :
    (releaseWorker cfg choice sh caller index result allJoined).map (keep id)
      = (releaseWorker cfg choice sh.bare caller index result allJoined).map (keep id) := by
  refine keep_ite (G := index < sh.worker.startedWorkerCount) ?_ ?_
  · by_cases h : index < W
    · simp only [h, ↓reduceDIte]
      have hthreads : sh.bare.worker.threads = sh.worker.threads := rfl
      simp only [hthreads]
      cases sh.worker.threads with
      | none => rfl
      | some threads => exact keep_ite rfl (keep_ite (keep_ite rfl (keep_ite rfl rfl)) rfl)
    · simp only [h, ↓reduceDIte, Option.map_none]
  · exact keep_ite rfl rfl

omit t [DecidableEq C] in
/-- A creation writes in the worker domain only. -/
theorem createWorker_bare (i : Fin W) :
    keep id (createWorker cfg choice i sh) = keep id (createWorker cfg choice i sh.bare) := by
  cases hfault : (consultFaultPlan cfg sh.faultPlan .workerCreation).2
      || !backendOutcome cfg.createMayFail choice.succeeds with
  | true =>
    have hfault' : ((consultFaultPlan cfg sh.bare.faultPlan .workerCreation).2
        || !backendOutcome cfg.createMayFail choice.succeeds) = true := hfault
    simp only [createWorker, hfault, hfault', ↓reduceIte]
    rfl
  | false =>
    have hfault' : ((consultFaultPlan cfg sh.bare.faultPlan .workerCreation).2
        || !backendOutcome cfg.createMayFail choice.succeeds) = false := hfault
    simp only [createWorker, hfault, hfault', Bool.false_eq_true, ↓reduceIte]
    rfl

omit t in
/-- And so does the controller, which sets the state and the gate and reads no count. -/
theorem controllerAct_bare (pc : ControllerPc P) :
    (controllerAct cfg choice sh pc).map (keep id)
      = (controllerAct cfg choice sh.bare pc).map (keep id) := by
  -- the guards look at the mutexes only
  have hfree : ∀ {out out' : SchedulerStep W C P (ControllerPc P)}, keep id out = keep id out' →
      (if sh.lifecycle.mutex = none then some out else none).map (keep id)
        = (if sh.lifecycle.mutex = none then some out' else none).map (keep id) := keep_guard
  have hheld : ∀ {out out' : SchedulerStep W C P (ControllerPc P)}, keep id out = keep id out' →
      (if sh.lifecycle.mutex = some .controller then some out else none).map (keep id)
        = (if sh.lifecycle.mutex = some .controller then some out' else none).map (keep id) :=
    keep_guard
  have hready : ∀ {out out' : SchedulerStep W C P (ControllerPc P)}, keep id out = keep id out' →
      (if sh.worker.mutex = none ∧ sh.worker.mutexInitialized = true then some out else none).map
          (keep id)
        = (if sh.worker.mutex = none ∧ sh.worker.mutexInitialized = true then some out'
            else none).map (keep id) := keep_guard
  have howned : ∀ {out out' : SchedulerStep W C P (ControllerPc P)}, keep id out = keep id out' →
      (if sh.worker.mutex = some .controller then some out else none).map (keep id)
        = (if sh.worker.mutex = some .controller then some out' else none).map (keep id) :=
    keep_guard
  cases pc with
  | idle =>
    simp only [controllerAct]
    split
    · cases beginCall (P := P) cfg _ <;> rfl
    · cases answerNull (P := P) cfg _ <;> rfl
    · rfl
  | returned call r => rfl
  | startLock => exact keep_ite (G := sh.lifecycle.mutex = none) (keep_ite rfl rfl) rfl
  | startUnlock accepted => exact hheld rfl
  | startAllocate =>
    refine keep_ite (G := W > sizeMax / schedThreadSize ∨ W > sizeMax / workerContextSize) rfl ?_
    exact keep_ite rfl rfl
  | startSyncInit => exact keep_ite (keep_ite rfl rfl) rfl
  | startSyncLock => exact hfree rfl
  | startSyncUnlock => exact hheld rfl
  | createLock index =>
    refine keep_ite (G := sh.worker.mutex = none ∧ sh.worker.mutexInitialized = true) ?_ rfl
    by_cases h : index < W
    · simp only [h, ↓reduceDIte]
      exact congrArg some (createWorker_bare cfg choice sh ⟨index, h⟩)
    · simp only [h, ↓reduceDIte, Option.map_none]
  | createUnlock index created => exact howned rfl
  | readyLock => exact hready rfl
  | readyWait => exact howned rfl
  | readyAsleep => rfl
  | readyWoken => exact hready rfl
  | readyUnlock succeeded => exact howned rfl
  | runLock => exact hfree rfl
  | runUnlock => exact hheld rfl
  | abortQueue q =>
    exact insideQueue_bare cfg .controller choice sh _ _ (fun _ => rfl) (fun _ => rfl) q
  | releaseJoin caller index result allJoined =>
    exact releaseWorker_bare cfg choice sh caller index result allJoined
  | releaseLock caller index event result allJoined => exact hready rfl
  | releaseUnlock caller index event result allJoined =>
    refine keep_ite (G := sh.worker.mutex = some .controller) ?_ rfl
    by_cases h : index < W
    · simp only [h, ↓reduceDIte]
      cases event <;> rfl
    · simp only [h, ↓reduceDIte, Option.map_none]
  -- the fold reads the slots and writes the totals of the workers
  | foldLock caller result =>
    refine keep_ite (G := sh.worker.mutex = none ∧ sh.worker.mutexInitialized = true) ?_ rfl
    show Option.map _ (Option.map _ (foldWorkers (sh.lockWorker .controller).worker))
      = Option.map _ (Option.map _ (foldWorkers (sh.lockWorker .controller).worker))
    cases foldWorkers (sh.lockWorker .controller).worker <;> rfl
  | foldUnlock caller result => exact howned rfl
  | setStateLock state call r => exact hfree rfl
  | setStateUnlock call r =>
    refine hheld (congrArg (fun sh => (sh, _)) ?_)
    cases call <;> rfl
  | shutdownLock =>
    refine keep_ite (G := sh.lifecycle.mutex = none) ?_ rfl
    have hstate : sh.bare.lifecycle.state = sh.lifecycle.state := rfl
    simp only [hstate]
    cases sh.lifecycle.state <;> rfl
  | shutdownUnlock answer => exact hheld rfl
  | shutdownQueue q =>
    exact insideQueue_bare cfg .controller choice sh _ _ (fun _ => rfl) (fun _ => rfl) q
  | drainLock caller => exact hfree rfl
  | drainWait caller => exact hheld rfl
  | drainAsleep caller => rfl
  | drainWoken caller => exact hfree rfl
  | drainUnlock caller succeeded =>
    refine hheld (congrArg (fun sh => (sh, _)) ?_)
    cases caller <;> cases succeeded <;> rfl
  | joinLock => exact hfree rfl
  | joinUnlock answer => exact hheld rfl
  | destroyLock => exact hfree rfl
  | destroyUnlock accepted => exact hheld rfl
  | destroyFree => rfl
  -- a fault plan may be configured depending on the state
  | faultLock call =>
    refine keep_ite (G := sh.lifecycle.mutex = none) ?_ rfl
    cases call with
    | faultConfigure point triggerOccurrence =>
      exact keep_ite (G := sh.lifecycle.state = .initialized) rfl rfl
    | _ => rfl
  | faultUnlock configured => exact hheld rfl
  | faultReturned configured => rfl

/-- One step of any thread, erased, is the step from the erased state. -/
theorem schedulerAct_bare (pc : SchedulerPc W P) :
    (schedulerAct cfg t choice sh pc).map (keep SchedulerPc.bare)
      = (schedulerAct cfg t choice sh.bare pc.bare).map (keep SchedulerPc.bare) := by
  -- a step of a call, of a worker or of a lifecycle call is lifted to the pool's counters
  have hlift : ∀ {π : Type} {look : π → π} (put : π → SchedulerPc W P)
      (_ : ∀ pc, (put pc).bare = put (look pc)) {o o' : Option (SchedulerStep W C P π)},
      o.map (keep look) = o'.map (keep look) →
        (o.map fun (sh, pc, fx) => ((sh, put pc, fx) : SchedulerStep W C P _)).map
            (keep SchedulerPc.bare)
          = (o'.map fun (sh, pc, fx) => ((sh, put pc, fx) : SchedulerStep W C P _)).map
            (keep SchedulerPc.bare) := by
    intro π look put hput o o' h
    have hside : ∀ o : Option (SchedulerStep W C P π),
        (o.map fun (sh, pc, fx) => ((sh, put pc, fx) : SchedulerStep W C P _)).map
            (keep SchedulerPc.bare)
          = (o.map (keep look)).map fun (sh, pc, fx) => (sh, put pc, fx) := by
      intro o
      cases o with
      | none => rfl
      | some out => exact congrArg (fun b => some (out.1.bare, b, out.2.2)) (hput out.2.1)
    rw [hside, hside, h]
  cases pc with
  | call pc => exact hlift .call (fun _ => rfl) (callAct_bare cfg t choice sh pc)
  | worker i pc => exact hlift (.worker i) (fun _ => rfl) (workerAct_bare cfg t choice sh i pc)
  | controller pc => exact hlift .controller (fun _ => rfl) (controllerAct_bare cfg choice sh pc)

/-! ## The program -/

/-- A thread inside the queue holds no snapshot. -/
theorem CallPc.bare_queue (pc : CallPc P) : pc.bare.queue = pc.queue := by
  cases pc <;> rfl

/-- Erasure puts nobody to sleep. -/
theorem SchedulerPc.bare_asleepOn (pc : SchedulerPc W P) : pc.bare.asleepOn = pc.asleepOn := by
  cases pc with
  | call pc => exact congrArg (fun q => q.asleepOn.map SchedulerCondition.queue) pc.bare_queue
  | worker i pc =>
    cases pc with
    | callback task runningAccounted call =>
      exact congrArg (fun q => q.asleepOn.map SchedulerCondition.queue) call.bare_queue
    | _ => rfl
  | controller pc => rfl

theorem CallPc.bare_wake (pc : CallPc P) : pc.wake.bare = pc.bare.wake := by
  cases pc <;> rfl

theorem SchedulerPc.bare_wake (pc : SchedulerPc W P) : pc.wake.bare = pc.bare.wake := by
  cases pc with
  | call pc => exact congrArg SchedulerPc.call pc.bare_wake
  | worker i pc =>
    cases pc with
    | callback task runningAccounted call =>
      exact congrArg (fun call => SchedulerPc.worker i (.callback task runningAccounted call))
        call.bare_wake
    | _ => rfl
  | controller pc => rfl

/-- What effects read and move of a counter is not erased. -/
theorem schedulerProgram_bare (pc : SchedulerPc W P) :
    (schedulerProgram (C := C) cfg).dormant pc.bare = (schedulerProgram (C := C) cfg).dormant pc ∧
    ((schedulerProgram (C := C) cfg).start pc).bare
      = (schedulerProgram (C := C) cfg).start pc.bare ∧
    (schedulerProgram (C := C) cfg).finished pc.bare
      = (schedulerProgram (C := C) cfg).finished pc := by
  cases pc with
  | worker i pc => cases pc <;> exact ⟨rfl, rfl, rfl⟩
  | _ => exact ⟨rfl, rfl, rfl⟩

/-- **No step of the scheduler depends on the counts of submissions or on the history.** -/
theorem schedulerProgram_congruent :
    (schedulerProgram (C := C) (P := P) cfg).Congruent Scheduler.bare SchedulerPc.bare where
  act t choice sh₁ sh₂ a₁ a₂ hsh ha := by
    show (schedulerAct cfg t choice sh₁ a₁).map _ = (schedulerAct cfg t choice sh₂ a₂).map _
    rw [schedulerAct_bare, hsh, ha, ← schedulerAct_bare]
  asleepOn {a₁ a₂} ha := by
    show a₁.asleepOn = a₂.asleepOn
    rw [← a₁.bare_asleepOn, ha, a₂.bare_asleepOn]
  wake {a₁ a₂} ha := by
    show a₁.wake.bare = a₂.wake.bare
    rw [a₁.bare_wake, ha, a₂.bare_wake]
  dormant {a₁ a₂} ha := by
    rw [← (schedulerProgram_bare (C := C) cfg a₁).1, ha, (schedulerProgram_bare cfg a₂).1]
  start {a₁ a₂} ha := by
    rw [(schedulerProgram_bare (C := C) cfg a₁).2.1, ha, (schedulerProgram_bare cfg a₂).2.1]
  finished {a₁ a₂} ha := by
    rw [← (schedulerProgram_bare (C := C) cfg a₁).2.2, ha, (schedulerProgram_bare cfg a₂).2.2]

end SchedulingEngine
