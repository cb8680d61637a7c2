import SchedulingEngine.Scheduler.StepSpecs

/-!
# What a step of the scheduler can do

One inversion lemma for each kind of thread: `callAct_spec`, `workerAct_spec` and
`controllerAct_spec` say that every step of a call, of a worker and of a lifecycle call is
listed in `StepSpecs`.
-/

namespace SchedulingEngine

open Concurrency

variable {W : ℕ} {C P : Type} [DecidableEq C]

section Inversion

variable {cfg : SchedulerConfig W} {t : Thread W C} {choice : SchedulerChoice W C P}
  {sh : Scheduler W C P}

/-- A step inside the queue is a step of the queue, or the return from it. -/
theorem insideQueue_spec {π : Type} {inside : QueuePc P → π} {resume : QueueReturn P → π}
    {q : QueuePc P} {out : SchedulerStep W C P π}
    (h : insideQueue cfg t choice sh inside resume q = some out) :
    InsideQueueSpec cfg t choice sh inside resume q out := by
  have hrun : (∀ op r, q ≠ .returned op r) →
      (queueAct cfg.queue t choice.queue sh.queue q).map
        (fun out => ({ sh with queue := out.1 }, inside out.2.1, out.2.2.map (Effect.lift .queue)))
        = some out → InsideQueueSpec cfg t choice sh inside resume q out := by
    intro hq h
    obtain ⟨⟨queue, q', fx⟩, hact, rfl⟩ := Option.map_eq_some_iff.mp h
    exact .run hact hq
  cases q with
  | returned op r =>
    cases h
    exact .leave op r
  | _ => exact hrun (by simp) h

/-- Every step of a submission or a capture is listed. -/
theorem callAct_spec {pc : CallPc P} {out : SchedulerStep W C P (CallPc P)}
    (h : callAct cfg t choice sh pc = some out) : CallStepSpec cfg t choice sh pc out := by
  cases pc with
  | idle =>
    simp only [callAct] at h
    split at h
    · cases h
      exact .submit _ _
    · cases h
      exact .submitNull
    · cases h
      exact .capture
    · cases h
  -- most places have one step, behind the guard of a mutex
  | registerLock kind task =>
    simp only [callAct, Option.ite_none_right_eq_some, Option.some.injEq] at h
    obtain ⟨hfree, rfl⟩ := h
    exact .register kind task hfree
  | registerUnlock kind task r =>
    simp only [callAct, Option.ite_none_right_eq_some, Option.some.injEq] at h
    obtain ⟨hheld, rfl⟩ := h
    -- the gate let the submitter in, or it did not
    by_cases hr : r = .ok
    · subst hr
      exact .registered kind task hheld
    · rw [if_neg hr]
      exact .rejected kind task r hr hheld
  | enqueue kind task q => exact .enqueue kind task (insideQueue_spec h)
  | deregisterLock task r =>
    simp only [callAct, Option.ite_none_right_eq_some, Option.some.injEq] at h
    obtain ⟨hfree, rfl⟩ := h
    exact .deregister task r hfree
  | deregisterUnlock task r =>
    simp only [callAct, Option.ite_none_right_eq_some, Option.some.injEq] at h
    obtain ⟨hheld, rfl⟩ := h
    exact .deregistered task r hheld
  | submitted r =>
    cases h
    exact .submitted r
  | captureLifecycleLock =>
    simp only [callAct, Option.ite_none_right_eq_some, Option.some.injEq] at h
    obtain ⟨hfree, rfl⟩ := h
    exact .captureLifecycle hfree
  | captureLifecycleUnlock temporary workerSyncAvailable =>
    simp only [callAct, Option.ite_none_right_eq_some, Option.some.injEq] at h
    obtain ⟨hheld, rfl⟩ := h
    cases workerSyncAvailable with
    | true => exact .captureLifecycleDone temporary hheld
    | false => exact .captureNoWorkers temporary hheld
  | captureWorkerLock temporary =>
    simp only [callAct, Option.ite_none_right_eq_some, Option.some.injEq] at h
    obtain ⟨⟨hfree, hinit⟩, rfl⟩ := h
    split
    · rename_i hstarted
      exact .captureWorker temporary hfree hinit hstarted
    · rename_i hstarted
      exact .captureNoSlots temporary hfree hinit (Nat.eq_zero_of_not_pos hstarted)
  -- the next field of the slot, the next slot, or the end of the loop
  | captureLoad temporary index field =>
    simp only [callAct] at h
    split at h
    · cases h
    · rename_i contexts hcontexts
      split at h
      · rename_i hindex
        cases h
        cases field with
        | accountingOverflow =>
          dsimp only [SlotField.next]
          split
          · rename_i hmore
            exact .captureNextSlot temporary ⟨index, hindex⟩ contexts hcontexts hmore
          · rename_i hlast
            exact .captureLastSlot temporary ⟨index, hindex⟩ contexts hcontexts
              (Nat.not_lt.mp hlast)
        | _ => exact .captureLoad temporary ⟨index, hindex⟩ _ _ contexts hcontexts rfl
      · cases h
  | captureWorkerUnlock temporary =>
    simp only [callAct, Option.ite_none_right_eq_some, Option.some.injEq] at h
    obtain ⟨hheld, rfl⟩ := h
    exact .captureWorkerDone temporary hheld
  | captureQueue temporary q => exact .captureQueue temporary (insideQueue_spec h)
  | captured snapshot =>
    cases h
    exact .captured snapshot

/-- Every step of a worker is listed. -/
theorem workerAct_spec {i : Fin W} {pc : WorkerPc P} {out : SchedulerStep W C P (WorkerPc P)}
    (h : workerAct cfg i t choice sh pc = some out) : WorkerStepSpec cfg t choice sh i pc out := by
  cases pc with
  | notCreated => cases h
  -- a worker that finds its context wrong exits at once
  | entry =>
    simp only [workerAct] at h
    split at h
    · cases h
    · rename_i contexts hcontexts
      split at h
      · rename_i hbad
        cases h
        exact .badContext contexts hcontexts hbad
      · simp only [Option.ite_none_right_eq_some, Option.some.injEq] at h
        obtain ⟨⟨hfree, hinit⟩, rfl⟩ := h
        exact .register (by simp [hcontexts]) hfree hinit
  | registerUnlock =>
    simp only [workerAct, Option.ite_none_right_eq_some, Option.some.injEq] at h
    obtain ⟨hheld, rfl⟩ := h
    exact .registered hheld
  | dequeue q => exact .dequeue (insideQueue_spec h)
  | accountDequeued task =>
    simp only [workerAct, Option.ite_none_right_eq_some, Option.some.injEq] at h
    obtain ⟨hcontexts, rfl⟩ := h
    exact .accountDequeued task hcontexts
  | accountStarted task =>
    simp only [workerAct, Option.ite_none_right_eq_some, Option.some.injEq] at h
    obtain ⟨hcontexts, rfl⟩ := h
    exact .accountStarted task hcontexts
  | accountRunning task =>
    simp only [workerAct] at h
    split at h
    · cases h
    · rename_i contexts hcontexts
      cases h
      exact .accountRunning task contexts hcontexts
  | invoke task runningAccounted =>
    cases h
    exact .invoke task runningAccounted
  | callback task runningAccounted call =>
    simp only [workerAct] at h
    split at h
    · cases h
      exact .callbackReturns task runningAccounted _
    · obtain ⟨⟨sh', call', fx⟩, hcall, rfl⟩ := Option.map_eq_some_iff.mp h
      exact .call task runningAccounted (callAct_spec hcall)
  | accountResult runningAccounted succeeded =>
    simp only [workerAct, Option.ite_none_right_eq_some, Option.some.injEq] at h
    obtain ⟨hcontexts, rfl⟩ := h
    cases runningAccounted with
    | true => exact .accountResult succeeded hcontexts
    | false => exact .accountResultOnly succeeded hcontexts
  | accountRunningDone =>
    simp only [workerAct, Option.ite_none_right_eq_some, Option.some.injEq] at h
    obtain ⟨hcontexts, rfl⟩ := h
    exact .accountRunningDone hcontexts
  | queueShutdown q r => exact .queueShutdown r (insideQueue_spec h)
  | exitLock r =>
    simp only [workerAct, Option.ite_none_right_eq_some, Option.some.injEq] at h
    obtain ⟨⟨hfree, hinit⟩, rfl⟩ := h
    exact .exit r hfree hinit
  | exitUnlock r =>
    simp only [workerAct, Option.ite_none_right_eq_some, Option.some.injEq] at h
    obtain ⟨hheld, rfl⟩ := h
    exact .exited r hheld
  | finished r => cases h

/-- A backend call fails only where it may fail. -/
theorem backendOutcome_false {mayFail succeeds : Bool}
    (h : ¬backendOutcome mayFail succeeds = true) : mayFail = true := by
  cases mayFail with
  | true => rfl
  | false => simp [backendOutcome] at h

omit [DecidableEq C] in
/-- Each of the two arrays is missing or as `calloc` returns it. -/
theorem allocateWorkers_arrays (cfg : SchedulerConfig W) (choice : SchedulerChoice W C P)
    (sh : Scheduler W C P) :
    ((allocateWorkers cfg choice sh).worker.threads = none ∨
      (allocateWorkers cfg choice sh).worker.threads = some fun _ => false) ∧
    ((allocateWorkers cfg choice sh).worker.workerContexts = none ∨
      (allocateWorkers cfg choice sh).worker.workerContexts = some fun _ => {}) := by
  constructor
  · simp only [allocateWorkers]
    split
    · exact .inr rfl
    · exact .inl rfl
  · simp only [allocateWorkers]
    split
    · exact .inr rfl
    · exact .inl rfl

/-- Without fault injection the plan is never consulted. -/
theorem consultFaultPlan_triggers {plan : SchedulerFaultPlan} {point : SchedulerFaultPoint}
    (h : (consultFaultPlan cfg plan point).2 = true) : cfg.faultInjection = true := by
  cases hfault : cfg.faultInjection with
  | true => rfl
  | false => simp [consultFaultPlan, hfault] at h

omit [DecidableEq C] in
/-- An array is missing because the allocation failed or was made to fail. -/
theorem allocateWorkers_failed
    (h : (allocateWorkers cfg choice sh).worker.threads = none ∨
      (allocateWorkers cfg choice sh).worker.workerContexts = none) :
    cfg.allocationMayFail = true ∨ cfg.faultInjection = true := by
  cases hfault : cfg.faultInjection with
  | true => exact .inr rfl
  | false =>
    refine .inl ?_
    cases hfail : cfg.allocationMayFail with
    | true => rfl
    | false => simp [allocateWorkers, consultFaultPlan, backendOutcome, hfault, hfail] at h

/-- The creation of one worker, under `worker_mutex`. -/
theorem createWorker_spec (i : Fin W) (hfree : sh.worker.mutex = none)
    (hinit : sh.worker.mutexInitialized = true) :
    ControllerStepSpec cfg choice sh (.createLock i) (createWorker cfg choice i sh) := by
  simp only [createWorker]
  split
  · rename_i hfailed
    refine .createFailed i _ hfree hinit ?_ rfl
    rw [Bool.or_eq_true, Bool.not_eq_true'] at hfailed
    rcases hfailed with hfault | hrefused
    · exact .inr (consultFaultPlan_triggers hfault)
    · exact .inl (backendOutcome_false (Bool.not_eq_true _ ▸ hrefused))
  · exact .created i _ hfree hinit rfl

/-- The join of one worker: injected failure, native failure or success. -/
theorem releaseWorker_spec {caller : ReleaseCaller} {index : ℕ} {result : SchedulerResult}
    {allJoined : Bool} {out : SchedulerStep W C P (ControllerPc P)}
    (h : releaseWorker cfg choice sh caller index result allJoined = some out) :
    ControllerStepSpec cfg choice sh (.releaseJoin caller index result allJoined) out := by
  unfold releaseWorker at h
  split at h
  · rename_i hindex
    split at h
    · rename_i hW
      -- no array, no handle, or a handle to join
      have hlt : ((⟨index, hW⟩ : Fin W) : ℕ) < sh.worker.startedWorkerCount := hindex
      cases hthreads : sh.worker.threads with
      | none =>
        simp only [hthreads, Option.some.injEq] at h
        subst h
        exact .releaseSkip caller ⟨index, hW⟩ result allJoined hlt (by simp [hthreads])
      | some threads =>
        simp only [hthreads] at h
        split at h
        · rename_i hgone
          cases h
          exact .releaseSkip caller ⟨index, hW⟩ result allJoined hlt (by simp [hthreads, hgone])
        · rename_i hheld
          have hhandle : ∃ threads, sh.worker.threads = some threads ∧ threads ⟨index, hW⟩ = true :=
            ⟨threads, hthreads, Bool.not_eq_false _ ▸ hheld⟩
          split at h
          · split at h
            · -- the native join has returned; then the fault plan, then the worker's result
              rename_i hinjected
              cases h
              exact .releaseInjected caller ⟨index, hW⟩ result allJoined _ _
                (consultFaultPlan_triggers hinjected) hlt hhandle (Prod.ext rfl hinjected)
            · split at h
              · rename_i hresult
                cases h
                exact .releaseFailedWorker caller ⟨index, hW⟩ result allJoined _ _ hresult hlt
                  hhandle rfl
              · rename_i hresult
                cases h
                simp only [ne_eq, Decidable.not_not] at hresult
                rw [hresult]
                exact .releaseJoined caller ⟨index, hW⟩ result allJoined _ hlt hhandle rfl
          · rename_i hfailed
            cases h
            exact .releaseNativeFailed caller ⟨index, hW⟩ result allJoined
              (backendOutcome_false hfailed) hlt hhandle
    · cases h
  · rename_i hindex
    split at h
    · -- the end of the loop
      rename_i hall
      cases h
      subst hall
      exact .releaseDone caller index result (Nat.not_lt.mp hindex)
    · rename_i hall
      cases h
      rw [Bool.not_eq_true] at hall
      subst hall
      exact .releaseIncomplete caller index result (Nat.not_lt.mp hindex)

/-- Every step of a lifecycle call is listed. -/
theorem controllerAct_spec {pc : ControllerPc P} {out : SchedulerStep W C P (ControllerPc P)}
    (h : controllerAct cfg choice sh pc = some out) : ControllerStepSpec cfg choice sh pc out := by
  cases pc with
  | idle =>
    simp only [controllerAct] at h
    split at h
    · obtain ⟨pc, hcall, rfl⟩ := Option.map_eq_some_iff.mp h
      exact .call _ pc hcall
    · obtain ⟨pc, hcall, rfl⟩ := Option.map_eq_some_iff.mp h
      -- a call with a `NULL` scheduler answers without a step inside
      unfold answerNull at hcall
      split at hcall
      · obtain ⟨-, hpc⟩ := Option.ite_none_right_eq_some.mp hcall
        cases hpc
        exact .faultNull
      · obtain ⟨-, hpc⟩ := Option.ite_none_right_eq_some.mp hcall
        cases hpc
        exact .faultNull
      · cases hcall
        exact .callNull _
    · cases h
  | returned call r =>
    cases h
    exact .returned call r
  | startLock =>
    simp only [controllerAct, Option.ite_none_right_eq_some] at h
    obtain ⟨hfree, h⟩ := h
    split at h
    · rename_i hstate
      cases h
      exact .startRefused hfree hstate
    · rename_i hstate
      cases h
      exact .start hfree (Decidable.not_not.mp hstate)
  -- the size guard, an array missing, or both there
  | startAllocate =>
    simp only [controllerAct] at h
    split at h
    · rename_i hsize
      cases h
      exact .sizeGuard hsize
    · rename_i hsize
      split at h
      · rename_i hmissing
        cases h
        have hnull : (allocateWorkers cfg choice sh).worker.threads = none ∨
            (allocateWorkers cfg choice sh).worker.workerContexts = none := by
          simpa using hmissing
        exact .allocationFailed _ rfl (allocateWorkers_failed hnull)
      · rename_i hboth
        cases h
        obtain ⟨hthreads, hcontexts⟩ := allocateWorkers_arrays cfg choice sh
        simp only [Bool.or_eq_true, not_or, Bool.not_eq_true, Option.isNone_eq_false_iff] at hboth
        refine .allocated _ rfl (hthreads.resolve_left ?_) (hcontexts.resolve_left ?_)
          (Nat.not_lt.mp (not_or.mp hsize).1)
        · intro hnone
          simp [hnone] at hboth
        · intro hnone
          simp [hnone] at hboth
  -- the mutex is initialised first, and destroyed when the condition fails
  | startSyncInit =>
    simp only [controllerAct] at h
    split at h
    · split at h
      · cases h
        exact .syncInit
      · rename_i hfailed
        cases h
        exact .syncInitFailed false nofun (backendOutcome_false hfailed)
    · rename_i hfailed
      cases h
      exact .syncInitFailed sh.worker.mutexInitialized id (backendOutcome_false hfailed)
  | createLock index =>
    simp only [controllerAct, Option.ite_none_right_eq_some] at h
    obtain ⟨⟨hfree, hinit⟩, h⟩ := h
    split at h
    · rename_i hindex
      cases h
      exact createWorker_spec ⟨index, hindex⟩ hfree hinit
    · cases h
  | readyAsleep =>
    cases h
    exact .readySpurious
  -- a wait may fail only where the backend may
  | readyWoken =>
    simp only [controllerAct, Option.ite_none_right_eq_some, Option.some.injEq] at h
    obtain ⟨⟨hfree, hinit⟩, rfl⟩ := h
    split
    · exact .readyAgain hfree hinit
    · rename_i hfailed
      exact .readyFailed hfree (backendOutcome_false hfailed)
  | abortQueue q => exact .abortQueue (insideQueue_spec h)
  | releaseJoin caller index result allJoined => exact releaseWorker_spec h
  | releaseUnlock caller index event result allJoined =>
    simp only [controllerAct, Option.ite_none_right_eq_some] at h
    obtain ⟨hheld, h⟩ := h
    split at h
    · rename_i hindex
      cases h
      split
      · rename_i hevent
        subst hevent
        exact .releaseUnlockFailed caller ⟨index, hindex⟩ result allJoined hheld
      · rename_i hevent
        exact .releaseUnlock caller ⟨index, hindex⟩ event result allJoined hevent hheld
    · cases h
  | foldLock caller result =>
    simp only [controllerAct, Option.ite_none_right_eq_some] at h
    obtain ⟨⟨hfree, hinit⟩, h⟩ := h
    obtain ⟨worker, hfold, rfl⟩ := Option.map_eq_some_iff.mp h
    exact .fold caller result worker hfree hinit hfold
  -- one answer for each state
  | shutdownLock =>
    simp only [controllerAct, Option.ite_none_right_eq_some] at h
    obtain ⟨hfree, h⟩ := h
    cases hstate : sh.lifecycle.state with
    | stopped =>
      rw [hstate] at h
      cases h
      exact .shutdownStopped hfree hstate
    | running =>
      rw [hstate] at h
      cases h
      exact .shutdownRunning hfree hstate
    | shuttingDown =>
      rw [hstate] at h
      cases h
      exact .shutdownAgain hfree hstate
    | _ =>
      rw [hstate] at h
      cases h
      exact .shutdownRefused hfree (by simp [hstate])
  | shutdownUnlock answer =>
    simp only [controllerAct, Option.ite_none_right_eq_some, Option.some.injEq] at h
    obtain ⟨hheld, rfl⟩ := h
    cases answer with
    | none => exact .shutdownUnlock hheld
    | some r => exact .shutdownAnswered r hheld
  | shutdownQueue q => exact .shutdownQueue (insideQueue_spec h)
  | drainAsleep caller =>
    cases h
    exact .drainSpurious caller
  | drainWoken caller =>
    simp only [controllerAct, Option.ite_none_right_eq_some, Option.some.injEq] at h
    obtain ⟨hfree, rfl⟩ := h
    split
    · exact .drainAgain caller hfree
    · rename_i hfailed
      exact .drainFailed caller hfree (backendOutcome_false hfailed)
  | joinLock =>
    simp only [controllerAct, Option.ite_none_right_eq_some, Option.some.injEq] at h
    obtain ⟨hfree, rfl⟩ := h
    cases hstate : sh.lifecycle.state with
    | stopped => exact .joinStopped hfree hstate
    | shuttingDown => exact .join hfree (.inl hstate)
    | failed => exact .join hfree (.inr hstate)
    | _ => exact .joinRefused hfree (by simp [hstate])
  | destroyFree => cases h
  | faultLock call =>
    simp only [controllerAct, Option.ite_none_right_eq_some] at h
    obtain ⟨hfree, h⟩ := h
    split at h
    · split at h
      · rename_i hstate
        cases h
        exact .faultLock _ _ _ hfree fun hnot => absurd hstate hnot
      · cases h
        exact .faultLock _ sh.faultPlan false hfree fun _ => .inl rfl
    · cases h
      exact .faultLock _ _ _ hfree fun _ => .inr rfl
  | faultReturned configured =>
    cases h
    exact .faultReturned configured
  | startUnlock accepted =>
    simp only [controllerAct, Option.ite_none_right_eq_some, Option.some.injEq] at h
    obtain ⟨hheld, rfl⟩ := h
    cases accepted with
    | true => exact .startUnlock hheld
    | false => exact .startRefusedUnlock hheld
  | startSyncLock =>
    simp only [controllerAct, Option.ite_none_right_eq_some, Option.some.injEq] at h
    obtain ⟨hfree, rfl⟩ := h
    exact .syncLock hfree
  | startSyncUnlock =>
    simp only [controllerAct, Option.ite_none_right_eq_some, Option.some.injEq] at h
    obtain ⟨hheld, rfl⟩ := h
    exact .syncUnlock hheld
  | createUnlock index created =>
    simp only [controllerAct, Option.ite_none_right_eq_some, Option.some.injEq] at h
    obtain ⟨hheld, rfl⟩ := h
    cases created with
    | false => exact .createFailedUnlock index hheld
    | true =>
      simp only [Bool.not_true, Bool.false_eq_true, if_false]
      split
      · rename_i hindex
        exact .createNext index hheld hindex
      · rename_i hindex
        exact .createLast index hheld (Nat.not_lt.mp hindex)
  | readyLock =>
    simp only [controllerAct, Option.ite_none_right_eq_some, Option.some.injEq] at h
    obtain ⟨⟨hfree, hinit⟩, rfl⟩ := h
    exact .readyLock hfree hinit
  | readyWait =>
    simp only [controllerAct, Option.ite_none_right_eq_some, Option.some.injEq] at h
    obtain ⟨hheld, rfl⟩ := h
    exact .readyWait hheld
  | readyUnlock succeeded =>
    simp only [controllerAct, Option.ite_none_right_eq_some, Option.some.injEq] at h
    obtain ⟨hheld, rfl⟩ := h
    cases succeeded with
    | true => exact .readyUnlock hheld
    | false => exact .readyFailedUnlock hheld
  | runLock =>
    simp only [controllerAct, Option.ite_none_right_eq_some, Option.some.injEq] at h
    obtain ⟨hfree, rfl⟩ := h
    exact .run hfree
  | runUnlock =>
    simp only [controllerAct, Option.ite_none_right_eq_some, Option.some.injEq] at h
    obtain ⟨hheld, rfl⟩ := h
    exact .runUnlock hheld
  | releaseLock caller index event result allJoined =>
    simp only [controllerAct, Option.ite_none_right_eq_some, Option.some.injEq] at h
    obtain ⟨⟨hfree, hinit⟩, rfl⟩ := h
    exact .releaseLock caller index event result allJoined hfree hinit
  | foldUnlock caller result =>
    simp only [controllerAct, Option.ite_none_right_eq_some, Option.some.injEq] at h
    obtain ⟨hheld, rfl⟩ := h
    exact .foldUnlock caller result hheld
  | setStateLock state call r =>
    simp only [controllerAct, Option.ite_none_right_eq_some, Option.some.injEq] at h
    obtain ⟨hfree, rfl⟩ := h
    exact .setState state call r hfree
  | setStateUnlock call r =>
    simp only [controllerAct, Option.ite_none_right_eq_some, Option.some.injEq] at h
    obtain ⟨hheld, rfl⟩ := h
    split
    · rename_i hcall
      subst hcall
      exact .joinAnswered r hheld
    · rename_i hcall
      exact .setStateUnlock call r hcall hheld
  | drainLock caller =>
    simp only [controllerAct, Option.ite_none_right_eq_some, Option.some.injEq] at h
    obtain ⟨hfree, rfl⟩ := h
    exact .drainLock caller hfree
  | drainWait caller =>
    simp only [controllerAct, Option.ite_none_right_eq_some, Option.some.injEq] at h
    obtain ⟨hheld, rfl⟩ := h
    exact .drainWait caller hheld
  | drainUnlock caller succeeded =>
    simp only [controllerAct, Option.ite_none_right_eq_some, Option.some.injEq] at h
    obtain ⟨hheld, rfl⟩ := h
    cases caller with
    | shutdown result =>
      cases succeeded with
      | true => exact .shutdownDrained result hheld
      | false => exact .shutdownFailed result hheld
    | join =>
      cases succeeded with
      | true => exact .joinDrained hheld
      | false => exact .joinFailed hheld
  | joinUnlock answer =>
    simp only [controllerAct, Option.ite_none_right_eq_some, Option.some.injEq] at h
    obtain ⟨hheld, rfl⟩ := h
    exact .joinUnlock answer hheld
  | destroyLock =>
    simp only [controllerAct, Option.ite_none_right_eq_some, Option.some.injEq] at h
    obtain ⟨hfree, rfl⟩ := h
    exact .destroyLock hfree
  | destroyUnlock accepted =>
    simp only [controllerAct, Option.ite_none_right_eq_some, Option.some.injEq] at h
    obtain ⟨hheld, rfl⟩ := h
    cases accepted with
    | true => exact .destroyUnlock hheld
    | false => exact .destroyRefused hheld
  | faultUnlock configured =>
    simp only [controllerAct, Option.ite_none_right_eq_some, Option.some.injEq] at h
    obtain ⟨hheld, rfl⟩ := h
    exact .faultUnlock configured hheld

end Inversion

end SchedulingEngine
