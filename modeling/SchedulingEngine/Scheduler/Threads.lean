import SchedulingEngine.Queue.Invariants
import SchedulingEngine.Scheduler.Steps

/-!
# Threads, locks and the embedded queue

The first invariants of a running scheduler:

- every thread runs its own code (`Thread.Runs`), so a step is a step of a client's
  call, of a worker, or of the controller (`SchedulerStepSpec`);
- `lifecycle_mutex` and `worker_mutex` name the thread inside their critical section;
- seen from the queue, the scheduler's threads are threads that use the queue
  (`SchedulerReachable.queue`), so every invariant of the queue holds inside a
  scheduler.
-/

namespace SchedulingEngine

open Concurrency

variable {W : ℕ} {C P : Type}

/-- Which code a thread runs. -/
def Thread.Runs : Thread W C → SchedulerPc W P → Prop
  | .controller, .controller _ => True
  | .worker i, .worker j _ => i = j
  | .client _, .call _ => True
  | _, _ => False

variable [DecidableEq C]

/-- The steps of a thread that runs its own code. -/
inductive SchedulerStepSpec (cfg : SchedulerConfig W) (choice : SchedulerChoice W C P)
    (sh : Scheduler W C P) :
    Thread W C → SchedulerPc W P → SchedulerStep W C P (SchedulerPc W P) → Prop where
  | call (c : C) {pc : CallPc P} {out : SchedulerStep W C P (CallPc P)}
      (h : CallStepSpec cfg (.client c) choice sh pc out) :
      SchedulerStepSpec cfg choice sh (.client c) (.call pc) (out.1, .call out.2.1, out.2.2)
  | worker (i : Fin W) {pc : WorkerPc P} {out : SchedulerStep W C P (WorkerPc P)}
      (h : WorkerStepSpec cfg (.worker i) choice sh i pc out) :
      SchedulerStepSpec cfg choice sh (.worker i) (.worker i pc) (out.1, .worker i out.2.1, out.2.2)
  | controller {pc : ControllerPc P} {out : SchedulerStep W C P (ControllerPc P)}
      (h : ControllerStepSpec cfg choice sh pc out) :
      SchedulerStepSpec cfg choice sh .controller (.controller pc)
        (out.1, .controller out.2.1, out.2.2)

section Step

variable {cfg : SchedulerConfig W} {t : Thread W C} {choice : SchedulerChoice W C P}
  {sh : Scheduler W C P} {pc : SchedulerPc W P} {out : SchedulerStep W C P (SchedulerPc W P)}

/-- The steps of a thread that runs its own code are those listed. -/
theorem schedulerAct_spec (hruns : t.Runs pc) (h : schedulerAct cfg t choice sh pc = some out) :
    SchedulerStepSpec cfg choice sh t pc out := by
  cases t with
  | controller =>
    cases pc with
    | controller pc =>
      obtain ⟨⟨sh', pc', fx⟩, hact, rfl⟩ := Option.map_eq_some_iff.mp h
      exact .controller (controllerAct_spec hact)
    | _ => exact hruns.elim
  | worker i =>
    cases pc with
    | worker j pc =>
      obtain rfl : i = j := hruns
      obtain ⟨⟨sh', pc', fx⟩, hact, rfl⟩ := Option.map_eq_some_iff.mp h
      exact .worker i (workerAct_spec hact)
    | _ => exact hruns.elim
  | client c =>
    cases pc with
    | call pc =>
      obtain ⟨⟨sh', pc', fx⟩, hact, rfl⟩ := Option.map_eq_some_iff.mp h
      exact .call c (callAct_spec hact)
    | _ => exact hruns.elim

/-- A thread goes on running its own code. -/
theorem SchedulerStepSpec.runs (h : SchedulerStepSpec cfg choice sh t pc out) :
    t.Runs out.2.1 := by
  cases h with
  | call c h => trivial
  | worker i h => exact rfl
  | controller h => trivial

end Step

/-- Observations that a wakeup and a thread start do not change. -/
theorem schedulerProgram_blind {cfg : SchedulerConfig W} {M : Type*} {g : SchedulerPc W P → M}
    (hwake : ∀ pc, g pc.wake = g pc)
    (hstart : ∀ i, g (.worker i .entry) = g (.worker i .notCreated)) :
    (schedulerProgram (C := C) cfg).Blind g where
  wake a c _ := hwake a
  start a h := by
    cases a with
    | worker i pc =>
      cases pc with
      | notCreated => exact hstart i
      | _ => cases h
    | _ => cases h

/-! ## Locks -/

/-- Inside a critical section of `lifecycle_mutex`. -/
def CallPc.holdsLifecycle : CallPc P → Bool
  | .registerUnlock _ _ _ | .deregisterUnlock _ _ | .captureLifecycleUnlock _ _ => true
  | _ => false

/-- Where the controller holds `lifecycle_mutex`: after each lock, up to the unlock or the wait.
-/
def ControllerPc.holdsLifecycle : ControllerPc P → Bool
  | .startUnlock _ | .startSyncUnlock | .runUnlock | .setStateUnlock _ _ | .shutdownUnlock _
  | .drainWait _ | .drainUnlock _ _ | .joinUnlock _ | .destroyUnlock _ | .faultUnlock _ => true
  | _ => false

/-- A worker takes `lifecycle_mutex` only inside its callback. -/
def SchedulerPc.holdsLifecycle : SchedulerPc W P → Bool
  | .call pc | .worker _ (.callback _ _ pc) => pc.holdsLifecycle
  | .controller pc => pc.holdsLifecycle
  | _ => false

/-- Inside a critical section of `worker_mutex`. -/
def CallPc.holdsWorker : CallPc P → Bool
  | .captureLoad _ _ _ | .captureWorkerUnlock _ => true
  | _ => false

/-- A worker holds `worker_mutex` while it registers as ready and while it exits. -/
def WorkerPc.holdsWorker : WorkerPc P → Bool
  | .registerUnlock | .exitUnlock _ => true
  | .callback _ _ call => call.holdsWorker
  | _ => false

/-- The controller holds it while it counts a created worker, waits for the ready ones or counts a
join. -/
def ControllerPc.holdsWorker : ControllerPc P → Bool
  | .createUnlock _ _ | .readyWait | .readyUnlock _ | .releaseUnlock _ _ _ _ _
  | .foldUnlock _ _ => true
  | _ => false

def SchedulerPc.holdsWorker : SchedulerPc W P → Bool
  | .call pc => pc.holdsWorker
  | .worker _ pc => pc.holdsWorker
  | .controller pc => pc.holdsWorker

section LockMoves

variable {cfg : SchedulerConfig W} {t : Thread W C} {choice : SchedulerChoice W C P}
  {sh : Scheduler W C P}

/-- `lifecycle_mutex` moves with the thread. -/
abbrev LifecycleMove (t : Thread W C) (sh sh' : Scheduler W C P) (holds holds' : Bool) : Prop :=
  Program.LockMove (fun sh : Scheduler W C P => sh.lifecycle.mutex) id t sh sh' holds holds'

/-- `worker_mutex` moves with the thread. -/
abbrev WorkerMove (t : Thread W C) (sh sh' : Scheduler W C P) (holds holds' : Bool) : Prop :=
  Program.LockMove (fun sh : Scheduler W C P => sh.worker.mutex) id t sh sh' holds holds'

/-- The bodies between lock and unlock leave the mutex alone. -/
theorem registerSubmitter_mutex {T : Type} (l : LifecycleDomain T) :
    (registerSubmitter l).1.mutex = l.mutex := by
  unfold registerSubmitter
  dsimp only
  split <;> rfl

theorem deregisterSubmitter_mutex {T : Type} (l : LifecycleDomain T) (r : SchedulerResult) :
    (deregisterSubmitter l r).1.mutex = l.mutex := by
  unfold deregisterSubmitter
  dsimp only
  split <;> split <;> rfl

theorem recordWorkerExit_mutex {T : Type} (w : WorkerDomain W T) (r : WorkerResult) :
    (recordWorkerExit w r).1.mutex = w.mutex := by
  unfold recordWorkerExit
  dsimp only
  split <;> split <;> rfl

/-- A step inside the queue leaves the rest of the scheduler alone. -/
theorem InsideQueueSpec.frame {π : Type} {inside : QueuePc P → π} {resume : QueueReturn P → π}
    {q : QueuePc P} {out : SchedulerStep W C P π}
    (h : InsideQueueSpec cfg t choice sh inside resume q out) :
    out.1 = { sh with queue := out.1.queue } := by
  cases h <;> rfl

/-- Where the thread may stand after a step inside the queue. -/
theorem InsideQueueSpec.pc {π : Type} {inside : QueuePc P → π} {resume : QueueReturn P → π}
    {q : QueuePc P} {out : SchedulerStep W C P π}
    (h : InsideQueueSpec cfg t choice sh inside resume q out) :
    (∃ q', out.2.1 = inside q') ∨ ∃ r, out.2.1 = resume r := by
  cases h with
  | run hact hq => exact .inl ⟨_, rfl⟩
  | leave op r => exact .inr ⟨r, rfl⟩

/-- A queue step is neutral for a lock if none of its counters holds it. -/
theorem InsideQueueSpec.neutral {π : Type} {inside : QueuePc P → π} {resume : QueueReturn P → π}
    {q : QueuePc P} {out : SchedulerStep W C P π}
    (h : InsideQueueSpec cfg t choice sh inside resume q out) (holds : π → Bool)
    (hinside : ∀ q, holds (inside q) = false) (hresume : ∀ r, holds (resume r) = false) :
    holds out.2.1 = false := by
  rcases h.pc with ⟨q', hpc⟩ | ⟨r, hpc⟩
  · rw [hpc, hinside]
  · rw [hpc, hresume]

/-- A submission and a capture take `lifecycle_mutex` and give it back. -/
theorem CallStepSpec.lifecycleMove {pc : CallPc P} {out : SchedulerStep W C P (CallPc P)}
    (h : CallStepSpec cfg t choice sh pc out) :
    LifecycleMove t sh out.1 pc.holdsLifecycle out.2.1.holdsLifecycle := by
  cases h with
  | register kind task hfree => exact .inr (.inl ⟨hfree, registerSubmitter_mutex _, rfl⟩)
  | registered kind task hheld => exact .inr (.inr ⟨hheld, rfl, rfl⟩)
  | rejected kind task r hr hheld => exact .inr (.inr ⟨hheld, rfl, rfl⟩)
  | enqueue kind task hq =>
    exact .inl ⟨by rw [hq.frame], hq.neutral _ (fun _ => rfl) fun _ => rfl⟩
  | deregister task r hfree => exact .inr (.inl ⟨hfree, deregisterSubmitter_mutex _ _, rfl⟩)
  | deregistered task r hheld => exact .inr (.inr ⟨hheld, rfl, rfl⟩)
  | captureLifecycle hfree => exact .inr (.inl ⟨hfree, rfl, rfl⟩)
  | captureNoWorkers temporary hheld => exact .inr (.inr ⟨hheld, rfl, rfl⟩)
  | captureLifecycleDone temporary hheld => exact .inr (.inr ⟨hheld, rfl, rfl⟩)
  | captureQueue temporary hq =>
    exact .inl ⟨by rw [hq.frame], hq.neutral _ (fun _ => rfl) fun _ => rfl⟩
  | _ => exact .inl ⟨rfl, rfl⟩

/-- Only a capture takes `worker_mutex` among the calls. -/
theorem CallStepSpec.workerMove {pc : CallPc P} {out : SchedulerStep W C P (CallPc P)}
    (h : CallStepSpec cfg t choice sh pc out) :
    WorkerMove t sh out.1 pc.holdsWorker out.2.1.holdsWorker := by
  cases h with
  | enqueue kind task hq =>
    exact .inl ⟨by rw [hq.frame], hq.neutral _ (fun _ => rfl) fun _ => rfl⟩
  | captureWorker temporary hfree hinit hstarted => exact .inr (.inl ⟨hfree, rfl, rfl⟩)
  | captureNoSlots temporary hfree hinit hstarted => exact .inr (.inl ⟨hfree, rfl, rfl⟩)
  | captureWorkerDone temporary hheld => exact .inr (.inr ⟨hheld, rfl, rfl⟩)
  | captureQueue temporary hq =>
    exact .inl ⟨by rw [hq.frame], hq.neutral _ (fun _ => rfl) fun _ => rfl⟩
  | _ => exact .inl ⟨rfl, rfl⟩

/-- Where a worker goes with the answer of its dequeue. -/
theorem afterDequeue_cases (r : QueueReturn P) :
    afterDequeue r = .exitLock .ok ∨
      afterDequeue r = .queueShutdown (.lock .shutdown) .queue ∨
      ∃ task, r = .status .ok (some task) ∧ afterDequeue r = .accountDequeued task := by
  cases r with
  | status result output =>
    cases result with
    | ok =>
      cases output with
      | none => exact .inr (.inl rfl)
      | some task => exact .inr (.inr ⟨task, rfl, rfl⟩)
    | errorShutdown => exact .inl rfl
    | _ => exact .inr (.inl rfl)
  | _ => exact .inr (.inl rfl)

/-- A worker takes `lifecycle_mutex` nowhere else than in its callback's calls. -/
theorem WorkerStepSpec.lifecycleMove {i : Fin W} {pc : WorkerPc P}
    {out : SchedulerStep W C P (WorkerPc P)} (h : WorkerStepSpec cfg t choice sh i pc out) :
    LifecycleMove t sh out.1 (SchedulerPc.worker i pc).holdsLifecycle
      (SchedulerPc.worker i out.2.1).holdsLifecycle := by
  cases h with
  | dequeue hq =>
    refine .inl ⟨by rw [hq.frame], ?_⟩
    refine hq.neutral (fun pc => (SchedulerPc.worker i pc).holdsLifecycle)
      (fun _ => rfl) fun r => ?_
    rcases afterDequeue_cases r with hpc | hpc | ⟨task, -, hpc⟩ <;> rw [hpc] <;> rfl
  | call task runningAccounted hcall => exact hcall.lifecycleMove
  | queueShutdown r hq =>
    exact .inl ⟨by rw [hq.frame], hq.neutral (fun pc => (SchedulerPc.worker i pc).holdsLifecycle)
      (fun _ => rfl) fun _ => rfl⟩
  | _ => exact .inl ⟨rfl, rfl⟩

/-- A worker takes `worker_mutex` to register, to exit and in its callback's captures. -/
theorem WorkerStepSpec.workerMove {i : Fin W} {pc : WorkerPc P}
    {out : SchedulerStep W C P (WorkerPc P)} (h : WorkerStepSpec cfg t choice sh i pc out) :
    WorkerMove t sh out.1 pc.holdsWorker out.2.1.holdsWorker := by
  cases h with
  | register hcontexts hfree hinit => exact .inr (.inl ⟨hfree, rfl, rfl⟩)
  | registered hheld => exact .inr (.inr ⟨hheld, rfl, rfl⟩)
  | dequeue hq =>
    refine .inl ⟨by rw [hq.frame], hq.neutral _ (fun _ => rfl) fun r => ?_⟩
    rcases afterDequeue_cases r with hpc | hpc | ⟨task, -, hpc⟩ <;> rw [hpc] <;> rfl
  | call task runningAccounted hcall => exact hcall.workerMove
  | queueShutdown r hq =>
    exact .inl ⟨by rw [hq.frame], hq.neutral _ (fun _ => rfl) fun _ => rfl⟩
  | exit r hfree hinit => exact .inr (.inl ⟨hfree, recordWorkerExit_mutex _ _, rfl⟩)
  | exited r hheld => exact .inr (.inr ⟨hheld, rfl, rfl⟩)
  | _ => exact .inl ⟨rfl, rfl⟩

/-! The controller. The loop tests and the continuations of its calls hold nothing but
the mutex they were made under. -/

/-- Each lifecycle call begins at its own lock. -/
theorem beginCall_quiet {call : LifecycleCall} {pc : ControllerPc P}
    (h : beginCall cfg call = some pc) :
    pc = .startLock ∨ pc = .shutdownLock ∨ pc = .joinLock ∨ pc = .destroyLock ∨
      pc = .faultLock call := by
  cases call with
  | start => exact .inl (Option.some.inj h).symm
  | shutdown => exact .inr (.inl (Option.some.inj h).symm)
  | join => exact .inr (.inr (.inl (Option.some.inj h).symm))
  | destroy => exact .inr (.inr (.inr (.inl (Option.some.inj h).symm)))
  | _ =>
    simp only [beginCall, Option.ite_none_right_eq_some, Option.some.injEq] at h
    exact .inr (.inr (.inr (.inr h.2.symm)))

omit [DecidableEq C] in
/-- After the workers are released the state is set, whoever the caller is. -/
theorem afterRelease_cases (sh : Scheduler W C P) (caller : ReleaseCaller)
    (result : SchedulerResult) :
    ∃ state call r, afterRelease sh caller result = .setStateLock state call r := by
  cases caller with
  | abort => exact ⟨_, _, _, rfl⟩
  | join =>
    unfold afterRelease
    dsimp only
    split
    · exact ⟨_, _, _, rfl⟩
    · exact ⟨_, _, _, rfl⟩

omit [DecidableEq C] in
/-- The caller goes on waiting as long as a submitter is active. -/
theorem drainTest_cases (sh : Scheduler W C P) (caller : DrainCaller) :
    (drainTest sh caller = .drainWait caller ∧ sh.lifecycle.activeSubmitterCount ≠ 0) ∨
      (drainTest sh caller = .drainUnlock caller true ∧ sh.lifecycle.activeSubmitterCount = 0) := by
  unfold drainTest
  split
  · rename_i hactive
    exact .inl ⟨rfl, hactive⟩
  · rename_i hactive
    exact .inr ⟨rfl, Decidable.not_not.mp hactive⟩

omit [DecidableEq C] in
/-- `scheduler_start` goes on waiting until every worker is ready. -/
theorem readyTest_cases (sh : Scheduler W C P) :
    (readyTest sh = .readyWait ∧ sh.worker.readyWorkerCount < W) ∨
      (readyTest sh = .readyUnlock true ∧ W ≤ sh.worker.readyWorkerCount) := by
  unfold readyTest
  split
  · rename_i hready
    exact .inl ⟨rfl, hready⟩
  · rename_i hready
    exact .inr ⟨rfl, Nat.not_lt.mp hready⟩

/-- The fold changes the four totals and the flag. -/
theorem foldl_foldContext_frame {T : Type} (contexts : Fin W → WorkerContext) (is : List (Fin W))
    (w : WorkerDomain W T) :
    ∃ dequeued started succeeded failed overflow,
      is.foldl (fun w i => foldContext w (contexts i)) w =
        { w with
          dequeuedCount := dequeued
          callbackStartedCount := started
          successfulCallbackCount := succeeded
          failedCallbackCount := failed
          accountingOverflow := overflow } := by
  induction is generalizing w with
  | nil => exact ⟨_, _, _, _, _, rfl⟩
  | cons i is ih =>
    obtain ⟨dequeued, started, succeeded, failed, overflow, hfold⟩ :=
      ih (foldContext w (contexts i))
    exact ⟨dequeued, started, succeeded, failed, overflow, hfold⟩

/-- The fold frees the arrays, and otherwise writes the totals only. -/
theorem foldWorkers_frame {T : Type} {w w' : WorkerDomain W T} (h : foldWorkers w = some w') :
    ∃ dequeued started succeeded failed overflow, w' =
      { w with
        threads := none
        workerContexts := none
        startedWorkerCount := 0
        readyWorkerCount := 0
        dequeuedCount := dequeued
        callbackStartedCount := started
        successfulCallbackCount := succeeded
        failedCallbackCount := failed
        accountingOverflow := overflow } := by
  unfold foldWorkers at h
  dsimp only at h
  split at h
  · simp only [Option.ite_none_right_eq_some, Option.some.injEq] at h
    exact ⟨_, _, _, _, _, h.2.symm⟩
  · rename_i contexts hcontexts
    obtain ⟨dequeued, started, succeeded, failed, overflow, hfold⟩ :=
      foldl_foldContext_frame contexts ((List.finRange W).take w.startedWorkerCount) w
    rw [hfold, Option.some.injEq] at h
    exact ⟨dequeued, started, succeeded, failed, overflow, h.symm⟩

/-- So it leaves the mutex alone. -/
theorem foldWorkers_mutex {T : Type} {w w' : WorkerDomain W T} (h : foldWorkers w = some w') :
    w'.mutex = w.mutex := by
  obtain ⟨_, _, _, _, _, rfl⟩ := foldWorkers_frame h
  rfl

theorem recordJoin_mutex {T : Type} (w : WorkerDomain W T) (event : JoinEvent) :
    (recordJoin w event).mutex = w.mutex := by
  cases event <;> rfl

/-- Each section of the controller under `lifecycle_mutex` is one step from a lock to an unlock or
to a wait. -/
theorem ControllerStepSpec.lifecycleMove {pc : ControllerPc P}
    {out : SchedulerStep W C P (ControllerPc P)} (h : ControllerStepSpec cfg choice sh pc out) :
    LifecycleMove .controller sh out.1 pc.holdsLifecycle out.2.1.holdsLifecycle := by
  cases h with
  | call call pc hcall =>
    refine .inl ⟨rfl, ?_⟩
    rcases beginCall_quiet hcall with rfl | rfl | rfl | rfl | rfl <;> rfl
  | allocationFailed sh' hsh => exact .inl ⟨by rw [hsh]; rfl, rfl⟩
  | allocated sh' hsh => exact .inl ⟨by rw [hsh]; rfl, rfl⟩
  -- these take `worker_mutex`, not this one
  | readyLock hfree hinit =>
    refine .inl ⟨rfl, ?_⟩
    rcases readyTest_cases sh with ⟨hpc, -⟩ | ⟨hpc, -⟩ <;> rw [hpc] <;> rfl
  | readyAgain hfree hinit =>
    refine .inl ⟨rfl, ?_⟩
    rcases readyTest_cases sh with ⟨hpc, -⟩ | ⟨hpc, -⟩ <;> rw [hpc] <;> rfl
  | abortQueue hq => exact .inl ⟨by rw [hq.frame], hq.neutral _ (fun _ => rfl) fun _ => rfl⟩
  | releaseIncomplete caller index result hindex =>
    obtain ⟨state, call, r, hpc⟩ := afterRelease_cases sh caller .errorSystem
    exact .inl ⟨rfl, by rw [hpc]; rfl⟩
  | foldUnlock caller result hheld =>
    obtain ⟨state, call, r, hpc⟩ := afterRelease_cases sh caller result
    exact .inl ⟨rfl, by rw [hpc]; rfl⟩
  | shutdownQueue hq => exact .inl ⟨by rw [hq.frame], hq.neutral _ (fun _ => rfl) fun _ => rfl⟩
  -- with the mutex taken, the test decides between a wait and an unlock
  | drainLock caller hfree =>
    refine .inr (.inl ⟨hfree, rfl, ?_⟩)
    rcases drainTest_cases sh caller with ⟨hpc, -⟩ | ⟨hpc, -⟩ <;> rw [hpc] <;> rfl
  | drainAgain caller hfree =>
    refine .inr (.inl ⟨hfree, rfl, ?_⟩)
    rcases drainTest_cases sh caller with ⟨hpc, -⟩ | ⟨hpc, -⟩ <;> rw [hpc] <;> rfl
  | join hfree hstate =>
    refine .inr (.inl ⟨hfree, rfl, ?_⟩)
    rcases drainTest_cases sh .join with ⟨hpc, -⟩ | ⟨hpc, -⟩ <;> rw [hpc] <;> rfl
  | _ =>
    first
    | exact .inl ⟨rfl, rfl⟩
    | exact .inr (.inl ⟨by assumption, rfl, rfl⟩)
    | exact .inr (.inr ⟨by assumption, rfl, rfl⟩)

/-- The same for `worker_mutex`. -/
theorem ControllerStepSpec.workerMove {pc : ControllerPc P}
    {out : SchedulerStep W C P (ControllerPc P)} (h : ControllerStepSpec cfg choice sh pc out) :
    WorkerMove .controller sh out.1 pc.holdsWorker out.2.1.holdsWorker := by
  cases h with
  | call call pc hcall =>
    refine .inl ⟨rfl, ?_⟩
    rcases beginCall_quiet hcall with rfl | rfl | rfl | rfl | rfl <;> rfl
  | allocationFailed sh' hsh => exact .inl ⟨by rw [hsh]; rfl, rfl⟩
  | allocated sh' hsh => exact .inl ⟨by rw [hsh]; rfl, rfl⟩
  -- these take `worker_mutex`
  | readyLock hfree hinit =>
    refine .inr (.inl ⟨hfree, rfl, ?_⟩)
    rcases readyTest_cases sh with ⟨hpc, -⟩ | ⟨hpc, -⟩ <;> rw [hpc] <;> rfl
  | readyAgain hfree hinit =>
    refine .inr (.inl ⟨hfree, rfl, ?_⟩)
    rcases readyTest_cases sh with ⟨hpc, -⟩ | ⟨hpc, -⟩ <;> rw [hpc] <;> rfl
  | abortQueue hq => exact .inl ⟨by rw [hq.frame], hq.neutral _ (fun _ => rfl) fun _ => rfl⟩
  | releaseIncomplete caller index result hindex =>
    obtain ⟨state, call, r, hpc⟩ := afterRelease_cases sh caller .errorSystem
    exact .inl ⟨rfl, by rw [hpc]; rfl⟩
  | releaseLock caller index event result allJoined hfree hinit =>
    exact .inr (.inl ⟨hfree, recordJoin_mutex _ _, rfl⟩)
  | fold caller result worker hfree hinit hfold =>
    exact .inr (.inl ⟨hfree, foldWorkers_mutex hfold, rfl⟩)
  | foldUnlock caller result hheld =>
    obtain ⟨state, call, r, hpc⟩ := afterRelease_cases sh caller result
    exact .inr (.inr ⟨hheld, rfl, by rw [hpc]; rfl⟩)
  | shutdownQueue hq => exact .inl ⟨by rw [hq.frame], hq.neutral _ (fun _ => rfl) fun _ => rfl⟩
  -- these take the other mutex
  | drainLock caller hfree =>
    refine .inl ⟨rfl, ?_⟩
    rcases drainTest_cases sh caller with ⟨hpc, -⟩ | ⟨hpc, -⟩ <;> rw [hpc] <;> rfl
  | drainAgain caller hfree =>
    refine .inl ⟨rfl, ?_⟩
    rcases drainTest_cases sh caller with ⟨hpc, -⟩ | ⟨hpc, -⟩ <;> rw [hpc] <;> rfl
  | join hfree hstate =>
    refine .inl ⟨rfl, ?_⟩
    rcases drainTest_cases sh .join with ⟨hpc, -⟩ | ⟨hpc, -⟩ <;> rw [hpc] <;> rfl
  | _ =>
    first
    | exact .inl ⟨rfl, rfl⟩
    | exact .inr (.inl ⟨by assumption, rfl, rfl⟩)
    | exact .inr (.inr ⟨by assumption, rfl, rfl⟩)

end LockMoves

/-! ## The queue inside the scheduler -/

/-- A wakeup means nothing to a thread that is not asleep. -/
theorem QueuePc.wake_of_awake {q : QueuePc P} (h : q.asleepOn = none) : q.wake = q := by
  cases q with
  | asleep w => cases h
  | _ => rfl

/-- Waking a thread wakes it inside the queue. -/
theorem SchedulerPc.queue_wake (pc : SchedulerPc W P) : pc.wake.queue = pc.queue.wake := by
  cases pc with
  | call pc => cases pc <;> rfl
  | worker i pc =>
    cases pc with
    | callback task runningAccounted call => cases call <;> rfl
    | _ => rfl
  | controller pc => cases pc <;> rfl

/-- A thread sleeps on a condition of the queue exactly if it sleeps inside the queue. -/
theorem SchedulerPc.asleepOn_queue (pc : SchedulerPc W P) (c : QueueCondition) :
    pc.queue.asleepOn = some c ↔ pc.asleepOn = some (.queue c) := by
  have hmap : ∀ q : QueuePc P, q.asleepOn = some c ↔
      q.asleepOn.map SchedulerCondition.queue = some (.queue c) := by
    intro q
    cases q.asleepOn with
    | none => simp
    | some d => simp
  cases pc with
  | call pc => exact hmap _
  | worker i pc => exact hmap _
  | controller pc => cases pc <;> first | exact hmap _ | simp [asleepOn, queue, ControllerPc.queue,
      QueuePc.asleepOn]

/-- What a thread of the scheduler shows of the queue is a thread of the queue. -/
theorem schedulerProgram_embeds (cfg : SchedulerConfig W) :
    (schedulerProgram (C := C) (P := P) cfg).Embeds (queueProgram cfg.queue)
      SchedulerCondition.queue SchedulerPc.queue where
  asleep := SchedulerPc.asleepOn_queue
  wake a c _ := SchedulerPc.queue_wake a
  wakeOuter a d hd hother := by
    have hawake : a.queue.asleepOn = none := by
      cases hq : a.queue.asleepOn with
      | none => rfl
      | some c =>
        have hsome := (SchedulerPc.asleepOn_queue a c).mp hq
        exact absurd (Option.some.inj (hd.symm.trans hsome)) (hother c)
    exact (SchedulerPc.queue_wake a).trans (QueuePc.wake_of_awake hawake)
  start a h := by
    cases a with
    | worker i pc =>
      cases pc with
      | notCreated => rfl
      | _ => cases h
    | _ => cases h

/-- What a step of the scheduler is for the queue: a step of the queue, or a thread
that enters or leaves it. -/
inductive QueueMove (cfg : SchedulerConfig W) (t : Thread W C) (choice : SchedulerChoice W C P)
    (sh sh' : Scheduler W C P) : QueuePc P → QueuePc P → List (SchedulerEffect W C) → Prop where
  | run {q q' : QueuePc P} {fx : List (QueueEffect (Thread W C))}
      (hact : queueAct cfg.queue t choice.queue sh.queue q = some (sh'.queue, q', fx))
      (hq : ∀ op r, q ≠ .returned op r) :
      QueueMove cfg t choice sh sh' q q' (fx.map (Effect.lift .queue))
  | jump {q q' : QueuePc P} {fx : List (SchedulerEffect W C)} (hqueue : sh'.queue = sh.queue)
      (hq : q = .idle ∨ ∃ op r, q = .returned op r) (hq' : q' = .idle ∨ ∃ op, q' = .lock op)
      (hfx : ∀ e ∈ fx, e.Outer SchedulerCondition.queue) : QueueMove cfg t choice sh sh' q q' fx

section QueueMoves

variable {cfg : SchedulerConfig W} {t : Thread W C} {choice : SchedulerChoice W C P}
  {sh : Scheduler W C P}

/-- A step inside the queue is a step of the queue. -/
theorem InsideQueueSpec.queueMove {π : Type} {inside : QueuePc P → π} {resume : QueueReturn P → π}
    {q : QueuePc P} {out : SchedulerStep W C P π}
    (h : InsideQueueSpec cfg t choice sh inside resume q out) (queue : π → QueuePc P)
    (hinside : ∀ q, queue (inside q) = q)
    (hresume : ∀ r, queue (resume r) = .idle ∨ ∃ op, queue (resume r) = .lock op) :
    QueueMove cfg t choice sh out.1 q (queue out.2.1) out.2.2 := by
  cases h with
  | run hact hq =>
    rw [show queue _ = _ from hinside _]
    exact .run hact hq
  | leave op r => exact .jump rfl (.inr ⟨op, r, rfl⟩) (hresume r) (by simp)

/-- Among the calls only submissions enter the queue. -/
theorem CallStepSpec.queueMove {pc : CallPc P} {out : SchedulerStep W C P (CallPc P)}
    (h : CallStepSpec cfg t choice sh pc out) :
    QueueMove cfg t choice sh out.1 pc.queue out.2.1.queue out.2.2 := by
  cases h with
  | registered kind task hheld => exact .jump rfl (.inl rfl) (.inr ⟨_, rfl⟩) (by simp)
  | enqueue kind task hq => exact hq.queueMove CallPc.queue (fun _ => rfl) fun _ => .inl rfl
  | deregister task r hfree =>
    refine .jump rfl (.inl rfl) (.inl rfl) ?_
    intro e he
    split at he
    · rw [List.mem_singleton.mp he]
      intro c hc
      cases hc
    · cases he
  | captureNoWorkers temporary hheld => exact .jump rfl (.inl rfl) (.inr ⟨_, rfl⟩) (by simp)
  | captureWorkerDone temporary hheld => exact .jump rfl (.inl rfl) (.inr ⟨_, rfl⟩) (by simp)
  | captureQueue temporary hq => exact hq.queueMove CallPc.queue (fun _ => rfl) fun _ => .inl rfl
  | _ => exact .jump rfl (.inl rfl) (.inl rfl) (by simp)

/-- A worker enters it to dequeue, to close it when it has failed, and in its callback's
submissions. -/
theorem WorkerStepSpec.queueMove {i : Fin W} {pc : WorkerPc P}
    {out : SchedulerStep W C P (WorkerPc P)} (h : WorkerStepSpec cfg t choice sh i pc out) :
    QueueMove cfg t choice sh out.1 pc.queue out.2.1.queue out.2.2 := by
  cases h with
  | register hcontexts hfree hinit =>
    refine .jump rfl (.inl rfl) (.inl rfl) ?_
    intro e he
    rw [List.mem_singleton.mp he]
    intro c hc
    cases hc
  | registered hheld => exact .jump rfl (.inl rfl) (.inr ⟨_, rfl⟩) (by simp)
  | dequeue hq =>
    refine hq.queueMove WorkerPc.queue (fun _ => rfl) fun r => ?_
    rcases afterDequeue_cases r with hpc | hpc | ⟨task, -, hpc⟩
    · exact .inl (by rw [hpc]; rfl)
    · exact .inr ⟨.shutdown, by rw [hpc]; rfl⟩
    · exact .inl (by rw [hpc]; rfl)
  | call task runningAccounted hcall => exact hcall.queueMove
  | accountResultOnly succeeded hcontexts => exact .jump rfl (.inl rfl) (.inr ⟨_, rfl⟩) (by simp)
  | accountRunningDone hcontexts => exact .jump rfl (.inl rfl) (.inr ⟨_, rfl⟩) (by simp)
  | queueShutdown r hq => exact hq.queueMove WorkerPc.queue (fun _ => rfl) fun _ => .inl rfl
  | _ => exact .jump rfl (.inl rfl) (.inl rfl) (by simp)

/-- The controller enters it to close it. -/
theorem ControllerStepSpec.queueMove {pc : ControllerPc P}
    {out : SchedulerStep W C P (ControllerPc P)} (h : ControllerStepSpec cfg choice sh pc out) :
    QueueMove cfg .controller choice sh out.1 pc.queue out.2.1.queue out.2.2 := by
  cases h with
  | call call pc hcall =>
    refine .jump rfl (.inl rfl) (.inl ?_) (by simp)
    rcases beginCall_quiet hcall with rfl | rfl | rfl | rfl | rfl <;> rfl
  | allocationFailed sh' hsh => exact .jump (by rw [hsh]; rfl) (.inl rfl) (.inl rfl) (by simp)
  | allocated sh' hsh => exact .jump (by rw [hsh]; rfl) (.inl rfl) (.inl rfl) (by simp)
  -- a creation and the native joins are effects outside the queue
  | created i faultPlan hfree hinit =>
    exact .jump rfl (.inl rfl) (.inl rfl) (by simp [Effect.Outer])
  -- a failed start closes the queue, as `shutdown` does
  | createFailedUnlock index hheld => exact .jump rfl (.inl rfl) (.inr ⟨_, rfl⟩) (by simp)
  | readyLock hfree hinit =>
    refine .jump rfl (.inl rfl) (.inl ?_) (by simp)
    rcases readyTest_cases sh with ⟨hpc, -⟩ | ⟨hpc, -⟩ <;> rw [hpc] <;> rfl
  | readyAgain hfree hinit =>
    refine .jump rfl (.inl rfl) (.inl ?_) (by simp)
    rcases readyTest_cases sh with ⟨hpc, -⟩ | ⟨hpc, -⟩ <;> rw [hpc] <;> rfl
  | readyFailedUnlock hheld => exact .jump rfl (.inl rfl) (.inr ⟨_, rfl⟩) (by simp)
  | abortQueue hq => exact hq.queueMove ControllerPc.queue (fun _ => rfl) fun _ => .inl rfl
  | releaseInjected caller i result allJoined faultPlan workerResult =>
    exact .jump rfl (.inl rfl) (.inl rfl) (by simp [Effect.Outer])
  | releaseFailedWorker caller i result allJoined faultPlan workerResult =>
    exact .jump rfl (.inl rfl) (.inl rfl) (by simp [Effect.Outer])
  | releaseJoined caller i result allJoined faultPlan =>
    exact .jump rfl (.inl rfl) (.inl rfl) (by simp [Effect.Outer])
  | releaseIncomplete caller index result hindex =>
    obtain ⟨state, call, r, hpc⟩ := afterRelease_cases sh caller .errorSystem
    exact .jump rfl (.inl rfl) (.inl (by rw [hpc]; rfl)) (by simp)
  | foldUnlock caller result hheld =>
    obtain ⟨state, call, r, hpc⟩ := afterRelease_cases sh caller result
    exact .jump rfl (.inl rfl) (.inl (by rw [hpc]; rfl)) (by simp)
  | shutdownUnlock hheld => exact .jump rfl (.inl rfl) (.inr ⟨_, rfl⟩) (by simp)
  | shutdownQueue hq => exact hq.queueMove ControllerPc.queue (fun _ => rfl) fun _ => .inl rfl
  | drainLock caller hfree =>
    refine .jump rfl (.inl rfl) (.inl ?_) (by simp)
    rcases drainTest_cases sh caller with ⟨hpc, -⟩ | ⟨hpc, -⟩ <;> rw [hpc] <;> rfl
  | drainAgain caller hfree =>
    refine .jump rfl (.inl rfl) (.inl ?_) (by simp)
    rcases drainTest_cases sh caller with ⟨hpc, -⟩ | ⟨hpc, -⟩ <;> rw [hpc] <;> rfl
  | join hfree hstate =>
    refine .jump rfl (.inl rfl) (.inl ?_) (by simp)
    rcases drainTest_cases sh .join with ⟨hpc, -⟩ | ⟨hpc, -⟩ <;> rw [hpc] <;> rfl
  | _ => exact .jump rfl (.inl rfl) (.inl rfl) (by simp)

/-- **A step of the scheduler is a step of the queue or leaves the queue alone.** -/
theorem SchedulerStepSpec.queueMove {pc : SchedulerPc W P}
    {out : SchedulerStep W C P (SchedulerPc W P)} (h : SchedulerStepSpec cfg choice sh t pc out) :
    QueueMove cfg t choice sh out.1 pc.queue out.2.1.queue out.2.2 := by
  cases h with
  | call c h => exact h.queueMove
  | worker i h => exact h.queueMove
  | controller h => exact h.queueMove

end QueueMoves

/-! ## Reachable states -/

/-- The queue and the threads in it. -/
abbrev queueView (s : SchedulerPool W C P) : QueuePool (Thread W C) P :=
  Program.inside Scheduler.queue SchedulerPc.queue s

/-- A thread outside the queue may be idle there or begin a call. -/
theorem queue_jump {T : Type} [DecidableEq T] [Fintype T] {cfg : QueueConfig} {s : QueuePool T P}
    {t : T} {q' : QueuePc P} (hq : s.pc t = .idle ∨ ∃ op r, s.pc t = .returned op r)
    (hq' : q' = .idle ∨ ∃ op, q' = .lock op) :
    (queueProgram cfg).Steps s ⟨s.shared, Function.update s.pc t q'⟩ := by
  have hleave : (queueProgram cfg).Steps s ⟨s.shared, Function.update s.pc t .idle⟩ := by
    rcases hq with hidle | ⟨op, r, hreturned⟩
    · rw [← hidle, Function.update_eq_self]
      exact .refl
    · refine .single ⟨t, {}, Program.step_eq_some.mpr ⟨.idle, [], ?_, rfl⟩⟩
      rw [hreturned]
      rfl
  rcases hq' with rfl | ⟨op, rfl⟩
  · exact hleave
  · refine hleave.tail ⟨t, { call := some (op, true) },
      Program.step_eq_some.mpr ⟨.lock op, [], ?_, ?_⟩⟩
    · show queueAct _ _ _ _ (Function.update s.pc t .idle t) = _
      rw [Function.update_self]
      rfl
    · show some (Function.update (Function.update s.pc t .idle) t (.lock op)) = _
      rw [Function.update_idem]

section Reachable

variable [Fintype C] {cfg : SchedulerConfig W} {t : Thread W C} {choice : SchedulerChoice W C P}
  {s s' : SchedulerPool W C P} {pc : SchedulerPc W P} {fx : List (SchedulerEffect W C)}

/-- A step of the scheduler is a run of the queue. -/
theorem QueueMove.steps (h : QueueMove cfg t choice s.shared s'.shared (s.pc t).queue pc.queue fx)
    (hfx : (schedulerProgram cfg).applyEffects (Function.update s.pc t pc) fx = some s'.pc)
    {f : ClosableFifo P} (habs : Abstracts s.shared.queue f) :
    (queueProgram cfg.queue).Steps (queueView s) (queueView s') := by
  generalize hq : (s.pc t).queue = q at h
  generalize hq' : pc.queue = q' at h
  cases h with
  | run hact hnot =>
    refine .single ⟨t, choice.queue, ?_⟩
    refine (schedulerProgram_embeds cfg).step_inner (queueAct_spec habs hact).inner ?_ hfx
    rw [hq, hq']
    exact hact
  | jump hqueue hleft hright hout =>
    have hview : queueView s' = ⟨s.shared.queue,
        Function.update (fun u => (s.pc u).queue) t q'⟩ := by
      have hpc := funext ((schedulerProgram_embeds cfg).applyEffects_outer hout hfx)
      rw [Program.view_update SchedulerPc.queue, hq'] at hpc
      show Pool.mk s'.shared.queue (fun u => (s'.pc u).queue) = _
      rw [hqueue, hpc]
    rw [hview]
    subst hq
    exact queue_jump (s := queueView s) hleft hright

/-- What holds of the threads, the locks and the queue in every reachable state. -/
structure ThreadInv (cfg : SchedulerConfig W) (s : SchedulerPool W C P) : Prop where
  runs : ∀ t : Thread W C, t.Runs (s.pc t)
  lifecycle : Program.Owned (fun sh : Scheduler W C P => sh.lifecycle.mutex)
    SchedulerPc.holdsLifecycle s
  worker : Program.Owned (fun sh : Scheduler W C P => sh.worker.mutex) SchedulerPc.holdsWorker s
  queue : QueueReachable cfg.queue cfg.capacity (queueView s)

/-- Nobody wakes up with the mutex: it is taken again after the wakeup. -/
theorem SchedulerPc.holdsLifecycle_wake (pc : SchedulerPc W P) :
    pc.wake.holdsLifecycle = pc.holdsLifecycle := by
  cases pc with
  | call pc => cases pc <;> rfl
  | worker i pc =>
    cases pc with
    | callback task runningAccounted call => cases call <;> rfl
    | _ => rfl
  | controller pc => cases pc <;> rfl

theorem SchedulerPc.holdsWorker_wake (pc : SchedulerPc W P) :
    pc.wake.holdsWorker = pc.holdsWorker := by
  cases pc with
  | call pc => cases pc <;> rfl
  | worker i pc =>
    cases pc with
    | callback task runningAccounted call => cases call <;> rfl
    | _ => rfl
  | controller pc => cases pc <;> rfl

omit [Fintype C] in
/-- A step takes `lifecycle_mutex`, keeps it or gives it back. -/
theorem SchedulerStepSpec.lifecycleMove {sh : Scheduler W C P}
    {out : SchedulerStep W C P (SchedulerPc W P)} (h : SchedulerStepSpec cfg choice sh t pc out) :
    Program.LockMove (fun sh : Scheduler W C P => sh.lifecycle.mutex) SchedulerPc.holdsLifecycle
      t sh out.1 pc out.2.1 := by
  cases h with
  | call c h => exact h.lifecycleMove
  | worker i h => exact h.lifecycleMove
  | controller h => exact h.lifecycleMove

omit [Fintype C] in
/-- And so it is with `worker_mutex`. -/
theorem SchedulerStepSpec.workerMove {sh : Scheduler W C P}
    {out : SchedulerStep W C P (SchedulerPc W P)} (h : SchedulerStepSpec cfg choice sh t pc out) :
    Program.LockMove (fun sh : Scheduler W C P => sh.worker.mutex) SchedulerPc.holdsWorker
      t sh out.1 pc out.2.1 := by
  cases h with
  | call c h => exact h.workerMove
  | worker i h => exact h.workerMove
  | controller h => exact h.workerMove

/-- A step, with what it does and what its effects do. -/
theorem ThreadInv.step_spec (h : ThreadInv cfg s)
    (hstep : (schedulerProgram cfg).step t choice s = some s') :
    ∃ pc fx, SchedulerStepSpec cfg choice s.shared t (s.pc t) (s'.shared, pc, fx) ∧
      (schedulerProgram cfg).applyEffects (Function.update s.pc t pc) fx = some s'.pc := by
  obtain ⟨pc, fx, hact, hfx⟩ := Program.step_eq_some.mp hstep
  exact ⟨pc, fx, schedulerAct_spec (h.runs t) hact, hfx⟩

/-- The queue abstracts a FIFO of the configured capacity. -/
theorem ThreadInv.abstracts (h : ThreadInv cfg s) :
    ∃ f, Abstracts s.shared.queue f ∧ f.capacity = cfg.capacity :=
  h.queue.inv.abstracts

/-- After `scheduler_init` no mutex is held and every thread is at its start. -/
theorem threadInv_initial {queue : TaskQueue P}
    (hinit : taskQueueInit cfg.capacity true = (.ok, some queue)) :
    ThreadInv cfg (schedulerInitial queue : SchedulerPool W C P) := by
  refine ⟨?_, ?_, ?_, ?_⟩
  · rintro (_ | i | c)
    · trivial
    · exact rfl
    · trivial
  · rintro (_ | i | c) <;> simp [schedulerInitial, schedulerInit, SchedulerPc.holdsLifecycle,
      ControllerPc.holdsLifecycle, CallPc.holdsLifecycle]
  · rintro (_ | i | c) <;> simp [schedulerInitial, schedulerInit, SchedulerPc.holdsWorker,
      ControllerPc.holdsWorker, CallPc.holdsWorker, WorkerPc.holdsWorker]
  · refine ⟨queue, hinit, ?_⟩
    have hview : queueView (schedulerInitial queue : SchedulerPool W C P) = queueInitial queue := by
      unfold queueView Program.inside queueInitial
      congr 1
      funext u
      cases u <;> rfl
    rw [hview]
    exact .refl

/-- **One step keeps the threads, the locks and the queue in order.** -/
theorem threadInv_step (h : ThreadInv cfg s)
    (hstep : (schedulerProgram cfg).step t choice s = some s') : ThreadInv cfg s' := by
  obtain ⟨pc, fx, hspec, hfx⟩ := h.step_spec hstep
  refine ⟨?_, ?_, ?_, ?_⟩
  · refine Program.forall_step (fun u _ pc => Thread.Runs u pc) ?_ hfx hspec.runs
      (fun _ _ hu => hu) h.runs
    intro u sh
    refine schedulerProgram_blind (fun pc => ?_) fun i => ?_
    · cases pc <;> cases u <;> rfl
    · cases u <;> rfl
  · exact Program.owner_step (schedulerProgram_blind SchedulerPc.holdsLifecycle_wake fun _ => rfl)
      hfx hspec.lifecycleMove h.lifecycle
  · exact Program.owner_step (schedulerProgram_blind SchedulerPc.holdsWorker_wake fun _ => rfl)
      hfx hspec.workerMove h.worker
  · obtain ⟨queue, hinit, hsteps⟩ := h.queue
    obtain ⟨f, habs, -⟩ := h.abstracts
    exact ⟨queue, hinit, hsteps.trans (hspec.queueMove.steps hfx habs)⟩

/-- What is reachable from a reachable state is reachable. -/
theorem SchedulerReachable.tail (h : SchedulerReachable cfg s)
    (hsteps : (schedulerProgram cfg).Steps s s') : SchedulerReachable cfg s' := by
  obtain ⟨hW, queue, hinit, hs⟩ := h
  exact ⟨hW, queue, hinit, hs.trans hsteps⟩

/-- **Invariant rule** for the scheduler. -/
theorem SchedulerReachable.invariant {I : SchedulerPool W C P → Prop}
    (h : SchedulerReachable cfg s)
    (h0 : ∀ queue, taskQueueInit cfg.capacity true = (.ok, some queue) → I (schedulerInitial queue))
    (hstep : ∀ {u u' t choice}, SchedulerReachable cfg u → I u →
      (schedulerProgram cfg).step t choice u = some u' → I u') : I s := by
  obtain ⟨hW, queue, hinit, hsteps⟩ := h
  refine Program.Steps.invariant hsteps (h0 queue hinit) ?_
  rintro u u' hu hI ⟨t, choice, hs⟩
  exact hstep ⟨hW, queue, hinit, hu⟩ hI hs

/-- The invariant holds in every reachable state. -/
theorem SchedulerReachable.threads (h : SchedulerReachable cfg s) : ThreadInv cfg s :=
  h.invariant (fun _ hinit => threadInv_initial hinit) fun _ => threadInv_step

end Reachable

end SchedulingEngine
