import SchedulingEngine.Concurrency.Waiting
import SchedulingEngine.Scheduler.Locking
import SchedulingEngine.Scheduler.Monotone

/-!
# Which threads can go on

A thread inside an operation of the scheduler is blocked if it sleeps on a condition, if the
mutex that it is about to take is held, or if it is in a native join of a worker that has
not finished (`Blocked`). Nothing else stops it: a thread that is not blocked has a step
(`SchedulerReachable.canStep`). The worker arrays, `worker_mutex` and the handles are there
wherever the code goes on to use them.
-/

namespace SchedulingEngine

open Concurrency

variable {W : ℕ} {C P : Type}

/-! ## Inside the scheduler -/

/-- Between the begin of a submission or a capture and its return. -/
def CallPc.inside : CallPc P → Bool
  | .idle | .submitted _ | .captured _ => false
  | _ => true

/-- Inside `scheduler_worker_entry`, and not in the callback's own code. -/
def WorkerPc.inside : WorkerPc P → Bool
  | .notCreated | .finished _ => false
  | .callback _ _ call => call.inside
  | _ => true

/-- Between the begin of a lifecycle call and its return; `scheduler_destroy` is over when it
frees the scheduler. -/
def ControllerPc.inside : ControllerPc P → Bool
  | .idle | .returned _ _ | .faultReturned _ | .destroyFree => false
  | _ => true

/-- Inside an operation of the scheduler or `scheduler_worker_entry`. -/
def SchedulerPc.inside : SchedulerPc W P → Bool
  | .call pc => pc.inside
  | .worker _ pc => pc.inside
  | .controller pc => pc.inside

/-- In the native join of worker `i`. -/
def SchedulerPc.Awaits (sh : Scheduler W C P) (i : Fin W) : SchedulerPc W P → Prop
  | .controller (.releaseJoin _ index _ _) => index = i ∧ sh.crew.Holds i
  | _ => False

/-- A thread that waits for another. -/
inductive Blocked (s : SchedulerPool W C P) (u : Thread W C) : Prop where
  | asleep (c : SchedulerCondition) (h : (s.pc u).asleepOn = some c)
  | mutex (m : SchedulerMutex) (h : (s.pc u).acquires = some m) (hheld : s.shared.owner m ≠ none)
  | join (i : Fin W) (h : (s.pc u).Awaits s.shared i)
      (hrunning : (s.pc (.worker i)).isFinished = false)

/-! ## The queue -/

section Queue

variable {T : Type} (cfg : QueueConfig)

/-- What a queue call tells the other threads, whoever it wakes. -/
inductive Signals : (Option T → List (QueueEffect T)) → Prop where
  | quiet : Signals fun _ => []
  | signal (c : QueueCondition) : Signals fun woken => [.signal c woken]
  | broadcast : Signals fun _ => [.broadcast .notEmpty, .broadcast .notFull]

theorem Signals.ite {fires : Prop} [Decidable fires] (c : QueueCondition) :
    Signals (T := T) fun woken => if fires then [.signal c woken] else [] := by
  by_cases hfires : fires
  · simp only [if_pos hfires]
    exact .signal c
  · simp only [if_neg hfires]
    exact .quiet

theorem insertTask_woken (onFull : ConcurrentTaskQueueResult) (task : P)
    (q : ConcurrentTaskQueue T P) :
    ∃ q' r fx, Signals fx ∧ ∀ woken, insertTask cfg onFull task woken q = (q', r, fx woken) := by
  unfold insertTask
  dsimp only
  split
  · exact ⟨_, _, _, .quiet, fun _ => rfl⟩
  · split
    · exact ⟨_, _, _, .ite .notEmpty, fun _ => rfl⟩
    · exact ⟨_, _, _, .quiet, fun _ => rfl⟩
    · exact ⟨_, _, _, .quiet, fun _ => rfl⟩
    · exact ⟨_, _, _, .quiet, fun _ => rfl⟩

theorem removeTask_woken (onEmpty : ConcurrentTaskQueueResult) (q : ConcurrentTaskQueue T P) :
    ∃ q' r fx, Signals fx ∧ ∀ woken, removeTask cfg onEmpty woken q = (q', r, fx woken) := by
  unfold removeTask
  dsimp only
  split
  · exact ⟨_, _, _, .quiet, fun _ => rfl⟩
  · split
    · exact ⟨_, _, _, .ite .notFull, fun _ => rfl⟩
    · exact ⟨_, _, _, .quiet, fun _ => rfl⟩
    · exact ⟨_, _, _, .quiet, fun _ => rfl⟩

/-- A critical section of the queue: only its signal depends on who is woken. -/
theorem runOperation_woken (op : QueueOperation P) (q : ConcurrentTaskQueue T P) :
    ∃ q' pc fx, Signals fx ∧ ∀ woken, runOperation cfg woken op q = (q', pc, fx woken) := by
  cases op with
  | shutdown => exact ⟨_, _, _, .broadcast, fun _ => rfl⟩
  | tryEnqueue task =>
    obtain ⟨q', r, fx, hfx, hinsert⟩ := insertTask_woken cfg .errorFull task q
    simp only [runOperation, concurrentTaskQueueTryEnqueue, hinsert]
    exact ⟨_, _, _, hfx, fun _ => rfl⟩
  | enqueue task =>
    obtain ⟨q', r, fx, hfx, hinsert⟩ := insertTask_woken cfg .errorSystem task q
    simp only [runOperation, concurrentTaskQueueEnqueue, hinsert]
    split
    · exact ⟨_, _, _, .quiet, fun _ => rfl⟩
    · exact ⟨_, _, _, hfx, fun _ => rfl⟩
  | tryDequeue =>
    obtain ⟨q', r, fx, hfx, hremove⟩ := removeTask_woken cfg
      (if q.shutdownRequested then .errorShutdown else .errorEmpty) q
    simp only [runOperation, concurrentTaskQueueTryDequeue, hremove]
    exact ⟨_, _, _, hfx, fun _ => rfl⟩
  | dequeue =>
    obtain ⟨q', r, fx, hfx, hremove⟩ := removeTask_woken cfg .errorShutdown q
    simp only [runOperation, concurrentTaskQueueDequeue, hremove]
    split
    · exact ⟨_, _, _, .quiet, fun _ => rfl⟩
    · exact ⟨_, _, _, hfx, fun _ => rfl⟩
  | _ => exact ⟨_, _, _, .quiet, fun _ => rfl⟩

/-- **A thread inside the queue goes on** where its mutex lets it, waiting successfully. -/
theorem queueAct_woken [DecidableEq T] {t : T} {q : ConcurrentTaskQueue T P} {pc : QueuePc P}
    (hidle : pc ≠ .idle) (hacquires : pc.acquires = true → q.mutex = none)
    (hreleases : pc.releases = true → q.mutex = some t) :
    ∃ q' pc' fx, Signals fx ∧ ∀ woken,
      queueAct cfg t { woken, waitSucceeds := true } q pc = some (q', pc', fx woken) := by
  cases pc with
  | idle => exact absurd rfl hidle
  | lock op =>
    obtain ⟨q', pc', fx, hfx, hrun⟩ := runOperation_woken cfg op
      { q with mutex := some t }
    exact ⟨q', pc', fx, hfx, fun woken => by simp [queueAct, hacquires rfl, hrun woken]⟩
  | wait w => exact ⟨_, _, _, .quiet, fun woken => if_pos (hreleases rfl)⟩
  | asleep w => exact ⟨_, _, _, .quiet, fun woken => rfl⟩
  | woken w =>
    obtain ⟨q', pc', fx, hfx, hrun⟩ := runOperation_woken cfg w.operation
      (endWait w { q with mutex := some t })
    refine ⟨q', pc', fx, hfx, fun woken => ?_⟩
    simp [queueAct, resumeWait, hacquires rfl, hrun woken]
  | unlock op r => exact ⟨_, _, _, .quiet, fun woken => if_pos (hreleases rfl)⟩
  | returned op r => exact ⟨_, _, _, .quiet, fun woken => rfl⟩

end Queue

/-! ## Steps that are possible -/

section Steps

variable [DecidableEq C] [Fintype C] (cfg : SchedulerConfig W) {t : Thread W C}
  {sh : Scheduler W C P}

/-- The effects of a queue call are possible for some choice of the sleeper it wakes. -/
theorem Signals.possible {fx : Option (Thread W C) → List (QueueEffect (Thread W C))}
    (h : Signals fx) (f : Thread W C → SchedulerPc W P) :
    ∃ woken, ((schedulerProgram cfg).applyEffects f
      ((fx woken).map (Effect.lift .queue))).isSome = true := by
  cases h with
  | quiet => exact ⟨none, rfl⟩
  | signal c => exact Program.exists_signal (schedulerProgram cfg) f (.queue c)
  | broadcast => exact ⟨none, rfl⟩

/-- A thread inside a queue call goes on. -/
theorem insideQueue_canStep {π : Type} (inside : QueuePc P → π) (resume : QueueReturn P → π)
    {q : QueuePc P} (hidle : q ≠ .idle) (hacquires : q.acquires = true → sh.queue.mutex = none)
    (hreleases : q.releases = true → sh.queue.mutex = some t) (g : π → SchedulerPc W P)
    (f : Thread W C → SchedulerPc W P) :
    ∃ choice out, choice.request = .none ∧
      insideQueue cfg t choice sh inside resume q = some out ∧
      ((schedulerProgram cfg).applyEffects (Function.update f t (g out.2.1)) out.2.2).isSome
        = true := by
  have hrun : (∀ op r, q ≠ .returned op r) → ∃ choice out, choice.request = .none ∧
      insideQueue cfg t choice sh inside resume q = some out ∧
      ((schedulerProgram cfg).applyEffects (Function.update f t (g out.2.1)) out.2.2).isSome
        = true := by
    intro hreturned
    obtain ⟨queue, q', fx, hfx, hact⟩ := queueAct_woken cfg.queue hidle hacquires hreleases
    obtain ⟨woken, hpossible⟩ := hfx.possible cfg (Function.update f t (g (inside q')))
    refine ⟨{ woken }, ({ sh with queue }, inside q', (fx woken).map (Effect.lift .queue)), rfl, ?_,
      hpossible⟩
    have hinside : insideQueue cfg t { woken } sh inside resume q
        = (queueAct cfg.queue t { woken, waitSucceeds := true } sh.queue q).map fun out =>
          ({ sh with queue := out.1 }, inside out.2.1, out.2.2.map (Effect.lift .queue)) := by
      cases q with
      | returned op r => exact absurd rfl (hreturned op r)
      | _ => rfl
    rw [hinside, hact]
    rfl
  cases q with
  | returned op r => exact ⟨{}, _, rfl, rfl, rfl⟩
  | _ => exact hrun (by simp)

/-- What a step of thread `t` at `pc` needs of the mutexes. -/
def Granted (sh : Scheduler W C P) (t : Thread W C) (pc : SchedulerPc W P) : Prop :=
  (∀ m, pc.acquires = some m → sh.owner m = none) ∧ ∀ m, pc.releases = some m → sh.owner m = some t

/-- What a capture needs of the worker domain. -/
def CallPc.Grounded (sh : Scheduler W C P) : CallPc P → Prop
  | .captureWorkerLock _ => sh.worker.mutexInitialized = true
  | .captureLoad _ index _ => sh.worker.workerContexts.isSome = true ∧ index < W
  | _ => True

/-- A submission or a capture goes on. -/
theorem callAct_canStep {pc : CallPc P} (hinside : pc.inside = true)
    (hgranted : Granted sh t (.call pc)) (hoperation : pc.queue.operation = pc.operation)
    (hgrounded : pc.Grounded sh) (g : CallPc P → SchedulerPc W P)
    (f : Thread W C → SchedulerPc W P) :
    ∃ choice out, choice.request = .none ∧ callAct cfg t choice sh pc = some out ∧
      ((schedulerProgram cfg).applyEffects (Function.update f t (g out.2.1)) out.2.2).isSome
        = true := by
  obtain ⟨hacquires, hreleases⟩ := hgranted
  cases pc with
  | idle => cases hinside
  | submitted r => cases hinside
  | captured snapshot => cases hinside
  | registerLock kind task => exact ⟨{}, _, rfl, if_pos (hacquires .lifecycle rfl), rfl⟩
  | registerUnlock kind task r => exact ⟨{}, _, rfl, if_pos (hreleases .lifecycle rfl), rfl⟩
  -- inside the queue the queue's own steps go on
  | enqueue kind task q =>
    have hidle : q ≠ .idle := by
      rintro rfl
      cases hoperation
    exact insideQueue_canStep cfg _ _ hidle (fun h => hacquires .queue (if_pos h))
      (fun h => hreleases .queue (if_pos h)) g f
  | deregisterLock task r =>
    refine ⟨{}, ({ sh with lifecycle := (deregisterSubmitter (sh.lockLifecycle t).lifecycle r).1 },
      .deregisterUnlock task (deregisterSubmitter (sh.lockLifecycle t).lifecycle r).2.1,
      if (deregisterSubmitter (sh.lockLifecycle t).lifecycle r).2.2 then [.broadcast .lifecycle]
        else []), rfl, if_pos (hacquires .lifecycle rfl), ?_⟩
    generalize (deregisterSubmitter (sh.lockLifecycle t).lifecycle r).2.2 = broadcast
    cases broadcast <;> rfl
  | deregisterUnlock task r => exact ⟨{}, _, rfl, if_pos (hreleases .lifecycle rfl), rfl⟩
  | captureLifecycleLock => exact ⟨{}, _, rfl, if_pos (hacquires .lifecycle rfl), rfl⟩
  | captureLifecycleUnlock temporary workerSyncAvailable =>
    exact ⟨{}, _, rfl, if_pos (hreleases .lifecycle rfl), rfl⟩
  | captureWorkerLock temporary =>
    exact ⟨{}, _, rfl, if_pos ⟨hacquires .worker rfl, hgrounded⟩, rfl⟩
  -- the slots are there as long as the capture holds `worker_mutex`
  | captureLoad temporary index field =>
    obtain ⟨hcontexts, hindex⟩ := hgrounded
    obtain ⟨contexts, hcontexts⟩ := Option.isSome_iff_exists.mp hcontexts
    obtain ⟨pc', hact⟩ : ∃ pc', callAct cfg t {} sh (.captureLoad temporary index field)
        = some (sh, pc', []) := by
      simp only [callAct, hcontexts, dif_pos hindex]
      exact ⟨_, rfl⟩
    exact ⟨{}, _, rfl, hact, rfl⟩
  | captureWorkerUnlock temporary => exact ⟨{}, _, rfl, if_pos (hreleases .worker rfl), rfl⟩
  | captureQueue temporary q =>
    have hidle : q ≠ .idle := by
      rintro rfl
      cases hoperation
    exact insideQueue_canStep cfg _ _ hidle (fun h => hacquires .queue (if_pos h))
      (fun h => hreleases .queue (if_pos h)) g f

/-- A worker goes on. -/
theorem workerAct_canStep {i : Fin W} {pc : WorkerPc P} (hinside : pc.inside = true)
    (hgranted : Granted sh t (.worker i pc))
    (hoperation : (SchedulerPc.worker i pc).queue.operation = (SchedulerPc.worker i pc).operation)
    (hok : WorkerOk sh i pc) (hinit : sh.worker.mutexInitialized = true)
    (hgrounded : (SchedulerPc.worker i pc).toCall.Grounded sh) (f : Thread W C → SchedulerPc W P) :
    ∃ choice out, workerAct cfg i t choice sh pc = some out ∧
      ((schedulerProgram cfg).applyEffects (Function.update f t (.worker i out.2.1)) out.2.2).isSome
        = true := by
  -- a worker inside has its context
  have halive : pc.alive = true := by
    cases pc with
    | notCreated => cases hinside
    | finished r => cases hinside
    | _ => rfl
  have hsome : sh.worker.workerContexts.isSome = true := by
    obtain ⟨context, hcontext, -⟩ := hok.context halive
    obtain ⟨contexts, hcontexts, -⟩ := Option.map_eq_some_iff.mp hcontext
    rw [hcontexts]
    rfl
  obtain ⟨contexts, hcontexts⟩ := Option.isSome_iff_exists.mp hsome
  obtain ⟨hacquires, hreleases⟩ := hgranted
  cases pc with
  | notCreated => cases hinside
  | finished r => cases hinside
  | entry =>
    refine ⟨{}, ({ sh with
      worker := { sh.worker with
        mutex := some t
        activeWorkerCount := sh.worker.activeWorkerCount + 1
        readyWorkerCount := sh.worker.readyWorkerCount + 1 } }, .registerUnlock,
      [.broadcast .worker]), ?_, rfl⟩
    simp only [workerAct, hcontexts]
    rw [if_neg (hok.good_context halive hcontexts), if_pos ⟨hacquires .worker rfl, hinit⟩]
  | registerUnlock => exact ⟨{}, _, if_pos (hreleases .worker rfl), rfl⟩
  | dequeue q =>
    have hidle : q ≠ .idle := by
      rintro rfl
      cases hoperation
    obtain ⟨choice, out, -, hact, hfx⟩ := insideQueue_canStep cfg WorkerPc.dequeue
      afterDequeue hidle (fun h => hacquires .queue (if_pos h))
      (fun h => hreleases .queue (if_pos h)) (.worker i) f
    exact ⟨choice, out, hact, hfx⟩
  | accountDequeued task => exact ⟨{}, _, if_pos hsome, rfl⟩
  | accountStarted task => exact ⟨{}, _, if_pos hsome, rfl⟩
  | accountRunning task =>
    refine ⟨{}, (storeSlot i sh (fun context => (accountRunning context).1),
      .invoke task (accountRunning (contexts i)).2, []), ?_, rfl⟩
    simp only [workerAct, hcontexts]
  | invoke task runningAccounted => exact ⟨{}, _, rfl, rfl⟩
  -- inside a callback the call goes on, and what the callback does next is its own choice
  | callback task runningAccounted call =>
    obtain ⟨choice, out, hrequest, hact, hfx⟩ := callAct_canStep cfg
      (show call.inside = true from hinside) ⟨hacquires, hreleases⟩ hoperation hgrounded
      (fun call => .worker i (.callback task runningAccounted call)) f
    refine ⟨choice, (out.1, .callback task runningAccounted out.2.1, out.2.2), ?_, hfx⟩
    have hcall : workerAct cfg i t choice sh (.callback task runningAccounted call)
        = (callAct cfg t choice sh call).map fun out =>
          (out.1, .callback task runningAccounted out.2.1, out.2.2) := by
      cases call with
      | idle => cases hinside
      | _ => rfl
    rw [hcall, hact]
    rfl
  | accountResult runningAccounted succeeded => exact ⟨{}, _, if_pos hsome, rfl⟩
  | accountRunningDone => exact ⟨{}, _, if_pos hsome, rfl⟩
  | queueShutdown q r =>
    have hidle : q ≠ .idle := by
      rintro rfl
      cases hoperation
    obtain ⟨choice, out, -, hact, hfx⟩ := insideQueue_canStep cfg
      (fun q => WorkerPc.queueShutdown q r) (fun _ => .exitLock r) hidle
      (fun h => hacquires .queue (if_pos h)) (fun h => hreleases .queue (if_pos h)) (.worker i) f
    exact ⟨choice, out, hact, hfx⟩
  | exitLock r => exact ⟨{}, _, if_pos ⟨hacquires .worker rfl, hinit⟩, rfl⟩
  | exitUnlock r => exact ⟨{}, _, if_pos (hreleases .worker rfl), rfl⟩

/-- The loops of the lifecycle calls stay inside the worker arrays. -/
def ControllerPc.InRange (W : ℕ) : ControllerPc P → Prop
  | .createLock index | .releaseLock _ index _ _ _ | .releaseUnlock _ index _ _ _ => index < W
  | _ => True

theorem Crew.Releasable.started_le {c : Crew W} (h : c.Releasable) : c.startedWorkerCount ≤ W := by
  rcases h with hreleased | ⟨k, hpopulated⟩
  · exact hreleased.started.trans_le (Nat.zero_le W)
  · exact hpopulated.started.trans_le hpopulated.bounded

/-- There are slots to fold, or nothing to fold. -/
theorem foldWorkers_isSome {T : Type} {w : WorkerDomain W T}
    (h : w.workerContexts.isSome = true ∨ w.startedWorkerCount = 0) :
    ∃ w', foldWorkers w = some w' := by
  unfold foldWorkers
  cases hcontexts : w.workerContexts with
  | none =>
    rw [hcontexts] at h
    exact ⟨_, if_pos (h.resolve_left nofun)⟩
  | some contexts => exact ⟨_, rfl⟩

omit [DecidableEq C] [Fintype C] in
theorem Crew.Releasable.contexts_isSome (h : sh.crew.Releasable) :
    sh.worker.workerContexts.isSome = true ∨ sh.worker.startedWorkerCount = 0 := by
  rcases h with hreleased | ⟨k, hpopulated⟩
  · exact .inr hreleased.started
  · exact .inl hpopulated.contexts

/-- `release_workers` goes on at `index`, unless it joins a worker that has not finished. -/
theorem releaseWorker_canStep {caller : ReleaseCaller} {index : ℕ} (result : SchedulerResult)
    (allJoined : Bool) (hstarted : sh.worker.startedWorkerCount ≤ W)
    {f : Thread W C → SchedulerPc W P}
    (hawaits : ∀ i : Fin W, index = i → sh.crew.Holds i →
      ∃ r, f (.worker i) = .worker i (.finished r)) :
    ∃ choice out, releaseWorker cfg choice sh caller index result allJoined = some out ∧
      ((schedulerProgram cfg).applyEffects (Function.update f .controller (.controller out.2.1))
        out.2.2).isSome = true := by
  by_cases hindex : index < sh.worker.startedWorkerCount
  · have hW : index < W := Nat.lt_of_lt_of_le hindex hstarted
    cases hthreads : sh.worker.threads with
    | none =>
      refine ⟨{}, (sh, .releaseJoin caller (index + 1) result allJoined, []), ?_, rfl⟩
      simp only [releaseWorker, if_pos hindex, dif_pos hW, hthreads]
    | some threads =>
      cases hhandle : threads ⟨index, hW⟩ with
      | false =>
        refine ⟨{}, (sh, .releaseJoin caller (index + 1) result allJoined, []), ?_, rfl⟩
        simp only [releaseWorker, if_pos hindex, dif_pos hW, hthreads, hhandle, if_true]
      | true =>
        obtain ⟨r, hfinished⟩ := hawaits ⟨index, hW⟩ rfl ⟨hindex, threads, hthreads, hhandle⟩
        -- the join takes the result that the worker has finished with
        have hpossible : ∀ pc : ControllerPc P, ((schedulerProgram cfg).applyEffects
            (Function.update f .controller (.controller pc))
              [.await (.worker ⟨index, hW⟩) r]).isSome
              = true := by
          intro pc
          have hworker : (schedulerProgram (C := C) cfg).finished
              (Function.update f .controller (.controller pc) (.worker ⟨index, hW⟩)) = some r := by
            rw [Function.update_of_ne (show Thread.worker ⟨index, hW⟩ ≠ .controller from nofun),
              hfinished]
            rfl
          have hawait : (schedulerProgram cfg).applyEffect
              (Function.update f .controller (.controller pc)) (.await (.worker ⟨index, hW⟩) r)
                = some (Function.update f .controller (.controller pc)) := by
            exact if_pos hworker
          simp only [Program.applyEffects, hawait, Option.bind_some, Option.isSome_some]
        obtain ⟨sh', pc', hact⟩ : ∃ sh' pc',
            releaseWorker cfg { workerResult := r } sh caller index result allJoined
              = some (sh', pc', [.await (.worker ⟨index, hW⟩) r]) := by
          simp only [releaseWorker, if_pos hindex, dif_pos hW, hthreads, hhandle, backendOutcome,
            Bool.true_or, if_true, reduceCtorEq, if_false]
          split
          · exact ⟨_, _, rfl⟩
          · split <;> exact ⟨_, _, rfl⟩
        exact ⟨{ workerResult := r }, _, hact, hpossible pc'⟩
  · obtain ⟨pc', hact⟩ : ∃ pc', releaseWorker cfg {} sh caller index result allJoined
        = some (sh, pc', []) := by
      simp only [releaseWorker, if_neg hindex]
      split <;> exact ⟨_, rfl⟩
    exact ⟨{}, _, hact, rfl⟩

/-- A lifecycle call goes on. -/
theorem controllerAct_canStep {pc : ControllerPc P} (hinside : pc.inside = true)
    (hgranted : Granted sh .controller (.controller pc))
    (hoperation : (SchedulerPc.controller pc : SchedulerPc W P).queue.operation
      = (SchedulerPc.controller pc : SchedulerPc W P).operation)
    (hphase : (pc.phase W).Ok sh) (hrange : pc.InRange W) {f : Thread W C → SchedulerPc W P}
    (hspawn : ∀ i : Fin W, pc = .createLock i → f (.worker i) = .worker i .notCreated)
    (hawaits : ∀ i, (SchedulerPc.controller pc).Awaits sh i →
      ∃ r, f (.worker i) = .worker i (.finished r)) :
    ∃ choice out, controllerAct cfg choice sh pc = some out ∧
      ((schedulerProgram cfg).applyEffects (Function.update f .controller (.controller out.2.1))
        out.2.2).isSome = true := by
  obtain ⟨hacquires, hreleases⟩ := hgranted
  cases pc with
  | idle => cases hinside
  | returned call r => cases hinside
  | faultReturned configured => cases hinside
  | destroyFree => cases hinside
  | startLock =>
    by_cases hstate : sh.lifecycle.state ≠ .initialized
    · exact ⟨{}, _, (if_pos (hacquires .lifecycle rfl)).trans (if_pos hstate), rfl⟩
    · exact ⟨{}, _, (if_pos (hacquires .lifecycle rfl)).trans (if_neg hstate), rfl⟩
  | startUnlock accepted => exact ⟨{}, _, if_pos (hreleases .lifecycle rfl), rfl⟩
  -- a step that may fail can be taken either way
  | startAllocate =>
    obtain ⟨sh', pc', hact⟩ : ∃ sh' pc', controllerAct cfg {} sh .startAllocate
        = some (sh', pc', []) := by
      simp only [controllerAct]
      split
      · exact ⟨_, _, rfl⟩
      · split <;> exact ⟨_, _, rfl⟩
    exact ⟨{}, _, hact, rfl⟩
  | startSyncInit => exact ⟨{}, _, rfl, rfl⟩
  | startSyncLock => exact ⟨{}, _, if_pos (hacquires .lifecycle rfl), rfl⟩
  | startSyncUnlock => exact ⟨{}, _, if_pos (hreleases .lifecycle rfl), rfl⟩
  -- the phase says that `worker_mutex` was initialised
  | createLock index =>
    obtain ⟨-, -, ⟨-, hinit⟩, -⟩ := hphase
    have hact : controllerAct cfg {} sh (.createLock index)
        = some (createWorker cfg {} ⟨index, hrange⟩ sh) :=
      (if_pos ⟨hacquires .worker rfl, hinit⟩).trans (dif_pos hrange)
    refine ⟨{}, _, hact, ?_⟩
    unfold createWorker
    dsimp only
    split
    · rfl
    · -- the new thread has not been created before
      have hdormant : f (.worker ⟨index, hrange⟩) = .worker ⟨index, hrange⟩ .notCreated :=
        hspawn ⟨index, hrange⟩ rfl
      simp [Program.applyEffects, Program.applyEffect, hdormant, schedulerProgram]
  | createUnlock index created => exact ⟨{}, _, if_pos (hreleases .worker rfl), rfl⟩
  | readyLock =>
    obtain ⟨-, -, ⟨-, hinit⟩, -⟩ := hphase
    exact ⟨{}, _, if_pos ⟨hacquires .worker rfl, hinit⟩, rfl⟩
  | readyWait => exact ⟨{}, _, if_pos (hreleases .worker rfl), rfl⟩
  | readyAsleep => exact ⟨{}, _, rfl, rfl⟩
  | readyWoken =>
    obtain ⟨-, -, ⟨-, hinit⟩, -⟩ := hphase
    exact ⟨{}, _, if_pos ⟨hacquires .worker rfl, hinit⟩, rfl⟩
  | readyUnlock succeeded => exact ⟨{}, _, if_pos (hreleases .worker rfl), rfl⟩
  | runLock => exact ⟨{}, _, if_pos (hacquires .lifecycle rfl), rfl⟩
  | runUnlock => exact ⟨{}, _, if_pos (hreleases .lifecycle rfl), rfl⟩
  | abortQueue q =>
    have hidle : q ≠ .idle := by
      rintro rfl
      cases hoperation
    obtain ⟨choice, out, -, hact, hfx⟩ := insideQueue_canStep cfg ControllerPc.abortQueue
      (fun _ => .releaseJoin .abort 0 .ok true) hidle (fun h => hacquires .queue (if_pos h))
      (fun h => hreleases .queue (if_pos h)) .controller f
    exact ⟨choice, out, hact, hfx⟩
  -- the join can be taken once the worker has finished
  | releaseJoin caller index result allJoined =>
    obtain ⟨-, hreleasable, -⟩ := hphase
    exact releaseWorker_canStep cfg result allJoined hreleasable.started_le
      fun i hi hholds => hawaits i ⟨hi, hholds⟩
  | releaseLock caller index event result allJoined =>
    obtain ⟨-, -, ⟨-, hinit⟩, -⟩ := hphase
    exact ⟨{}, _, if_pos ⟨hacquires .worker rfl, hinit⟩, rfl⟩
  | releaseUnlock caller index event result allJoined =>
    exact ⟨{}, _, (if_pos (hreleases .worker rfl)).trans (dif_pos hrange), rfl⟩
  | foldLock caller result =>
    obtain ⟨-, hreleasable, ⟨-, hinit⟩, -⟩ := hphase
    obtain ⟨worker, hfold⟩ := foldWorkers_isSome (w := (sh.lockWorker .controller).worker)
      hreleasable.contexts_isSome
    refine ⟨{}, ({ sh with worker }, .foldUnlock caller result, []), ?_, rfl⟩
    refine (if_pos ⟨hacquires .worker rfl, hinit⟩).trans ?_
    rw [hfold]
    rfl
  | foldUnlock caller result => exact ⟨{}, _, if_pos (hreleases .worker rfl), rfl⟩
  | setStateLock state call r => exact ⟨{}, _, if_pos (hacquires .lifecycle rfl), rfl⟩
  | setStateUnlock call r => exact ⟨{}, _, if_pos (hreleases .lifecycle rfl), rfl⟩
  -- every state has its answer
  | shutdownLock =>
    obtain ⟨sh', pc', hact⟩ : ∃ sh' pc', controllerAct cfg {} sh .shutdownLock
        = some (sh', pc', []) := by
      simp only [controllerAct,
        if_pos (show sh.lifecycle.mutex = none from hacquires .lifecycle rfl)]
      cases sh.lifecycle.state <;> exact ⟨_, _, rfl⟩
    exact ⟨{}, _, hact, rfl⟩
  | shutdownUnlock answer => exact ⟨{}, _, if_pos (hreleases .lifecycle rfl), rfl⟩
  | shutdownQueue q =>
    have hidle : q ≠ .idle := by
      rintro rfl
      cases hoperation
    obtain ⟨choice, out, -, hact, hfx⟩ := insideQueue_canStep cfg ControllerPc.shutdownQueue
      (fun r => .drainLock (.shutdown (mapQueueShutdownResult r.result))) hidle
      (fun h => hacquires .queue (if_pos h)) (fun h => hreleases .queue (if_pos h)) .controller f
    exact ⟨choice, out, hact, hfx⟩
  | drainLock caller => exact ⟨{}, _, if_pos (hacquires .lifecycle rfl), rfl⟩
  | drainWait caller => exact ⟨{}, _, if_pos (hreleases .lifecycle rfl), rfl⟩
  | drainAsleep caller => exact ⟨{}, _, rfl, rfl⟩
  | drainWoken caller => exact ⟨{}, _, if_pos (hacquires .lifecycle rfl), rfl⟩
  | drainUnlock caller succeeded => exact ⟨{}, _, if_pos (hreleases .lifecycle rfl), rfl⟩
  | joinLock => exact ⟨{}, _, if_pos (hacquires .lifecycle rfl), rfl⟩
  | joinUnlock answer => exact ⟨{}, _, if_pos (hreleases .lifecycle rfl), rfl⟩
  | destroyLock => exact ⟨{}, _, if_pos (hacquires .lifecycle rfl), rfl⟩
  | destroyUnlock accepted => exact ⟨{}, _, if_pos (hreleases .lifecycle rfl), rfl⟩
  | faultLock call =>
    obtain ⟨sh', pc', hact⟩ : ∃ sh' pc', controllerAct cfg {} sh (.faultLock call)
        = some (sh', pc', []) := by
      simp only [controllerAct,
        if_pos (show sh.lifecycle.mutex = none from hacquires .lifecycle rfl)]
      cases call with
      | faultConfigure point triggerOccurrence =>
        by_cases hstate : sh.lifecycle.state = .initialized
        · simp only [if_pos hstate]
          exact ⟨_, _, rfl⟩
        · simp only [if_neg hstate]
          exact ⟨_, _, rfl⟩
      | _ => exact ⟨_, _, rfl⟩
    exact ⟨{}, _, hact, rfl⟩
  | faultUnlock configured => exact ⟨{}, _, if_pos (hreleases .lifecycle rfl), rfl⟩

end Steps

end SchedulingEngine
