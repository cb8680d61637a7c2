import SchedulingEngine.Scheduler.ExactlyOnce

/-!
# Lock discipline

The mutexes of the scheduler and of its queue are taken and given back by hand.
`SchedulerPc.acquires` and `SchedulerPc.releases` are the mutex that a thread is about to
take or to give back at its program counter, a condition wait giving its mutex back and
taking it again when it ends; `SchedulerStepSpec.owner` says that steps change an owner
at these counters only.

A thread takes a mutex only while it holds none, so it never holds two
(`SchedulerReachable.holds_one`), and wherever an operation returns its counter holds
none.
-/

namespace SchedulingEngine

open Concurrency

variable {W : ℕ} {C P : Type}

/-- The mutexes of a scheduler. -/
inductive SchedulerMutex where
  | queue
  | lifecycle
  | worker
  deriving DecidableEq, Repr

/-- Which thread holds the mutex. -/
def Scheduler.owner (sh : Scheduler W C P) : SchedulerMutex → Option (Thread W C)
  | .queue => sh.queue.mutex
  | .lifecycle => sh.lifecycle.mutex
  | .worker => sh.worker.mutex

/-- The counter lies inside a critical section of the mutex. -/
def SchedulerPc.holds (pc : SchedulerPc W P) : SchedulerMutex → Bool
  | .queue => pc.queue.holdsMutex
  | .lifecycle => pc.holdsLifecycle
  | .worker => pc.holdsWorker

/-! ## Where a mutex is taken and given back -/

/-- The queue's mutex is taken by `sched_mutex_lock` and at the end of a wait. -/
def QueuePc.acquires : QueuePc P → Bool
  | .lock _ | .woken _ => true
  | _ => false

/-- It is given back by `sched_mutex_unlock` and by a wait. -/
def QueuePc.releases : QueuePc P → Bool
  | .wait _ | .unlock _ _ => true
  | _ => false

/-- Where a call locks; the queue's mutex is locked inside the queue. -/
def CallPc.acquires : CallPc P → Option SchedulerMutex
  | .registerLock _ _ | .deregisterLock _ _ | .captureLifecycleLock => some .lifecycle
  | .captureWorkerLock _ => some .worker
  | .enqueue _ _ q | .captureQueue _ q => if q.acquires then some .queue else none
  | _ => none

/-- Where a call has to unlock. -/
def CallPc.releases : CallPc P → Option SchedulerMutex
  | .registerUnlock _ _ _ | .deregisterUnlock _ _ | .captureLifecycleUnlock _ _ => some .lifecycle
  | .captureWorkerUnlock _ => some .worker
  | .enqueue _ _ q | .captureQueue _ q => if q.releases then some .queue else none
  | _ => none

/-- Where a worker locks. -/
def WorkerPc.acquires : WorkerPc P → Option SchedulerMutex
  | .entry | .exitLock _ => some .worker
  | .dequeue q | .queueShutdown q _ => if q.acquires then some .queue else none
  | .callback _ _ call => call.acquires
  | _ => none

/-- Where a worker has to unlock. -/
def WorkerPc.releases : WorkerPc P → Option SchedulerMutex
  | .registerUnlock | .exitUnlock _ => some .worker
  | .dequeue q | .queueShutdown q _ => if q.releases then some .queue else none
  | .callback _ _ call => call.releases
  | _ => none

/-- Where the controller locks. -/
def ControllerPc.acquires : ControllerPc P → Option SchedulerMutex
  | .startLock | .startSyncLock | .runLock | .setStateLock _ _ _ | .shutdownLock | .drainLock _
  | .drainWoken _ | .joinLock | .destroyLock | .faultLock _ => some .lifecycle
  | .createLock _ | .readyLock | .readyWoken | .releaseLock _ _ _ _ _ | .foldLock _ _ =>
    some .worker
  | .abortQueue q | .shutdownQueue q => if q.acquires then some .queue else none
  | _ => none

/-- Where the controller has to unlock or to wait. -/
def ControllerPc.releases : ControllerPc P → Option SchedulerMutex
  | .startUnlock _ | .startSyncUnlock | .runUnlock | .setStateUnlock _ _ | .shutdownUnlock _
  | .drainWait _ | .drainUnlock _ _ | .joinUnlock _ | .destroyUnlock _ | .faultUnlock _ =>
    some .lifecycle
  | .createUnlock _ _ | .readyWait | .readyUnlock _ | .releaseUnlock _ _ _ _ _ | .foldUnlock _ _ =>
    some .worker
  | .abortQueue q | .shutdownQueue q => if q.releases then some .queue else none
  | _ => none

/-- The mutex that the thread is about to take. -/
def SchedulerPc.acquires : SchedulerPc W P → Option SchedulerMutex
  | .call pc => pc.acquires
  | .worker _ pc => pc.acquires
  | .controller pc => pc.acquires

/-- The mutex that the thread is about to give back. -/
def SchedulerPc.releases : SchedulerPc W P → Option SchedulerMutex
  | .call pc => pc.releases
  | .worker _ pc => pc.releases
  | .controller pc => pc.releases

/-- What a step may do to the owner of a mutex. -/
inductive OwnerMove (t : Thread W C) (sh sh' : Scheduler W C P) (m : SchedulerMutex) :
    Option SchedulerMutex → Option SchedulerMutex → Prop where
  | keep {acquires releases : Option SchedulerMutex} (h : sh'.owner m = sh.owner m) :
      OwnerMove t sh sh' m acquires releases
  | take {releases : Option SchedulerMutex} (hfree : sh.owner m = none)
      (h : sh'.owner m = some t) : OwnerMove t sh sh' m (some m) releases
  | give {acquires : Option SchedulerMutex} (hheld : sh.owner m = some t)
      (h : sh'.owner m = none) : OwnerMove t sh sh' m acquires (some m)

namespace OwnerMove

variable {t : Thread W C} {sh sh' : Scheduler W C P} {acquires releases : Option SchedulerMutex}
  {m : SchedulerMutex}

/-- A lock of `lifecycle_mutex` leaves the other two mutexes alone. -/
theorem lifecycleTaken (hfree : sh.lifecycle.mutex = none) (h : sh'.lifecycle.mutex = some t)
    (hqueue : sh'.queue = sh.queue) (hworker : sh'.worker.mutex = sh.worker.mutex) :
    OwnerMove t sh sh' m (some .lifecycle) releases := by
  cases m with
  | queue => exact .keep (congrArg ConcurrentTaskQueue.mutex hqueue)
  | lifecycle => exact .take hfree h
  | worker => exact .keep hworker

/-- So does its unlock. -/
theorem lifecycleGiven (hheld : sh.lifecycle.mutex = some t) (h : sh'.lifecycle.mutex = none)
    (hqueue : sh'.queue = sh.queue) (hworker : sh'.worker.mutex = sh.worker.mutex) :
    OwnerMove t sh sh' m acquires (some .lifecycle) := by
  cases m with
  | queue => exact .keep (congrArg ConcurrentTaskQueue.mutex hqueue)
  | lifecycle => exact .give hheld h
  | worker => exact .keep hworker

/-- A lock of `worker_mutex` leaves the other two mutexes alone. -/
theorem workerTaken (hfree : sh.worker.mutex = none) (h : sh'.worker.mutex = some t)
    (hqueue : sh'.queue = sh.queue) (hlifecycle : sh'.lifecycle = sh.lifecycle) :
    OwnerMove t sh sh' m (some .worker) releases := by
  cases m with
  | queue => exact .keep (congrArg ConcurrentTaskQueue.mutex hqueue)
  | lifecycle => exact .keep (congrArg LifecycleDomain.mutex hlifecycle)
  | worker => exact .take hfree h

/-- So does its unlock. -/
theorem workerGiven (hheld : sh.worker.mutex = some t) (h : sh'.worker.mutex = none)
    (hqueue : sh'.queue = sh.queue) (hlifecycle : sh'.lifecycle = sh.lifecycle) :
    OwnerMove t sh sh' m acquires (some .worker) := by
  cases m with
  | queue => exact .keep (congrArg ConcurrentTaskQueue.mutex hqueue)
  | lifecycle => exact .keep (congrArg LifecycleDomain.mutex hlifecycle)
  | worker => exact .give hheld h

/-- A step that leaves all three owners. -/
theorem none (hqueue : sh'.queue = sh.queue) (hlifecycle : sh'.lifecycle = sh.lifecycle)
    (hworker : sh'.worker.mutex = sh.worker.mutex) :
    OwnerMove t sh sh' m acquires releases := by
  cases m with
  | queue => exact .keep (congrArg ConcurrentTaskQueue.mutex hqueue)
  | lifecycle => exact .keep (congrArg LifecycleDomain.mutex hlifecycle)
  | worker => exact .keep hworker

end OwnerMove

section Steps

variable [DecidableEq C] {cfg : SchedulerConfig W} {t : Thread W C}
  {choice : SchedulerChoice W C P} {sh : Scheduler W C P}

/-- A step of the queue takes or gives its mutex where its counter says so. -/
theorem QueueStepSpec.mutex {T : Type} {cfg : QueueConfig} {t : T} {choice : QueueChoice T P}
    {q : ConcurrentTaskQueue T P} {f : ClosableFifo P} {pc : QueuePc P} {out : QueueSection T P}
    (h : QueueStepSpec cfg t choice q f pc out) :
    out.1.mutex = q.mutex ∨ (pc.acquires = true ∧ q.mutex = none ∧ out.1.mutex = some t) ∨
      (pc.releases = true ∧ q.mutex = some t ∧ out.1.mutex = none) := by
  cases h with
  | enter hmutex henter hspec =>
    refine .inr (.inl ⟨?_, hmutex, hspec.mutex.1.trans henter.mutex.1⟩)
    cases henter <;> rfl
  | waitFailed w hfail hmutex => exact .inr (.inl ⟨rfl, hmutex, by simp⟩)
  | sleep w hmutex => exact .inr (.inr ⟨rfl, hmutex, rfl⟩)
  | unlock op r hmutex => exact .inr (.inr ⟨rfl, hmutex, rfl⟩)
  | _ => exact .inl rfl

/-- Inside the queue only the queue's mutex changes hands. -/
theorem InsideQueueSpec.owner {π : Type} {inside : QueuePc P → π} {resume : QueueReturn P → π}
    {q : QueuePc P} {f : ClosableFifo P} {out : SchedulerStep W C P π}
    (h : InsideQueueSpec cfg t choice sh inside resume q out) (habs : Abstracts sh.queue f)
    (m : SchedulerMutex) :
    OwnerMove t sh out.1 m (if q.acquires then some .queue else none)
      (if q.releases then some .queue else none) := by
  cases h with
  | leave op r => exact .keep rfl
  | run hact hq =>
    cases m with
    | queue =>
      rcases (queueAct_spec habs hact).mutex with hsame | ⟨hacquires, hfree, htaken⟩ |
        ⟨hreleases, hheld, hgiven⟩
      · exact .keep hsame
      · rw [if_pos hacquires]
        exact .take hfree htaken
      · rw [if_pos hreleases]
        exact .give hheld hgiven
    | _ => exact .keep rfl

/-- A call locks and unlocks where it says it does. -/
theorem CallStepSpec.owner {pc : CallPc P} {f : ClosableFifo P}
    {out : SchedulerStep W C P (CallPc P)} (h : CallStepSpec cfg t choice sh pc out)
    (habs : Abstracts sh.queue f) (m : SchedulerMutex) :
    OwnerMove t sh out.1 m pc.acquires pc.releases := by
  cases h with
  | register kind task hfree => exact .lifecycleTaken hfree (registerSubmitter_mutex _) rfl rfl
  | registered kind task hheld => exact .lifecycleGiven hheld rfl rfl rfl
  | rejected kind task r hr hheld => exact .lifecycleGiven hheld rfl rfl rfl
  | enqueue kind task hq => exact hq.owner habs m
  | deregister task r hfree => exact .lifecycleTaken hfree (deregisterSubmitter_mutex _ _) rfl rfl
  | deregistered task r hheld => exact .lifecycleGiven hheld rfl rfl rfl
  | captureLifecycle hfree => exact .lifecycleTaken hfree rfl rfl rfl
  | captureNoWorkers temporary hheld => exact .lifecycleGiven hheld rfl rfl rfl
  | captureLifecycleDone temporary hheld => exact .lifecycleGiven hheld rfl rfl rfl
  | captureWorker temporary hfree hinit hstarted => exact .workerTaken hfree rfl rfl rfl
  | captureNoSlots temporary hfree hinit hstarted => exact .workerTaken hfree rfl rfl rfl
  | captureWorkerDone temporary hheld => exact .workerGiven hheld rfl rfl rfl
  | captureQueue temporary hq => exact hq.owner habs m
  | _ => exact .keep rfl

/-- So does a worker. -/
theorem WorkerStepSpec.owner {i : Fin W} {pc : WorkerPc P} {f : ClosableFifo P}
    {out : SchedulerStep W C P (WorkerPc P)} (h : WorkerStepSpec cfg t choice sh i pc out)
    (habs : Abstracts sh.queue f) (m : SchedulerMutex) :
    OwnerMove t sh out.1 m pc.acquires pc.releases := by
  cases h with
  | register hcontexts hfree hinit => exact .workerTaken hfree rfl rfl rfl
  | registered hheld => exact .workerGiven hheld rfl rfl rfl
  | dequeue hq => exact hq.owner habs m
  | call task runningAccounted hcall => exact hcall.owner habs m
  | queueShutdown r hq => exact hq.owner habs m
  | exit r hfree hinit => exact .workerTaken hfree (recordWorkerExit_mutex _ _) rfl rfl
  | exited r hheld => exact .workerGiven hheld rfl rfl rfl
  | _ => exact .none rfl rfl rfl

/-- And so does the controller. -/
theorem ControllerStepSpec.owner {pc : ControllerPc P} {f : ClosableFifo P}
    {out : SchedulerStep W C P (ControllerPc P)} (h : ControllerStepSpec cfg choice sh pc out)
    (habs : Abstracts sh.queue f) (m : SchedulerMutex) :
    OwnerMove .controller sh out.1 m pc.acquires pc.releases := by
  cases h with
  | allocationFailed sh' hsh hfail =>
    exact .none (by rw [hsh]; rfl) (by rw [hsh]; rfl) (by rw [hsh]; rfl)
  | allocated sh' hsh hthreads hcontexts =>
    exact .none (by rw [hsh]; rfl) (by rw [hsh]; rfl) (by rw [hsh]; rfl)
  | abortQueue hq => exact hq.owner habs m
  | releaseLock caller index event result allJoined hfree hinit =>
    exact .workerTaken hfree (recordJoin_mutex _ _) rfl rfl
  | fold caller result worker hfree hinit hfold =>
    exact .workerTaken hfree (foldWorkers_mutex hfold) rfl rfl
  | shutdownQueue hq => exact hq.owner habs m
  -- every other step takes one mutex, gives one back, or leaves them all
  | _ =>
    first
    | exact .none rfl rfl rfl
    | exact .lifecycleTaken (by assumption) rfl rfl rfl
    | exact .lifecycleGiven (by assumption) rfl rfl rfl
    | exact .workerTaken (by assumption) rfl rfl rfl
    | exact .workerGiven (by assumption) rfl rfl rfl

/-- **A step changes the owner of a mutex only where its counter takes it or gives it
back.** -/
theorem SchedulerStepSpec.owner {pc : SchedulerPc W P} {f : ClosableFifo P}
    {out : SchedulerStep W C P (SchedulerPc W P)} (h : SchedulerStepSpec cfg choice sh t pc out)
    (habs : Abstracts sh.queue f) (m : SchedulerMutex) :
    OwnerMove t sh out.1 m pc.acquires pc.releases := by
  cases h with
  | call c h => exact h.owner habs m
  | worker i h => exact h.owner habs m
  | controller h => exact h.owner habs m

end Steps

/-! ## Critical sections -/

/-- The mutex whose critical section the counter lies in. -/
def CallPc.holding : CallPc P → Option SchedulerMutex
  | .captureLoad _ _ _ => some .worker
  | pc => pc.releases

/-- What a worker holds: in the callback, what the callback's call holds. -/
def WorkerPc.holding : WorkerPc P → Option SchedulerMutex
  | .callback _ _ call => call.holding
  | pc => pc.releases

/-- What a thread holds, in its place in the code. -/
def SchedulerPc.holding : SchedulerPc W P → Option SchedulerMutex
  | .call pc => pc.holding
  | .worker _ pc => pc.holding
  | .controller pc => pc.releases

/-- Inside the queue the mutex is held exactly where it is about to be given back. -/
theorem QueuePc.holdsMutex_eq_releases (q : QueuePc P) : q.holdsMutex = q.releases := by
  cases q <;> rfl

theorem QueuePc.holding_iff (q : QueuePc P) (m : SchedulerMutex) :
    (if q.releases then some SchedulerMutex.queue else none) = some m ↔
      m = .queue ∧ q.holdsMutex = true := by
  rw [q.holdsMutex_eq_releases]
  cases q.releases <;> cases m <;> decide

/-- The tables of a counter agree at one mutex. -/
theorem holding_of_eq {holds : Bool} {held : Option SchedulerMutex} {m : SchedulerMutex}
    (h : holds = decide (held = some m)) : holds = true ↔ held = some m := by
  rw [h, decide_eq_true_iff]

/-- What a call holds is what the invariants of the three mutexes say it holds. -/
theorem CallPc.holding_iff (pc : CallPc P) (m : SchedulerMutex) :
    (SchedulerPc.call pc : SchedulerPc W P).holds m = true ↔ pc.holding = some m := by
  cases pc with
  | enqueue kind task q =>
    refine Iff.trans ?_ (q.holding_iff m).symm
    cases m <;>
      simp [SchedulerPc.holds, SchedulerPc.queue, CallPc.queue, SchedulerPc.holdsLifecycle,
      SchedulerPc.holdsWorker, CallPc.holdsLifecycle, CallPc.holdsWorker]
  | captureQueue temporary q =>
    refine Iff.trans ?_ (q.holding_iff m).symm
    cases m <;>
      simp [SchedulerPc.holds, SchedulerPc.queue, CallPc.queue, SchedulerPc.holdsLifecycle,
      SchedulerPc.holdsWorker, CallPc.holdsLifecycle, CallPc.holdsWorker]
  | _ => cases m <;> exact holding_of_eq rfl

/-- The same for a worker. -/
theorem WorkerPc.holding_iff (i : Fin W) (pc : WorkerPc P) (m : SchedulerMutex) :
    (SchedulerPc.worker i pc).holds m = true ↔ pc.holding = some m := by
  cases pc with
  | dequeue q =>
    refine Iff.trans ?_ (q.holding_iff m).symm
    cases m <;> simp [SchedulerPc.holds, SchedulerPc.queue, WorkerPc.queue,
      SchedulerPc.holdsLifecycle, SchedulerPc.holdsWorker, WorkerPc.holdsWorker]
  | queueShutdown q r =>
    refine Iff.trans ?_ (q.holding_iff m).symm
    cases m <;> simp [SchedulerPc.holds, SchedulerPc.queue, WorkerPc.queue,
      SchedulerPc.holdsLifecycle, SchedulerPc.holdsWorker, WorkerPc.holdsWorker]
  | callback task runningAccounted call =>
    refine Iff.trans ?_ (CallPc.holding_iff (W := W) call m)
    cases m <;> exact Iff.rfl
  | _ => cases m <;> exact holding_of_eq rfl

/-- And for the controller, which holds a mutex only where it releases one. -/
theorem ControllerPc.holding_iff (pc : ControllerPc P) (m : SchedulerMutex) :
    (SchedulerPc.controller pc : SchedulerPc W P).holds m = true ↔ pc.releases = some m := by
  cases pc with
  | abortQueue q =>
    refine Iff.trans ?_ (q.holding_iff m).symm
    cases m <;> simp [SchedulerPc.holds, SchedulerPc.queue, ControllerPc.queue,
      SchedulerPc.holdsLifecycle, SchedulerPc.holdsWorker, ControllerPc.holdsLifecycle,
      ControllerPc.holdsWorker]
  | shutdownQueue q =>
    refine Iff.trans ?_ (q.holding_iff m).symm
    cases m <;> simp [SchedulerPc.holds, SchedulerPc.queue, ControllerPc.queue,
      SchedulerPc.holdsLifecycle, SchedulerPc.holdsWorker, ControllerPc.holdsLifecycle,
      ControllerPc.holdsWorker]
  | _ => cases m <;> exact holding_of_eq rfl

/-- **Every counter lies in one critical section at most.** -/
theorem SchedulerPc.holding_iff (pc : SchedulerPc W P) (m : SchedulerMutex) :
    pc.holds m = true ↔ pc.holding = some m := by
  cases pc with
  | call pc => exact pc.holding_iff m
  | worker i pc => exact pc.holding_iff i m
  | controller pc => exact pc.holding_iff m

/-- A mutex is given back inside its own critical section. -/
theorem SchedulerPc.holding_of_releases {pc : SchedulerPc W P} {m : SchedulerMutex}
    (h : pc.releases = some m) : pc.holding = some m := by
  have hcall : ∀ call : CallPc P, call.releases = some m → call.holding = some m := by
    intro call h
    cases call with
    | captureLoad temporary index field => cases h
    | _ => exact h
  cases pc with
  | call pc => exact hcall pc h
  | worker i pc =>
    cases pc with
    | callback task runningAccounted call => exact hcall call h
    | _ => exact h
  | controller pc => exact h

/-- No place in the queue both locks and unlocks. -/
theorem QueuePc.releases_of_acquires {q : QueuePc P} (h : q.acquires = true) :
    q.releases = false := by
  cases q <;> first | rfl | cases h

/-- **A mutex is taken outside every critical section.** -/
theorem SchedulerPc.holding_of_acquires {pc : SchedulerPc W P} {m : SchedulerMutex}
    (h : pc.acquires = some m) : pc.holding = none := by
  have hqueue : ∀ q : QueuePc P, (if q.acquires then some SchedulerMutex.queue else none) = some m →
      (if q.releases then some SchedulerMutex.queue else none) = none := by
    intro q h
    cases hacquires : q.acquires with
    | false =>
      rw [hacquires] at h
      cases h
    | true => rw [QueuePc.releases_of_acquires hacquires, if_neg nofun]
  have hcall : ∀ call : CallPc P, call.acquires = some m → call.holding = none := by
    intro call h
    cases call with
    | enqueue kind task q => exact hqueue q h
    | captureQueue temporary q => exact hqueue q h
    | _ => first | rfl | cases h
  cases pc with
  | call pc => exact hcall pc h
  | worker i pc =>
    cases pc with
    | dequeue q => exact hqueue q h
    | queueShutdown q r => exact hqueue q h
    | callback task runningAccounted call => exact hcall call h
    | _ => first | rfl | cases h
  | controller pc =>
    cases pc with
    | abortQueue q => exact hqueue q h
    | shutdownQueue q => exact hqueue q h
    | _ => first | rfl | cases h

/-! ## Where no mutex is held -/

/-- The call, or a queue call inside it, has returned. -/
def CallPc.hasReturned : CallPc P → Bool
  | .idle | .submitted _ | .captured _ | .enqueue _ _ (.returned _ _)
  | .captureQueue _ (.returned _ _) => true
  | _ => false

/-- A worker that has not been created or has finished is outside of everything. -/
def WorkerPc.hasReturned : WorkerPc P → Bool
  | .notCreated | .finished _ | .dequeue (.returned _ _) | .queueShutdown (.returned _ _) _ => true
  | .callback _ _ call => call.hasReturned
  | _ => false

/-- `scheduler_destroy` gives its last mutex back before it frees the scheduler. -/
def ControllerPc.hasReturned : ControllerPc P → Bool
  | .idle | .returned _ _ | .faultReturned _ | .destroyFree | .abortQueue (.returned _ _)
  | .shutdownQueue (.returned _ _) => true
  | _ => false

/-- An operation of the thread has returned. -/
def SchedulerPc.hasReturned : SchedulerPc W P → Bool
  | .call pc => pc.hasReturned
  | .worker _ pc => pc.hasReturned
  | .controller pc => pc.hasReturned

/-- A callback is being invoked, or runs outside the scheduler's own functions. -/
def SchedulerPc.inCallback : SchedulerPc W P → Bool
  | .worker _ (.invoke _ _) | .worker _ (.callback _ _ .idle) => true
  | _ => false

/-- At `sched_thread_join`. -/
def SchedulerPc.atJoin : SchedulerPc W P → Bool
  | .controller (.releaseJoin _ _ _ _) => true
  | _ => false

/-- A call gives every mutex back before it returns. -/
theorem CallPc.holding_of_hasReturned {pc : CallPc P} (h : pc.hasReturned = true) :
    pc.holding = none := by
  cases pc with
  | enqueue kind task q => cases q <;> first | rfl | cases h
  | captureQueue temporary q => cases q <;> first | rfl | cases h
  | _ => first | rfl | cases h

/-- So does every operation of a thread. -/
theorem SchedulerPc.holding_of_hasReturned {pc : SchedulerPc W P} (h : pc.hasReturned = true) :
    pc.holding = none := by
  cases pc with
  | call pc => exact CallPc.holding_of_hasReturned h
  | worker i pc =>
    cases pc with
    | dequeue q => cases q <;> first | rfl | cases h
    | queueShutdown q r => cases q <;> first | rfl | cases h
    | callback task runningAccounted call =>
      have hcall : call.hasReturned = true := h
      exact CallPc.holding_of_hasReturned hcall
    | _ => first | rfl | cases h
  | controller pc =>
    cases pc with
    | abortQueue q => cases q <;> first | rfl | cases h
    | shutdownQueue q => cases q <;> first | rfl | cases h
    | _ => first | rfl | cases h

/-- The callback is invoked with no mutex held. -/
theorem SchedulerPc.holding_of_inCallback {pc : SchedulerPc W P} (h : pc.inCallback = true) :
    pc.holding = none := by
  cases pc with
  | worker i pc =>
    cases pc with
    | callback task runningAccounted call => cases call <;> first | rfl | cases h
    | _ => first | rfl | cases h
  | _ => cases h

/-- Workers are joined with no mutex held. -/
theorem SchedulerPc.holding_of_atJoin {pc : SchedulerPc W P} (h : pc.atJoin = true) :
    pc.holding = none := by
  cases pc with
  | controller pc => cases pc <;> first | rfl | cases h
  | _ => cases h

section Reachable

variable [DecidableEq C] [Fintype C] {cfg : SchedulerConfig W} {s s' : SchedulerPool W C P}

/-- A thread owns exactly the mutex whose critical section it is in. -/
theorem SchedulerReachable.owner_iff (h : SchedulerReachable cfg s) (u : Thread W C)
    (m : SchedulerMutex) : s.shared.owner m = some u ↔ (s.pc u).holding = some m := by
  rw [← SchedulerPc.holding_iff]
  cases m with
  | queue => exact h.threads.queue.inv.owned u
  | lifecycle => exact h.threads.lifecycle u
  | worker => exact h.threads.worker u

/-- Who holds nothing in its place in the code owns no mutex. -/
theorem SchedulerReachable.holds_none (h : SchedulerReachable cfg s) {u : Thread W C}
    (hnone : (s.pc u).holding = none) (m : SchedulerMutex) : s.shared.owner m ≠ some u := by
  rw [Ne, h.owner_iff, hnone]
  nofun

/-- And nobody owns two. -/
theorem SchedulerReachable.holds_one (h : SchedulerReachable cfg s) {u : Thread W C}
    {m m' : SchedulerMutex} (hm : s.shared.owner m = some u) (hm' : s.shared.owner m' = some u) :
    m = m' := by
  rw [h.owner_iff] at hm hm'
  exact Option.some.inj (hm.symm.trans hm')

end Reachable

/-- **Lock discipline**, of every thread around a scheduler and of every thread that uses
a queue of its own: one mutex at a time, none across a callback, a native join or a
return; a mutex is taken by a thread that does not hold it and given back by the one that
does, and no other step touches it. -/
theorem lock_discipline [DecidableEq C] [Fintype C] {cfg : SchedulerConfig W}
    {s : SchedulerPool W C P} (h : SchedulerReachable cfg s) {T : Type} [DecidableEq T] [Fintype T]
    {queueCfg : QueueConfig} {capacity : ℕ} {sq : QueuePool T P}
    (hq : QueueReachable queueCfg capacity sq) :
    (∀ u : Thread W C,
      (∀ m m', s.shared.owner m = some u → s.shared.owner m' = some u → m = m') ∧
      ((s.pc u).inCallback = true ∨ (s.pc u).atJoin = true ∨ (s.pc u).hasReturned = true →
        ∀ m, s.shared.owner m ≠ some u) ∧
      (∀ m, (s.pc u).acquires = some m → s.shared.owner m ≠ some u) ∧
      (∀ m, (s.pc u).releases = some m → s.shared.owner m = some u) ∧
      ∀ choice s' m, (schedulerProgram cfg).step u choice s = some s' →
        OwnerMove u s.shared s'.shared m (s.pc u).acquires (s.pc u).releases) ∧
    ∀ u : T,
      ((sq.pc u).acquires = true → sq.shared.mutex ≠ some u) ∧
      ((sq.pc u).releases = true → sq.shared.mutex = some u) ∧
      ((sq.pc u = .idle ∨ ∃ op r, sq.pc u = .returned op r) → sq.shared.mutex ≠ some u) := by
  constructor
  · intro u
    refine ⟨fun m m' hm hm' => h.holds_one hm hm', ?_, ?_, ?_, ?_⟩
    · rintro (hcallback | hjoin | hreturned)
      · exact h.holds_none (SchedulerPc.holding_of_inCallback hcallback)
      · exact h.holds_none (SchedulerPc.holding_of_atJoin hjoin)
      · exact h.holds_none (SchedulerPc.holding_of_hasReturned hreturned)
    · intro m hacquires
      exact h.holds_none (SchedulerPc.holding_of_acquires hacquires) m
    · intro m hreleases
      exact (h.owner_iff u m).mpr (SchedulerPc.holding_of_releases hreleases)
    · intro choice s' m hstep
      obtain ⟨pc, fx, hspec, -⟩ := h.threads.step_spec hstep
      obtain ⟨f, habs, -⟩ := h.threads.abstracts
      exact hspec.owner habs m
  · intro u
    have howned := hq.inv.owned u
    rw [QueuePc.holdsMutex_eq_releases] at howned
    refine ⟨?_, ?_, ?_⟩
    · intro hacquires
      rw [Ne, howned, QueuePc.releases_of_acquires hacquires]
      nofun
    · intro hreleases
      exact howned.mpr hreleases
    · intro hout
      rw [Ne, howned]
      rcases hout with hpc | ⟨op, r, hpc⟩
      · rw [hpc]
        nofun
      · rw [hpc]
        nofun

/-- The controller has taken `lifecycle_mutex` for `scheduler_start` and is about to give
it back. -/
theorem lock_discipline_starting :
    ∃ s : SchedulerPool 1 (Fin 2) ℕ, SchedulerReachable reliableConfig s ∧
      s.shared.owner .lifecycle = some .controller ∧
      s.shared.owner .worker ≠ some .controller := by
  obtain ⟨s, hreach, hobs⟩ := reachable_of_run (makes .controller (.lifecycle .start true) 1)
    (fun s => (s.pc .controller).releases) (v := some .lifecycle) (by decide +kernel)
  have hqueue : QueueReachable ⟨false, false⟩ 1 (queueInitial smallQueue : QueuePool (Fin 1) ℕ) :=
    ⟨smallQueue, by decide, .refl⟩
  obtain ⟨hone, -, -, hreleases, -⟩ := (lock_discipline hreach hqueue).1 .controller
  have hheld := hreleases .lifecycle hobs
  refine ⟨s, hreach, hheld, fun hworker => ?_⟩
  cases hone _ _ hheld hworker

end SchedulingEngine
