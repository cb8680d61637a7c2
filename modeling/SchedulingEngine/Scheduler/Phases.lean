import SchedulingEngine.Scheduler.Conservation

/-!
# The phases of a lifecycle call

What a lifecycle call can rely on at each of its program counters. `Crew` is the worker
arrays with their counts, which lifecycle calls alone write; `Phase` says how far a call
has come, and `Phase.Ok` what holds there of the state, the crew, the queue's flag and
the active submitters:

- `settled`: between the assignments of a call, and between calls. What holds then
  depends on `state` alone (`SettledIn`).
- `bare` to `ready`: inside `scheduler_start`, while the state is `STARTING`.
- `closing` to `drained`: inside `scheduler_shutdown`, and inside `scheduler_join` up to
  the end of its drain.
- `releasing`, `released`: inside `release_workers` and up to the next assignment.

`ControllerStepSpec.phase` takes a call from one phase to the next; `Phase.Ok.frame`
says that submitters and workers do not disturb it.
-/

namespace SchedulingEngine

open Concurrency

variable {W : ℕ} {C P : Type}

/-- The worker arrays and the counts of the workers in them. -/
structure Crew (W : ℕ) where
  threads : Option (Fin W → Bool)
  contexts : Bool
  startedWorkerCount : ℕ
  createdWorkerCount : ℕ

def Scheduler.crew (sh : Scheduler W C P) : Crew W where
  threads := sh.worker.threads
  contexts := sh.worker.workerContexts.isSome
  startedWorkerCount := sh.worker.startedWorkerCount
  createdWorkerCount := sh.worker.createdWorkerCount

namespace Crew

/-- As `scheduler_init` leaves it. -/
structure Empty (c : Crew W) : Prop where
  threads : c.threads = none
  contexts : c.contexts = false
  started : c.startedWorkerCount = 0
  created : c.createdWorkerCount = 0

/-- Arrays for the workers, `k` of them created. -/
structure Populated (k : ℕ) (c : Crew W) : Prop where
  threads : c.threads.isSome = true
  contexts : c.contexts = true
  started : c.startedWorkerCount = k
  created : c.createdWorkerCount = k
  bounded : k ≤ W

/-- The workers are joined and their arrays freed. -/
structure Released (c : Crew W) : Prop where
  threads : c.threads = none
  contexts : c.contexts = false
  started : c.startedWorkerCount = 0

/-- The workers are there to be joined, or gone. -/
def Releasable (c : Crew W) : Prop := c.Released ∨ ∃ k, c.Populated k

/-- The handles below `index` are destroyed. -/
def Gone (index : ℕ) (c : Crew W) : Prop :=
  ∀ threads, c.threads = some threads → ∀ i : Fin W, (i : ℕ) < index → threads i = false

end Crew

namespace Scheduler

variable (sh : Scheduler W C P)

def Closed : Prop := sh.queue.shutdownRequested = true

/-- `worker_mutex` exists (or not), and captures know it. -/
def Synchronized (initialized : Bool) : Prop :=
  sh.lifecycle.workerSyncInitialized = initialized ∧ sh.worker.mutexInitialized = initialized

/-- Nobody is registered. -/
def Quiet : Prop := sh.lifecycle.activeSubmitterCount = 0

/-- What holds in the given state between two assignments of it. -/
def SettledIn : SchedulerState → Prop
  | .initialized => sh.crew.Empty ∧ sh.Synchronized false ∧ ¬sh.Closed ∧ sh.Quiet
  | .starting => False
  | .running => sh.crew.Populated W ∧ sh.Synchronized true ∧ W ≤ sh.worker.readyWorkerCount
  | .shuttingDown => sh.crew.Populated W ∧ sh.Synchronized true ∧ sh.Closed
  | .stopped => sh.crew.Released ∧ sh.Synchronized true ∧ sh.Closed ∧ sh.Quiet
  | .failed => sh.crew.Releasable ∧ sh.Synchronized true ∧ sh.Closed ∧ sh.Quiet

def Settled : Prop := sh.SettledIn sh.lifecycle.state

/-- `scheduler_join` past its state check: the state has not been assigned again. -/
def Joinable : Prop :=
  (sh.lifecycle.state = .shuttingDown ∧ sh.crew.Populated W) ∨
    (sh.lifecycle.state = .failed ∧ sh.crew.Releasable ∧ sh.Quiet)

/-- The state under which `release_workers` is called. -/
def ReleasedBy : ReleaseCaller → Prop
  | .abort => sh.lifecycle.state = .starting
  | .join => sh.lifecycle.state = .shuttingDown ∨ sh.lifecycle.state = .failed

end Scheduler

/-- How far a lifecycle call has come. -/
inductive Phase where
  | settled
  | bare
  | allocated
  | synchronized
  | creating (k : ℕ)
  | ready
  | closing
  | draining (caller : DrainCaller)
  | drained (caller : DrainCaller)
  | aborting
  | releasing (caller : ReleaseCaller)
  | released (caller : ReleaseCaller)
  | impossible

/-- The drain of `scheduler_shutdown` or of `scheduler_join`. -/
def Scheduler.DrainedBy (sh : Scheduler W C P) : DrainCaller → Prop
  | .shutdown _ => sh.lifecycle.state = .shuttingDown ∧ sh.crew.Populated W
  | .join => sh.Joinable

/-- What holds in each phase. -/
def Phase.Ok (sh : Scheduler W C P) : Phase → Prop
  | .settled => sh.Settled
  | .bare =>
    sh.lifecycle.state = .starting ∧ sh.crew.Empty ∧ sh.Synchronized false ∧ ¬sh.Closed ∧ sh.Quiet
  | .allocated => sh.lifecycle.state = .starting ∧ sh.crew.Populated 0 ∧
      sh.Synchronized false ∧ ¬sh.Closed ∧ sh.Quiet
  | .synchronized => sh.lifecycle.state = .starting ∧ sh.crew.Populated 0 ∧
      sh.worker.mutexInitialized = true ∧ sh.Quiet
  | .creating k => sh.lifecycle.state = .starting ∧ sh.crew.Populated k ∧
      sh.Synchronized true ∧ sh.Quiet
  | .ready => sh.lifecycle.state = .starting ∧ sh.crew.Populated W ∧
      sh.Synchronized true ∧ sh.Quiet ∧ W ≤ sh.worker.readyWorkerCount
  | .closing => sh.lifecycle.state = .shuttingDown ∧ sh.crew.Populated W ∧
      sh.Synchronized true
  | .draining caller => sh.DrainedBy caller ∧ sh.Synchronized true ∧ sh.Closed
  | .drained caller => sh.DrainedBy caller ∧ sh.Synchronized true ∧ sh.Closed ∧ sh.Quiet
  | .aborting => sh.lifecycle.state = .starting ∧ (∃ k, sh.crew.Populated k) ∧
      sh.Synchronized true ∧ sh.Quiet
  | .releasing caller => sh.ReleasedBy caller ∧ sh.crew.Releasable ∧
      sh.Synchronized true ∧ sh.Closed ∧ sh.Quiet
  | .released caller => sh.ReleasedBy caller ∧ sh.crew.Released ∧
      sh.Synchronized true ∧ sh.Closed ∧ sh.Quiet
  | .impossible => False

/-- The phase of a program counter. -/
def ControllerPc.phase (W : ℕ) : ControllerPc P → Phase
  | .startUnlock true | .startAllocate => .bare
  | .startSyncInit => .allocated
  | .startSyncLock => .synchronized
  | .startSyncUnlock => .creating 0
  | .createLock index => .creating index
  | .createUnlock index created => .creating (if created then index + 1 else index)
  | .readyLock | .readyWait | .readyAsleep | .readyWoken | .readyUnlock false => .creating W
  | .readyUnlock true | .runLock => .ready
  | .abortQueue _ => .aborting
  | .releaseJoin caller _ _ _ | .releaseLock caller _ _ _ _ | .releaseUnlock caller _ _ _ _
  | .foldLock caller _ => .releasing caller
  | .foldUnlock caller _ => .released caller
  | .setStateLock .initialized .start _ => .bare
  | .setStateLock .failed .start _ => .releasing .abort
  | .setStateLock .failed .join _ => .releasing .join
  | .setStateLock .stopped .join _ => .released .join
  | .setStateLock _ _ _ => .impossible
  | .shutdownUnlock none | .shutdownQueue _ => .closing
  | .drainLock caller | .drainWait caller | .drainAsleep caller | .drainWoken caller
  | .drainUnlock caller false => .draining caller
  | .drainUnlock caller true => .drained caller
  | _ => .settled

/-- What `release_workers` knows about the handles it has been through. -/
def ControllerPc.HandlesGone (c : Crew W) : ControllerPc P → Prop
  | .releaseJoin _ index _ allJoined => allJoined = true → c.Gone index
  | .releaseLock _ index event _ allJoined | .releaseUnlock _ index event _ allJoined =>
    allJoined = true → event ≠ .nativeFailed ∧ c.Gone index
  | .foldLock _ _ => c.Gone c.startedWorkerCount
  | _ => True

/-! ## Submitters and workers do not disturb a lifecycle call -/

/-- What a step of a submitter or a worker may do to the data of a lifecycle call. -/
structure Frame (sh sh' : Scheduler W C P) : Prop where
  state : sh'.lifecycle.state = sh.lifecycle.state
  sync : sh'.lifecycle.workerSyncInitialized = sh.lifecycle.workerSyncInitialized
  mutex : sh'.worker.mutexInitialized = sh.worker.mutexInitialized
  crew : sh'.crew = sh.crew
  closed : sh.Closed → sh'.Closed
  opened : sh.worker.createdWorkerCount = 0 → sh'.Closed → sh.Closed
  ready : sh.worker.readyWorkerCount ≤ sh'.worker.readyWorkerCount
  quiet : sh.lifecycle.state ≠ .running → sh.Quiet → sh'.Quiet

namespace Frame

variable {sh sh' : Scheduler W C P}

theorem synchronized (h : Frame sh sh') {initialized : Bool} (hsync : sh.Synchronized initialized) :
    sh'.Synchronized initialized :=
  ⟨h.sync.trans hsync.1, h.mutex.trans hsync.2⟩

theorem settled (h : Frame sh sh') (hsettled : sh.Settled) : sh'.Settled := by
  unfold Scheduler.Settled at hsettled ⊢
  rw [h.state]
  have hquiet := h.quiet
  generalize sh.lifecycle.state = state at hsettled hquiet
  cases state with
  | initialized =>
    obtain ⟨hempty, hsync, hopen, hq⟩ := hsettled
    exact ⟨h.crew ▸ hempty, h.synchronized hsync, fun hc => hopen (h.opened hempty.created hc),
      hquiet (by simp) hq⟩
  | starting => exact hsettled
  | running =>
    obtain ⟨hpopulated, hsync, hready⟩ := hsettled
    exact ⟨h.crew ▸ hpopulated, h.synchronized hsync, hready.trans h.ready⟩
  | shuttingDown =>
    obtain ⟨hpopulated, hsync, hclosed⟩ := hsettled
    exact ⟨h.crew ▸ hpopulated, h.synchronized hsync, h.closed hclosed⟩
  | stopped =>
    obtain ⟨hreleased, hsync, hclosed, hq⟩ := hsettled
    exact ⟨h.crew ▸ hreleased, h.synchronized hsync, h.closed hclosed, hquiet (by simp) hq⟩
  | failed =>
    obtain ⟨hreleasable, hsync, hclosed, hq⟩ := hsettled
    exact ⟨h.crew ▸ hreleasable, h.synchronized hsync, h.closed hclosed, hquiet (by simp) hq⟩

theorem joinable (h : Frame sh sh') (hjoinable : sh.Joinable) : sh'.Joinable := by
  rcases hjoinable with ⟨hstate, hpopulated⟩ | ⟨hstate, hreleasable, hquiet⟩
  · exact .inl ⟨h.state.trans hstate, h.crew ▸ hpopulated⟩
  · exact .inr ⟨h.state.trans hstate, h.crew ▸ hreleasable, h.quiet (by simp [hstate]) hquiet⟩

theorem drainedBy (h : Frame sh sh') {caller : DrainCaller} (hdrain : sh.DrainedBy caller) :
    sh'.DrainedBy caller ∧ sh.lifecycle.state ≠ .running := by
  cases caller with
  | shutdown result =>
    obtain ⟨hstate, hpopulated⟩ := hdrain
    exact ⟨⟨h.state.trans hstate, h.crew ▸ hpopulated⟩, by simp [hstate]⟩
  | join =>
    refine ⟨h.joinable hdrain, ?_⟩
    rcases hdrain with ⟨hstate, -⟩ | ⟨hstate, -⟩ <;> simp [hstate]

theorem releasedBy (h : Frame sh sh') {caller : ReleaseCaller} (hrelease : sh.ReleasedBy caller) :
    sh'.ReleasedBy caller ∧ sh.lifecycle.state ≠ .running := by
  cases caller with
  | abort => exact ⟨h.state.trans hrelease, by simp [show _ = _ from hrelease]⟩
  | join =>
    rcases hrelease with hstate | hstate
    · exact ⟨.inl (h.state.trans hstate), by simp [hstate]⟩
    · exact ⟨.inr (h.state.trans hstate), by simp [hstate]⟩

/-- **A step of a submitter or a worker keeps the phase of a lifecycle call.** -/
theorem ok (h : Frame sh sh') {phase : Phase} (hok : phase.Ok sh) : phase.Ok sh' := by
  have hquiet : sh.lifecycle.state = .starting → sh.Quiet → sh'.Quiet :=
    fun hstate => h.quiet (by simp [hstate])
  cases phase with
  | settled => exact h.settled hok
  -- while the scheduler is starting nobody is inside, and the arrays are the controller's
  | bare =>
    obtain ⟨hstate, hempty, hsync, hopen, hq⟩ := hok
    exact ⟨h.state.trans hstate, h.crew ▸ hempty, h.synchronized hsync,
      fun hc => hopen (h.opened hempty.created hc), hquiet hstate hq⟩
  | allocated =>
    obtain ⟨hstate, hpopulated, hsync, hopen, hq⟩ := hok
    exact ⟨h.state.trans hstate, h.crew ▸ hpopulated, h.synchronized hsync,
      fun hc => hopen (h.opened hpopulated.created hc), hquiet hstate hq⟩
  | synchronized =>
    obtain ⟨hstate, hpopulated, hmutex, hq⟩ := hok
    exact ⟨h.state.trans hstate, h.crew ▸ hpopulated, h.mutex.trans hmutex,
      hquiet hstate hq⟩
  | creating k =>
    obtain ⟨hstate, hpopulated, hsync, hq⟩ := hok
    exact ⟨h.state.trans hstate, h.crew ▸ hpopulated, h.synchronized hsync, hquiet hstate hq⟩
  | ready =>
    obtain ⟨hstate, hpopulated, hsync, hq, hready⟩ := hok
    exact ⟨h.state.trans hstate, h.crew ▸ hpopulated, h.synchronized hsync, hquiet hstate hq,
      hready.trans h.ready⟩
  | closing =>
    obtain ⟨hstate, hpopulated, hsync⟩ := hok
    exact ⟨h.state.trans hstate, h.crew ▸ hpopulated, h.synchronized hsync⟩
  -- while submitters drain the queue is closed and stays closed
  | draining caller =>
    obtain ⟨hdrain, hsync, hclosed⟩ := hok
    exact ⟨(h.drainedBy hdrain).1, h.synchronized hsync, h.closed hclosed⟩
  | drained caller =>
    obtain ⟨hdrain, hsync, hclosed, hq⟩ := hok
    obtain ⟨hdrain', hstate⟩ := h.drainedBy hdrain
    exact ⟨hdrain', h.synchronized hsync, h.closed hclosed, h.quiet hstate hq⟩
  | aborting =>
    obtain ⟨hstate, hpopulated, hsync, hq⟩ := hok
    exact ⟨h.state.trans hstate, h.crew ▸ hpopulated, h.synchronized hsync, hquiet hstate hq⟩
  -- and once they have drained nobody comes in again
  | releasing caller =>
    obtain ⟨hrelease, hreleasable, hsync, hclosed, hq⟩ := hok
    obtain ⟨hrelease', hstate⟩ := h.releasedBy hrelease
    exact ⟨hrelease', h.crew ▸ hreleasable, h.synchronized hsync, h.closed hclosed,
      h.quiet hstate hq⟩
  | released caller =>
    obtain ⟨hrelease, hreleased, hsync, hclosed, hq⟩ := hok
    obtain ⟨hrelease', hstate⟩ := h.releasedBy hrelease
    exact ⟨hrelease', h.crew ▸ hreleased, h.synchronized hsync, h.closed hclosed,
      h.quiet hstate hq⟩
  | impossible => exact hok

end Frame

section Frames

variable [DecidableEq C] {cfg : SchedulerConfig W} {t : Thread W C}
  {choice : SchedulerChoice W C P} {sh : Scheduler W C P} {f : ClosableFifo P}

theorem registerSubmitter_frame {T : Type} (l : LifecycleDomain T) :
    (registerSubmitter l).1.state = l.state ∧
      (registerSubmitter l).1.workerSyncInitialized = l.workerSyncInitialized ∧
      (l.state ≠ .running →
        (registerSubmitter l).1.activeSubmitterCount = l.activeSubmitterCount) := by
  unfold registerSubmitter
  dsimp only
  split
  · exact ⟨rfl, rfl, fun _ => rfl⟩
  · rename_i hrunning
    exact ⟨rfl, rfl, fun hstate => absurd hstate hrunning⟩

theorem deregisterSubmitter_frame {T : Type} (l : LifecycleDomain T) (r : SchedulerResult) :
    (deregisterSubmitter l r).1.state = l.state ∧
      (deregisterSubmitter l r).1.workerSyncInitialized = l.workerSyncInitialized ∧
      (deregisterSubmitter l r).1.activeSubmitterCount ≤ l.activeSubmitterCount := by
  unfold deregisterSubmitter
  dsimp only
  split <;> split <;> exact ⟨rfl, rfl, by simp⟩

/-- `record_worker_exit` writes its own counters only. -/
theorem recordWorkerExit_frame {T : Type} (w : WorkerDomain W T) (r : WorkerResult) :
    ∃ active failures overflow failure, (recordWorkerExit w r).1 =
      { w with
        activeWorkerCount := active
        workerRuntimeFailureCount := failures
        accountingOverflow := overflow
        infrastructureFailure := failure } := by
  unfold recordWorkerExit
  dsimp only
  split <;> split <;> exact ⟨_, _, _, _, rfl⟩

omit [DecidableEq C] in
theorem Frame.refl (sh : Scheduler W C P) : Frame sh sh :=
  ⟨rfl, rfl, rfl, rfl, id, fun _ => id, Nat.le_refl _, fun _ => id⟩

/-- A step inside a queue call that does not close the queue. -/
theorem InsideQueueSpec.frame_open {π : Type} {inside : QueuePc P → π}
    {resume : QueueReturn P → π} {q : QueuePc P} {out : SchedulerStep W C P π}
    (h : InsideQueueSpec cfg t choice sh inside resume q out) (habs : Abstracts sh.queue f)
    (hop : sh.worker.createdWorkerCount = 0 → q.operation ≠ some .shutdown) : Frame sh out.1 := by
  cases h with
  | run hact hleave =>
    have hspec := queueAct_spec habs hact
    exact ⟨rfl, rfl, rfl, rfl, hspec.closed_stays, fun hcreated => hspec.opened (hop hcreated),
      Nat.le_refl _, fun _ => id⟩
  | leave op r => exact .refl sh

theorem SubmitKind.operation_ne_shutdown (kind : SubmitKind) (task : P) :
    (some (kind.operation task) : Option (QueueOperation P)) ≠ some .shutdown := by
  cases kind <;> simp [SubmitKind.operation]

/-- Submissions and captures. -/
theorem CallStepSpec.frame {pc : CallPc P} {out : SchedulerStep W C P (CallPc P)}
    (h : CallStepSpec cfg t choice sh pc out) (habs : Abstracts sh.queue f)
    (hoperation : pc.queue.operation = pc.operation) : Frame sh out.1 := by
  cases h with
  | register kind task hfree =>
    obtain ⟨hstate, hsync, hactive⟩ := registerSubmitter_frame (sh.lockLifecycle t).lifecycle
    exact ⟨hstate, hsync, rfl, rfl, id, fun _ => id, Nat.le_refl _,
      fun hrunning hquiet => (hactive hrunning).trans hquiet⟩
  | enqueue kind task hq =>
    exact hq.frame_open habs fun _ hshutdown =>
      kind.operation_ne_shutdown task (hoperation.symm.trans hshutdown)
  | deregister task r hfree =>
    obtain ⟨hstate, hsync, hactive⟩ := deregisterSubmitter_frame (sh.lockLifecycle t).lifecycle r
    exact ⟨hstate, hsync, rfl, rfl, id, fun _ => id, Nat.le_refl _,
      fun _ hquiet => Nat.le_zero.mp (hactive.trans (Nat.le_of_eq hquiet))⟩
  | captureQueue temporary hq =>
    refine hq.frame_open habs fun _ hshutdown => ?_
    cases hoperation.symm.trans hshutdown
  | _ => exact ⟨rfl, rfl, rfl, rfl, id, fun _ => id, Nat.le_refl _, fun _ => id⟩

omit [DecidableEq C] in
theorem storeSlot_crew (i : Fin W) (g : WorkerContext → WorkerContext) :
    (storeSlot i sh g).crew = sh.crew := by
  unfold Scheduler.crew storeSlot setContext
  dsimp only
  rw [Option.isSome_map]

/-- Workers, as long as there are any. -/
theorem WorkerStepSpec.frame {i : Fin W} {pc : WorkerPc P} {out : SchedulerStep W C P (WorkerPc P)}
    (h : WorkerStepSpec cfg t choice sh i pc out) (habs : Abstracts sh.queue f)
    (hoperation : (SchedulerPc.worker i pc).queue.operation = (SchedulerPc.worker i pc).operation)
    (hcreated : 0 < sh.worker.createdWorkerCount) : Frame sh out.1 := by
  have hcreated₀ : ¬sh.worker.createdWorkerCount = 0 := Nat.ne_of_gt hcreated
  have hstore : ∀ g, Frame sh (storeSlot i sh g) := fun g =>
    ⟨rfl, rfl, rfl, storeSlot_crew i g, id, fun _ => id, Nat.le_refl _, fun _ => id⟩
  cases h with
  | register hcontexts hfree hinit =>
    exact ⟨rfl, rfl, rfl, rfl, id, fun _ => id, Nat.le_succ _, fun _ => id⟩
  | dequeue hq => exact hq.frame_open habs fun hzero => absurd hzero hcreated₀
  | accountDequeued task hcontexts => exact hstore _
  | accountStarted task hcontexts => exact hstore _
  | accountRunning task contexts hcontexts => exact hstore _
  | call task runningAccounted hcall => exact hcall.frame habs hoperation
  | accountResult succeeded hcontexts => exact hstore _
  | accountResultOnly succeeded hcontexts => exact hstore _
  | accountRunningDone hcontexts => exact hstore _
  | queueShutdown r hq => exact hq.frame_open habs fun hzero => absurd hzero hcreated₀
  | exit r hfree hinit =>
    obtain ⟨active, failures, overflow, failure, hexit⟩ :=
      recordWorkerExit_frame (sh.lockWorker t).worker r
    dsimp only
    rw [hexit]
    exact ⟨rfl, rfl, rfl, rfl, id, fun _ => id, Nat.le_refl _, fun _ => id⟩
  | _ => exact ⟨rfl, rfl, rfl, rfl, id, fun _ => id, Nat.le_refl _, fun _ => id⟩

end Frames

/-! ## From phase to phase -/

section Phases

variable [DecidableEq C] {cfg : SchedulerConfig W} {choice : SchedulerChoice W C P}
  {sh : Scheduler W C P}

omit [DecidableEq C] in
theorem Scheduler.Settled.of_state {state : SchedulerState} (h : sh.Settled)
    (hstate : sh.lifecycle.state = state) : sh.SettledIn state := hstate ▸ h

omit [DecidableEq C] in
theorem Scheduler.settled_of_state {state : SchedulerState} (hstate : sh.lifecycle.state = state)
    (h : sh.SettledIn state) : sh.Settled := by
  unfold Scheduler.Settled
  rwa [hstate]

omit [DecidableEq C] in
theorem Scheduler.Joinable.releasable (h : sh.Joinable) :
    sh.ReleasedBy .join ∧ sh.crew.Releasable := by
  rcases h with ⟨hstate, hpopulated⟩ | ⟨hstate, hreleasable, -⟩
  · exact ⟨.inl hstate, .inr ⟨W, hpopulated⟩⟩
  · exact ⟨.inr hstate, hreleasable⟩

/-- Destroying a handle keeps the array. -/
theorem destroyThread_releasable {T : Type} {w : WorkerDomain W T} (i : Fin W)
    (h : Crew.Releasable ⟨w.threads, w.workerContexts.isSome, w.startedWorkerCount,
      w.createdWorkerCount⟩) :
    Crew.Releasable ⟨(destroyThread w i).threads, (destroyThread w i).workerContexts.isSome,
      (destroyThread w i).startedWorkerCount, (destroyThread w i).createdWorkerCount⟩ := by
  rcases h with hreleased | ⟨k, hpopulated⟩
  · refine .inl ⟨?_, hreleased.contexts, hreleased.started⟩
    show w.threads.map _ = none
    rw [show w.threads = none from hreleased.threads]
    rfl
  · exact .inr ⟨k, Option.isSome_map.trans hpopulated.threads, hpopulated.contexts,
      hpopulated.started, hpopulated.created, hpopulated.bounded⟩

omit [DecidableEq C] in
/-- The code after `release_workers` is left in a phase of it. -/
theorem afterRelease_phase {caller : ReleaseCaller} (result : SchedulerResult)
    (hok : (Phase.releasing caller).Ok sh) :
    ((afterRelease sh caller result : ControllerPc P).phase W).Ok sh := by
  cases caller with
  | abort => exact hok
  | join =>
    unfold afterRelease
    dsimp only
    split
    · exact hok
    · rename_i hthreads
      obtain ⟨hrelease, hreleasable, hsync, hclosed, hquiet⟩ := hok
      rcases hreleasable with hreleased | ⟨k, hpopulated⟩
      · exact ⟨hrelease, hreleased, hsync, hclosed, hquiet⟩
      · exact absurd hpopulated.threads hthreads

omit [DecidableEq C] in
/-- A drain found nobody registered, or goes on waiting. -/
theorem drainTest_phase (sh : Scheduler W C P) {caller : DrainCaller}
    (hok : (Phase.draining caller).Ok sh) :
    ((drainTest sh caller : ControllerPc P).phase W).Ok sh := by
  rcases drainTest_cases sh caller with ⟨hpc, -⟩ | ⟨hpc, hquiet⟩
  · rw [hpc]
    exact hok
  · rw [hpc]
    obtain ⟨hdrain, hsync, hclosed⟩ := hok
    exact ⟨hdrain, hsync, hclosed, hquiet⟩

omit [DecidableEq C] in
theorem readyTest_phase (sh : Scheduler W C P) (hok : (Phase.creating W).Ok sh) :
    ((readyTest sh : ControllerPc P).phase W).Ok sh := by
  rcases readyTest_cases sh with ⟨hpc, -⟩ | ⟨hpc, hready⟩
  · rw [hpc]
    exact hok
  · rw [hpc]
    obtain ⟨hstate, hpopulated, hsync, hquiet⟩ := hok
    exact ⟨hstate, hpopulated, hsync, hquiet, hready⟩

omit [DecidableEq C] in
theorem creating_contexts (i : Fin W) :
    (creating sh i).workerContexts.isSome = sh.worker.workerContexts.isSome :=
  Option.isSome_map

/-- **A lifecycle call goes from one phase to the next.** -/
theorem ControllerStepSpec.phase {pc : ControllerPc P} {out : SchedulerStep W C P (ControllerPc P)}
    (h : ControllerStepSpec cfg choice sh pc out)
    (hanswered : pc.queue.Answered sh.queue)
    (hoperation : (SchedulerPc.controller pc : SchedulerPc W P).queue.operation
      = (SchedulerPc.controller pc : SchedulerPc W P).operation)
    (hok : (pc.phase W).Ok sh) : (out.2.1.phase W).Ok out.1 := by
  cases h with
  | call call pc hcall =>
    rcases beginCall_quiet hcall with rfl | rfl | rfl | rfl | rfl <;> exact hok
  | start hfree hstate => exact ⟨rfl, hok.of_state hstate⟩
  | sizeGuard hsize => exact hok
  | allocationFailed sh' hsh =>
    subst hsh
    obtain ⟨hstate, hempty, hsync, hopen, hquiet⟩ := hok
    exact ⟨hstate, ⟨rfl, rfl, hempty.started, hempty.created⟩, hsync, hopen, hquiet⟩
  | allocated sh' hsh hthreads hcontexts =>
    subst hsh
    obtain ⟨hstate, hempty, hsync, hopen, hquiet⟩ := hok
    refine ⟨hstate, ⟨?_, ?_, hempty.started, hempty.created, Nat.zero_le W⟩, hsync, hopen, hquiet⟩
    · show (allocateWorkers cfg choice sh).worker.threads.isSome = true
      rw [hthreads]
      rfl
    · show (allocateWorkers cfg choice sh).worker.workerContexts.isSome = true
      rw [hcontexts]
      rfl
  | syncInit =>
    obtain ⟨hstate, hpopulated, hsync, hopen, hquiet⟩ := hok
    exact ⟨hstate, hpopulated, rfl, hquiet⟩
  | syncInitFailed mutexInitialized hmutex hfail =>
    obtain ⟨hstate, hpopulated, hsync, hopen, hquiet⟩ := hok
    have hdestroyed : mutexInitialized = false := by
      cases mutexInitialized with
      | false => rfl
      | true => exact (hmutex rfl).symm.trans hsync.2
    exact ⟨hstate, ⟨rfl, rfl, hpopulated.started, hpopulated.created⟩, ⟨hsync.1, hdestroyed⟩,
      hopen, hquiet⟩
  | syncLock hfree =>
    obtain ⟨hstate, hpopulated, hmutex, hquiet⟩ := hok
    exact ⟨hstate, hpopulated, ⟨rfl, hmutex⟩, hquiet⟩
  | createFailed i faultPlan hfree hinit hfail =>
    obtain ⟨hstate, hpopulated, hsync, hquiet⟩ := hok
    refine ⟨hstate, ⟨hpopulated.threads, ?_, hpopulated.started, hpopulated.created,
      hpopulated.bounded⟩, hsync, hquiet⟩
    exact (creating_contexts i).trans hpopulated.contexts
  | created i faultPlan hfree hinit =>
    obtain ⟨hstate, hpopulated, hsync, hquiet⟩ := hok
    refine ⟨hstate, ⟨?_, ?_, ?_, ?_, i.isLt⟩, hsync, hquiet⟩
    · exact Option.isSome_map.trans hpopulated.threads
    · exact (creating_contexts i).trans hpopulated.contexts
    · exact congrArg (· + 1) hpopulated.started
    · exact congrArg (· + 1) hpopulated.created
  | createFailedUnlock index hheld =>
    obtain ⟨hstate, hpopulated, hsync, hquiet⟩ := hok
    exact ⟨hstate, ⟨_, hpopulated⟩, hsync, hquiet⟩
  | createLast index hheld hindex =>
    obtain ⟨hstate, hpopulated, hsync, hquiet⟩ := hok
    have hlast : index + 1 = W := Nat.le_antisymm hpopulated.bounded hindex
    exact ⟨hstate, hlast ▸ hpopulated, hsync, hquiet⟩
  | readyLock hfree hinit => exact readyTest_phase (sh.lockWorker .controller) hok
  | readyAgain hfree hinit => exact readyTest_phase (sh.lockWorker .controller) hok
  | readyFailedUnlock hheld =>
    obtain ⟨hstate, hpopulated, hsync, hquiet⟩ := hok
    exact ⟨hstate, ⟨_, hpopulated⟩, hsync, hquiet⟩
  | run hfree =>
    obtain ⟨hstate, hpopulated, hsync, hquiet, hready⟩ := hok
    exact ⟨hpopulated, hsync, hready⟩
  | abortQueue hq =>
    cases hq with
    | run hact hleave => exact hok
    | leave op r =>
      obtain rfl : op = .shutdown := Option.some.inj hoperation
      obtain ⟨hstate, hpopulated, hsync, hquiet⟩ := hok
      exact ⟨hstate, .inr hpopulated, hsync, hanswered, hquiet⟩
  | releaseFailedWorker caller i result allJoined faultPlan workerResult hresult hindex =>
    obtain ⟨hrelease, hreleasable, hsync, hclosed, hquiet⟩ := hok
    exact ⟨by cases caller <;> exact hrelease, destroyThread_releasable i hreleasable, hsync,
      hclosed, hquiet⟩
  | releaseIncomplete caller index result hindex => exact afterRelease_phase _ hok
  | releaseInjected caller i result allJoined faultPlan workerResult hfault hindex =>
    cases caller <;> exact hok
  | releaseJoined caller i result allJoined faultPlan hindex => cases caller <;> exact hok
  | releaseLock caller index event result allJoined hfree hinit =>
    cases caller <;> cases event <;> exact hok
  | releaseUnlockFailed caller i result allJoined hheld => cases caller <;> exact hok
  | releaseUnlock caller i event result allJoined hevent hheld =>
    obtain ⟨hrelease, hreleasable, hsync, hclosed, hquiet⟩ := hok
    exact ⟨by cases caller <;> exact hrelease, destroyThread_releasable i hreleasable, hsync,
      hclosed, hquiet⟩
  | fold caller result worker hfree hinit hfold =>
    obtain ⟨_, _, _, _, _, rfl⟩ := foldWorkers_frame hfold
    obtain ⟨hrelease, hreleasable, hsync, hclosed, hquiet⟩ := hok
    exact ⟨by cases caller <;> exact hrelease, ⟨rfl, rfl, rfl⟩, hsync, hclosed, hquiet⟩
  | foldUnlock caller result hheld =>
    obtain ⟨hrelease, hreleased, hsync, hclosed, hquiet⟩ := hok
    have hok' : (Phase.releasing caller).Ok sh.unlockWorker := by
      refine ⟨?_, .inl hreleased, hsync, hclosed, hquiet⟩
      cases caller <;> exact hrelease
    exact afterRelease_phase result hok'
  | setState state call r hfree =>
    -- the four assignments of `set_scheduler_state` that occur
    cases state with
    | initialized =>
      cases call with
      | start =>
        obtain ⟨hstate, hempty, hsync, hopen, hquiet⟩ := hok
        exact ⟨hempty, hsync, hopen, hquiet⟩
      | _ => exact hok.elim
    | stopped =>
      cases call with
      | join =>
        obtain ⟨hrelease, hreleased, hsync, hclosed, hquiet⟩ := hok
        exact ⟨hreleased, hsync, hclosed, hquiet⟩
      | _ => exact hok.elim
    | failed =>
      cases call with
      | start =>
        obtain ⟨hrelease, hreleasable, hsync, hclosed, hquiet⟩ := hok
        exact ⟨hreleasable, hsync, hclosed, hquiet⟩
      | join =>
        obtain ⟨hrelease, hreleasable, hsync, hclosed, hquiet⟩ := hok
        exact ⟨hreleasable, hsync, hclosed, hquiet⟩
      | _ => exact hok.elim
    | _ => exact hok.elim
  | shutdownRunning hfree hstate =>
    obtain ⟨hpopulated, hsync, hready⟩ := hok.of_state hstate
    exact ⟨rfl, hpopulated, hsync⟩
  | shutdownAgain hfree hstate =>
    obtain ⟨hpopulated, hsync, hclosed⟩ := hok.of_state hstate
    exact ⟨hstate, hpopulated, hsync⟩
  | shutdownQueue hq =>
    cases hq with
    | run hact hleave => exact hok
    | leave op r =>
      obtain rfl : op = .shutdown := Option.some.inj hoperation
      obtain ⟨hstate, hpopulated, hsync⟩ := hok
      exact ⟨⟨hstate, hpopulated⟩, hsync, hanswered⟩
  | drainLock caller hfree => exact drainTest_phase (sh.lockLifecycle .controller) hok
  | drainAgain caller hfree => exact drainTest_phase (sh.lockLifecycle .controller) hok
  | drainFailed caller hfree hfail => exact hok
  | shutdownDrained result hheld =>
    obtain ⟨⟨hstate, hpopulated⟩, hsync, hclosed, hquiet⟩ := hok
    exact Scheduler.settled_of_state hstate ⟨hpopulated, hsync, hclosed⟩
  | shutdownFailed result hheld =>
    obtain ⟨⟨hstate, hpopulated⟩, hsync, hclosed⟩ := hok
    exact Scheduler.settled_of_state hstate ⟨hpopulated, hsync, hclosed⟩
  | joinDrained hheld =>
    obtain ⟨hjoinable, hsync, hclosed, hquiet⟩ := hok
    obtain ⟨hrelease, hreleasable⟩ := hjoinable.releasable
    exact ⟨hrelease, hreleasable, hsync, hclosed, hquiet⟩
  | joinFailed hheld =>
    obtain ⟨hjoinable, hsync, hclosed⟩ := hok
    rcases hjoinable with ⟨hstate, hpopulated⟩ | ⟨hstate, hreleasable, hquiet⟩
    · exact Scheduler.settled_of_state hstate ⟨hpopulated, hsync, hclosed⟩
    · exact Scheduler.settled_of_state hstate ⟨hreleasable, hsync, hclosed, hquiet⟩
  | join hfree hstate =>
    refine drainTest_phase (sh.lockLifecycle .controller) ?_
    rcases hstate with hstate | hstate
    · obtain ⟨hpopulated, hsync, hclosed⟩ := hok.of_state hstate
      exact ⟨.inl ⟨hstate, hpopulated⟩, hsync, hclosed⟩
    · obtain ⟨hreleasable, hsync, hclosed, hquiet⟩ := hok.of_state hstate
      exact ⟨.inr ⟨hstate, hreleasable, hquiet⟩, hsync, hclosed⟩
  | _ => exact hok

theorem Crew.gone_zero (c : Crew W) : c.Gone 0 := fun _ _ i hi => absurd hi (Nat.not_lt_zero i)

/-- After `destroyThread` one more handle is gone. -/
theorem Crew.Gone.destroy {threads : Option (Fin W → Bool)} {contexts : Bool}
    {started created : ℕ} {i : Fin W} (h : Crew.Gone i ⟨threads, contexts, started, created⟩) :
    Crew.Gone (i + 1) ⟨threads.map fun threads => Function.update threads i false, contexts,
      started, created⟩ := by
  intro threads' hthreads' j hj
  obtain ⟨threads₀, hthreads₀, rfl⟩ := Option.map_eq_some_iff.mp hthreads'
  by_cases hji : j = i
  · rw [hji, Function.update_self]
  · rw [Function.update_of_ne hji]
    exact h threads₀ hthreads₀ j (by omega)

/-- `release_workers` goes through the handles in order. -/
theorem ControllerStepSpec.handlesGone {pc : ControllerPc P}
    {out : SchedulerStep W C P (ControllerPc P)} (h : ControllerStepSpec cfg choice sh pc out)
    (hgone : pc.HandlesGone sh.crew) : out.2.1.HandlesGone out.1.crew := by
  cases h with
  | call call pc hcall =>
    rcases beginCall_quiet hcall with rfl | rfl | rfl | rfl | rfl <;> trivial
  | readyLock hfree hinit =>
    rcases readyTest_cases sh with ⟨hpc, -⟩ | ⟨hpc, -⟩ <;> rw [hpc] <;> trivial
  | readyAgain hfree hinit =>
    rcases readyTest_cases sh with ⟨hpc, -⟩ | ⟨hpc, -⟩ <;> rw [hpc] <;> trivial
  | abortQueue hq =>
    cases hq with
    | run hact hleave => trivial
    | leave op r => exact fun _ => Crew.gone_zero _
  -- the next worker has no handle, so all up to it are gone
  | releaseSkip caller i result allJoined hindex hskip =>
    intro hall threads hthreads j hj
    by_cases hji : j = i
    · rw [hji]
      exact hskip threads hthreads
    · exact hgone hall threads hthreads j (by omega)
  -- with a failed native join not all are gone, and nothing is claimed
  | releaseNativeFailed caller i result allJoined hfail hindex => exact fun hall => nomatch hall
  | releaseInjected caller i result allJoined faultPlan workerResult hfault hindex =>
    exact fun hall => ⟨by simp, hgone hall⟩
  | releaseFailedWorker caller i result allJoined faultPlan workerResult hresult hindex =>
    exact fun hall => (hgone hall).destroy
  | releaseJoined caller i result allJoined faultPlan hindex =>
    exact fun hall => ⟨by simp, hgone hall⟩
  | releaseDone caller index result hindex =>
    intro threads hthreads j hj
    exact hgone rfl threads hthreads j (Nat.lt_of_lt_of_le hj hindex)
  | releaseIncomplete caller index result hindex =>
    obtain ⟨state, call, r, hpc⟩ := afterRelease_cases sh caller .errorSystem
    rw [hpc]
    trivial
  | releaseLock caller index event result allJoined hfree hinit => cases event <;> exact hgone
  | releaseUnlockFailed caller i result allJoined hheld =>
    exact fun hall => absurd rfl (hgone hall).1
  | releaseUnlock caller i event result allJoined hevent hheld =>
    exact fun hall => (hgone hall).2.destroy
  | foldUnlock caller result hheld =>
    obtain ⟨state, call, r, hpc⟩ := afterRelease_cases sh caller result
    rw [hpc]
    trivial
  | shutdownQueue hq => cases hq <;> trivial
  | drainLock caller hfree =>
    rcases drainTest_cases sh caller with ⟨hpc, -⟩ | ⟨hpc, -⟩ <;> rw [hpc] <;> trivial
  | drainAgain caller hfree =>
    rcases drainTest_cases sh caller with ⟨hpc, -⟩ | ⟨hpc, -⟩ <;> rw [hpc] <;> trivial
  | joinDrained hheld => exact fun _ => Crew.gone_zero _
  | join hfree hstate =>
    rcases drainTest_cases sh .join with ⟨hpc, -⟩ | ⟨hpc, -⟩ <;> rw [hpc] <;> trivial
  | _ => trivial

end Phases

end SchedulingEngine
