import SchedulingEngine.Scheduler.Lifetimes
import SchedulingEngine.Scheduler.Slots

/-!
# Joins and creations, counted

`joined_worker_count` and `worker_startup_failure_count` are written by lifecycle calls only, in
`release_workers` and in the creation loop of `scheduler_start`:

- a worker is counted as joined once at most: `release_workers` destroys the handle of the
  worker that it has counted, and passes over the handles that are gone (`JoinCount`);
- one creation fails at most, since a start that failed to create a worker is the last one
  of its lifetime (`StartupCount`).

Here is what one step does to them; `Headcount` says what holds in every reachable state.
-/

namespace SchedulingEngine

open Concurrency

variable {W : ℕ} {C P : Type}

/-! ## What submitters and workers write of the worker domain -/

/-- A refused registration. -/
theorem registerSubmitter_refused {T : Type} {l : LifecycleDomain T} (hstate : l.state ≠ .running) :
    (registerSubmitter l).1.activeSubmitterCount = l.activeSubmitterCount ∧
      (registerSubmitter l).1.acceptedCount = l.acceptedCount := by
  simp [registerSubmitter, hstate]

section Frames

variable [DecidableEq C] {cfg : SchedulerConfig W} {t : Thread W C}
  {choice : SchedulerChoice W C P} {sh : Scheduler W C P}

/-- A call takes `worker_mutex` and gives it back. -/
theorem CallStepSpec.worker {pc : CallPc P} {out : SchedulerStep W C P (CallPc P)}
    (h : CallStepSpec cfg t choice sh pc out) :
    out.1.worker = { sh.worker with mutex := out.1.worker.mutex } := by
  cases h with
  | enqueue kind task hq => rw [hq.frame]
  | captureQueue temporary hq => rw [hq.frame]
  | _ => rfl

/-- A worker writes its slot, the counts of active and ready workers, and its failure. -/
theorem WorkerStepSpec.worker {i : Fin W} {pc : WorkerPc P} {out : SchedulerStep W C P (WorkerPc P)}
    (h : WorkerStepSpec cfg t choice sh i pc out) :
    out.1.worker =
      { sh.worker with
        mutex := out.1.worker.mutex
        workerContexts := out.1.worker.workerContexts
        activeWorkerCount := out.1.worker.activeWorkerCount
        readyWorkerCount := out.1.worker.readyWorkerCount
        workerRuntimeFailureCount := out.1.worker.workerRuntimeFailureCount
        accountingOverflow := out.1.worker.accountingOverflow
        infrastructureFailure := out.1.worker.infrastructureFailure } := by
  cases h with
  | dequeue hq => rw [hq.frame]
  | call task runningAccounted hcall => rw [hcall.worker]
  | queueShutdown r hq => rw [hq.frame]
  | exit r hfree hinit =>
    obtain ⟨active, failures, overflow, failure, hexit⟩ :=
      recordWorkerExit_frame (sh.lockWorker t).worker r
    dsimp only
    rw [hexit]
    rfl
  | _ => rfl

/-- A worker is counted as ready when it reads its context. -/
theorem WorkerStepSpec.ready_stays {i : Fin W} {pc : WorkerPc P}
    {out : SchedulerStep W C P (WorkerPc P)} (h : WorkerStepSpec cfg t choice sh i pc out)
    (hnone : sh.worker.workerContexts = none) :
    out.1.worker.readyWorkerCount = sh.worker.readyWorkerCount := by
  cases h with
  | register hcontexts hfree hinit => rw [hnone] at hcontexts; cases hcontexts
  | dequeue hq => rw [hq.frame]
  | call task runningAccounted hcall => rw [hcall.worker]
  | queueShutdown r hq => rw [hq.frame]
  | exit r hfree hinit =>
    obtain ⟨active, failures, overflow, failure, hexit⟩ :=
      recordWorkerExit_frame (sh.lockWorker t).worker r
    dsimp only
    rw [hexit]
    rfl
  | _ => rfl

/-- What only lifecycle calls write of the worker domain. -/
structure LedgerFrame (sh sh' : Scheduler W C P) : Prop where
  joined : sh'.worker.joinedWorkerCount = sh.worker.joinedWorkerCount
  startup : sh'.worker.workerStartupFailureCount = sh.worker.workerStartupFailureCount
  joinFailure : sh'.worker.joinFailureCount = sh.worker.joinFailureCount
  ready : sh.worker.workerContexts = none →
    sh'.worker.readyWorkerCount = sh.worker.readyWorkerCount

theorem SchedulerStepSpec.ledgerFrame {pc : SchedulerPc W P}
    {out : SchedulerStep W C P (SchedulerPc W P)} (h : SchedulerStepSpec cfg choice sh t pc out)
    (ht : t ≠ .controller) : LedgerFrame sh out.1 := by
  cases h with
  | call c h =>
    have hworker := h.worker
    dsimp only at hworker ⊢
    constructor <;> rw [hworker]
    exact fun _ => rfl
  | worker i h =>
    have hworker := h.worker
    dsimp only at hworker ⊢
    refine ⟨?_, ?_, ?_, h.ready_stays⟩ <;> rw [hworker]
  | controller h => exact absurd rfl ht

end Frames

/-! ## Where a lifecycle call goes after a test -/

section Tests

variable {sh : Scheduler W C P} {M : ControllerPc P → Prop}

theorem drainTest_elim {caller : DrainCaller} (hwait : M (.drainWait caller))
    (hdone : M (.drainUnlock caller true)) : M (drainTest sh caller) := by
  rcases drainTest_cases sh caller with ⟨hpc, -⟩ | ⟨hpc, -⟩ <;> rw [hpc] <;> assumption

theorem readyTest_elim (hwait : M .readyWait) (hdone : M (.readyUnlock true)) :
    M (readyTest sh) := by
  rcases readyTest_cases sh with ⟨hpc, -⟩ | ⟨hpc, -⟩ <;> rw [hpc] <;> assumption

theorem afterRelease_elim {caller : ReleaseCaller} {result : SchedulerResult}
    (h : ∀ state call r, M (.setStateLock state call r)) : M (afterRelease sh caller result) := by
  obtain ⟨state, call, r, hpc⟩ := afterRelease_cases sh caller result
  rw [hpc]
  exact h state call r

theorem beginCall_elim {cfg : SchedulerConfig W} {call : LifecycleCall} {pc : ControllerPc P}
    (h : beginCall cfg call = some pc) (hstart : M .startLock) (hshutdown : M .shutdownLock)
    (hjoin : M .joinLock) (hdestroy : M .destroyLock) (hfault : M (.faultLock call)) : M pc := by
  rcases beginCall_quiet h with rfl | rfl | rfl | rfl | rfl <;> assumption

end Tests

/-! ## Joined workers -/

/-- The started workers whose handles are destroyed. -/
def Crew.destroyed (c : Crew W) : Finset (Fin W) :=
  {i | (i : ℕ) < c.startedWorkerCount ∧ c.threads.any (fun threads => !threads i) = true}

theorem Crew.mem_destroyed {c : Crew W} {i : Fin W} :
    i ∈ c.destroyed ↔ (i : ℕ) < c.startedWorkerCount ∧
      ∃ threads, c.threads = some threads ∧ threads i = false := by
  simp [Crew.destroyed, Option.any_eq_true]

/-- Worker `i` was started and has its handle. -/
def Crew.Holds (c : Crew W) (i : Fin W) : Prop :=
  (i : ℕ) < c.startedWorkerCount ∧ ∃ threads, c.threads = some threads ∧ threads i = true

theorem Crew.Holds.not_destroyed {c : Crew W} {i : Fin W} (h : c.Holds i) : i ∉ c.destroyed := by
  obtain ⟨-, threads, hthreads, hheld⟩ := h
  intro hmem
  obtain ⟨-, threads', hthreads', hgone⟩ := Crew.mem_destroyed.mp hmem
  cases hthreads.symm.trans hthreads'
  rw [hheld] at hgone
  cases hgone

theorem Crew.destroyed_card_le (c : Crew W) : c.destroyed.card ≤ c.startedWorkerCount := by
  have hsub : c.destroyed.map Fin.valEmbedding ⊆ Finset.range c.startedWorkerCount := by
    intro n hn
    obtain ⟨i, hi, rfl⟩ := Finset.mem_map.mp hn
    exact Finset.mem_range.mpr (Crew.mem_destroyed.mp hi).1
  simpa using Finset.card_le_card hsub

/-- Counted as joined, with the handle still there. -/
def ControllerPc.joins : ControllerPc P → ℕ
  | .releaseUnlock _ _ .joined _ _ => 1
  | _ => 0

/-- The handle of the worker that a native join has returned for. -/
def ControllerPc.HoldsHandle (c : Crew W) : ControllerPc P → Prop
  | .releaseLock _ index event _ _ | .releaseUnlock _ index event _ _ =>
    event ≠ .nativeFailed → ∃ i : Fin W, (i : ℕ) = index ∧ c.Holds i
  | _ => True

/-- The workers counted as joined are among those whose handles are gone. -/
structure JoinCount (c : Crew W) (joined : ℕ) (pc : ControllerPc P) : Prop where
  there : c.threads.isSome = true → joined ≤ c.destroyed.card + pc.joins
  gone : c.threads = none → joined ≤ c.createdWorkerCount
  handle : pc.HoldsHandle c

section Joined

variable [DecidableEq C] {cfg : SchedulerConfig W} {choice : SchedulerChoice W C P}
  {sh : Scheduler W C P}

omit [DecidableEq C] in
/-- A step that leaves the crew and the count alone. -/
theorem JoinCount.keep {sh' : Scheduler W C P} {pc pc' : ControllerPc P}
    (h : JoinCount sh.crew sh.worker.joinedWorkerCount pc) (hcrew : sh'.crew = sh.crew)
    (hjoined : sh'.worker.joinedWorkerCount = sh.worker.joinedWorkerCount)
    (hjoins : pc.joins ≤ pc'.joins) (hhandle : pc'.HoldsHandle sh.crew) :
    JoinCount sh'.crew sh'.worker.joinedWorkerCount pc' := by
  rw [hcrew, hjoined]
  refine ⟨fun hsome => ?_, h.gone, hhandle⟩
  exact Nat.le_trans (h.there hsome) (Nat.add_le_add_left hjoins _)

omit [DecidableEq C] in
/-- Destroying a handle. -/
theorem Scheduler.destroyed_of_destroyThread {sh' : Scheduler W C P} {i : Fin W}
    (hworker : sh'.worker = destroyThread sh.worker i) :
    sh.crew.destroyed ⊆ sh'.crew.destroyed ∧ (sh.crew.Holds i → i ∈ sh'.crew.destroyed) := by
  have hthreads' : ∀ threads, sh.crew.threads = some threads →
      sh'.crew.threads = some (Function.update threads i false) := by
    intro threads hthreads
    unfold Scheduler.crew
    rw [hworker]
    exact congrArg (Option.map _) hthreads
  have hstarted' : sh'.crew.startedWorkerCount = sh.crew.startedWorkerCount := by
    unfold Scheduler.crew
    rw [hworker]
    rfl
  constructor
  · intro j hj
    obtain ⟨hstarted, threads, hthreads, hgone⟩ := Crew.mem_destroyed.mp hj
    refine Crew.mem_destroyed.mpr ⟨hstarted' ▸ hstarted, _, hthreads' threads hthreads, ?_⟩
    by_cases hji : j = i
    · simp [hji]
    · simpa [hji] using hgone
  · rintro ⟨hstarted, threads, hthreads, -⟩
    exact Crew.mem_destroyed.mpr ⟨hstarted' ▸ hstarted, _, hthreads' threads hthreads, by simp⟩

omit [DecidableEq C] in
/-- The handle of a worker is destroyed, after the worker was counted if it was. -/
theorem JoinCount.destroy {pc pc' : ControllerPc P} {i : Fin W}
    (h : JoinCount sh.crew sh.worker.joinedWorkerCount pc)
    (hjoins : pc.joins = 0 ∨ pc.joins = 1 ∧ sh.crew.Holds i)
    (hhandle : ∀ c : Crew W, pc'.HoldsHandle c) {sh' : Scheduler W C P}
    (hworker : sh'.worker = destroyThread sh.worker i) :
    JoinCount sh'.crew sh'.worker.joinedWorkerCount pc' := by
  obtain ⟨hsub, hmem⟩ := Scheduler.destroyed_of_destroyThread hworker
  have hjoined : sh'.worker.joinedWorkerCount = sh.worker.joinedWorkerCount := by rw [hworker]; rfl
  have hthreads : sh'.crew.threads.isSome = sh.crew.threads.isSome := by
    unfold Scheduler.crew
    rw [hworker]
    exact Option.isSome_map
  rw [hjoined]
  refine ⟨fun hsome => ?_, fun hnone => ?_, hhandle _⟩
  · have hthere := h.there (hthreads ▸ hsome)
    refine Nat.le_trans hthere (Nat.le_trans ?_ (Nat.le_add_right _ _))
    rcases hjoins with hjoins | ⟨hjoins, hholds⟩
    · rw [hjoins]
      exact Finset.card_le_card hsub
    · have hcard := Finset.card_le_card (Finset.insert_subset (hmem hholds) hsub)
      rwa [Finset.card_insert_of_notMem hholds.not_destroyed, ← hjoins] at hcard
  · have hnone' : sh.crew.threads = none := by
      rw [hnone] at hthreads
      exact Option.isNone_iff_eq_none.mp (Option.isSome_eq_false_iff.mp hthreads.symm)
    refine Nat.le_trans (h.gone hnone') (Nat.le_of_eq ?_)
    unfold Scheduler.crew
    rw [hworker]
    rfl

omit [DecidableEq C] in
/-- With no worker started nobody was joined. -/
theorem JoinCount.none_joined {pc : ControllerPc P}
    (h : JoinCount sh.crew sh.worker.joinedWorkerCount pc) (hjoins : pc.joins = 0)
    (hstarted : sh.crew.startedWorkerCount = 0) (hcreated : sh.crew.createdWorkerCount = 0) :
    sh.worker.joinedWorkerCount = 0 := by
  cases hthreads : sh.crew.threads with
  | none => exact Nat.le_zero.mp (hcreated ▸ h.gone hthreads)
  | some threads =>
    have hthere := h.there (by rw [hthreads]; rfl)
    have hcard := sh.crew.destroyed_card_le
    omega

/-- **A lifecycle call counts a worker as joined before it destroys the handle.** -/
theorem ControllerStepSpec.joinCount {pc : ControllerPc P}
    {out : SchedulerStep W C P (ControllerPc P)} (h : ControllerStepSpec cfg choice sh pc out)
    (hphase : (pc.phase W).Ok sh) (hjoined : JoinCount sh.crew sh.worker.joinedWorkerCount pc) :
    JoinCount out.1.crew out.1.worker.joinedWorkerCount out.2.1 := by
  -- most steps touch neither the handles nor the count
  have hkeep : ∀ {sh' : Scheduler W C P} {pc' : ControllerPc P}, sh'.crew = sh.crew →
      sh'.worker.joinedWorkerCount = sh.worker.joinedWorkerCount → pc.joins = 0 →
      pc'.HoldsHandle sh.crew → JoinCount sh'.crew sh'.worker.joinedWorkerCount pc' :=
    fun hcrew hsame hjoins hhandle =>
      hjoined.keep hcrew hsame (hjoins ▸ Nat.zero_le _) hhandle
  cases h with
  | call call pc hcall =>
    exact beginCall_elim (M := fun pc => JoinCount sh.crew _ pc) hcall (hkeep rfl rfl rfl trivial)
      (hkeep rfl rfl rfl trivial) (hkeep rfl rfl rfl trivial) (hkeep rfl rfl rfl trivial)
      (hkeep rfl rfl rfl trivial)
  | allocationFailed sh' hsh hfail =>
    subst hsh
    exact ⟨nofun, fun _ => hjoined.gone hphase.2.1.threads, trivial⟩
  | allocated sh' hsh hthreads hcontexts hsize =>
    subst hsh
    have hzero := hjoined.none_joined rfl hphase.2.1.started hphase.2.1.created
    exact ⟨fun _ => hzero ▸ Nat.zero_le _, fun _ => hzero ▸ Nat.zero_le _, trivial⟩
  | syncInitFailed mutexInitialized hmutex hfail =>
    have hzero := hjoined.none_joined rfl hphase.2.1.started hphase.2.1.created
    exact ⟨nofun, fun _ => hzero ▸ Nat.zero_le _, trivial⟩
  | createFailed i faultPlan hfree hinit hfail => exact hkeep (creating_crew sh i) rfl rfl trivial
  -- a new worker has its handle
  | created i faultPlan hfree hinit =>
    obtain ⟨-, hpopulated, -⟩ := hphase
    refine ⟨fun hsome => ?_, fun hnone => ?_, trivial⟩
    · refine Nat.le_trans (hjoined.there hpopulated.threads) (Nat.add_le_add_right ?_ 0)
      refine Finset.card_le_card fun j hj => ?_
      obtain ⟨hstarted, threads, hthreads, hgone⟩ := Crew.mem_destroyed.mp hj
      have hji : j ≠ i := by
        rintro rfl
        exact absurd (hpopulated.started ▸ hstarted) (Nat.lt_irrefl _)
      refine Crew.mem_destroyed.mpr ⟨Nat.lt_succ_of_lt hstarted, Function.update threads i true,
        congrArg (Option.map _) hthreads, ?_⟩
      simpa [hji] using hgone
    · exact Nat.le_trans (hjoined.gone (Option.map_eq_none_iff.mp hnone)) (Nat.le_succ _)
  | readyLock hfree hinit =>
    exact readyTest_elim (M := JoinCount _ _) (hkeep rfl rfl rfl trivial)
      (hkeep rfl rfl rfl trivial)
  | readyAgain hfree hinit =>
    exact readyTest_elim (M := JoinCount _ _) (hkeep rfl rfl rfl trivial)
      (hkeep rfl rfl rfl trivial)
  | abortQueue hq =>
    rw [hq.frame]
    cases hq <;> exact hkeep rfl rfl rfl trivial
  | releaseNativeFailed caller i result allJoined hfail hindex hhandle =>
    exact hkeep rfl rfl rfl fun hevent => absurd rfl hevent
  | releaseInjected caller i result allJoined faultPlan workerResult hfault hindex hhandle =>
    exact hkeep rfl rfl rfl fun _ => ⟨i, rfl, hindex, hhandle⟩
  | releaseFailedWorker caller i result allJoined faultPlan workerResult hresult hindex hhandle =>
    refine hjoined.destroy (.inl rfl) (fun c => ?_) rfl
    trivial
  | releaseJoined caller i result allJoined faultPlan hindex hhandle =>
    exact hkeep rfl rfl rfl fun _ => ⟨i, rfl, hindex, hhandle⟩
  | releaseIncomplete caller index result hindex =>
    exact afterRelease_elim (M := JoinCount _ _) fun _ _ _ => hkeep rfl rfl rfl trivial
  -- the worker is counted as joined before its handle is destroyed
  | releaseLock caller index event result allJoined hfree hinit =>
    cases event with
    | nativeFailed => exact hkeep rfl rfl rfl hjoined.handle
    | injected => exact hkeep rfl rfl rfl hjoined.handle
    | joined =>
      obtain ⟨i, -, -, threads, hthreads, -⟩ := hjoined.handle nofun
      refine ⟨fun hsome => Nat.succ_le_succ (hjoined.there hsome), fun hnone => ?_, hjoined.handle⟩
      cases hthreads.symm.trans hnone
  | releaseUnlock caller i event result allJoined hevent hheld =>
    have hjoins :
        (ControllerPc.releaseUnlock caller i event result allJoined : ControllerPc P).joins = 0 ∨
        (ControllerPc.releaseUnlock caller i event result allJoined : ControllerPc P).joins = 1 ∧
          sh.unlockWorker.crew.Holds i := by
      cases event with
      | joined =>
        obtain ⟨j, hj, hholds⟩ := hjoined.handle nofun
        cases Fin.ext hj
        exact .inr ⟨rfl, hholds⟩
      | _ => exact .inl rfl
    have hbefore : JoinCount sh.unlockWorker.crew sh.unlockWorker.worker.joinedWorkerCount
      (.releaseUnlock caller i event result allJoined) := hjoined
    refine hbefore.destroy hjoins (fun c => ?_) rfl
    trivial
  -- freeing the arrays keeps the count below the created workers
  | fold caller result worker hfree hinit hfold =>
    obtain ⟨_, _, _, _, _, rfl⟩ := foldWorkers_frame hfold
    refine ⟨nofun, fun _ => ?_, trivial⟩
    rcases hphase.2.1 with hreleased | ⟨k, hpopulated⟩
    · exact hjoined.gone hreleased.threads
    · calc sh.worker.joinedWorkerCount
          ≤ sh.crew.destroyed.card := hjoined.there hpopulated.threads
        _ ≤ sh.crew.startedWorkerCount := sh.crew.destroyed_card_le
        _ = sh.crew.createdWorkerCount := hpopulated.started.trans hpopulated.created.symm
  | foldUnlock caller result hheld =>
    exact afterRelease_elim (M := JoinCount _ _) fun _ _ _ => hkeep rfl rfl rfl trivial
  | shutdownQueue hq =>
    rw [hq.frame]
    cases hq <;> exact hkeep rfl rfl rfl trivial
  | drainLock caller hfree =>
    exact drainTest_elim (M := JoinCount _ _) (hkeep rfl rfl rfl trivial)
      (hkeep rfl rfl rfl trivial)
  | drainAgain caller hfree =>
    exact drainTest_elim (M := JoinCount _ _) (hkeep rfl rfl rfl trivial)
      (hkeep rfl rfl rfl trivial)
  | shutdownDrained result hheld => exact hkeep rfl rfl rfl trivial
  | join hfree hstate =>
    exact drainTest_elim (M := JoinCount _ _) (hkeep rfl rfl rfl trivial)
      (hkeep rfl rfl rfl trivial)
  | _ => exact hkeep rfl rfl rfl trivial

end Joined

/-! ## Failed creations, and the arrays -/

/-- A start in which no creation has failed. -/
def ControllerPc.unfailed : ControllerPc P → Bool
  | .startUnlock true | .startAllocate | .startSyncInit | .startSyncLock | .startSyncUnlock
  | .createLock _ | .createUnlock _ true | .setStateLock .initialized .start _ => true
  | _ => false

/-- A lifetime in which a creation failed is not started again. -/
structure StartupCount (sh : Scheduler W C P) (pc : ControllerPc P) : Prop where
  le_one : sh.worker.workerStartupFailureCount ≤ 1
  zero : sh.lifecycle.state = .initialized ∨ pc.unfailed = true →
    sh.worker.workerStartupFailureCount = 0

/-- The workers that were created, and whether their contexts are there. -/
structure CrewCount (sh : Scheduler W C P) : Prop where
  created_le : sh.worker.createdWorkerCount ≤ W
  sized : sh.worker.workerContexts.isSome = true ∨ 0 < sh.worker.createdWorkerCount →
    W ≤ sizeMax / schedThreadSize
  folded : sh.worker.workerContexts = none → sh.worker.readyWorkerCount = 0

section Startup

variable [DecidableEq C] {cfg : SchedulerConfig W} {choice : SchedulerChoice W C P}
  {sh : Scheduler W C P}

theorem ControllerStepSpec.startupCount {pc : ControllerPc P}
    {out : SchedulerStep W C P (ControllerPc P)} (h : ControllerStepSpec cfg choice sh pc out)
    (hphase : (pc.phase W).Ok sh) (hstartup : StartupCount sh pc) : StartupCount out.1 out.2.1 := by
  have hkeep : ∀ {sh' : Scheduler W C P} {pc' : ControllerPc P},
      sh'.worker.workerStartupFailureCount = sh.worker.workerStartupFailureCount →
      (sh'.lifecycle.state = .initialized ∨ pc'.unfailed = true →
        sh.lifecycle.state = .initialized ∨ pc.unfailed = true) → StartupCount sh' pc' :=
    fun hsame hback => ⟨hsame ▸ hstartup.le_one, fun h => hsame.trans (hstartup.zero (hback h))⟩
  -- where no creation can be ahead, the state alone matters
  have hstate : ∀ {sh' : Scheduler W C P} {pc' : ControllerPc P},
      sh'.worker.workerStartupFailureCount = sh.worker.workerStartupFailureCount →
      sh'.lifecycle.state = sh.lifecycle.state → pc'.unfailed = false → StartupCount sh' pc' := by
    intro sh' pc' hsame hstate hpc
    refine hkeep hsame fun h => .inl ?_
    rw [hpc, hstate] at h
    exact h.resolve_right nofun
  cases h with
  | call call pc hcall =>
    exact beginCall_elim (M := StartupCount sh) hcall (hstate rfl rfl rfl) (hstate rfl rfl rfl)
      (hstate rfl rfl rfl) (hstate rfl rfl rfl) (hstate rfl rfl rfl)
  | start hfree hinitialized => exact hkeep rfl fun _ => .inl hinitialized
  | startUnlock hheld => exact hkeep rfl fun _ => .inr rfl
  | sizeGuard hsize => exact hkeep rfl fun _ => .inr rfl
  | allocationFailed sh' hsh hfail => subst hsh; exact hkeep rfl fun _ => .inr rfl
  | allocated sh' hsh hthreads hcontexts hsize => subst hsh; exact hkeep rfl fun _ => .inr rfl
  | syncInit => exact hkeep rfl fun _ => .inr rfl
  | syncInitFailed mutexInitialized hmutex hfail => exact hkeep rfl fun _ => .inr rfl
  | syncLock hfree => exact hkeep rfl fun _ => .inr rfl
  | syncUnlock hheld => exact hkeep rfl fun _ => .inr rfl
  | createFailed i faultPlan hfree hinit hfail =>
    have hzero := hstartup.zero (.inr rfl)
    refine ⟨?_, fun h => ?_⟩
    · show (incrementSaturating sh.worker.workerStartupFailureCount _).1 ≤ 1
      rw [hzero]
      exact Nat.le_refl _
    · rcases h with hinitialized | hpc
      · cases hphase.1.symm.trans hinitialized
      · cases hpc
  | created i faultPlan hfree hinit => exact hkeep rfl fun _ => .inr rfl
  | createNext index hheld hindex => exact hkeep rfl fun _ => .inr rfl
  | readyLock hfree hinit =>
    exact readyTest_elim (M := StartupCount _) (hstate rfl rfl rfl) (hstate rfl rfl rfl)
  | readyAgain hfree hinit =>
    exact readyTest_elim (M := StartupCount _) (hstate rfl rfl rfl) (hstate rfl rfl rfl)
  | run hfree => exact hkeep rfl nofun
  | abortQueue hq =>
    rw [hq.frame]
    cases hq <;> exact hstate rfl rfl rfl
  | releaseIncomplete caller index result hindex =>
    unfold afterRelease
    cases caller with
    | abort => exact hstate rfl rfl rfl
    | join =>
      dsimp only
      split <;> exact hstate rfl rfl rfl
  | releaseLock caller index event result allJoined hfree hinit =>
    cases event <;> exact hstate rfl rfl rfl
  | fold caller result worker hfree hinit hfold =>
    obtain ⟨_, _, _, _, _, rfl⟩ := foldWorkers_frame hfold
    exact hstate rfl rfl rfl
  | foldUnlock caller result hheld =>
    unfold afterRelease
    cases caller with
    | abort => exact hstate rfl rfl rfl
    | join =>
      dsimp only
      split <;> exact hstate rfl rfl rfl
  | setState state call r hfree =>
    refine hkeep rfl fun h => ?_
    rcases h with rfl | hpc
    · cases call with
      | start => exact .inr rfl
      | _ => exact hphase.elim
    · cases hpc
  | shutdownRunning hfree hrunning => exact hkeep rfl nofun
  | shutdownQueue hq =>
    rw [hq.frame]
    cases hq <;> exact hstate rfl rfl rfl
  | drainLock caller hfree =>
    exact drainTest_elim (M := StartupCount _) (hstate rfl rfl rfl) (hstate rfl rfl rfl)
  | drainAgain caller hfree =>
    exact drainTest_elim (M := StartupCount _) (hstate rfl rfl rfl) (hstate rfl rfl rfl)
  | join hfree hjoinable =>
    exact drainTest_elim (M := StartupCount _) (hstate rfl rfl rfl) (hstate rfl rfl rfl)
  | _ => exact hstate rfl rfl rfl

theorem ControllerStepSpec.crewCount {pc : ControllerPc P}
    {out : SchedulerStep W C P (ControllerPc P)} (h : ControllerStepSpec cfg choice sh pc out)
    (hphase : (pc.phase W).Ok sh)
    (hzero : sh.worker.createdWorkerCount = 0 → sh.worker.readyWorkerCount = 0)
    (hcrew : CrewCount sh) : CrewCount out.1 := by
  obtain ⟨hcreated, hsized, hfolded⟩ := hcrew
  cases h with
  | allocationFailed sh' hsh hfail =>
    subst hsh
    exact ⟨hcreated, fun h => hsized (h.imp_left nofun), fun _ => hzero hphase.2.1.created⟩
  | allocated sh' hsh hthreads hcontexts hsize =>
    subst hsh
    exact ⟨hcreated, fun _ => hsize, fun _ => hzero hphase.2.1.created⟩
  | syncInitFailed mutexInitialized hmutex hfail =>
    exact ⟨hcreated, fun h => hsized (h.imp_left nofun), fun _ => hzero hphase.2.1.created⟩
  | createFailed i faultPlan hfree hinit hfail =>
    refine ⟨hcreated, fun h => hsized (h.imp_left fun hsome => ?_), fun hnone => ?_⟩
    · exact (creating_contexts i).symm.trans hsome
    · exact hfolded (Option.map_eq_none_iff.mp hnone)
  | created i faultPlan hfree hinit =>
    obtain ⟨-, hpopulated, -⟩ := hphase
    refine ⟨?_, fun _ => hsized (.inl hpopulated.contexts), fun hnone => ?_⟩
    · show sh.crew.createdWorkerCount + 1 ≤ W
      rw [hpopulated.created]
      exact i.isLt
    · exact hfolded (Option.map_eq_none_iff.mp hnone)
  | abortQueue hq => rw [hq.frame]; exact ⟨hcreated, hsized, hfolded⟩
  | releaseLock caller index event result allJoined hfree hinit =>
    cases event <;> exact ⟨hcreated, hsized, hfolded⟩
  | fold caller result worker hfree hinit hfold =>
    obtain ⟨_, _, _, _, _, rfl⟩ := foldWorkers_frame hfold
    exact ⟨hcreated, fun h => hsized (h.imp_left nofun), fun _ => rfl⟩
  | shutdownQueue hq => rw [hq.frame]; exact ⟨hcreated, hsized, hfolded⟩
  | _ => exact ⟨hcreated, hsized, hfolded⟩

end Startup

end SchedulingEngine
