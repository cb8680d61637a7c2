import SchedulingEngine.Scheduler.Reliable
import SchedulingEngine.Scheduler.Rest

/-!
# Snapshots of a stopped scheduler

As long as the backend refuses nothing, a start creates all its workers, `release_workers`
counts every one of them as joined, and no worker fails. So once `scheduler_join` has
answered `SCHEDULER_OK` the scheduler is at rest with all its workers joined, and every
later snapshot is exact, whatever submissions are rejected meanwhile. What it says about
failed callbacks is what the callbacks returned.
-/

namespace SchedulingEngine

open Concurrency

variable {W : ℕ} {C P : Type}

/-! ## Every worker is joined -/

/-- About to give `worker_mutex` back after counting a failed join. -/
def ControllerPc.joinFailed : ControllerPc P → Bool
  | .releaseUnlock _ _ event _ _ => event ≠ .joined
  | _ => false

/-- As long as no join has failed, the workers whose handles are gone are counted as
joined. -/
structure JoinsCounted (sh : Scheduler W C P) (pc : ControllerPc P) : Prop where
  there : sh.worker.joinFailureCount = 0 → sh.crew.threads.isSome = true →
    sh.crew.destroyed.card + pc.joins ≤ sh.worker.joinedWorkerCount
  gone : sh.worker.joinFailureCount = 0 → sh.crew.threads = none →
    sh.worker.createdWorkerCount ≤ sh.worker.joinedWorkerCount
  failed : pc.joinFailed = true → 0 < sh.worker.joinFailureCount

theorem JoinsCounted.wake (sh : Scheduler W C P) (pc : ControllerPc P) :
    JoinsCounted sh pc.wake ↔ JoinsCounted sh pc := by
  have hjoins : pc.wake.joins = pc.joins := by cases pc <;> rfl
  have hfailed : pc.wake.joinFailed = pc.joinFailed := by cases pc <;> rfl
  constructor
  · exact fun h => ⟨hjoins ▸ h.there, h.gone, hfailed ▸ h.failed⟩
  · exact fun h => ⟨hjoins.symm ▸ h.there, h.gone, hfailed.symm ▸ h.failed⟩

theorem incrementSaturating_pos (counter : ℕ) (overflow : Bool) :
    0 < (incrementSaturating counter overflow).1 := by
  unfold incrementSaturating
  split
  · rename_i hmax
    rw [hmax]
    decide
  · exact Nat.succ_pos _

section Joins

variable [DecidableEq C] {cfg : SchedulerConfig W} {choice : SchedulerChoice W C P}
  {sh : Scheduler W C P}

omit [DecidableEq C] in
/-- Only the handle of worker `i` goes. -/
theorem Scheduler.destroyed_subset_insert {sh' : Scheduler W C P} {i : Fin W}
    (hworker : sh'.worker = destroyThread sh.worker i) :
    sh'.crew.destroyed ⊆ insert i sh.crew.destroyed := by
  intro j hj
  obtain ⟨hstarted, threads', hthreads', hfalse⟩ := Crew.mem_destroyed.mp hj
  have hmap : sh.worker.threads.map (fun threads => Function.update threads i false)
      = some threads' := by
    have hcrew : sh'.worker.threads = some threads' := hthreads'
    rw [hworker] at hcrew
    exact hcrew
  obtain ⟨threads, hthreads, rfl⟩ := Option.map_eq_some_iff.mp hmap
  by_cases hji : j = i
  · exact Finset.mem_insert.mpr (.inl hji)
  · refine Finset.mem_insert.mpr (.inr (Crew.mem_destroyed.mpr ⟨?_, threads, hthreads, ?_⟩))
    · have hsame : sh'.crew.startedWorkerCount = sh.crew.startedWorkerCount := by
        unfold Scheduler.crew
        rw [hworker]
        rfl
      exact hsame ▸ hstarted
    · rwa [Function.update_of_ne hji] at hfalse

/-- When all handles are gone, all workers are. -/
theorem Crew.Gone.card {c : Crew W} (h : c.Gone c.startedWorkerCount)
    (hthreads : c.threads.isSome = true) (hbounded : c.startedWorkerCount ≤ W) :
    c.startedWorkerCount ≤ c.destroyed.card := by
  obtain ⟨threads, hsome⟩ := Option.isSome_iff_exists.mp hthreads
  have hall : Finset.univ.filter (fun i : Fin W => (i : ℕ) < c.startedWorkerCount)
      ⊆ c.destroyed := by
    intro i hi
    have hlt := (Finset.mem_filter.mp hi).2
    exact Crew.mem_destroyed.mpr ⟨hlt, threads, hsome, h threads hsome i hlt⟩
  calc c.startedWorkerCount
      = (Finset.univ.filter fun i : Fin W => (i : ℕ) < c.startedWorkerCount).card := by
        rw [Fin.card_filter_val_lt, Nat.min_eq_right hbounded]
    _ ≤ c.destroyed.card := Finset.card_le_card hall

/-- **`release_workers` counts every worker it joins.** -/
theorem ControllerStepSpec.joinsCounted {pc : ControllerPc P}
    {out : SchedulerStep W C P (ControllerPc P)} (h : ControllerStepSpec cfg choice sh pc out)
    (hphase : (pc.phase W).Ok sh) (hgone : pc.HandlesGone sh.crew)
    (hsound : ∀ i r, .await (.worker i) r ∈ out.2.2 → r = .ok)
    (hcounted : JoinsCounted sh pc) :
    JoinsCounted out.1 out.2.1 := by
  have hkeep : ∀ {sh' : Scheduler W C P} {pc' : ControllerPc P}, sh'.crew = sh.crew →
      sh'.worker.joinedWorkerCount = sh.worker.joinedWorkerCount →
      sh'.worker.joinFailureCount = sh.worker.joinFailureCount →
      pc'.joins = 0 → pc'.joinFailed = false → JoinsCounted sh' pc' := by
    intro sh' pc' hcrew hjoined hfailures hjoins hfailed
    have hcreated : sh'.worker.createdWorkerCount = sh.worker.createdWorkerCount :=
      congrArg Crew.createdWorkerCount hcrew
    refine ⟨fun hzero hsome => ?_, fun hzero hnone => ?_, fun h => ?_⟩
    · rw [hcrew, hjoins, hjoined]
      exact Nat.le_trans (Nat.le_add_right _ _)
        (hcounted.there (hfailures ▸ hzero) (hcrew ▸ hsome))
    · rw [hcreated, hjoined]
      exact hcounted.gone (hfailures ▸ hzero) (hcrew ▸ hnone)
    · rw [hfailed] at h
      cases h
  cases h with
  | call call pc hcall =>
    exact beginCall_elim (M := JoinsCounted sh) hcall (hkeep rfl rfl rfl rfl rfl)
      (hkeep rfl rfl rfl rfl rfl) (hkeep rfl rfl rfl rfl rfl) (hkeep rfl rfl rfl rfl rfl)
      (hkeep rfl rfl rfl rfl rfl)
  | allocationFailed sh' hsh hfail =>
    subst hsh
    exact ⟨nofun, fun hzero _ => hcounted.gone hzero hphase.2.1.threads, nofun⟩
  | allocated sh' hsh hthreads hcontexts hsize =>
    subst hsh
    refine ⟨fun _ _ => ?_, fun hzero _ => hcounted.gone hzero hphase.2.1.threads, nofun⟩
    -- no worker is started yet
    have hcard := (allocateWorkers cfg choice sh).crew.destroyed_card_le
    have hstarted : (allocateWorkers cfg choice sh).crew.startedWorkerCount = 0 :=
      hphase.2.1.started
    show (allocateWorkers cfg choice sh).crew.destroyed.card + 0 ≤ _
    omega
  | syncInitFailed mutexInitialized hmutex hfail =>
    refine ⟨nofun, fun _ _ => ?_, nofun⟩
    have hzero : sh.worker.createdWorkerCount = 0 := hphase.2.1.created
    show sh.worker.createdWorkerCount ≤ _
    omega
  | createFailed i faultPlan hfree hinit hfail hplan =>
    exact hkeep (creating_crew sh i) rfl rfl rfl rfl
  | created i faultPlan hfree hinit hplan =>
    obtain ⟨-, hpopulated, -⟩ := hphase
    refine ⟨fun hzero hsome => ?_, fun hzero hnone => ?_, nofun⟩
    · refine Nat.le_trans (Nat.add_le_add_right ?_ 0) (hcounted.there hzero hpopulated.threads)
      refine Finset.card_le_card fun j hj => ?_
      obtain ⟨hstarted, threads', hthreads', hfalse⟩ := Crew.mem_destroyed.mp hj
      obtain ⟨threads, hthreads, rfl⟩ := Option.map_eq_some_iff.mp hthreads'
      have hji : j ≠ i := by
        rintro rfl
        rw [Function.update_self] at hfalse
        cases hfalse
      refine Crew.mem_destroyed.mpr ⟨?_, threads, hthreads,
        by rwa [Function.update_of_ne hji] at hfalse⟩
      have hlt : (j : ℕ) < sh.crew.startedWorkerCount + 1 := hstarted
      have hne : (j : ℕ) ≠ i := fun h => hji (Fin.ext h)
      have hat : sh.crew.startedWorkerCount = (i : ℕ) := hpopulated.started
      omega
    · have hthreads := hpopulated.threads
      have hnone' : sh.crew.threads = none := Option.map_eq_none_iff.mp hnone
      rw [hnone'] at hthreads
      cases hthreads
  | readyLock hfree hinit =>
    exact readyTest_elim (M := JoinsCounted _) (hkeep rfl rfl rfl rfl rfl)
      (hkeep rfl rfl rfl rfl rfl)
  | readyAgain hfree hinit =>
    exact readyTest_elim (M := JoinsCounted _) (hkeep rfl rfl rfl rfl rfl)
      (hkeep rfl rfl rfl rfl rfl)
  | abortQueue hq =>
    rw [hq.frame]
    cases hq <;> exact hkeep rfl rfl rfl rfl rfl
  | releaseFailedWorker caller i result allJoined faultPlan workerResult hresult
    hindex hhandle hplan =>
    exact absurd (hsound i workerResult (List.mem_singleton.mpr rfl)) hresult
  | releaseIncomplete caller index result hindex =>
    exact afterRelease_elim (M := JoinsCounted _) fun _ _ _ => hkeep rfl rfl rfl rfl rfl
  | releaseLock caller index event result allJoined hfree hinit =>
    cases event with
    | nativeFailed =>
      have hpos := incrementSaturating_pos sh.worker.joinFailureCount sh.worker.accountingOverflow
      exact ⟨fun hzero => absurd hzero (Nat.ne_of_gt hpos),
        fun hzero => absurd hzero (Nat.ne_of_gt hpos), fun _ => hpos⟩
    | injected =>
      have hpos := incrementSaturating_pos sh.worker.joinFailureCount sh.worker.accountingOverflow
      exact ⟨fun hzero => absurd hzero (Nat.ne_of_gt hpos),
        fun hzero => absurd hzero (Nat.ne_of_gt hpos), fun _ => hpos⟩
    | joined =>
      refine ⟨fun hzero hsome => Nat.succ_le_succ (hcounted.there hzero hsome),
        fun hzero hnone => Nat.le_succ_of_le (hcounted.gone hzero hnone), fun h => ?_⟩
      exact absurd h (by simp [ControllerPc.joinFailed])
  | releaseUnlockFailed caller i result allJoined hheld => exact hkeep rfl rfl rfl rfl rfl
  | releaseUnlock caller i event result allJoined hevent hheld =>
    cases event with
    | nativeFailed => exact absurd rfl hevent
    | injected =>
      have hpos := hcounted.failed rfl
      exact ⟨fun hzero => absurd hzero (Nat.ne_of_gt hpos),
        fun hzero => absurd hzero (Nat.ne_of_gt hpos), nofun⟩
    | joined =>
      have hworker : ({ sh with worker := destroyThread sh.unlockWorker.worker i } :
          Scheduler W C P).worker = destroyThread sh.unlockWorker.worker i := rfl
      have hsub := Scheduler.destroyed_subset_insert hworker
      refine ⟨fun hzero hsome => ?_, fun hzero hnone => ?_, nofun⟩
      · refine Nat.le_trans (Finset.card_le_card hsub) (Nat.le_trans (Finset.card_insert_le _ _) ?_)
        exact hcounted.there hzero ((Option.isSome_map).symm.trans hsome)
      · exact hcounted.gone hzero (Option.map_eq_none_iff.mp hnone)
  | fold caller result worker hfree hinit hfold =>
    obtain ⟨_, _, _, _, _, rfl⟩ := foldWorkers_frame hfold
    refine ⟨nofun, fun hzero _ => ?_, nofun⟩
    rcases hphase.2.1 with hreleased | ⟨k, hpopulated⟩
    · exact hcounted.gone hzero hreleased.threads
    · calc sh.worker.createdWorkerCount
          = sh.crew.startedWorkerCount := hpopulated.created.trans hpopulated.started.symm
        _ ≤ sh.crew.destroyed.card :=
          Crew.Gone.card hgone hpopulated.threads (hpopulated.started.trans_le hpopulated.bounded)
        _ ≤ sh.worker.joinedWorkerCount := hcounted.there hzero hpopulated.threads
  | foldUnlock caller result hheld =>
    exact afterRelease_elim (M := JoinsCounted _) fun _ _ _ => hkeep rfl rfl rfl rfl rfl
  | shutdownQueue hq =>
    rw [hq.frame]
    cases hq <;> exact hkeep rfl rfl rfl rfl rfl
  | drainLock caller hfree =>
    exact drainTest_elim (M := JoinsCounted _) (hkeep rfl rfl rfl rfl rfl)
      (hkeep rfl rfl rfl rfl rfl)
  | drainAgain caller hfree =>
    exact drainTest_elim (M := JoinsCounted _) (hkeep rfl rfl rfl rfl rfl)
      (hkeep rfl rfl rfl rfl rfl)
  | join hfree hstate =>
    exact drainTest_elim (M := JoinsCounted _) (hkeep rfl rfl rfl rfl rfl)
      (hkeep rfl rfl rfl rfl rfl)
  | _ => exact hkeep rfl rfl rfl rfl rfl

end Joins

/-! ## Every worker is created -/

/-- All workers were created, or a creation failed. -/
def Scheduler.Manned (sh : Scheduler W C P) : Prop :=
  sh.worker.createdWorkerCount = W ∨ 0 < sh.worker.workerStartupFailureCount

/-- A start that gives up. -/
def ControllerPc.aborts : ControllerPc P → Bool
  | .createUnlock _ created => !created
  | .readyUnlock succeeded => !succeeded
  | .abortQueue _ | .setStateLock .failed .start _ => true
  | .releaseJoin caller _ _ _ | .releaseLock caller _ _ _ _ | .releaseUnlock caller _ _ _ _
  | .foldLock caller _ | .foldUnlock caller _ => caller = .abort
  | _ => false

/-- Only a start that gives up leaves workers uncreated. -/
def ControllerPc.Manned (sh : Scheduler W C P) (pc : ControllerPc P) : Prop :=
  pc.aborts = true ∨ (sh.lifecycle.state ≠ .initialized ∧ sh.lifecycle.state ≠ .starting) →
    sh.Manned

/-- Where a join has answered `SCHEDULER_OK` the scheduler is stopped. -/
def ControllerPc.Stopped (sh : Scheduler W C P) : ControllerPc P → Prop
  | .joinUnlock .ok | .returned .join .ok => sh.lifecycle.state = .stopped
  | _ => True

section Answers

variable [DecidableEq C] {cfg : SchedulerConfig W} {choice : SchedulerChoice W C P}
  {sh : Scheduler W C P}

omit [DecidableEq C] in
theorem afterRelease_aborts (sh : Scheduler W C P) (caller : ReleaseCaller)
    (result : SchedulerResult) :
    (afterRelease sh caller result : ControllerPc P).aborts = decide (caller = .abort) := by
  cases caller with
  | abort => rfl
  | join =>
    unfold afterRelease
    dsimp only
    split <;> rfl

/-- **A start that succeeds has created all its workers.** -/
theorem ControllerStepSpec.manned {pc : ControllerPc P} {out : SchedulerStep W C P (ControllerPc P)}
    (h : ControllerStepSpec cfg choice sh pc out) (hphase : (pc.phase W).Ok sh)
    (hmanned : pc.Manned sh) : out.2.1.Manned out.1 := by
  -- a step that neither gives up, assigns the state nor creates a worker
  have hkeep : ∀ {sh' : Scheduler W C P} {pc' : ControllerPc P},
      sh'.lifecycle.state = sh.lifecycle.state →
      sh'.worker.createdWorkerCount = sh.worker.createdWorkerCount →
      sh'.worker.workerStartupFailureCount = sh.worker.workerStartupFailureCount →
      (pc'.aborts = true → pc.aborts = true) → pc'.Manned sh' := by
    intro sh' pc' hstate hcreated hstartup hgives hcase
    unfold Scheduler.Manned
    rw [hcreated, hstartup]
    refine hmanned (hcase.imp hgives fun hstates => ?_)
    rwa [hstate] at hstates
  -- during a start, only giving up counts
  have hstarting : ∀ {sh' : Scheduler W C P} {pc' : ControllerPc P},
      sh'.lifecycle.state = .initialized ∨ sh'.lifecycle.state = .starting →
      (pc'.aborts = true → sh'.Manned) → pc'.Manned sh' := by
    intro sh' pc' hstate hgives hcase
    rcases hcase with hcase | ⟨hinitialized, hnotStarting⟩
    · exact hgives hcase
    · exact (hstate.elim hinitialized hnotStarting).elim
  cases h with
  | call call pc hcall =>
    exact beginCall_elim (M := fun pc => pc.Manned sh) hcall (hkeep rfl rfl rfl nofun)
      (hkeep rfl rfl rfl nofun) (hkeep rfl rfl rfl nofun) (hkeep rfl rfl rfl nofun)
      (hkeep rfl rfl rfl nofun)
  | start hfree hstate => exact hstarting (.inr rfl) nofun
  | sizeGuard hsize => exact hstarting (.inr hphase.1) nofun
  | allocationFailed sh' hsh hfail =>
    subst hsh
    exact hstarting (.inr hphase.1) nofun
  | allocated sh' hsh hthreads hcontexts hsize =>
    subst hsh
    exact hstarting (.inr hphase.1) nofun
  | syncInitFailed mutexInitialized hmutex hfail => exact hstarting (.inr hphase.1) nofun
  | createFailed i faultPlan hfree hinit hfail hplan =>
    exact hstarting (.inr hphase.1) fun _ => .inr (incrementSaturating_pos _ _)
  | created i faultPlan hfree hinit hplan => exact hstarting (.inr hphase.1) nofun
  | readyLock hfree hinit =>
    exact readyTest_elim (M := fun pc => pc.Manned _) (hkeep rfl rfl rfl nofun)
      (hkeep rfl rfl rfl nofun)
  | readyAgain hfree hinit =>
    exact readyTest_elim (M := fun pc => pc.Manned _) (hkeep rfl rfl rfl nofun)
      (hkeep rfl rfl rfl nofun)
  | readyFailed hfree hfail => exact fun _ => .inl hphase.2.1.created
  | run hfree => exact fun _ => .inl hphase.2.1.created
  | abortQueue hq =>
    rw [hq.frame]
    cases hq <;> exact hkeep rfl rfl rfl fun _ => rfl
  | releaseIncomplete caller index result hindex =>
    exact hkeep rfl rfl rfl fun hgives =>
      (afterRelease_aborts sh caller .errorSystem).symm.trans hgives
  | releaseLock caller index event result allJoined hfree hinit =>
    cases event <;> exact hkeep rfl rfl rfl id
  | fold caller result worker hfree hinit hfold =>
    obtain ⟨_, _, _, _, _, rfl⟩ := foldWorkers_frame hfold
    exact hkeep rfl rfl rfl id
  | foldUnlock caller result hheld =>
    exact hkeep rfl rfl rfl fun hgives =>
      (afterRelease_aborts sh caller result).symm.trans hgives
  | setState state call r hfree =>
    have hbefore : (ControllerPc.setStateLock state call r : ControllerPc P).aborts = true ∨
        sh.lifecycle.state ≠ .initialized ∧ sh.lifecycle.state ≠ .starting →
        (ControllerPc.setStateUnlock call r : ControllerPc P).Manned
          ((sh.lockLifecycle .controller).setState state) := fun hcase _ => hmanned hcase
    have hjoin : sh.ReleasedBy .join →
        sh.lifecycle.state ≠ .initialized ∧ sh.lifecycle.state ≠ .starting := by
      rintro (hstate | hstate) <;> rw [hstate] <;> exact ⟨nofun, nofun⟩
    -- the assignments that a phase allows
    cases state with
    | initialized => exact hstarting (.inl rfl) nofun
    | failed =>
      cases call with
      | start => exact hbefore (.inl rfl)
      | join => exact hbefore (.inr (hjoin hphase.1))
      | _ => exact absurd hphase id
    | stopped =>
      cases call with
      | join => exact hbefore (.inr (hjoin hphase.1))
      | _ => exact absurd hphase id
    | _ => exact absurd hphase id
  | shutdownRunning hfree hstate =>
    refine fun _ => hmanned (.inr ?_)
    rw [hstate]
    exact ⟨nofun, nofun⟩
  | shutdownQueue hq =>
    rw [hq.frame]
    cases hq <;> exact hkeep rfl rfl rfl nofun
  | drainLock caller hfree =>
    exact drainTest_elim (M := fun pc => pc.Manned _) (hkeep rfl rfl rfl nofun)
      (hkeep rfl rfl rfl nofun)
  | drainAgain caller hfree =>
    exact drainTest_elim (M := fun pc => pc.Manned _) (hkeep rfl rfl rfl nofun)
      (hkeep rfl rfl rfl nofun)
  | join hfree hstate =>
    exact drainTest_elim (M := fun pc => pc.Manned _) (hkeep rfl rfl rfl nofun)
      (hkeep rfl rfl rfl nofun)
  | _ => exact hkeep rfl rfl rfl id

/-- **A join answers `SCHEDULER_OK` in the state `STOPPED` only.** -/
theorem ControllerStepSpec.stopped {pc : ControllerPc P}
    {out : SchedulerStep W C P (ControllerPc P)}
    (h : ControllerStepSpec cfg choice sh pc out) (hclean : pc.Clean sh)
    (hstopped : pc.Stopped sh) :
    out.2.1.Stopped out.1 := by
  cases h with
  | call call pc hcall =>
    exact beginCall_elim (M := fun pc => pc.Stopped sh) hcall trivial trivial
      trivial trivial trivial
  | callNull call => cases call <;> trivial
  | readyLock hfree hinit => exact readyTest_elim (M := fun pc => pc.Stopped _) trivial trivial
  | readyAgain hfree hinit => exact readyTest_elim (M := fun pc => pc.Stopped _) trivial trivial
  | abortQueue hq => cases hq <;> trivial
  | releaseIncomplete caller index result hindex =>
    exact afterRelease_elim (M := fun pc => pc.Stopped _) fun _ _ _ => trivial
  | foldUnlock caller result hheld =>
    exact afterRelease_elim (M := fun pc => pc.Stopped _) fun _ _ _ => trivial
  | setStateUnlock call r hcall hheld =>
    cases call with
    | join => exact absurd rfl hcall
    | _ => trivial
  | joinAnswered r hheld =>
    cases r with
    | ok => exact hclean.1
    | _ => trivial
  | shutdownQueue hq => cases hq <;> trivial
  | drainLock caller hfree => exact drainTest_elim (M := fun pc => pc.Stopped _) trivial trivial
  | drainAgain caller hfree => exact drainTest_elim (M := fun pc => pc.Stopped _) trivial trivial
  | joinStopped hfree hstate => exact hstate
  | join hfree hstate => exact drainTest_elim (M := fun pc => pc.Stopped _) trivial trivial
  | joinUnlock answer hheld =>
    cases answer with
    | ok => exact hstopped
    | _ => trivial
  | _ => trivial

end Answers

/-! ## Callbacks that fail -/

/-- The Task whose callback returned a failure in this step, if there is one. -/
def failedReturns (s : SchedulerPool W C P) (t : Thread W C) (s' : SchedulerPool W C P) : List P :=
  match s.pc t, s'.pc t with
  | .worker _ (.callback task _ .idle), .worker _ (.accountResult _ false) => [task]
  | _, _ => []

theorem SchedulerPc.stores_wake (pc : SchedulerPc W P) : pc.wake.stores = pc.stores := by
  cases pc with
  | worker i pc => cases pc <;> rfl
  | _ => rfl

section Failures

variable [DecidableEq C] {cfg : SchedulerConfig W} {t : Thread W C}
  {choice : SchedulerChoice W C P}

/-- A worker counts a failure after its callback returned one. -/
theorem SchedulerStepSpec.stores_failed {sh : Scheduler W C P} {pc : SchedulerPc W P}
    {out : SchedulerStep W C P (SchedulerPc W P)} (h : SchedulerStepSpec cfg choice sh t pc out)
    (hstores : out.2.1.stores .failed ≠ 0) :
    ∃ i task accounted, pc = .worker i (.callback task accounted .idle) := by
  cases h with
  | worker i h =>
    cases h with
    | dequeue hq =>
      cases hq with
      | run hact hleave => exact absurd rfl hstores
      | leave op r =>
        dsimp only at hstores
        rcases afterDequeue_cases r with hpc | hpc | ⟨task, -, hpc⟩
        · rw [hpc] at hstores
          exact absurd rfl hstores
        · rw [hpc] at hstores
          exact absurd rfl hstores
        · rw [hpc] at hstores
          exact absurd rfl hstores
    | callbackReturns task runningAccounted succeeded => exact ⟨i, task, runningAccounted, rfl⟩
    | queueShutdown r hq => cases hq <;> exact absurd rfl hstores
    | _ => exact absurd rfl hstores
  | _ => exact absurd rfl hstores

variable [Fintype C] {s s' : SchedulerPool W C P}

theorem SchedulerReachable.failedReturns_length (h : SchedulerReachable cfg s)
    (hstep : (schedulerProgram cfg).step t choice s = some s') :
    (failedReturns s t s').length = (s'.pc t).stores .failed := by
  obtain ⟨pc, fx, hspec, hfx⟩ := h.threads.step_spec hstep
  have hblind : (schedulerProgram (C := C) (P := P) cfg).Blind
      fun pc : SchedulerPc W P => pc.stores .failed :=
    schedulerProgram_blind (fun pc => congrFun pc.stores_wake .failed) fun _ => rfl
  have hsame := (Program.step_blind hblind hfx).1
  by_cases hzero : (s'.pc t).stores .failed = 0
  · rw [hzero, List.length_eq_zero_iff]
    unfold failedReturns
    split
    · rename_i hpc'
      rw [hpc'] at hzero
      cases hzero
    · rfl
  · obtain ⟨i, task, accounted, hpc⟩ := hspec.stores_failed (hsame ▸ hzero)
    unfold failedReturns
    rw [hpc]
    cases hpc' : s'.pc t with
    | worker j wpc =>
      cases wpc with
      | accountResult runningAccounted succeeded =>
        rw [hpc'] at hzero
        cases succeeded with
        | true => exact absurd rfl hzero
        | false => rfl
      | _ => rw [hpc'] at hzero; exact absurd rfl hzero
    | _ => rw [hpc'] at hzero; exact absurd rfl hzero

/-- One step: what is counted and what is about to be counted as failed. -/
theorem SchedulerReachable.failures_step (h : SchedulerReachable cfg s)
    (hstep : (schedulerProgram cfg).step t choice s = some s') (hexact : s'.shared.worker.Exact) :
    s'.shared.worker.counted .failed + Program.total (fun pc => pc.stores .failed) s'.pc
      = s.shared.worker.counted .failed + Program.total (fun pc => pc.stores .failed) s.pc
        + (failedReturns s t s').length := by
  obtain ⟨pc, fx, hspec, hfx⟩ := h.threads.step_spec hstep
  have hblind : (schedulerProgram (C := C) (P := P) cfg).Blind
      fun pc : SchedulerPc W P => pc.stores .failed :=
    schedulerProgram_blind (fun pc => congrFun pc.stores_wake .failed) fun _ => rfl
  have hcounted : s'.shared.worker.counted .failed
      = s.shared.worker.counted .failed + (s.pc t).stores .failed :=
    (hspec.tallies (h.lifecycle.threads t) h.spareSlots hexact).2 .failed
  have hmoved := Program.total_step hblind hfx
  have hlength := h.failedReturns_length hstep
  have hsame := (Program.step_blind hblind hfx).1
  omega

/-- **The failures counted so far are the callbacks that returned one.** -/
theorem SchedulerReachable.failures {queue : TaskQueue P}
    (hW : 0 < W) (hinit : taskQueueInit cfg.capacity true = (.ok, some queue))
    {ls : List (Thread W C × SchedulerChoice W C P)}
    (hrun : (schedulerProgram cfg).run ls (schedulerInitial queue) = some s)
    (hexact : s.shared.Exact) :
    s.shared.worker.counted .failed + Program.total (fun pc => pc.stores .failed) s.pc
      = ((schedulerProgram cfg).log failedReturns ls (schedulerInitial queue)).length := by
  have hbefore : SchedulerReachable cfg (schedulerInitial queue : SchedulerPool W C P) ∧
      ((schedulerInitial queue : SchedulerPool W C P).shared.Exact →
        (schedulerInitial queue : SchedulerPool W C P).shared.worker.counted .failed
          + Program.total (fun pc => pc.stores .failed)
            (schedulerInitial queue : SchedulerPool W C P).pc = ([] : List P).length) := by
    refine ⟨⟨hW, queue, hinit, .refl⟩, fun _ => ?_⟩
    rw [total_initial queue _ rfl (fun _ => rfl) rfl]
    rfl
  have hlast := Program.log_invariant (p := schedulerProgram cfg) failedReturns
    (J := fun noted w => SchedulerReachable cfg w ∧ (w.shared.Exact →
      w.shared.worker.counted .failed + Program.total (fun pc => pc.stores .failed) w.pc
        = noted.length))
    (fun {w w' t choice noted} hJ _ hstep => ?_) hbefore (Program.allowed_true _ ls _) hrun
  · exact hlast.2 hexact
  · obtain ⟨hw, hcount⟩ := hJ
    refine ⟨hw.tail (.single ⟨t, choice, hstep⟩), fun hexact' => ?_⟩
    rw [hw.failures_step hstep hexact'.2, hcount (hw.exact_before hstep hexact'),
      List.length_append]

end Failures

/-! ## After the join -/

section Quiescence

variable [DecidableEq C] [Fintype C] {cfg : SchedulerConfig W} {t u : Thread W C}
  {choice : SchedulerChoice W C P} {s s' : SchedulerPool W C P} {queue : TaskQueue P}

theorem SchedulerReachable.joinsCounted (h : SchedulerReachable cfg s)
    (hwait : cfg.waitMayFail = false) :
    ∀ pc, s.pc .controller = .controller pc → JoinsCounted s.shared pc := by
  refine h.controller_invariant JoinsCounted JoinsCounted.wake
    (fun _ => ⟨nofun, fun _ _ => Nat.le_refl _, nofun⟩) ?_ ?_
  · intro sh sh' pc hframe hledger hcounted
    have hcreated : sh'.worker.createdWorkerCount = sh.worker.createdWorkerCount :=
      congrArg Crew.createdWorkerCount hframe.crew
    refine ⟨?_, ?_, ?_⟩
    · rw [hledger.joinFailure, hframe.crew, hledger.joined]
      exact hcounted.there
    · rw [hledger.joinFailure, hframe.crew, hledger.joined, hcreated]
      exact hcounted.gone
    · rw [hledger.joinFailure]
      exact hcounted.failed
  · intro w choice pc out hw hpc hspec hawaits hcounted
    have hgone := hw.lifecycle.threads .controller
    rw [hpc] at hgone
    refine hspec.joinsCounted hgone.1 hgone.2 (fun i r hawait => ?_) hcounted
    have hsound := (hw.sound hwait).sound (.worker i)
    rw [hawaits i r hawait] at hsound
    exact hsound

theorem SchedulerReachable.manned (h : SchedulerReachable cfg s) :
    ∀ pc, s.pc .controller = .controller pc → pc.Manned s.shared := by
  refine h.controller_invariant (fun sh pc => pc.Manned sh) (fun sh pc => ?_) (fun _ => ?_) ?_ ?_
  · have hgives : pc.wake.aborts = pc.aborts := by cases pc <;> rfl
    unfold ControllerPc.Manned
    rw [hgives]
  · exact fun hcase => hcase.elim nofun fun hstate => absurd rfl hstate.1
  · intro sh sh' pc hframe hledger hmanned hcase
    rw [hframe.state] at hcase
    unfold Scheduler.Manned
    rw [show sh'.worker.createdWorkerCount = sh.worker.createdWorkerCount from
      congrArg Crew.createdWorkerCount hframe.crew, hledger.startup]
    exact hmanned hcase
  · exact fun hw hpc hspec _ hmanned => hspec.manned (hw.lifecycle.phase hpc) hmanned

theorem SchedulerReachable.stopped (h : SchedulerReachable cfg s) :
    ∀ pc, s.pc .controller = .controller pc → pc.Stopped s.shared := by
  refine h.controller_invariant (fun sh pc => pc.Stopped sh) (fun sh pc => ?_)
    (fun _ => trivial) ?_ ?_
  · cases pc <;> exact Iff.rfl
  · intro sh sh' pc hframe _ hstopped
    unfold ControllerPc.Stopped at hstopped ⊢
    rwa [hframe.state]
  · intro w choice pc out hw hpc hspec _ hstopped
    have hclean := hw.clean.controller
    rw [hpc] at hclean
    exact hspec.stopped hclean hstopped

/-- The backend has refused nothing that would cost a worker: condition waits succeed, and
no creation and no join of a worker has failed, natively or by the fault plan. -/
structure Unrefused (cfg : SchedulerConfig W) (sh : Scheduler W C P) : Prop where
  waits : cfg.waitMayFail = false
  creations : sh.worker.workerStartupFailureCount = 0
  joins : sh.worker.joinFailureCount = 0

/-- Failures are not forgotten. -/
theorem Unrefused.before (h : Unrefused cfg s'.shared) (hreach : SchedulerReachable cfg s)
    (hsteps : (schedulerProgram cfg).Steps s s') : Unrefused cfg s.shared := by
  have hstaff : s.shared.worker.staff ≤ s'.shared.worker.staff := by
    refine hsteps.invariant (I := fun w => s.shared.worker.staff ≤ w.shared.worker.staff)
      (le_refl _) ?_
    rintro w w' hrun hle ⟨t, choice, hstep⟩
    exact le_trans hle ((hreach.tail hrun).grows hstep).staff
  obtain ⟨-, -, hcreations, -, hjoins⟩ := hstaff
  exact ⟨h.waits, Nat.le_zero.mp (h.creations ▸ hcreations), Nat.le_zero.mp (h.joins ▸ hjoins)⟩

/-- **After a join with nothing refused** the scheduler is at rest, with all its workers
created and joined. -/
theorem SchedulerReachable.atRest (h : SchedulerReachable cfg s)
    (hjoin : s.pc .controller = .controller (.returned .join .ok))
    (hunrefused : Unrefused cfg s.shared) :
    AtRest s ∧ s.shared.lifecycle.state = .stopped ∧ s.shared.worker.createdWorkerCount = W := by
  have hstopped : s.shared.lifecycle.state = .stopped := h.stopped _ hjoin
  have hsettled := (h.lifecycle.phase hjoin).stopped hstopped
  have hthreads : s.shared.crew.threads = none := hsettled.1.threads
  have hcreated : s.shared.worker.createdWorkerCount = W := by
    have hstate : s.shared.lifecycle.state ≠ .initialized ∧
        s.shared.lifecycle.state ≠ .starting := by
      rw [hstopped]
      exact ⟨nofun, nofun⟩
    rcases h.manned _ hjoin (.inr hstate) with hcreated | hfailed
    · exact hcreated
    · exact absurd hunrefused.creations (Nat.ne_of_gt hfailed)
  refine ⟨⟨.inl hstopped, hsettled.1, h.gate.stopped hstopped, ?_, ?_⟩, hstopped, hcreated⟩
  · exact (h.sound hunrefused.waits).unfailed.1
  · exact Nat.le_antisymm ((h.headcount.joined _ hjoin).gone hthreads)
      ((h.joinsCounted hunrefused.waits _ hjoin).gone hunrefused.joins hthreads)

/-- At rest, what was counted is what was folded. -/
theorem AtRest.failures (h : AtRest s) (hreach : SchedulerReachable cfg s) :
    s.shared.worker.counted .failed + Program.total (fun pc => pc.stores .failed) s.pc
      = s.shared.worker.failedCallbackCount := by
  have hcontexts : s.shared.worker.workerContexts = none :=
    Option.isNone_iff_eq_none.mp (Option.isSome_eq_false_iff.mp h.released.contexts)
  have hdead : AllDead s := fun i wpc hwpc => hreach.released h.released hwpc
  have hstores : Program.total (fun pc => pc.stores .failed) s.pc = 0 := by
    refine hdead.total_eq_zero hreach.threads _ (fun _ => rfl) (fun _ => rfl) fun i wpc hwpc => ?_
    cases wpc <;> first | rfl | cases hwpc
  rw [hstores, WorkerDomain.counted_none hcontexts]
  rfl

/-- **Quiescent exactness.** In a run in which the backend refuses nothing and no counter
overflows, a snapshot whose capture began after `scheduler_join` answered `SCHEDULER_OK`
balances, shows every worker joined and nothing going on, and passes both validators, however
many submissions are rejected meanwhile; its failed callbacks are those that returned a
failure. -/
theorem quiescent_exact (hW : 0 < W) (hinit : taskQueueInit cfg.capacity true = (.ok, some queue))
    {ls ls' : List (Thread W C × SchedulerChoice W C P)}
    (hrun : (schedulerProgram cfg).run ls (schedulerInitial queue) = some s)
    (hjoin : s.pc .controller = .controller (.returned .join .ok))
    (hbegins : (s.pc u).toCall.capturing = false)
    (hrun' : (schedulerProgram cfg).run ls' s = some s') {snapshot : SchedulerSnapshot}
    (hcaptured : (s'.pc u).toCall = .captured (some snapshot))
    (hunrefused : Unrefused cfg s'.shared) (hexact : s'.shared.Exact) :
    snapshot.submittedCount = snapshot.acceptedCount + snapshot.rejectedCount ∧
      snapshot.acceptedCount = snapshot.dequeuedCount ∧
      snapshot.dequeuedCount = snapshot.callbackStartedCount ∧
      snapshot.callbackStartedCount
        = snapshot.callbackSucceededCount + snapshot.callbackFailedCount ∧
      snapshot.joinedWorkerCount = snapshot.createdWorkerCount ∧
      snapshot.createdWorkerCount = snapshot.configuredWorkerCount ∧
      snapshot.configuredWorkerCount = W ∧
      snapshot.currentlyRunningCount = 0 ∧ snapshot.activeWorkerCount = 0 ∧
      snapshot.queueCurrentSize = 0 ∧
      (schedulerSnapshotValidate snapshot .quiescent).issues = [] ∧
      schedulerSnapshotValidateQuiescent snapshot = true ∧
      schedulerSnapshotDeriveHealth snapshot (schedulerSnapshotValidate snapshot .quiescent)
        = some .stopped ∧
      snapshot.callbackFailedCount = ((schedulerProgram cfg).log failedReturns (ls ++ ls')
        (schedulerInitial queue)).length := by
  have hreach : SchedulerReachable cfg s := ⟨hW, queue, hinit, Program.steps_of_run hrun⟩
  have hsteps := Program.steps_of_run hrun'
  have hreach' := hreach.tail hsteps
  obtain ⟨hrest, hstopped, hcreated⟩ := hreach.atRest hjoin (hunrefused.before hreach hsteps)
  -- nothing leads out of `STOPPED`
  obtain ⟨hrest', hfolded, -, -, hrests⟩ := hrest.captures (A := fun state => state = .stopped)
    hreach hsteps hstopped (fun state state' hstate hmove => by cases hmove <;>
      cases hstate) hbegins
  have hsnapshot := hrests hexact
  have hstructured := hreach'.structured u
  rw [hcaptured] at hsnapshot hstructured
  obtain ⟨hsnapshot, hsize⟩ := hsnapshot
  obtain ⟨hstructural, hsized, hconfigured⟩ := hstructured
  have hbalances : Balances fun k => k.folded s.shared.worker := by
    have hbalances := hreach'.balances hexact
    rwa [funext hfolded] at hbalances
  obtain ⟨hissues, hold, hfits, hsound⟩ := hsnapshot.validates hsize hbalances
    (fun state hstate => .inl hstate) hstructural hsized
  have hstate : snapshot.state = .stopped := by
    obtain ⟨state, rfl, hstate⟩ := hsnapshot.state
    exact hstate
  have hfailed : snapshot.callbackFailedCount = ((schedulerProgram cfg).log failedReturns
      (ls ++ ls') (schedulerInitial queue)).length := by
    rw [← SchedulerReachable.failures hW hinit (Program.run_append hrun hrun') hexact,
      hrest'.failures hreach']
    exact (hsnapshot.totals .failed).trans (hfolded .failed).symm
  exact ⟨hsound.submitted, hsound.dequeued, hsound.started, hsound.outcomes,
    hsnapshot.joined.trans hsnapshot.created.symm,
    hsnapshot.created.trans (hcreated.trans hconfigured.symm), hconfigured, hsound.running,
    hsound.active, hsound.size, hissues, hold, deriveHealth_stopped hfits hsound hstate, hfailed⟩

end Quiescence

/-- One Task whose callback fails, from its submission to the join of the worker. -/
def failingSchedule : SmallSchedule :=
  startSchedule ++ makes firstClient (.submit .submit (some 7)) 8 ++ advance soleWorker 7
    ++ makes soleWorker (.callbackReturns false) 2
    ++ makes .controller (.lifecycle .shutdown true) 8 ++ advance soleWorker 5
    ++ makes .controller (.lifecycle .join true) 10

/-- A capture, in the middle of which a submission is rejected. -/
def lateSchedule : SmallSchedule :=
  makes secondClient .capture 2 ++ makes firstClient (.submit .submit (some 8)) 2
    ++ advance secondClient 5

/-- The snapshot after `lateSchedule`. -/
def failingSnapshot : SchedulerSnapshot :=
  { joinedSnapshot with callbackSucceededCount := 0, callbackFailedCount := 1 }

theorem quiescent_exact_after_failure :
    ∃ (s s' : SchedulerPool 1 (Fin 2) ℕ) (snapshot : SchedulerSnapshot),
      (schedulerProgram reliableConfig).run failingSchedule (schedulerInitial smallQueue) = some s ∧
      s.pc .controller = .controller (.returned .join .ok) ∧
      (schedulerProgram reliableConfig).run lateSchedule s = some s' ∧
      s'.shared.lifecycle.rejectedCount = 1 ∧
      (s'.pc (.client 1)).toCall = .captured (some snapshot) ∧
      (schedulerSnapshotValidate snapshot .quiescent).issues = [] ∧
      ((schedulerProgram reliableConfig).log failedReturns (failingSchedule ++ lateSchedule)
        (schedulerInitial smallQueue)).length = 1 := by
  obtain ⟨s, hrun, hobs⟩ := Option.map_eq_some_iff.mp (show
    ((schedulerProgram reliableConfig).run failingSchedule (schedulerInitial smallQueue)).map
      (fun s : SchedulerPool 1 (Fin 2) ℕ =>
        ((s.pc .controller, (s.pc (.client 1)).toCall.capturing),
        ((schedulerProgram reliableConfig).run lateSchedule s).map fun s' =>
          ((s'.pc (.client 1)).toCall, decide (s'.shared.lifecycle.rejectedCount = 1 ∧
            s'.shared.worker.workerStartupFailureCount = 0 ∧ s'.shared.worker.joinFailureCount = 0 ∧
            s'.shared.Exact))))
      = some ((.controller (.returned .join .ok), false),
        some (.captured (some failingSnapshot), true)) by decide +kernel)
  obtain ⟨hbefore, hobs⟩ := Prod.mk.inj hobs
  obtain ⟨hjoin, hbegins⟩ := Prod.mk.inj hbefore
  obtain ⟨s', hrun', hobs⟩ := Option.map_eq_some_iff.mp hobs
  obtain ⟨hcaptured, hcounts⟩ := Prod.mk.inj hobs
  obtain ⟨hrejected, hcreations, hjoins, hexact⟩ := of_decide_eq_true hcounts
  obtain ⟨-, -, -, -, -, -, -, -, -, -, hissues, -, -, hfailed⟩ :=
    quiescent_exact (by decide) rfl hrun
    hjoin hbegins hrun' hcaptured ⟨rfl, hcreations, hjoins⟩ hexact
  exact ⟨s, s', failingSnapshot, hrun, hjoin, hrun', hrejected, hcaptured, hissues, hfailed.symm⟩

end SchedulingEngine
