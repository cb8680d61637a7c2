import SchedulingEngine.Scheduler.Gate

/-!
# Exactly-once execution

When the first `scheduler_join` past its state check answers `SCHEDULER_OK`, every
pointer was passed to the callback as often as its submissions were accepted, and no
callback runs any more.

The argument: `release_workers` answers `SCHEDULER_OK` only if all workers finished and
none recorded a failure, so if there was a worker at all, one of them exited cleanly and
left the queue closed and empty (`WorkerOk.drained`). Nobody is past the gate of a
stopped scheduler (`GateInv`), so what was inserted is what was accepted, and with
nothing left in the queue or in a worker's hands, it is also what was executed.
-/

namespace SchedulingEngine

open Concurrency

variable {W : ℕ} {C P : Type}

/-- On the way to a join that answers `SCHEDULER_OK`, no worker has failed, and the
state assigned is `STOPPED`. -/
def ControllerPc.Clean (sh : Scheduler W C P) : ControllerPc P → Prop
  | .foldLock .join .ok | .foldUnlock .join .ok => sh.worker.infrastructureFailure = false
  | .setStateLock state .join .ok => state = .stopped ∧ sh.worker.infrastructureFailure = false
  | .setStateUnlock .join .ok =>
    sh.lifecycle.state = .stopped ∧ sh.worker.infrastructureFailure = false
  | _ => True

theorem ControllerPc.clean_wake (sh : Scheduler W C P) (pc : ControllerPc P) :
    pc.wake.Clean sh = pc.Clean sh := by
  cases pc <;> rfl

section Steps

variable [DecidableEq C] {cfg : SchedulerConfig W} {t : Thread W C}
  {choice : SchedulerChoice W C P} {sh : Scheduler W C P}

omit [DecidableEq C] in
theorem afterRelease_clean (sh : Scheduler W C P) {caller : ReleaseCaller}
    {result : SchedulerResult}
    (h : caller = .join → result = .ok → sh.worker.infrastructureFailure = false) :
    (afterRelease sh caller result : ControllerPc P).Clean sh := by
  cases caller with
  | abort => trivial
  | join =>
    unfold afterRelease
    dsimp only
    split
    · trivial
    · cases result with
      | ok => exact ⟨rfl, h rfl rfl⟩
      | _ => trivial

/-- A lifecycle call stays clean. -/
theorem ControllerStepSpec.clean {pc : ControllerPc P} {out : SchedulerStep W C P (ControllerPc P)}
    (h : ControllerStepSpec cfg choice sh pc out) (hclean : pc.Clean sh) : out.2.1.Clean out.1 := by
  cases h with
  | call call pc hcall =>
    rcases beginCall_quiet hcall with rfl | rfl | rfl | rfl | rfl <;> trivial
  | readyLock hfree hinit =>
    rcases readyTest_cases sh with ⟨hpc, -⟩ | ⟨hpc, -⟩ <;> rw [hpc] <;> trivial
  | readyAgain hfree hinit =>
    rcases readyTest_cases sh with ⟨hpc, -⟩ | ⟨hpc, -⟩ <;> rw [hpc] <;> trivial
  | abortQueue hq => cases hq <;> trivial
  -- OK goes on from here only if no worker failed
  | releaseDone caller index result hindex =>
    cases hfailure : sh.worker.infrastructureFailure with
    | true => cases caller <;> trivial
    | false =>
      cases caller with
      | abort => trivial
      | join => cases result <;> first | exact hfailure | trivial
  | releaseIncomplete caller index result hindex => exact afterRelease_clean sh fun _ h => nomatch h
  | fold caller result worker hfree hinit hfold =>
    obtain ⟨_, _, _, _, _, rfl⟩ := foldWorkers_frame hfold
    cases caller with
    | abort => trivial
    | join =>
      cases result with
      | ok => exact hclean
      | _ => trivial
  -- and is kept up to the answer
  | foldUnlock caller result hheld =>
    refine afterRelease_clean sh.unlockWorker ?_
    rintro rfl rfl
    exact hclean
  | setState state call r hfree =>
    cases call with
    | join =>
      cases r with
      | ok => exact hclean
      | _ => trivial
    | _ => trivial
  | shutdownQueue hq => cases hq <;> trivial
  | drainLock caller hfree =>
    rcases drainTest_cases sh caller with ⟨hpc, -⟩ | ⟨hpc, -⟩ <;> rw [hpc] <;> trivial
  | drainAgain caller hfree =>
    rcases drainTest_cases sh caller with ⟨hpc, -⟩ | ⟨hpc, -⟩ <;> rw [hpc] <;> trivial
  | join hfree hstate =>
    rcases drainTest_cases sh .join with ⟨hpc, -⟩ | ⟨hpc, -⟩ <;> rw [hpc] <;> trivial
  | _ => trivial

/-- Lifecycle calls read the failure flag, they do not write it, and run no callback. -/
theorem ControllerStepSpec.failure {pc : ControllerPc P}
    {out : SchedulerStep W C P (ControllerPc P)} (h : ControllerStepSpec cfg choice sh pc out) :
    out.1.worker.infrastructureFailure = sh.worker.infrastructureFailure ∧
      out.1.history.invoked = sh.history.invoked := by
  cases h with
  | allocationFailed sh' hsh => rw [hsh]; exact ⟨rfl, rfl⟩
  | allocated sh' hsh => rw [hsh]; exact ⟨rfl, rfl⟩
  | abortQueue hq => rw [hq.frame]; exact ⟨rfl, rfl⟩
  | releaseLock caller index event result allJoined hfree hinit => cases event <;> exact ⟨rfl, rfl⟩
  | fold caller result worker hfree hinit hfold =>
    obtain ⟨_, _, _, _, _, rfl⟩ := foldWorkers_frame hfold
    exact ⟨rfl, rfl⟩
  | shutdownQueue hq => rw [hq.frame]; exact ⟨rfl, rfl⟩
  | _ => exact ⟨rfl, rfl⟩

theorem CallStepSpec.failure {pc : CallPc P} {out : SchedulerStep W C P (CallPc P)}
    (h : CallStepSpec cfg t choice sh pc out) :
    out.1.worker.infrastructureFailure = sh.worker.infrastructureFailure ∧
      out.1.history.invoked = sh.history.invoked := by
  cases h with
  | enqueue kind task hq => rw [hq.frame]; exact ⟨rfl, rfl⟩
  | captureQueue temporary hq => rw [hq.frame]; exact ⟨rfl, rfl⟩
  | _ => exact ⟨rfl, rfl⟩

/-- Running workers alone write the failure flag and run callbacks. -/
theorem SchedulerStepSpec.failure {pc : SchedulerPc W P}
    {out : SchedulerStep W C P (SchedulerPc W P)} (h : SchedulerStepSpec cfg choice sh t pc out) :
    (out.1.worker.infrastructureFailure = sh.worker.infrastructureFailure ∧
      out.1.history.invoked = sh.history.invoked) ∨
      ∃ i wpc, t = .worker i ∧ pc = .worker i wpc ∧ wpc.alive = true := by
  cases h with
  | call c h => exact .inl h.failure
  | worker i h => exact .inr ⟨i, _, rfl, rfl, by cases h <;> rfl⟩
  | controller h => exact .inl h.failure

/-- When the result of the first join is recorded. -/
theorem ControllerStepSpec.firstJoin {pc : ControllerPc P}
    {out : SchedulerStep W C P (ControllerPc P)} (h : ControllerStepSpec cfg choice sh pc out)
    (hfirst : out.1.history.firstJoin = some .ok) :
    sh.history.firstJoin = some .ok ∨ pc = .setStateUnlock .join .ok := by
  have hrecord : ∀ r, sh.history.firstJoin.or (some r) = some .ok →
      sh.history.firstJoin = some .ok ∨ r = .ok := by
    intro r hr
    cases hjoin : sh.history.firstJoin with
    | none =>
      rw [hjoin] at hr
      exact .inr (Option.some.inj hr)
    | some r' =>
      rw [hjoin] at hr
      exact .inl hr
  cases h with
  | allocationFailed sh' hsh => rw [hsh] at hfirst; exact .inl hfirst
  | allocated sh' hsh => rw [hsh] at hfirst; exact .inl hfirst
  | abortQueue hq => rw [hq.frame] at hfirst; exact .inl hfirst
  | joinAnswered r hheld =>
    rcases hrecord r hfirst with hbefore | rfl
    · exact .inl hbefore
    · exact .inr rfl
  | shutdownQueue hq => rw [hq.frame] at hfirst; exact .inl hfirst
  | joinFailed hheld =>
    rcases hrecord _ hfirst with hbefore | hr
    · exact .inl hbefore
    · cases hr
  | _ => exact .inl hfirst

/-- The first result stands. -/
theorem ControllerStepSpec.firstJoin_stays {pc : ControllerPc P}
    {out : SchedulerStep W C P (ControllerPc P)} (h : ControllerStepSpec cfg choice sh pc out)
    {r : SchedulerResult} (hfirst : sh.history.firstJoin = some r) :
    out.1.history.firstJoin = some r := by
  have hrecord : ∀ r', sh.history.firstJoin.or (some r') = some r := by
    intro r'
    rw [hfirst]
    rfl
  cases h with
  | allocationFailed sh' hsh => rw [hsh]; exact hfirst
  | allocated sh' hsh => rw [hsh]; exact hfirst
  | abortQueue hq => rw [hq.frame]; exact hfirst
  | joinAnswered r' hheld => exact hrecord r'
  | shutdownQueue hq => rw [hq.frame]; exact hfirst
  | joinFailed hheld => exact hrecord _
  | _ => exact hfirst

theorem CallStepSpec.firstJoin {pc : CallPc P} {out : SchedulerStep W C P (CallPc P)}
    (h : CallStepSpec cfg t choice sh pc out) :
    out.1.history.firstJoin = sh.history.firstJoin := by
  cases h with
  | enqueue kind task hq => rw [hq.frame]
  | captureQueue temporary hq => rw [hq.frame]
  | _ => rfl

theorem SchedulerStepSpec.firstJoin {pc : SchedulerPc W P}
    {out : SchedulerStep W C P (SchedulerPc W P)} (h : SchedulerStepSpec cfg choice sh t pc out)
    (ht : t ≠ .controller) : out.1.history.firstJoin = sh.history.firstJoin := by
  cases h with
  | call c h => exact h.firstJoin
  | worker i h =>
    cases h with
    | dequeue hq => rw [hq.frame]
    | call task runningAccounted hcall => exact hcall.firstJoin
    | queueShutdown r hq => rw [hq.frame]
    | _ => rfl
  | controller h => exact absurd rfl ht

end Steps

/-! ## Reachable states -/

def SchedulerPc.Clean (sh : Scheduler W C P) : SchedulerPc W P → Prop
  | .controller pc => pc.Clean sh
  | _ => True

section Reachable

variable [DecidableEq C] [Fintype C] {cfg : SchedulerConfig W} {t : Thread W C}
  {choice : SchedulerChoice W C P} {s s' : SchedulerPool W C P}

/-- A join that answers `SCHEDULER_OK` is clean, and stays so. -/
structure CleanInv (s : SchedulerPool W C P) : Prop where
  controller : (s.pc .controller).Clean s.shared
  firstJoin : s.shared.history.firstJoin = some .ok → s.shared.lifecycle.state = .stopped ∧
    s.shared.worker.infrastructureFailure = false

/-- No worker runs once the arrays are freed. -/
theorem SchedulerReachable.released (h : SchedulerReachable cfg s)
    (hreleased : s.shared.crew.Released)
    {i : Fin W} {pc : WorkerPc P} (hpc : s.pc (.worker i) = .worker i pc) : pc.alive = false := by
  refine (h.lifecycle.worker hpc).not_alive (.inl hreleased) ?_
  intro threads hthreads
  cases hreleased.threads.symm.trans hthreads

/-- No worker runs. -/
def AllDead (s : SchedulerPool W C P) : Prop :=
  ∀ i wpc, s.pc (.worker i) = .worker i wpc → wpc.alive = false

/-- With all workers dead nothing fails and nothing is run. -/
theorem AllDead.step (hinv : ThreadInv cfg s) (hdead : AllDead s)
    (hstep : (schedulerProgram cfg).step t choice s = some s') :
    s'.shared.worker.infrastructureFailure = s.shared.worker.infrastructureFailure ∧
      s'.shared.history.invoked = s.shared.history.invoked := by
  obtain ⟨pc, fx, hspec, -⟩ := hinv.step_spec hstep
  rcases hspec.failure with hsame | ⟨i, wpc, rfl, hwpc, halive⟩
  · exact hsame
  · rw [hdead i wpc hwpc] at halive
    cases halive

/-- Where a join is about to answer `SCHEDULER_OK`, no worker runs. -/
theorem SchedulerReachable.clean_cases (h : SchedulerReachable cfg s) {pc : ControllerPc P}
    (hpc : s.pc .controller = .controller pc) (hclean : pc.Clean s.shared) :
    (∀ sh : Scheduler W C P, pc.Clean sh) ∨ AllDead s := by
  have hok := h.lifecycle.threads .controller
  rw [hpc] at hok
  obtain ⟨hphase, hgone⟩ := hok
  cases pc with
  | foldLock caller result =>
    exact .inr fun i wpc hwpc => (h.lifecycle.worker hwpc).not_alive hphase.2.1 hgone
  | foldUnlock caller result => exact .inr fun i wpc hwpc => h.released hphase.2.1 hwpc
  | setStateLock state call r =>
    cases call with
    | join =>
      cases r with
      | ok =>
        obtain ⟨rfl, -⟩ := hclean
        exact .inr fun i wpc hwpc => h.released hphase.2.1 hwpc
      | _ => exact .inl fun _ => trivial
    | _ => exact .inl fun _ => trivial
  | setStateUnlock call r =>
    cases call with
    | join =>
      cases r with
      | ok =>
        have hstopped := Phase.Ok.stopped hphase hclean.1
        exact .inr fun i wpc hwpc => h.released hstopped.1 hwpc
      | _ => exact .inl fun _ => trivial
    | _ => exact .inl fun _ => trivial
  | _ => exact .inl fun _ => trivial

omit [DecidableEq C] [Fintype C] in
theorem ControllerPc.Clean.congr {sh sh' : Scheduler W C P} {pc : ControllerPc P}
    (hstate : sh'.lifecycle.state = sh.lifecycle.state)
    (hfailure : sh'.worker.infrastructureFailure = sh.worker.infrastructureFailure)
    (h : pc.Clean sh) : pc.Clean sh' := by
  unfold ControllerPc.Clean at h ⊢
  rwa [hstate, hfailure]

omit [DecidableEq C] [Fintype C] in
theorem cleanInv_initial (queue : TaskQueue P) :
    CleanInv (schedulerInitial queue : SchedulerPool W C P) :=
  ⟨trivial, nofun⟩

theorem cleanInv_step (hreach : SchedulerReachable cfg s) (h : CleanInv s)
    (hstep : (schedulerProgram cfg).step t choice s = some s') : CleanInv s' := by
  obtain ⟨pc₀, hpc₀⟩ := hreach.threads.controllerPc
  have hclean := h.controller
  rw [hpc₀] at hclean
  have hblind : ∀ sh : Scheduler W C P,
      (schedulerProgram (C := C) (P := P) cfg).Blind (SchedulerPc.Clean sh) := by
    refine fun sh => schedulerProgram_blind (fun pc => ?_) fun _ => rfl
    cases pc with
    | controller pc => exact pc.clean_wake sh
    | _ => rfl
  rcases hreach.step_cases hstep with ⟨ht, hframe⟩ | ⟨rfl, pc, pc', fx, hpc, hspec, hfx⟩
  · obtain ⟨pc, fx, hspec, hfx⟩ := hreach.threads.step_spec hstep
    -- the flag may change, but not where it is relied on
    have hfailure := fun hdead => (AllDead.step hreach.threads hdead hstep).1
    refine ⟨?_, ?_⟩
    · rw [(Program.step_blind (hblind s'.shared) hfx).2 .controller (Ne.symm ht), hpc₀]
      rcases hreach.clean_cases hpc₀ hclean with hall | hdead
      · exact hall s'.shared
      · exact ControllerPc.Clean.congr hframe.state (hfailure hdead) hclean
    · intro hfirst
      obtain ⟨hstopped, hclear⟩ := h.firstJoin ((hspec.firstJoin ht).symm.trans hfirst)
      have hsettled := (hreach.lifecycle.phase hpc₀).stopped hstopped
      exact ⟨hframe.state.trans hstopped,
        (hfailure fun i wpc hwpc => hreach.released hsettled.1 hwpc).trans hclear⟩
  · rw [hpc] at hpc₀
    cases hpc₀
    refine ⟨?_, ?_⟩
    · rw [(Program.step_blind (hblind s'.shared) hfx).1]
      exact hspec.clean hclean
    · intro hfirst
      have hstopped : s.shared.lifecycle.state = .stopped ∧
          s.shared.worker.infrastructureFailure = false := by
        rcases hspec.firstJoin hfirst with hbefore | rfl
        · exact h.firstJoin hbefore
        · exact hclean
      exact ⟨hspec.stopped_stays (hreach.lifecycle.phase hpc) hstopped.1,
        hspec.failure.1.trans hstopped.2⟩

theorem SchedulerReachable.clean (h : SchedulerReachable cfg s) : CleanInv s :=
  h.invariant (fun queue _ => cleanInv_initial queue) cleanInv_step

/-! ## The theorem -/

/-- What a dead worker holds. -/
theorem SchedulerPc.idle_of_dead {i : Fin W} {wpc : WorkerPc P} (hdead : wpc.alive = false) :
    (SchedulerPc.worker i wpc).held = 0 ∧ (SchedulerPc.worker i wpc).executing = 0 := by
  cases wpc with
  | notCreated => exact ⟨rfl, rfl⟩
  | finished r => exact ⟨rfl, rfl⟩
  | _ => cases hdead

/-- With all workers dead, what only running workers carry is nowhere. -/
theorem AllDead.total_eq_zero {M : Type} [AddCommMonoid M] (hinv : ThreadInv cfg s)
    (hdead : AllDead s) (w : SchedulerPc W P → M) (hcontroller : ∀ pc, w (.controller pc) = 0)
    (hcall : ∀ pc, w (.call pc) = 0) (hworker : ∀ i wpc, wpc.alive = false →
      w (.worker i wpc) = 0) :
    Program.total w s.pc = 0 := by
  rw [total_workers hinv.runs w hcontroller hcall]
  refine Finset.sum_eq_zero fun i _ => ?_
  obtain ⟨wpc, hwpc⟩ := hinv.workerPc i
  rw [hwpc]
  exact hworker i wpc (hdead i wpc hwpc)

/-- With all workers dead, nothing is held and nothing is executing. -/
theorem AllDead.totals (hinv : ThreadInv cfg s) (hdead : AllDead s) :
    Program.total SchedulerPc.held s.pc = 0 ∧ ∀ u, (s.pc u).executing = 0 := by
  constructor
  · exact hdead.total_eq_zero hinv _ (fun _ => rfl) (fun _ => rfl) fun i wpc hwpc =>
      (SchedulerPc.idle_of_dead hwpc).1
  · intro u
    have hrun := hinv.runs u
    cases u with
    | controller =>
      obtain ⟨pc, hpc⟩ := hinv.controllerPc
      rw [hpc]
      rfl
    | worker i =>
      obtain ⟨wpc, hwpc⟩ := hinv.workerPc i
      rw [hwpc]
      exact (SchedulerPc.idle_of_dead (hdead i wpc hwpc)).2
    | client c =>
      cases hpc : s.pc (.client c) with
      | call pc => rfl
      | _ => rw [hpc] at hrun; exact hrun.elim

/-- Once the workers are gone, and none of them failed, the queue is empty. -/
theorem SchedulerReachable.drained_of_released (h : SchedulerReachable cfg s)
    (hreleased : s.shared.crew.Released) (hclear : s.shared.worker.infrastructureFailure = false) :
    s.shared.queue.inserted = s.shared.queue.removed ∧ taskQueueSize s.shared.queue.queue = 0 := by
  obtain ⟨f, habs, -⟩ := h.threads.abstracts
  suffices hempty : f.contents = [] by
    rw [habs.history, habs.size_eq, hempty, List.append_nil]
    exact ⟨rfl, rfl⟩
  obtain ⟨wpc, hwpc⟩ := h.threads.workerPc ⟨0, h.1⟩
  have hok := h.lifecycle.worker hwpc
  have hdead := h.released hreleased hwpc
  cases wpc with
  | notCreated =>
    -- no worker was ever created, so nothing was ever admitted
    have hcreated : s.shared.worker.createdWorkerCount < W :=
      Nat.lt_of_le_of_lt (hok.created.mp rfl) h.1
    obtain ⟨hadmitted, haccepted⟩ := h.gate.unopened hcreated
    have hinserted := h.accounts.inserted
    have hzero : Program.total SchedulerPc.inFlight s.pc = 0 :=
      Finset.sum_eq_zero fun u _ => CallPc.inFlight_eq_zero (hadmitted u)
    rw [hzero, haccepted, habs.history] at hinserted
    have hnil : s.shared.queue.removed ++ f.contents = [] := by simpa using hinserted
    exact (List.append_eq_nil_iff.mp hnil).2
  | finished r =>
    have hr : r = .ok := by
      by_contra hne
      rw [hok.failure r rfl hne] at hclear
      cases hclear
    have hdrained := (hok.drained (by rw [hr]; rfl)).2
    rw [habs.size_eq] at hdrained
    exact List.length_eq_zero_iff.mp hdrained
  | _ => cases hdead

/-- If in addition nobody is past the gate, what was accepted was executed. -/
theorem SchedulerReachable.executed_of_released (h : SchedulerReachable cfg s)
    (hreleased : s.shared.crew.Released) (hclear : s.shared.worker.infrastructureFailure = false)
    (hadmitted : ∀ u, (s.pc u).admitted = false) :
    AllDead s ∧ (s.shared.history.invoked : Multiset P) = s.shared.history.accepted ∧
      (s.shared.history.completed : Multiset P) = s.shared.history.accepted := by
  have hdead : AllDead s := fun i wpc hwpc => h.released hreleased hwpc
  obtain ⟨hheld, hexecuting⟩ := hdead.totals h.threads
  have hinFlight : Program.total SchedulerPc.inFlight s.pc = 0 :=
    Finset.sum_eq_zero fun u _ => CallPc.inFlight_eq_zero (hadmitted u)
  have hrunning : Program.total SchedulerPc.executing s.pc = 0 :=
    Finset.sum_eq_zero fun u _ => hexecuting u
  have hinvoked : (s.shared.history.invoked : Multiset P) = s.shared.history.accepted :=
    calc (s.shared.history.invoked : Multiset P)
        = s.shared.queue.removed := by rw [h.accounts.removed, hheld, add_zero]
      _ = s.shared.queue.inserted := by rw [(h.drained_of_released hreleased hclear).1]
      _ = s.shared.history.accepted := by rw [h.accounts.inserted, hinFlight, add_zero]
  refine ⟨hdead, hinvoked, ?_⟩
  rw [← hinvoked, h.accounts.invoked, hrunning, add_zero]

/-- After a clean join no worker runs, and what was accepted was executed. -/
theorem SchedulerReachable.executed_by_join (h : SchedulerReachable cfg s)
    (hjoin : s.shared.history.firstJoin = some .ok) :
    AllDead s ∧ (s.shared.history.invoked : Multiset P) = s.shared.history.accepted ∧
      (s.shared.history.completed : Multiset P) = s.shared.history.accepted := by
  obtain ⟨hstopped, hclear⟩ := h.clean.firstJoin hjoin
  obtain ⟨cpc, hcpc⟩ := h.threads.controllerPc
  have hsettled := (h.lifecycle.phase hcpc).stopped hstopped
  exact h.executed_of_released hsettled.1 hclear (h.gate.stopped hstopped)

theorem SchedulerReachable.firstJoin_stays (h : SchedulerReachable cfg s)
    (hstep : (schedulerProgram cfg).step t choice s = some s') {r : SchedulerResult}
    (hfirst : s.shared.history.firstJoin = some r) : s'.shared.history.firstJoin = some r := by
  rcases h.step_cases hstep with ⟨ht, -⟩ | ⟨rfl, pc, pc', fx, -, hspec, -⟩
  · obtain ⟨pc, fx, hspec, -⟩ := h.threads.step_spec hstep
    exact (hspec.firstJoin ht).trans hfirst
  · exact hspec.firstJoin_stays hfirst

/-- **Exactly-once execution.** Once the first `scheduler_join` past its state check has
answered `SCHEDULER_OK`, the pointers passed to the callback are, with multiplicity, the
pointers whose submission answered `SCHEDULER_OK`; the callback has returned for each of
them, and from then on it is neither running nor called again. -/
theorem exactly_once (h : SchedulerReachable cfg s)
    (hjoin : s.shared.history.firstJoin = some .ok) :
    (s.shared.history.invoked : Multiset P) = s.shared.history.accepted ∧
      (s.shared.history.completed : Multiset P) = s.shared.history.accepted ∧
      (∀ task, task ∉ s.shared.history.accepted → task ∉ s.shared.history.invoked) ∧
      ∀ s', (schedulerProgram cfg).Steps s s' →
        s'.shared.history.invoked = s.shared.history.invoked ∧
          ∀ u, (s'.pc u).executing = 0 := by
  obtain ⟨-, hinvoked, hcompleted⟩ := h.executed_by_join hjoin
  refine ⟨hinvoked, hcompleted, ?_, ?_⟩
  · intro task htask hmem
    refine htask (Multiset.mem_coe.mp ?_)
    rw [← hinvoked]
    exact Multiset.mem_coe.mpr hmem
  · intro s' hsteps
    -- the result of the join stays, and with it everything derived from it
    have hstays : s'.shared.history.firstJoin = some .ok ∧
        s'.shared.history.invoked = s.shared.history.invoked := by
      refine Program.Steps.invariant
        (I := fun u => u.shared.history.firstJoin = some .ok ∧
          u.shared.history.invoked = s.shared.history.invoked) hsteps ⟨hjoin, rfl⟩ ?_
      rintro u u' hu ⟨hfirst, hsame⟩ ⟨t, choice, hstep⟩
      have hreach := h.tail hu
      have hdead := (hreach.executed_by_join hfirst).1
      exact ⟨hreach.firstJoin_stays hstep hfirst,
        (hdead.step hreach.threads hstep).2.trans hsame⟩
    have hreach := h.tail hsteps
    have hdead := (hreach.executed_by_join hstays.1).1
    exact ⟨hstays.2, (hdead.totals hreach.threads).2⟩

end Reachable

/-! ## A lifetime with one worker -/

/-- One worker, a queue of capacity one, and a backend that refuses nothing. -/
def reliableConfig : SchedulerConfig 1 where
  capacity := 1
  transitionSignaling := true
  faultInjection := false
  waitMayFail := false
  allocationMayFail := false
  syncInitMayFail := false
  createMayFail := false
  joinMayFail := false

/-- The queue of `reliableConfig`, as `task_queue_init` leaves it. -/
def smallQueue : TaskQueue ℕ := ⟨some [none], 1, 0, 0, 0⟩

abbrev SmallSchedule := List (Thread 1 (Fin 2) × SchedulerChoice 1 (Fin 2) ℕ)

def soleWorker : Thread 1 (Fin 2) := .worker ⟨0, Nat.zero_lt_one⟩

def firstClient : Thread 1 (Fin 2) := .client ⟨0, Nat.zero_lt_two⟩

def secondClient : Thread 1 (Fin 2) := .client ⟨1, Nat.one_lt_two⟩

/-- `n` steps of thread `t` at which there is nothing to choose. -/
def advance (t : Thread 1 (Fin 2)) (n : ℕ) : SmallSchedule := List.replicate n (t, {})

/-- Thread `t` makes a request and goes on for `n` steps. -/
def makes (t : Thread 1 (Fin 2)) (request : Request ℕ) (n : ℕ) : SmallSchedule :=
  (t, { request }) :: advance t n

/-- `scheduler_start` creates the worker, waits for it and returns. -/
def startSchedule : SmallSchedule :=
  makes .controller (.lifecycle .start true) 8 ++ advance soleWorker 2 ++ advance .controller 5

/-- The worker takes one Task and its callback succeeds. -/
def executeSchedule : SmallSchedule :=
  advance soleWorker 7 ++ makes soleWorker (.callbackReturns true) 2

/-- One Task from its submission to the join of the worker. -/
def lifetimeSchedule : SmallSchedule :=
  startSchedule ++ makes firstClient (.submit .submit (some 7)) 8 ++ executeSchedule
    ++ makes .controller (.lifecycle .shutdown true) 8 ++ advance soleWorker 5
    ++ makes .controller (.lifecycle .join true) 10

/-- An observation at the end of a listed run is made in a reachable state. -/
theorem reachable_of_run (schedule : SmallSchedule) {α : Type}
    (obs : SchedulerPool 1 (Fin 2) ℕ → α) {v : α}
    (h : ((schedulerProgram reliableConfig).run schedule (schedulerInitial smallQueue)).map obs
      = some v) : ∃ s, SchedulerReachable reliableConfig s ∧ obs s = v := by
  obtain ⟨s, hsteps, hobs⟩ := Program.exists_of_run _ schedule _ obs h
  exact ⟨s, ⟨Nat.one_pos, smallQueue, by decide, hsteps⟩, hobs⟩

theorem exactly_once_after_lifetime :
    ∃ s : SchedulerPool 1 (Fin 2) ℕ, SchedulerReachable reliableConfig s ∧
      s.shared.history.firstJoin = some .ok ∧ (s.shared.history.invoked : Multiset ℕ) = {7} := by
  obtain ⟨s, hreach, hobs⟩ := reachable_of_run lifetimeSchedule
    (fun s => (s.shared.history.firstJoin, s.shared.history.accepted))
    (v := (some .ok, [7])) (by decide +kernel)
  obtain ⟨hjoin, haccepted⟩ := Prod.mk.inj hobs
  refine ⟨s, hreach, hjoin, ?_⟩
  rw [(exactly_once hreach hjoin).1, haccepted]
  rfl

end SchedulingEngine
