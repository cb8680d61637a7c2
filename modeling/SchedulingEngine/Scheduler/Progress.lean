import SchedulingEngine.Scheduler.Enabled

/-!
# No lifecycle call gets stuck

A lifecycle call waits in three places: for the workers to register, for the active
submitters, and in the native join of a worker. In each of them somebody can go on:

- a worker that has not registered is about to take `worker_mutex`;
- the drain and `release_workers` come after the queue was closed, and nobody sleeps on a
  condition of a closed queue, so an active submitter, or a worker to be joined, is on its
  way out;
- a thread that holds a mutex neither sleeps nor takes another one.

The two waits of the lifecycle calls miss no wakeup: the step that ends what is waited for
broadcasts (`Announced`), so a call sleeps only while there is something to wait for
(`SchedulerReachable.waitsFor`).
-/

namespace SchedulingEngine

open Concurrency

variable {W : ℕ} {C P : Type}

/-! ## Sleepers of the lifecycle calls -/

/-- What a lifecycle call waits for, from its test to the end of its sleep. -/
def ControllerPc.WaitsFor (sh : Scheduler W C P) : ControllerPc P → Prop
  | .drainWait _ | .drainAsleep _ => sh.lifecycle.activeSubmitterCount ≠ 0
  | .readyWait | .readyAsleep => sh.worker.readyWorkerCount < W
  | _ => True

/-- The last submitter to leave, and a worker that registers, do so under the mutex and
broadcast. -/
structure Announced (sh sh' : Scheduler W C P) (fx : List (SchedulerEffect W C)) : Prop where
  submitters : sh'.lifecycle.activeSubmitterCount = 0 →
    sh.lifecycle.activeSubmitterCount = 0 ∨
      sh.lifecycle.mutex = none ∧ .broadcast .lifecycle ∈ fx
  ready : sh'.worker.readyWorkerCount = sh.worker.readyWorkerCount ∨
    sh.worker.mutex = none ∧ .broadcast .worker ∈ fx

theorem Announced.quiet {sh sh' : Scheduler W C P} (fx : List (SchedulerEffect W C))
    (hactive : sh'.lifecycle.activeSubmitterCount = sh.lifecycle.activeSubmitterCount)
    (hready : sh'.worker.readyWorkerCount = sh.worker.readyWorkerCount) : Announced sh sh' fx :=
  ⟨fun hzero => .inl (hactive.symm.trans hzero), .inl hready⟩

section Announced

variable [DecidableEq C] {cfg : SchedulerConfig W} {t : Thread W C}
  {choice : SchedulerChoice W C P} {sh : Scheduler W C P}

theorem InsideQueueSpec.announced {π : Type} {inside : QueuePc P → π} {resume : QueueReturn P → π}
    {q : QueuePc P} {out : SchedulerStep W C P π}
    (h : InsideQueueSpec cfg t choice sh inside resume q out) : Announced sh out.1 out.2.2 := by
  rw [h.frame]
  exact .quiet _ rfl rfl

theorem CallStepSpec.announced {pc : CallPc P} {out : SchedulerStep W C P (CallPc P)}
    (h : CallStepSpec cfg t choice sh pc out) : Announced sh out.1 out.2.2 := by
  cases h with
  | register kind task hfree =>
    refine ⟨fun hzero => .inl ?_, .inl rfl⟩
    have hcount : (registerSubmitter (sh.lockLifecycle t).lifecycle).1.activeSubmitterCount = 0 :=
      hzero
    unfold registerSubmitter at hcount
    dsimp only at hcount
    split at hcount
    · exact hcount
    · cases hcount
  | enqueue kind task hq => exact hq.announced
  | deregister task r hfree =>
    refine ⟨fun hzero => .inr ⟨hfree, ?_⟩, .inl rfl⟩
    have hlast : (deregisterSubmitter (sh.lockLifecycle t).lifecycle r).2.2 = true :=
      decide_eq_true hzero
    dsimp only
    rw [hlast, if_pos rfl]
    exact List.mem_singleton_self _
  | captureQueue temporary hq => exact hq.announced
  | _ => exact .quiet _ rfl rfl

theorem recordWorkerExit_ready {T : Type} (w : WorkerDomain W T) (r : WorkerResult) :
    (recordWorkerExit w r).1.readyWorkerCount = w.readyWorkerCount := by
  unfold recordWorkerExit
  dsimp only
  split <;> split <;> rfl

theorem WorkerStepSpec.announced {i : Fin W} {pc : WorkerPc P}
    {out : SchedulerStep W C P (WorkerPc P)} (h : WorkerStepSpec cfg t choice sh i pc out) :
    Announced sh out.1 out.2.2 := by
  cases h with
  | register hcontexts hfree hinit =>
    exact ⟨fun hzero => .inl hzero, .inr ⟨hfree, List.mem_singleton_self _⟩⟩
  | dequeue hq => exact hq.announced
  | call task runningAccounted hcall => exact hcall.announced
  | queueShutdown r hq => exact hq.announced
  | exit r hfree hinit => exact .quiet _ rfl (recordWorkerExit_ready _ r)
  | _ => exact .quiet _ rfl rfl

theorem SchedulerStepSpec.announced {pc : SchedulerPc W P}
    {out : SchedulerStep W C P (SchedulerPc W P)} (h : SchedulerStepSpec cfg choice sh t pc out)
    (ht : t ≠ .controller) : Announced sh out.1 out.2.2 := by
  cases h with
  | call c h => exact h.announced
  | worker i h => exact h.announced
  | controller h => exact absurd rfl ht

/-- The lifecycle calls test what they wait for. -/
theorem ControllerStepSpec.waitsFor {pc : ControllerPc P}
    {out : SchedulerStep W C P (ControllerPc P)} (h : ControllerStepSpec cfg choice sh pc out)
    (hwaits : pc.WaitsFor sh) : out.2.1.WaitsFor out.1 := by
  -- the test that leads into a wait has found what is waited for missing
  have hdrain : ∀ caller : DrainCaller,
      (drainTest sh caller).WaitsFor (sh.lockLifecycle .controller) := by
    intro caller
    unfold drainTest
    split
    · assumption
    · trivial
  have hready : (readyTest sh).WaitsFor (sh.lockWorker .controller) := by
    unfold readyTest
    split
    · assumption
    · trivial
  cases h with
  | call call pc hcall =>
    cases call <;> first | (cases hcall; trivial) | skip
    all_goals
      obtain ⟨-, hpc⟩ := Option.ite_none_right_eq_some.mp hcall
      cases hpc
      trivial
  | createFailedUnlock => trivial
  | readyLock => exact hready
  -- between the test and the sleep the mutex is held
  | readyWait => exact hwaits
  | readyAgain => exact hready
  | abortQueue hq => cases hq <;> trivial
  | releaseIncomplete caller index result hindex =>
    obtain ⟨state, call, r, hpc⟩ := afterRelease_cases sh caller .errorSystem
    dsimp only
    rw [hpc]
    trivial
  | foldUnlock caller result hheld =>
    obtain ⟨state, call, r, hpc⟩ := afterRelease_cases sh caller result
    dsimp only
    rw [hpc]
    trivial
  | shutdownQueue hq => cases hq <;> trivial
  | drainLock caller hfree => exact hdrain caller
  | drainWait caller hheld => exact hwaits
  | drainAgain caller hfree => exact hdrain caller
  | join hfree hstate => exact hdrain .join
  | _ => trivial

end Announced

section Sleepers

variable [DecidableEq C] [Fintype C] {cfg : SchedulerConfig W} {s s' : SchedulerPool W C P}
  {t u : Thread W C} {choice : SchedulerChoice W C P}

theorem QueuePc.asleepOn_wake (q : QueuePc P) : q.wake.asleepOn = none := by
  cases q <;> rfl

omit [Fintype C] in
/-- A thread that was woken is awake, and so is a thread that was started. -/
theorem schedulerProgram_rouses (cfg : SchedulerConfig W) :
    (schedulerProgram (C := C) (P := P) cfg).Rouses where
  wake pc := by
    have hcall : ∀ call : CallPc P, call.wake.queue.asleepOn = none := by
      intro call
      cases call with
      | enqueue kind task q => exact q.asleepOn_wake
      | captureQueue temporary q => exact q.asleepOn_wake
      | _ => rfl
    have hqueue : ∀ q : QueuePc P, q.wake.asleepOn.map SchedulerCondition.queue = none := by
      intro q
      rw [q.asleepOn_wake]
      rfl
    cases pc with
    | call pc => exact congrArg (Option.map SchedulerCondition.queue) (hcall pc)
    | worker i pc =>
      cases pc with
      | dequeue q => exact hqueue q
      | queueShutdown q r => exact hqueue q
      | callback task runningAccounted call =>
        exact congrArg (Option.map SchedulerCondition.queue) (hcall call)
      | _ => rfl
    | controller pc =>
      cases pc with
      | abortQueue q => exact hqueue q
      | shutdownQueue q => exact hqueue q
      | _ => rfl
  start pc hdormant := by
    cases pc with
    | worker i pc => cases pc <;> first | rfl | cases hdormant
    | _ => cases hdormant

omit [DecidableEq C] [Fintype C] in
/-- Between its test and its sleep a lifecycle call holds the mutex of what it waits for. -/
theorem ControllerPc.WaitsFor.other {sh sh' : Scheduler W C P} {pc : ControllerPc P}
    {fx : List (SchedulerEffect W C)} (h : pc.WaitsFor sh) (hannounced : Announced sh sh' fx)
    (hheld : ∀ m, pc.releases = some m → sh.owner m ≠ none)
    (hasleep : ∀ c, (SchedulerPc.controller pc : SchedulerPc W P).asleepOn = some c →
      .broadcast c ∉ fx) : pc.WaitsFor sh' := by
  have hdrain : sh.lifecycle.activeSubmitterCount ≠ 0 →
      ¬(sh.lifecycle.mutex = none ∧ .broadcast .lifecycle ∈ fx) →
      sh'.lifecycle.activeSubmitterCount ≠ 0 :=
    fun hactive hnot hzero => (hannounced.submitters hzero).elim hactive hnot
  have hready : sh.worker.readyWorkerCount < W →
      ¬(sh.worker.mutex = none ∧ .broadcast .worker ∈ fx) →
      sh'.worker.readyWorkerCount < W := by
    intro hmissing hnot
    rwa [hannounced.ready.resolve_right hnot]
  cases pc with
  | drainWait caller => exact hdrain h fun hfree => hheld .lifecycle rfl hfree.1
  | drainAsleep caller => exact hdrain h fun hfree => hasleep .lifecycle rfl hfree.2
  | readyWait => exact hready h fun hfree => hheld .worker rfl hfree.1
  | readyAsleep => exact hready h fun hfree => hasleep .worker rfl hfree.2
  | _ => trivial

/-- Between a test that found something to wait for, and the sleep. -/
def SchedulerPc.tested : SchedulerPc W P → Option (ControllerPc P)
  | .controller (.drainWait caller) => some (.drainWait caller)
  | .controller .readyWait => some .readyWait
  | _ => none

omit [DecidableEq C] [Fintype C] in
theorem SchedulerPc.tested_wake (pc : SchedulerPc W P) : pc.wake.tested = pc.tested := by
  cases pc with
  | controller pc => cases pc <;> rfl
  | _ => rfl

omit [DecidableEq C] [Fintype C] in
theorem SchedulerPc.of_tested {pc : SchedulerPc W P} {cpc : ControllerPc P}
    (h : pc.tested = some cpc) : pc = .controller cpc := by
  cases pc with
  | controller pc => cases pc <;> cases h <;> rfl
  | _ => cases h

/-- A call that waits after a step stood there before or has just got there, and was not
woken. -/
theorem waits_step {pc : SchedulerPc W P} {fx : List (SchedulerEffect W C)}
    {cpc : ControllerPc P}
    (hfx : (schedulerProgram cfg).applyEffects (Function.update s.pc t pc) fx = some s'.pc)
    (hpc : s'.pc .controller = .controller cpc)
    (hwaits : (SchedulerPc.controller cpc : SchedulerPc W P).tested = some cpc ∨
      ∃ c, (SchedulerPc.controller cpc : SchedulerPc W P).asleepOn = some c) :
    (t = .controller ∧ pc = .controller cpc ∨
      t ≠ .controller ∧ s.pc .controller = .controller cpc) ∧
      ∀ c, (SchedulerPc.controller cpc : SchedulerPc W P).asleepOn = some c →
        .broadcast c ∉ fx := by
  have hnot : ∀ c, (SchedulerPc.controller cpc : SchedulerPc W P).asleepOn = some c →
      .broadcast c ∉ fx := fun c hasleep =>
    (Program.asleep_step (schedulerProgram_rouses cfg) hfx (u := .controller)
      (hpc ▸ hasleep)).1
  refine ⟨?_, hnot⟩
  rcases hwaits with htested | ⟨c, hasleep⟩
  · have hblind : (schedulerProgram (C := C) (P := P) cfg).Blind SchedulerPc.tested :=
      schedulerProgram_blind SchedulerPc.tested_wake fun _ => rfl
    obtain ⟨hself, hother⟩ := Program.step_blind hblind hfx
    by_cases ht : t = .controller
    · subst ht
      rw [hpc, htested] at hself
      exact .inl ⟨rfl, SchedulerPc.of_tested hself.symm⟩
    · have hsame := hother .controller (Ne.symm ht)
      rw [hpc, htested] at hsame
      exact .inr ⟨ht, SchedulerPc.of_tested hsame.symm⟩
  · have hsleeper := (Program.asleep_step (schedulerProgram_rouses cfg) hfx (u := .controller)
      (c := c) (hpc ▸ hasleep)).2
    rw [hpc] at hsleeper
    rcases hsleeper with ⟨ht, hsame⟩ | ⟨ht, hsame⟩
    · exact .inl ⟨ht.symm, hsame.symm⟩
    · exact .inr ⟨ht.symm, hsame.symm⟩

/-- **A lifecycle call sleeps only while there is something to wait for.** -/
theorem SchedulerReachable.waitsFor (h : SchedulerReachable cfg s) :
    ∀ pc, s.pc .controller = .controller pc → pc.WaitsFor s.shared := by
  refine h.invariant (I := fun s => ∀ pc, s.pc .controller = .controller pc → pc.WaitsFor s.shared)
    (fun queue _ pc hpc => ?_) fun {s s' t choice} hreach hwaits hstep cpc hcpc => ?_
  · cases hpc
    trivial
  obtain ⟨pc, fx, hspec, hfx⟩ := hreach.threads.step_spec hstep
  have hkept : (SchedulerPc.controller cpc : SchedulerPc W P).tested = some cpc ∨
      (∃ c, (SchedulerPc.controller cpc : SchedulerPc W P).asleepOn = some c) →
      cpc.WaitsFor s'.shared := by
    intro hcase
    obtain ⟨⟨rfl, rfl⟩ | ⟨ht, hbefore⟩, hnot⟩ := waits_step hfx hcpc hcase
    · obtain ⟨cpc₀, hcpc₀⟩ := hreach.threads.controllerPc
      rw [hcpc₀] at hspec
      generalize hout : (s'.shared, SchedulerPc.controller cpc, fx) = out at hspec
      cases hspec with
      | controller hcontroller =>
        obtain ⟨hsh, hrest⟩ := Prod.mk.inj hout
        obtain ⟨hpc, -⟩ := Prod.mk.inj hrest
        cases hpc
        rw [hsh]
        exact hcontroller.waitsFor (hwaits cpc₀ hcpc₀)
    · refine (hwaits cpc hbefore).other (hspec.announced ht) (fun m hreleases => ?_) hnot
      have howner := (hreach.owner_iff .controller m).mpr (by rw [hbefore]; exact hreleases)
      rw [howner]
      exact Option.some_ne_none _
  cases cpc with
  | drainWait caller => exact hkept (.inl rfl)
  | drainAsleep caller => exact hkept (.inr ⟨.lifecycle, rfl⟩)
  | readyWait => exact hkept (.inl rfl)
  | readyAsleep => exact hkept (.inr ⟨.worker, rfl⟩)
  | _ => trivial

end Sleepers

/-! ## Threads that are not blocked -/

/-- `worker_mutex` is there as soon as captures know it, and as long as there are workers. -/
theorem Phase.Ok.mutexInitialized {sh : Scheduler W C P} {phase : Phase} (h : phase.Ok sh)
    (hused : sh.lifecycle.workerSyncInitialized = true ∨ 0 < sh.worker.createdWorkerCount) :
    sh.worker.mutexInitialized = true := by
  -- where captures do not know it there is no worker
  have hunused : ∀ {k : ℕ}, sh.Synchronized false → sh.worker.createdWorkerCount = k → k = 0 →
      sh.worker.mutexInitialized = true := by
    rintro k ⟨hsync, -⟩ hcreated rfl
    rcases hused with hused | hused
    · exact absurd (hsync.symm.trans hused) nofun
    · omega
  cases phase with
  | settled =>
    have hsettled : sh.SettledIn sh.lifecycle.state := h
    cases hstate : sh.lifecycle.state with
    | initialized =>
      rw [hstate] at hsettled
      exact hunused hsettled.2.1 hsettled.1.created rfl
    | starting => rw [hstate] at hsettled; exact hsettled.elim
    | running => rw [hstate] at hsettled; exact hsettled.2.1.2
    | shuttingDown => rw [hstate] at hsettled; exact hsettled.2.1.2
    | stopped => rw [hstate] at hsettled; exact hsettled.2.1.2
    | failed => rw [hstate] at hsettled; exact hsettled.2.1.2
  | bare => exact hunused h.2.2.1 h.2.1.created rfl
  | allocated => exact hunused h.2.2.1 h.2.1.created rfl
  | synchronized => exact h.2.2.1
  | draining caller => exact h.2.1.2
  | drained caller => exact h.2.1.2
  | closing => exact h.2.2.2
  | impossible => exact h.elim
  | _ => exact h.2.2.1.2

section Blocked

variable [DecidableEq C] [Fintype C] {cfg : SchedulerConfig W} {s s' : SchedulerPool W C P}
  {t u : Thread W C} {choice : SchedulerChoice W C P}

omit [Fintype C] in
theorem ControllerStepSpec.inRange {sh : Scheduler W C P} {pc : ControllerPc P}
    {out : SchedulerStep W C P (ControllerPc P)} (h : ControllerStepSpec cfg choice sh pc out)
    (hW : 0 < W) (hrange : pc.InRange W) : out.2.1.InRange W := by
  cases h with
  | call call pc hcall =>
    cases call <;> first | (cases hcall; trivial) | skip
    all_goals
      obtain ⟨-, hpc⟩ := Option.ite_none_right_eq_some.mp hcall
      cases hpc
      trivial
  | syncUnlock hheld => exact hW
  | createNext index hheld hindex => exact hindex
  | readyLock hfree hinit =>
    rcases readyTest_cases sh with ⟨hpc, -⟩ | ⟨hpc, -⟩ <;> rw [hpc] <;> trivial
  | readyAgain hfree hinit =>
    rcases readyTest_cases sh with ⟨hpc, -⟩ | ⟨hpc, -⟩ <;> rw [hpc] <;> trivial
  | abortQueue hq => cases hq <;> trivial
  | releaseNativeFailed caller i => exact i.isLt
  | releaseInjected caller i => exact i.isLt
  | releaseJoined caller i => exact i.isLt
  | releaseIncomplete caller index result hindex =>
    obtain ⟨state, call, r, hpc⟩ := afterRelease_cases sh caller .errorSystem
    rw [hpc]
    trivial
  | releaseLock caller index event result allJoined hfree hinit => exact hrange
  | foldUnlock caller result hheld =>
    obtain ⟨state, call, r, hpc⟩ := afterRelease_cases sh caller result
    rw [hpc]
    trivial
  | shutdownQueue hq => cases hq <;> trivial
  | drainLock caller hfree =>
    rcases drainTest_cases sh caller with ⟨hpc, -⟩ | ⟨hpc, -⟩ <;> rw [hpc] <;> trivial
  | drainAgain caller hfree =>
    rcases drainTest_cases sh caller with ⟨hpc, -⟩ | ⟨hpc, -⟩ <;> rw [hpc] <;> trivial
  | join hfree hstate =>
    rcases drainTest_cases sh .join with ⟨hpc, -⟩ | ⟨hpc, -⟩ <;> rw [hpc] <;> trivial
  | _ => trivial

theorem SchedulerReachable.inRange (h : SchedulerReachable cfg s) :
    ∀ pc, s.pc .controller = .controller pc → pc.InRange W := by
  refine h.controller_invariant (fun _ pc => pc.InRange W) (fun sh pc => ?_) (fun _ => trivial)
    (fun _ _ hrange => hrange) fun hu _ hspec _ hrange => hspec.inRange hu.1 hrange
  cases pc <;> exact Iff.rfl

/-- The slots that a capture loads are there. -/
def CallPc.Loads (sh : Scheduler W C P) : CallPc P → Prop
  | .captureLoad _ index _ => sh.worker.workerContexts.isSome = true ∧ index < W
  | _ => True

omit [DecidableEq C] [Fintype C] in
theorem CallPc.loads_wake (sh : Scheduler W C P) (pc : CallPc P) :
    pc.wake.Loads sh ↔ pc.Loads sh := by
  cases pc <;> exact Iff.rfl

theorem SchedulerReachable.loads (h : SchedulerReachable cfg s) :
    ∀ u, (s.pc u).toCall.Loads s.shared := by
  refine h.invariant (I := fun s => ∀ u, (s.pc u).toCall.Loads s.shared) ?_ ?_
  · intro queue _
    rintro (_ | i | c) <;> trivial
  · intro s s' t choice hreach hloads hstep u
    obtain ⟨cpc, hcpc⟩ := hreach.threads.controllerPc
    have hphase := hreach.lifecycle.phase hcpc
    refine hreach.call_step u (A := fun pc => pc = (s.pc u).toCall)
      (fun pc => pc.loads_wake s'.shared) hstep (fun _ => trivial) ?_ ?_ rfl
    · rintro - pc rfl
      have hbefore := hloads u
      have hbelow := hreach.below u
      have hloading := hreach.loading_owner (u := u)
      generalize (s.pc u).toCall = pc at hbefore hbelow hloading
      cases pc with
      | captureLoad temporary index field =>
        -- whoever loads holds `worker_mutex`, so nobody frees the slots
        have hheld : s.shared.worker.mutex ≠ none := by
          rw [hloading rfl]
          exact Option.some_ne_none _
        obtain ⟨contexts, hcontexts⟩ := Option.isSome_iff_exists.mp hbefore.1
        obtain ⟨contexts', hcontexts', -⟩ :=
          (hreach.steady hstep hheld hbelow.2.1).slots contexts hcontexts
        exact ⟨Option.isSome_iff_exists.mpr ⟨contexts', hcontexts'⟩, hbefore.2⟩
      | _ => trivial
    · intro out ht hspec hout
      rw [← hout]
      generalize (s.pc u).toCall = pc at hspec
      cases hspec with
      | enqueue kind task hq => cases hq <;> trivial
      | captureWorker temporary hfree hinit hstarted =>
        refine ⟨?_, hreach.1⟩
        exact hphase.releasable.contexts_isSome.resolve_right (Nat.ne_of_gt hstarted)
      | captureLoad temporary index field next contexts hcontexts hnext =>
        exact ⟨Option.isSome_iff_exists.mpr ⟨contexts, hcontexts⟩, index.isLt⟩
      | captureNextSlot temporary index contexts hcontexts hindex =>
        exact ⟨Option.isSome_iff_exists.mpr ⟨contexts, hcontexts⟩,
          Nat.lt_of_lt_of_le hindex hphase.releasable.started_le⟩
      | captureQueue temporary hq => cases hq <;> trivial
      | _ => trivial

theorem SchedulerReachable.grounded (h : SchedulerReachable cfg s) (u : Thread W C) :
    (s.pc u).toCall.Grounded s.shared := by
  obtain ⟨cpc, hcpc⟩ := h.threads.controllerPc
  have hbelow := h.below u
  have hloads := h.loads u
  generalize (s.pc u).toCall = pc at hbelow hloads
  cases pc with
  | captureWorkerLock temporary =>
    exact (h.lifecycle.phase hcpc).mutexInitialized (.inl hbelow.2)
  | captureLoad temporary index field => exact hloads
  | _ => trivial

/-- The mutex that a thread is about to take is free if it is not blocked, and the one that it
is about to give back is its own. -/
theorem SchedulerReachable.granted (h : SchedulerReachable cfg s) (hfree : ¬Blocked s u) :
    Granted s.shared u (s.pc u) := by
  refine ⟨fun m hacquires => ?_, fun m hreleases => ?_⟩
  · by_contra hheld
    exact hfree (.mutex m hacquires hheld)
  · exact (h.owner_iff u m).mpr (SchedulerPc.holding_of_releases hreleases)

theorem ThreadInv.clientPc (hinv : ThreadInv cfg s) (c : C) :
    ∃ pc, s.pc (.client c) = .call pc := by
  have hrun := hinv.runs (.client c)
  cases hpc : s.pc (.client c) with
  | call pc => exact ⟨pc, rfl⟩
  | _ => rw [hpc] at hrun; exact hrun.elim

/-- **A thread inside the scheduler that is not blocked can go on.** -/
theorem SchedulerReachable.canStep (h : SchedulerReachable cfg s)
    (hinside : (s.pc u).inside = true) (hfree : ¬Blocked s u) :
    (schedulerProgram cfg).CanStep s u := by
  have hgranted := h.granted hfree
  have hoperation := h.accounts.operation u
  have hgrounded := h.grounded u
  obtain ⟨cpc, hcpc⟩ := h.threads.controllerPc
  have hphase := h.lifecycle.phase hcpc
  cases u with
  | client c =>
    obtain ⟨pc, hpc⟩ := h.threads.clientPc c
    rw [hpc] at hinside hgranted hoperation hgrounded
    obtain ⟨choice, out, -, hact, hfx⟩ :=
      callAct_canStep cfg hinside hgranted hoperation hgrounded .call s.pc
    exact Program.canStep_of_act (i := choice) (by rw [hpc]; exact congrArg (Option.map _) hact) hfx
  | worker i =>
    obtain ⟨pc, hpc⟩ := h.threads.workerPc i
    rw [hpc] at hinside hgranted hoperation hgrounded
    have hok := h.lifecycle.worker hpc
    have hcreated : 0 < s.shared.worker.createdWorkerCount := by
      by_contra hzero
      have hnew := hok.created.mpr (by omega)
      rw [hnew] at hinside
      cases hinside
    obtain ⟨choice, out, hact, hfx⟩ := workerAct_canStep cfg hinside hgranted hoperation hok
      (hphase.mutexInitialized (.inr hcreated)) hgrounded s.pc
    exact Program.canStep_of_act (i := choice) (by rw [hpc]; exact congrArg (Option.map _) hact) hfx
  | controller =>
    rw [hcpc] at hinside hgranted hoperation
    -- a worker about to be created was not created before
    have hspawn : ∀ i : Fin W, cpc = .createLock i → s.pc (.worker i) = .worker i .notCreated := by
      intro i hi
      subst hi
      obtain ⟨pc, hpc⟩ := h.threads.workerPc i
      rw [hpc, (h.lifecycle.worker hpc).created.mpr hphase.2.1.created.le]
    -- a join that does not block finds its worker finished
    have hawaits : ∀ i, (SchedulerPc.controller cpc).Awaits s.shared i →
        ∃ r, s.pc (.worker i) = .worker i (.finished r) := by
      intro i hi
      obtain ⟨pc, hpc⟩ := h.threads.workerPc i
      cases hfinished : pc.isFinished with
      | false =>
        refine absurd (.join i ?_ ?_) hfree
        · rw [hcpc]
          exact hi
        · rw [hpc]
          exact hfinished
      | true =>
        rw [hpc]
        cases pc with
        | finished r => exact ⟨r, rfl⟩
        | _ => cases hfinished
    obtain ⟨choice, out, hact, hfx⟩ := controllerAct_canStep cfg hinside hgranted hoperation hphase
      (h.inRange cpc hcpc) hspawn hawaits
    exact Program.canStep_of_act (i := choice)
      (by rw [hcpc]; exact congrArg (Option.map _) hact) hfx

end Blocked

/-! ## The three waits -/

/-- A thread inside a critical section is inside the scheduler. -/
theorem SchedulerPc.inside_of_holding {pc : SchedulerPc W P} {m : SchedulerMutex}
    (h : pc.holding = some m) : pc.inside = true := by
  cases hinside : pc.inside with
  | true => rfl
  | false =>
    have hreturned : pc.hasReturned = true := by
      cases pc with
      | call pc => cases pc <;> first | rfl | cases hinside
      | worker i pc =>
        cases pc with
        | callback task runningAccounted call => cases call <;> first | rfl | cases hinside
        | _ => first | rfl | cases hinside
      | controller pc => cases pc <;> first | rfl | cases hinside
    rw [SchedulerPc.holding_of_hasReturned hreturned] at h
    cases h

theorem QueuePc.releases_of_asleep {q : QueuePc P} {c : QueueCondition}
    (h : q.asleepOn = some c) : q.releases = false := by
  cases q <;> first | rfl | cases h

/-- A shutdown of the queue does not sleep. -/
theorem QueuePc.operation_of_asleep (q : QueuePc P) {c : SchedulerCondition}
    (h : q.asleepOn.map SchedulerCondition.queue = some c) : q.operation ≠ some .shutdown := by
  cases q with
  | asleep w => cases w <;> exact nofun
  | _ => cases h

/-- A sleeper has given its mutex back. -/
theorem SchedulerPc.holding_of_asleep {pc : SchedulerPc W P} {c : SchedulerCondition}
    (h : pc.asleepOn = some c) : pc.holding = none := by
  have hqueue : ∀ q : QueuePc P, q.asleepOn.map SchedulerCondition.queue = some c →
      (if q.releases then some SchedulerMutex.queue else none) = none := by
    intro q h
    obtain ⟨d, hd, -⟩ := Option.map_eq_some_iff.mp h
    rw [QueuePc.releases_of_asleep hd, if_neg nofun]
  have hcall : ∀ call : CallPc P, call.queue.asleepOn.map SchedulerCondition.queue = some c →
      call.holding = none := by
    intro call h
    cases call with
    | enqueue kind task q => exact hqueue q h
    | captureQueue temporary q => exact hqueue q h
    | _ => first | rfl | cases h
  cases pc with
  | call pc => exact hcall pc h
  | worker i pc =>
    cases pc with
    | dequeue q => exact hqueue q h
    | queueShutdown q r => exact hqueue q h
    | callback task runningAccounted call => exact hcall call h
    | _ => first | rfl | cases h
  | controller pc =>
    cases pc with
    | abortQueue q => exact hqueue q h
    | shutdownQueue q => exact hqueue q h
    | _ => first | rfl | cases h

/-- In the callback's own code, outside the operations of the scheduler. -/
def SchedulerPc.inCallbackCode : SchedulerPc W P → Bool
  | .worker _ (.callback _ _ made) => !made.inside
  | _ => false

section Stuck

variable [DecidableEq C] [Fintype C] {cfg : SchedulerConfig W} {s : SchedulerPool W C P}
  {u : Thread W C}

/-- Nobody sleeps on a condition of a closed queue. -/
theorem SchedulerReachable.closed_awake (h : SchedulerReachable cfg s) (hclosed : s.shared.Closed)
    (u : Thread W C) : (s.pc u).queue.asleepOn = none :=
  h.threads.queue.inv.awake hclosed u

omit [DecidableEq C] [Fintype C] in
/-- A blocked thread holds nothing: it sleeps, waits for a mutex or joins. -/
theorem Blocked.holding (h : Blocked s u) : (s.pc u).holding = none := by
  cases h with
  | asleep c hasleep => exact SchedulerPc.holding_of_asleep hasleep
  | mutex m hacquires hheld => exact SchedulerPc.holding_of_acquires hacquires
  | join i hawaits hrunning =>
    refine SchedulerPc.holding_of_atJoin ?_
    generalize s.pc u = pc at hawaits
    cases pc with
    | controller pc => cases pc <;> first | rfl | exact hawaits.elim
    | _ => exact hawaits.elim

/-- If every thread inside the scheduler is blocked, every mutex is free. -/
theorem SchedulerReachable.mutexes_free (h : SchedulerReachable cfg s)
    (hblocked : ∀ u, (s.pc u).inside = true → Blocked s u) (m : SchedulerMutex) :
    s.shared.owner m = none := by
  cases howner : s.shared.owner m with
  | none => rfl
  | some v =>
    have hholding := (h.owner_iff v m).mp howner
    have hnone := (hblocked v (SchedulerPc.inside_of_holding hholding)).holding
    rw [hnone] at hholding
    cases hholding

omit [DecidableEq C] [Fintype C] in
/-- Then a thread other than the controller is blocked only in an open queue. -/
theorem Blocked.in_queue (h : Blocked s u) (hfree : ∀ m, s.shared.owner m = none)
    (hu : ∀ pc, s.pc u ≠ .controller pc) : ∃ c, (s.pc u).queue.asleepOn = some c := by
  cases h with
  | asleep c hasleep =>
    generalize s.pc u = pc at hasleep hu
    cases pc with
    | controller pc => exact absurd rfl (hu pc)
    | _ =>
      obtain ⟨d, hd, -⟩ := Option.map_eq_some_iff.mp hasleep
      exact ⟨d, hd⟩
  | mutex m hacquires hheld => exact absurd (hfree m) hheld
  | join i hawaits hrunning =>
    generalize s.pc u = pc at hawaits hu
    cases pc with
    | controller pc => exact absurd rfl (hu pc)
    | _ => exact hawaits.elim

/-- The drain: a registered submitter goes on. -/
theorem SchedulerReachable.submitter_goes_on (h : SchedulerReachable cfg s)
    (hclosed : s.shared.Closed) (hactive : s.shared.lifecycle.activeSubmitterCount ≠ 0)
    (hfree : ∀ m, s.shared.owner m = none) : ∃ u, (s.pc u).inside = true ∧ ¬Blocked s u := by
  rw [h.accounts.registered] at hactive
  obtain ⟨u, -, hu⟩ := Finset.exists_ne_zero_of_sum_ne_zero hactive
  have hregistered : (s.pc u).toCall.registered ≠ 0 := hu
  have hinside : (s.pc u).inside = true ∧ ∀ pc, s.pc u ≠ .controller pc := by
    generalize s.pc u = pc at hregistered
    have hcall : ∀ call : CallPc P, call.registered ≠ 0 → call.inside = true := by
      intro call hcall
      cases call <;> first | rfl | exact absurd rfl hcall
    cases pc with
    | call pc => exact ⟨hcall pc hregistered, nofun⟩
    | worker i pc =>
      cases pc with
      | callback task runningAccounted call => exact ⟨hcall call hregistered, nofun⟩
      | _ => exact absurd rfl hregistered
    | controller pc => exact absurd rfl hregistered
  refine ⟨u, hinside.1, fun hblocked => ?_⟩
  obtain ⟨c, hasleep⟩ := hblocked.in_queue hfree hinside.2
  rw [h.closed_awake hclosed u] at hasleep
  cases hasleep

/-- The start: a worker that has not registered goes on. -/
theorem SchedulerReachable.newcomer_goes_on (h : SchedulerReachable cfg s)
    (hcrew : s.shared.crew.Populated W) (hmissing : s.shared.worker.readyWorkerCount < W)
    (hfree : ∀ m, s.shared.owner m = none) : ∃ u, (s.pc u).inside = true ∧ ¬Blocked s u := by
  have hcount := h.lifecycle.ready (.inr hcrew.contexts)
  rw [total_workers h.threads.runs _ (fun _ => rfl) fun _ => rfl] at hcount
  obtain ⟨i, hi⟩ : ∃ i : Fin W, (s.pc (.worker i)).ready = 0 := by
    by_contra hall
    have hone : ∀ i ∈ (Finset.univ : Finset (Fin W)), 1 ≤ (s.pc (.worker i)).ready :=
      fun i _ => Nat.one_le_iff_ne_zero.mpr fun hzero => hall ⟨i, hzero⟩
    have hsum := Finset.card_nsmul_le_sum _ _ 1 hone
    rw [Finset.card_univ, Fintype.card_fin, smul_eq_mul, Nat.mul_one] at hsum
    omega
  obtain ⟨pc, hpc⟩ := h.threads.workerPc i
  have hcreated : pc ≠ .notCreated := by
    intro hnew
    have hle := (h.lifecycle.worker hpc).created.mp hnew
    have hW : s.shared.worker.createdWorkerCount = W := hcrew.created
    omega
  have hentry : pc = .entry := by
    rw [hpc] at hi
    cases pc with
    | entry => rfl
    | notCreated => exact absurd rfl hcreated
    | _ => cases hi
  refine ⟨.worker i, by rw [hpc, hentry]; rfl, fun hblocked => ?_⟩
  obtain ⟨c, hasleep⟩ := hblocked.in_queue hfree (by rw [hpc]; exact nofun)
  rw [hpc, hentry] at hasleep
  cases hasleep

/-- The join: a worker that has not finished goes on. -/
theorem SchedulerReachable.leaver_goes_on (h : SchedulerReachable cfg s)
    (hclosed : s.shared.Closed) (hfree : ∀ m, s.shared.owner m = none) {i : Fin W}
    (hholds : s.shared.crew.Holds i) (hrunning : (s.pc (.worker i)).isFinished = false)
    (hcode : (s.pc (.worker i)).inCallbackCode = false) :
    ∃ u, (s.pc u).inside = true ∧ ¬Blocked s u := by
  obtain ⟨cpc, hcpc⟩ := h.threads.controllerPc
  obtain ⟨pc, hpc⟩ := h.threads.workerPc i
  have hcreated : pc ≠ .notCreated := by
    intro hnew
    have hle := (h.lifecycle.worker hpc).created.mp hnew
    rcases (h.lifecycle.phase hcpc).releasable with hreleased | ⟨k, hpopulated⟩
    · have hstarted := hholds.1
      rw [hreleased.started] at hstarted
      exact absurd hstarted (Nat.not_lt_zero _)
    · have hlt : (i : ℕ) < k := hpopulated.started ▸ hholds.1
      have heq : s.shared.worker.createdWorkerCount = k := hpopulated.created
      omega
  have hinside : (s.pc (.worker i)).inside = true := by
    rw [hpc] at hrunning hcode ⊢
    cases pc with
    | notCreated => exact absurd rfl hcreated
    | finished r => cases hrunning
    | callback task runningAccounted call =>
      show call.inside = true
      simpa [SchedulerPc.inCallbackCode] using hcode
    | _ => rfl
  refine ⟨.worker i, hinside, fun hblocked => ?_⟩
  obtain ⟨c, hasleep⟩ := hblocked.in_queue hfree (by rw [hpc]; exact nofun)
  rw [h.closed_awake hclosed] at hasleep
  cases hasleep

/-- **Somebody goes on** while a lifecycle call is in progress and no callback runs its own
code. -/
theorem SchedulerReachable.goes_on (h : SchedulerReachable cfg s)
    (hcall : (s.pc .controller).inside = true)
    (hcode : ∀ i, (s.pc (.worker i)).inCallbackCode = false) :
    ∃ u, (s.pc u).inside = true ∧ ¬Blocked s u := by
  by_contra hnobody
  have hblocked : ∀ u, (s.pc u).inside = true → Blocked s u := fun u hinside =>
    Classical.not_not.mp fun hnot => hnobody ⟨u, hinside, hnot⟩
  have hfree := h.mutexes_free hblocked
  refine hnobody ?_
  obtain ⟨cpc, hcpc⟩ := h.threads.controllerPc
  have hphase := h.lifecycle.phase hcpc
  have hwaits := h.waitsFor cpc hcpc
  have hoperation := h.accounts.operation .controller
  cases hblocked .controller hcall with
  | asleep c hasleep =>
    rw [hcpc] at hasleep hoperation
    cases cpc with
    | drainAsleep caller => exact h.submitter_goes_on hphase.2.2 hwaits hfree
    | readyAsleep => exact h.newcomer_goes_on hphase.2.1 hwaits hfree
    | abortQueue q => exact absurd hoperation (q.operation_of_asleep hasleep)
    | shutdownQueue q => exact absurd hoperation (q.operation_of_asleep hasleep)
    | _ => cases hasleep
  | mutex m hacquires hheld => exact absurd (hfree m) hheld
  | join i hawaits hrunning =>
    rw [hcpc] at hawaits
    cases cpc with
    | releaseJoin caller index result allJoined =>
      exact h.leaver_goes_on hphase.2.2.2.1 hfree hawaits.2 hrunning (hcode i)
    | _ => exact hawaits.elim

omit [DecidableEq C] [Fintype C] in
theorem SchedulerPc.asleep_lifecycle {pc : SchedulerPc W P} (h : pc.asleepOn = some .lifecycle) :
    ∃ caller, pc = .controller (.drainAsleep caller) := by
  cases pc with
  | controller pc =>
    cases pc with
    | drainAsleep caller => exact ⟨caller, rfl⟩
    | abortQueue q => cases q <;> cases h
    | shutdownQueue q => cases q <;> cases h
    | _ => cases h
  | _ =>
    obtain ⟨c, -, hc⟩ := Option.map_eq_some_iff.mp h
    cases hc

omit [DecidableEq C] [Fintype C] in
theorem SchedulerPc.asleep_worker {pc : SchedulerPc W P} (h : pc.asleepOn = some .worker) :
    pc = .controller .readyAsleep := by
  cases pc with
  | controller pc =>
    cases pc with
    | readyAsleep => rfl
    | abortQueue q => cases q <;> cases h
    | shutdownQueue q => cases q <;> cases h
    | _ => cases h
  | _ =>
    obtain ⟨c, -, hc⟩ := Option.map_eq_some_iff.mp h
    cases hc

theorem ThreadInv.eq_controller (hinv : ThreadInv cfg s) {pc : ControllerPc P}
    (hpc : s.pc u = .controller pc) : u = .controller := by
  have hrun := hinv.runs u
  rw [hpc] at hrun
  cases u with
  | controller => rfl
  | _ => exact hrun.elim

/-- **No lifecycle call gets stuck**, in any reachable state, whatever the backend refuses: while
a lifecycle call is in progress and no callback runs its own code, some thread inside the
scheduler is not blocked and can take a step. Whoever sleeps on `lifecycle_condition` waits for an
active submitter, and whoever sleeps on `worker_condition` for a worker to register. -/
theorem lifecycle_never_stuck (h : SchedulerReachable cfg s) :
    ((s.pc .controller).inside = true → (∀ i, (s.pc (.worker i)).inCallbackCode = false) →
      ∃ u, (s.pc u).inside = true ∧ ¬Blocked s u ∧ (schedulerProgram cfg).CanStep s u) ∧
    ∀ u, ((s.pc u).asleepOn = some .lifecycle → 0 < s.shared.lifecycle.activeSubmitterCount) ∧
      ((s.pc u).asleepOn = some .worker → s.shared.worker.readyWorkerCount < W) := by
  constructor
  · intro hcall hcode
    obtain ⟨u, hinside, hfree⟩ := h.goes_on hcall hcode
    exact ⟨u, hinside, hfree, h.canStep hinside hfree⟩
  · intro u
    refine ⟨fun hasleep => ?_, fun hasleep => ?_⟩
    · obtain ⟨caller, hpc⟩ := SchedulerPc.asleep_lifecycle hasleep
      obtain rfl := h.threads.eq_controller hpc
      exact Nat.pos_of_ne_zero (h.waitsFor _ hpc)
    · have hpc := SchedulerPc.asleep_worker hasleep
      obtain rfl := h.threads.eq_controller hpc
      exact h.waitsFor _ hpc

/-- The worker waits for a Task, the client's submission is in the queue's code, and
`scheduler_shutdown` sleeps until it leaves. -/
def drainingSchedule : SmallSchedule :=
  startSchedule ++ makes firstClient (.submit .submit (some 7)) 2
    ++ makes .controller (.lifecycle .shutdown true) 7

theorem lifecycle_never_stuck_draining :
    ∃ s : SchedulerPool 1 (Fin 2) ℕ, SchedulerReachable reliableConfig s ∧
      (s.pc .controller).asleepOn = some .lifecycle ∧
      0 < s.shared.lifecycle.activeSubmitterCount ∧
      ∃ u, (s.pc u).inside = true ∧ ¬Blocked s u ∧
        (schedulerProgram reliableConfig).CanStep s u := by
  obtain ⟨s, hreach, hobs⟩ := reachable_of_run drainingSchedule
    (fun s => ((s.pc .controller).inside, (s.pc .controller).asleepOn,
      (s.pc (.worker 0)).inCallbackCode)) (v := (true, some .lifecycle, false)) (by decide +kernel)
  obtain ⟨hinside, hrest⟩ := Prod.mk.inj hobs
  obtain ⟨hasleep, hcode⟩ := Prod.mk.inj hrest
  obtain ⟨hgoes, hsleepers⟩ := lifecycle_never_stuck hreach
  refine ⟨s, hreach, hasleep, (hsleepers .controller).1 hasleep, hgoes hinside fun i => ?_⟩
  rw [Subsingleton.elim i 0]
  exact hcode

end Stuck

end SchedulingEngine
