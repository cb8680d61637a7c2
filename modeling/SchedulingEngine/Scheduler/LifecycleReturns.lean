import SchedulingEngine.Scheduler.Returns

/-!
# Lifecycle calls return

In a fair execution whose callbacks return, every lifecycle call returns, whatever the backend
refuses (`lifecycle_call_returns`). A call runs straight to its end but for three waits, and a
wakeup without cause takes it back to where the wait began, so its own steps do not raise a rank
(`ControllerPc.stepsLeft`) that stands still only there. What it waits for comes, and stays:

- the submitters leave once the gate and the queue are closed;
- the workers that a start waits for register;
- the workers that are joined finish.
-/

namespace SchedulingEngine

open Concurrency

variable {W : ℕ} {C P : Type}

/-- A bound on the steps of a lifecycle call, the rounds of its waits not counted. -/
def ControllerPc.stepsLeft (W : ℕ) : ControllerPc P → ℕ
  | .idle | .returned _ _ | .destroyFree | .faultReturned _ => 0
  | .runUnlock | .setStateUnlock _ _ | .joinUnlock _ | .destroyUnlock _ | .faultUnlock _ => 1
  | .runLock | .setStateLock _ _ _ | .destroyLock | .faultLock _ => 2
  | .foldUnlock _ _ => 3
  | .foldLock _ _ => 4
  | .releaseUnlock _ index _ _ _ => 3 * (W - index) + 3
  | .releaseLock _ index _ _ _ => 3 * (W - index) + 4
  | .releaseJoin _ index _ _ => 3 * (W - index) + 5
  | .abortQueue q => 3 * W + 5 + q.stepsLeft
  | .drainUnlock _ _ => 3 * W + 6
  | .drainLock _ | .drainWait _ | .drainAsleep _ | .drainWoken _ => 3 * W + 7
  | .joinLock => 3 * W + 8
  | .shutdownQueue q => 3 * W + 7 + q.stepsLeft
  | .shutdownUnlock _ => 3 * W + 12
  | .shutdownLock => 3 * W + 13
  | .readyUnlock _ => 3 * W + 9
  | .readyLock | .readyWait | .readyAsleep | .readyWoken => 3 * W + 10
  | .createUnlock index _ => 2 * (W - index) + 3 * W + 11
  | .createLock index => 2 * (W - index) + 3 * W + 12
  | .startSyncUnlock => 5 * W + 13
  | .startSyncLock => 5 * W + 14
  | .startSyncInit => 5 * W + 15
  | .startAllocate => 5 * W + 16
  | .startUnlock _ => 5 * W + 17
  | .startLock => 5 * W + 18

theorem ControllerPc.stepsLeft_wake (pc : ControllerPc P) :
    pc.wake.stepsLeft W = pc.stepsLeft W := by
  cases pc with
  | abortQueue q => exact congrArg (3 * W + 5 + ·) q.stepsLeft_wake
  | shutdownQueue q => exact congrArg (3 * W + 7 + ·) q.stepsLeft_wake
  | _ => rfl

/-- In the loop around the wait for the submitters. -/
def ControllerPc.draining : ControllerPc P → Bool
  | .drainLock _ | .drainWait _ | .drainAsleep _ | .drainWoken _ => true
  | _ => false

/-- In the loop around the wait for the workers. -/
def ControllerPc.readying : ControllerPc P → Bool
  | .readyLock | .readyWait | .readyAsleep | .readyWoken => true
  | _ => false

/-- What the loop waits for has come. -/
def ControllerPc.Satisfied (sh : Scheduler W C P) (pc : ControllerPc P) : Prop :=
  (pc.draining = true → sh.Quiet) ∧ (pc.readying = true → W ≤ sh.worker.readyWorkerCount)

section Steps

variable [DecidableEq C] {cfg : SchedulerConfig W} {choice : SchedulerChoice W C P}
  {sh : Scheduler W C P} {f : ClosableFifo P}

/-- A shutdown of the queue does not wait. -/
theorem QueuePc.shutdown_never_waits {q : QueuePc P} (h : q.operation = some .shutdown)
    (w : Waiter P) : q.operation ≠ some w.operation := by
  rw [h]
  cases w <;> nofun

/-- **A lifecycle call comes closer to its return**, but for the rounds of a wait. -/
theorem ControllerStepSpec.nears {pc : ControllerPc P} {out : SchedulerStep W C P (ControllerPc P)}
    (h : ControllerStepSpec cfg choice sh pc out) (habs : Abstracts sh.queue f)
    (hoperation : pc.queue.operation = (SchedulerPc.controller pc : SchedulerPc W P).operation)
    (hinside : pc.inside = true) (hwaits : pc.WaitsFor sh) :
    out.2.1.stepsLeft W ≤ pc.stepsLeft W ∧
      (pc.Satisfied sh → out.2.1.stepsLeft W < pc.stepsLeft W) := by
  have hnear : ∀ {a b : ℕ} {satisfied : Prop}, a < b → a ≤ b ∧ (satisfied → a < b) :=
    fun hlt => ⟨hlt.le, fun _ => hlt⟩
  -- the tests: what is waited for has come, or the wait begins
  have hdrain : ∀ {caller : DrainCaller} {pc : ControllerPc P}, pc.draining = true →
      pc.stepsLeft W = 3 * W + 7 → (drainTest sh caller).stepsLeft W ≤ pc.stepsLeft W ∧
        (pc.Satisfied sh → (drainTest sh caller).stepsLeft W < pc.stepsLeft W) := by
    intro caller pc hdraining hsteps
    rw [hsteps]
    rcases drainTest_cases sh caller with ⟨hpc, hactive⟩ | ⟨hpc, -⟩
    · rw [hpc]
      exact ⟨Nat.le_refl _, fun hsatisfied => absurd (hsatisfied.1 hdraining) hactive⟩
    · rw [hpc]
      exact hnear (Nat.lt_succ_self _)
  have hready : ∀ {pc : ControllerPc P}, pc.readying = true → pc.stepsLeft W = 3 * W + 10 →
      (readyTest sh).stepsLeft W ≤ pc.stepsLeft W ∧
        (pc.Satisfied sh → (readyTest sh).stepsLeft W < pc.stepsLeft W) := by
    intro pc hreadying hsteps
    rw [hsteps]
    rcases readyTest_cases sh with ⟨hpc, hmissing⟩ | ⟨hpc, -⟩
    · rw [hpc]
      exact ⟨Nat.le_refl _, fun hsatisfied =>
        absurd (hsatisfied.2 hreadying) (Nat.not_le.mpr hmissing)⟩
    · rw [hpc]
      exact hnear (Nat.lt_succ_self _)
  have hqueue : ∀ {q : QueuePc P}, q.operation = some .shutdown →
      q ≠ .idle ∧ q.asleepOn = none := by
    intro q hq
    refine ⟨?_, QueuePc.awake_of_never_waits (QueuePc.shutdown_never_waits hq)⟩
    rintro rfl
    cases hq
  cases h with
  | call call pc hcall => cases hinside
  | callNull call => cases hinside
  | faultNull => cases hinside
  | returned call r => cases hinside
  | faultReturned configured => cases hinside
  | readyLock hfree hinit => exact hready rfl rfl
  | readyWait hheld =>
    exact ⟨Nat.le_refl _, fun hsatisfied => absurd (hsatisfied.2 rfl) (Nat.not_le.mpr hwaits)⟩
  | readySpurious =>
    exact ⟨Nat.le_refl _, fun hsatisfied => absurd (hsatisfied.2 rfl) (Nat.not_le.mpr hwaits)⟩
  | readyAgain hfree hinit => exact hready rfl rfl
  | abortQueue hq =>
    obtain ⟨hidle, hawake⟩ := hqueue hoperation
    exact hnear (hq.nears habs hidle hawake (.inr (QueuePc.shutdown_never_waits hoperation))
      (ControllerPc.stepsLeft W) (3 * W + 5) (fun _ => rfl) fun r => Nat.le_refl _)
  | releaseIncomplete caller index result hindex =>
    refine hnear (afterRelease_elim (M := fun pc => pc.stepsLeft W < _) fun _ _ _ => ?_)
    simp only [ControllerPc.stepsLeft]
    omega
  | foldUnlock caller result hheld =>
    exact hnear (afterRelease_elim (M := fun pc => pc.stepsLeft W < 3) fun _ _ _ =>
      Nat.lt_succ_self 2)
  | shutdownQueue hq =>
    obtain ⟨hidle, hawake⟩ := hqueue hoperation
    exact hnear (hq.nears habs hidle hawake (.inr (QueuePc.shutdown_never_waits hoperation))
      (ControllerPc.stepsLeft W) (3 * W + 7) (fun _ => rfl) fun r => Nat.le_refl _)
  | drainLock caller hfree => exact hdrain rfl rfl
  | drainWait caller hheld =>
    exact ⟨Nat.le_refl _, fun hsatisfied => absurd (hsatisfied.1 rfl) hwaits⟩
  | drainSpurious caller =>
    exact ⟨Nat.le_refl _, fun hsatisfied => absurd (hsatisfied.1 rfl) hwaits⟩
  | drainAgain caller hfree => exact hdrain rfl rfl
  | join hfree hstate =>
    exact hnear (drainTest_elim (M := fun pc => pc.stepsLeft W < 3 * W + 8)
      (Nat.lt_succ_self _) (by simp only [ControllerPc.stepsLeft]; omega))
  | _ =>
    refine hnear ?_
    simp only [ControllerPc.stepsLeft, QueuePc.stepsLeft]
    omega

end Steps

def SchedulerPc.callStepsLeft : SchedulerPc W P → ℕ
  | .controller pc => pc.stepsLeft W
  | _ => 0

theorem SchedulerPc.callStepsLeft_wake (pc : SchedulerPc W P) :
    pc.wake.callStepsLeft = pc.callStepsLeft := by
  cases pc with
  | controller pc => exact pc.stepsLeft_wake
  | _ => rfl

/-- Inside a lifecycle call. -/
def SchedulerPc.insideCall : SchedulerPc W P → Bool
  | .controller pc => pc.inside
  | _ => false

theorem SchedulerPc.insideCall_wake (pc : SchedulerPc W P) :
    pc.wake.insideCall = pc.insideCall := by
  cases pc with
  | controller pc => cases pc <;> rfl
  | _ => rfl

section Runs

variable [DecidableEq C] [Fintype C] {cfg : SchedulerConfig W} {s s' : SchedulerPool W C P}
  {t u : Thread W C} {choice : SchedulerChoice W C P} {i : Fin W} {cpc : ControllerPc P}

/-- A step of the controller. -/
theorem SchedulerReachable.call_advances (h : SchedulerReachable cfg s)
    (hpc : s.pc .controller = .controller cpc) (hinside : cpc.inside = true)
    (hstep : (schedulerProgram cfg).step .controller choice s = some s') :
    (s'.pc .controller).callStepsLeft ≤ (s.pc .controller).callStepsLeft ∧
      (cpc.Satisfied s.shared →
        (s'.pc .controller).callStepsLeft < (s.pc .controller).callStepsLeft) := by
  obtain ⟨pc', fx, hspec, hfx⟩ := h.threads.step_spec hstep
  obtain ⟨f, habs, -⟩ := h.threads.abstracts
  have hoperation := h.accounts.operation .controller
  have hblind : (schedulerProgram (C := C) (P := P) cfg).Blind
      (SchedulerPc.callStepsLeft (W := W)) :=
    schedulerProgram_blind SchedulerPc.callStepsLeft_wake fun _ => rfl
  rw [(Program.step_blind hblind hfx).1]
  rw [hpc] at hspec hoperation ⊢
  generalize hout : (s'.shared, pc', fx) = out at hspec
  cases hspec with
  | controller hcontroller =>
    obtain ⟨-, hrest⟩ := Prod.mk.inj hout
    obtain ⟨rfl, -⟩ := Prod.mk.inj hrest
    exact hcontroller.nears habs hoperation hinside (h.waitsFor cpc hpc)

/-- A step of another thread. -/
theorem SchedulerReachable.call_undisturbed (h : SchedulerReachable cfg s) (ht : t ≠ .controller)
    (hstep : (schedulerProgram cfg).step t choice s = some s') :
    (s'.pc .controller).callStepsLeft = (s.pc .controller).callStepsLeft ∧
      (s'.pc .controller).insideCall = (s.pc .controller).insideCall := by
  obtain ⟨pc', fx, -, hfx⟩ := h.threads.step_spec hstep
  exact ⟨(Program.step_blind (schedulerProgram_blind SchedulerPc.callStepsLeft_wake fun _ => rfl)
      hfx).2 _ (Ne.symm ht),
    (Program.step_blind (schedulerProgram_blind SchedulerPc.insideCall_wake fun _ => rfl)
      hfx).2 _ (Ne.symm ht)⟩

variable {e : Execution (schedulerProgram (C := C) (P := P) cfg)}

/-- The controller's call has come to a standstill: from instant `n` on it is inside, and no step
brings it closer to its return. -/
structure Stands (e : Execution (schedulerProgram (C := C) (P := P) cfg)) (n : ℕ) : Prop where
  reachable : ∀ k, n ≤ k → SchedulerReachable cfg (e.state k)
  inside : ∀ k, n ≤ k → ((e.state k).pc .controller).insideCall = true
  rank : ∀ k, n ≤ k →
    ((e.state k).pc .controller).callStepsLeft = ((e.state n).pc .controller).callStepsLeft

theorem Stands.later {n m : ℕ} (h : Stands e n) (hm : n ≤ m) : Stands e m where
  reachable k hk := h.reachable k (hm.trans hk)
  inside k hk := h.inside k (hm.trans hk)
  rank k hk := (h.rank k (hm.trans hk)).trans (h.rank m hm).symm

/-- Where it stands still, the controller acts only in the rounds of a wait. -/
theorem Stands.unsatisfied {n k : ℕ} (h : Stands e n) (hk : n ≤ k)
    (hpc : (e.state k).pc .controller = .controller cpc) (hacts : e.Acts .controller k) :
    ¬cpc.Satisfied (e.state k).shared := by
  intro hsatisfied
  have hinside : cpc.inside = true := by
    have hinside := h.inside k hk
    rw [hpc] at hinside
    exact hinside
  obtain ⟨choice, hstep⟩ := hacts.step
  have hlt := ((h.reachable k hk).call_advances hpc hinside hstep).2 hsatisfied
  rw [h.rank k hk, h.rank (k + 1) (Nat.le_succ_of_le hk)] at hlt
  exact absurd hlt (Nat.lt_irrefl _)

/-- A call whose wait is over goes on, if it is not in a native join. -/
theorem Stands.not_satisfied (hfair : e.Fair Runnable) (h : SchedulerReachable cfg (e.state 0))
    {n : ℕ} (hstands : Stands e n) (hpc : (e.state n).pc .controller = .controller cpc)
    (hawake : (SchedulerPc.controller cpc : SchedulerPc W P).asleepOn = none)
    (hjoin : (SchedulerPc.controller cpc : SchedulerPc W P).atJoin = false)
    (hsatisfied : ∀ k, n ≤ k → cpc.Satisfied (e.state k).shared) : False := by
  have hinside : ((e.state n).pc .controller).inside = true := by
    have hinside := hstands.inside n (Nat.le_refl n)
    rw [hpc] at hinside ⊢
    exact hinside
  have hstill : ∀ k, n ≤ k → (e.state k).pc .controller = (e.state n).pc .controller →
      ¬e.Acts .controller k := fun k hk hsame hacts =>
    hstands.unsatisfied hk (hsame.trans hpc) hacts (hsatisfied k hk)
  rw [← hpc] at hawake hjoin
  have hsame : ∀ k, n ≤ k → (e.state k).pc .controller = (e.state n).pc .controller :=
    fun k hk => pc_stands hinside hawake hstill hk
  obtain ⟨m, hm, hacts⟩ := hfair.acts (t := .controller) (n := n) fun hnever k hk => by
    rw [← hsame k hk] at hinside hawake hjoin
    exact unblocked_again hfair h hinside hawake hjoin fun m hm => hnever m (hk.trans hm)
  exact hstill m hm (hsame m hm) hacts

omit [DecidableEq C] [Fintype C] in
theorem ControllerPc.awake_outside_waits {pc : ControllerPc P}
    (hoperation : pc.queue.operation = (SchedulerPc.controller pc : SchedulerPc W P).operation)
    (hdraining : pc.draining = false) (hreadying : pc.readying = false) :
    (SchedulerPc.controller pc : SchedulerPc W P).asleepOn = none := by
  have hqueue : ∀ {q : QueuePc P}, q.operation = some .shutdown →
      q.asleepOn.map SchedulerCondition.queue = none := by
    intro q hq
    rw [QueuePc.awake_of_never_waits (QueuePc.shutdown_never_waits hq)]
    rfl
  cases pc with
  | abortQueue q => exact hqueue hoperation
  | shutdownQueue q => exact hqueue hoperation
  | readyAsleep => cases hreadying
  | drainAsleep caller => cases hdraining
  | _ => rfl

/-- Outside its waits a call does not stand still. -/
theorem Stands.waits (hfair : e.Fair Runnable) (h : SchedulerReachable cfg (e.state 0)) {n : ℕ}
    (hstands : Stands e n) (hpc : (e.state n).pc .controller = .controller cpc) :
    cpc.draining = true ∨ cpc.readying = true ∨
      (SchedulerPc.controller cpc : SchedulerPc W P).atJoin = true := by
  by_contra hnone
  have hdraining : cpc.draining = false := Bool.eq_false_iff.mpr fun h => hnone (.inl h)
  have hreadying : cpc.readying = false := Bool.eq_false_iff.mpr fun h => hnone (.inr (.inl h))
  have hoperation := (hstands.reachable n (Nat.le_refl n)).accounts.operation .controller
  rw [hpc] at hoperation
  refine hstands.not_satisfied hfair h hpc
    (ControllerPc.awake_outside_waits hoperation hdraining hreadying)
    (Bool.eq_false_iff.mpr fun h => hnone (.inr (.inr h))) fun k _ => ⟨fun h => ?_, fun h => ?_⟩
  · rw [hdraining] at h
    cases h
  · rw [hreadying] at h
    cases h

/-- A worker that is waited for was created. -/
theorem SchedulerReachable.awaited_created (h : SchedulerReachable cfg s)
    (hholds : s.shared.crew.Holds i) : (i : ℕ) < s.shared.worker.createdWorkerCount := by
  obtain ⟨cpc, hcpc⟩ := h.threads.controllerPc
  rcases (h.lifecycle.phase hcpc).releasable with hreleased | ⟨k, hpopulated⟩
  · have hstarted := hholds.1
    rw [hreleased.started] at hstarted
    exact absurd hstarted (Nat.not_lt_zero _)
  · have hlt : (i : ℕ) < k := hpopulated.started ▸ hholds.1
    exact hlt.trans_eq hpopulated.created.symm

/-- A native join does not stand still: the worker finishes. -/
theorem Stands.not_joining (hfair : e.Fair Runnable) (hreturn : CallbacksReturn e)
    (h : SchedulerReachable cfg (e.state 0)) {n : ℕ} (hstands : Stands e n)
    (hpc : (e.state n).pc .controller = .controller cpc) :
    (SchedulerPc.controller cpc : SchedulerPc W P).atJoin = false := by
  cases cpc with
  | releaseJoin caller index result allJoined =>
    have hstill : ∀ k, n ≤ k → (e.state k).pc .controller = (e.state n).pc .controller →
        ¬e.Acts .controller k := fun k hk hsame hacts =>
      hstands.unsatisfied hk (hsame.trans hpc) hacts ⟨nofun, nofun⟩
    have hsame : ∀ k, n ≤ k → (e.state k).pc .controller
        = .controller (.releaseJoin caller index result allJoined) := fun k hk => by
      rw [← hpc]
      exact pc_stands (by rw [hpc]; rfl) (by rw [hpc]; rfl) hstill hk
    -- it can go on as soon as the worker that it waits for has finished
    have hrunnable : ∀ k, n ≤ k → (∀ i, (SchedulerPc.controller
          (.releaseJoin caller index result allJoined)).Awaits (e.state k).shared i →
        ((e.state k).pc (.worker i)).isFinished = true) → Runnable (e.state k) .controller := by
      intro k hk hfinished
      refine ⟨by rw [hsame k hk]; rfl, fun hblocked => ?_⟩
      cases hblocked with
      | asleep c hasleep =>
        rw [hsame k hk] at hasleep
        cases hasleep
      | mutex m hacquires hheld =>
        rw [hsame k hk] at hacquires
        cases hacquires
      | join i hawaits hrunning =>
        rw [hsame k hk] at hawaits
        rw [hfinished i hawaits] at hrunning
        cases hrunning
    obtain ⟨m, hm, hacts⟩ := hfair.acts (t := .controller) (n := n) fun _ k hk => by
      by_cases hawaits : ∃ i, (SchedulerPc.controller
          (.releaseJoin caller index result allJoined)).Awaits (e.state k).shared i
      · obtain ⟨i, hindex, hholds⟩ := hawaits
        have hreach := h.execution k
        have hclosed := (hreach.lifecycle.phase (hsame k hk)).2.2.2.1
        obtain ⟨m, hm, hfinished⟩ :=
          worker_finishes hfair hreturn h hclosed (hreach.awaited_created hholds)
        refine ⟨m, hm, hrunnable m (hk.trans hm) fun j hj => ?_⟩
        obtain rfl : j = i := Fin.ext (hj.1.symm.trans hindex)
        exact hfinished
      · exact ⟨k, Nat.le_refl k, hrunnable k hk fun i hi => absurd ⟨i, hi⟩ hawaits⟩
    exact absurd hacts (hstill m hm ((hsame m hm).trans hpc.symm))
  | _ => rfl

/-- A drain comes after the gate and the queue were closed. -/
theorem SchedulerReachable.draining (h : SchedulerReachable cfg s)
    (hpc : s.pc .controller = .controller cpc) (hdraining : cpc.draining = true) :
    s.shared.Barred ∧ s.shared.Closed := by
  have hphase := h.lifecycle.phase hpc
  have hdrain : ∀ caller : DrainCaller, (Phase.draining caller).Ok s.shared →
      s.shared.Barred ∧ s.shared.Closed := by
    rintro caller ⟨hcaller, -, hclosed⟩
    refine ⟨?_, hclosed⟩
    cases caller with
    | shutdown result => exact .inl hcaller.1
    | join => exact hcaller.elim (fun h => .inl h.1) fun h => .inr (.inr h.1)
  cases cpc with
  | drainLock caller => exact hdrain caller hphase
  | drainWait caller => exact hdrain caller hphase
  | drainAsleep caller => exact hdrain caller hphase
  | drainWoken caller => exact hdrain caller hphase
  | _ => cases hdraining

/-- A start that waits for its workers has created them all. -/
theorem SchedulerReachable.readying (h : SchedulerReachable cfg s)
    (hpc : s.pc .controller = .controller cpc) (hreadying : cpc.readying = true) :
    s.shared.lifecycle.state = .starting ∧ s.shared.crew.Populated W := by
  have hphase := h.lifecycle.phase hpc
  cases cpc with
  | readyLock => exact ⟨hphase.1, hphase.2.1⟩
  | readyWait => exact ⟨hphase.1, hphase.2.1⟩
  | readyAsleep => exact ⟨hphase.1, hphase.2.1⟩
  | readyWoken => exact ⟨hphase.1, hphase.2.1⟩
  | _ => cases hreadying

/-- The wait for the submitters does not stand still: they leave. -/
theorem Stands.not_draining (hfair : e.Fair Runnable) (hreturn : CallbacksReturn e)
    (h : SchedulerReachable cfg (e.state 0)) {n : ℕ} (hstands : Stands e n)
    (hpc : (e.state n).pc .controller = .controller cpc) : cpc.draining = false := by
  cases hdraining : cpc.draining with
  | false => rfl
  | true =>
    exfalso
    obtain ⟨hbarred, hclosed⟩ := (h.execution n).draining hpc hdraining
    obtain ⟨m, hm, hadmitted⟩ := submitters_leave hfair h hbarred hclosed
    -- from `m` on no submitter is active
    have hquiet : ∀ k, m ≤ k → (e.state k).shared.Quiet := fun k hk =>
      (h.execution k).quiet_of_unadmitted (hadmitted k hk)
    obtain ⟨pc, hpc'⟩ := (h.execution m).threads.controllerPc
    have hbarred' := h.barred_lasts hm hbarred
    have hreadying : pc.readying = false := Bool.eq_false_iff.mpr fun hreadying => by
      have hstate := ((h.execution m).readying hpc' hreadying).1
      rcases hbarred' with h | h | h <;> rw [h] at hstate <;> cases hstate
    have hstands' := hstands.later hm
    have hjoin := hstands'.not_joining hfair hreturn h hpc'
    -- so what the controller waits for stays true, and it cannot stand for ever
    have hsatisfied : ∀ k, m ≤ k → pc.Satisfied (e.state k).shared := by
      refine fun k hk => ⟨fun _ => hquiet k hk, fun h => ?_⟩
      rw [hreadying] at h
      cases h
    have hwaits := (h.execution m).waitsFor pc hpc'
    have hdraining' : pc.draining = true := by
      rcases hstands'.waits hfair h hpc' with h | h | h
      · exact h
      · rw [hreadying] at h
        cases h
      · rw [hjoin] at h
        cases h
    refine hstands'.not_satisfied hfair h hpc' ?_ hjoin hsatisfied
    cases pc with
    | drainWait caller => exact absurd (hquiet m (Nat.le_refl m)) hwaits
    | drainAsleep caller => exact absurd (hquiet m (Nat.le_refl m)) hwaits
    | drainLock caller => rfl
    | drainWoken caller => rfl
    | _ => cases hdraining'

omit [Fintype C] in
theorem WorkerStepSpec.ready_after {sh : Scheduler W C P} {pc : WorkerPc P}
    {out : SchedulerStep W C P (WorkerPc P)} (h : WorkerStepSpec cfg t choice sh i pc out) :
    out.2.1.ready = 1 := by
  cases h with
  | dequeue hq =>
    cases hq with
    | run hact hleave => rfl
    | leave op r =>
      rcases afterDequeue_cases r with hpc | hpc | ⟨task, -, hpc⟩ <;> rw [hpc] <;> rfl
  | queueShutdown r hq => cases hq <;> rfl
  | _ => rfl

/-- A worker that acts has registered. -/
theorem SchedulerReachable.registers (h : SchedulerReachable cfg s)
    (hstep : (schedulerProgram cfg).step (.worker i) choice s = some s') :
    (s'.pc (.worker i)).ready = 1 := by
  obtain ⟨pc', fx, hspec, hfx⟩ := h.threads.step_spec hstep
  obtain ⟨pc, hpc⟩ := h.threads.workerPc i
  rw [(Program.step_blind (schedulerProgram_blind SchedulerPc.ready_wake fun _ => rfl) hfx).1]
  rw [hpc] at hspec
  generalize hout : (s'.shared, pc', fx) = out at hspec
  cases hspec with
  | worker i hworker =>
    obtain ⟨-, hrest⟩ := Prod.mk.inj hout
    obtain ⟨rfl, -⟩ := Prod.mk.inj hrest
    exact hworker.ready_after

theorem SchedulerReachable.ready_undisturbed (h : SchedulerReachable cfg s) (ht : t ≠ .worker i)
    (hstep : (schedulerProgram cfg).step t choice s = some s') :
    (s'.pc (.worker i)).ready = (s.pc (.worker i)).ready := by
  obtain ⟨pc', fx, -, hfx⟩ := h.threads.step_spec hstep
  exact (Program.step_blind (schedulerProgram_blind SchedulerPc.ready_wake fun _ => rfl) hfx).2 _
    (Ne.symm ht)

theorem SchedulerReachable.ready_stays (h : SchedulerReachable cfg s)
    (hstep : (schedulerProgram cfg).step t choice s = some s')
    (hready : (s.pc (.worker i)).ready = 1) : (s'.pc (.worker i)).ready = 1 := by
  by_cases ht : t = .worker i
  · subst ht
    exact h.registers hstep
  · exact (h.ready_undisturbed ht hstep).trans hready

/-- **A created worker registers**, in every fair execution. -/
theorem worker_registers (hfair : e.Fair Runnable) (h : SchedulerReachable cfg (e.state 0)) {n : ℕ}
    (hcreated : (i : ℕ) < (e.state n).shared.worker.createdWorkerCount) :
    ∃ m, n ≤ m ∧ ((e.state m).pc (.worker i)).ready = 1 := by
  cases hready : ((e.state n).pc (.worker i)).ready with
  | zero =>
    refine hfair.reaches
      (fun s => SchedulerReachable cfg s ∧ (i : ℕ) < s.shared.worker.createdWorkerCount ∧
        (s.pc (.worker i)).ready = 0)
      (fun s => (s.pc (.worker i)).ready = 1) (fun _ => 0) (t := .worker i) ?_ ?_ ?_
      ⟨h.execution n, hcreated, hready⟩
    · rintro t choice s s' ht ⟨hs, hcreated, hready⟩ hstep
      exact .inr ⟨⟨hs.tail (.single ⟨t, choice, hstep⟩), hs.created_stays hstep hcreated,
        (hs.ready_undisturbed ht hstep).trans hready⟩, Nat.le_refl 0⟩
    · rintro choice s s' ⟨hs, -, -⟩ hstep
      exact .inl (hs.registers hstep)
    · intro k hregion hstill
      obtain ⟨hs, hcreated, hready⟩ := hregion k (Nat.le_refl k)
      obtain ⟨pc, hpc⟩ := hs.threads.workerPc i
      have hnew := (hs.lifecycle.worker hpc).created
      rw [hpc] at hready
      have hentry : pc = .entry := by
        cases pc with
        | entry => rfl
        | notCreated => exact absurd (hnew.mp rfl) (Nat.not_le.mpr hcreated)
        | _ => cases hready
      subst hentry
      exact unblocked_again hfair h (by rw [hpc]; rfl) (by rw [hpc]; rfl) (by rw [hpc]; rfl) hstill
  | succ r =>
    refine ⟨n, Nat.le_refl n, ?_⟩
    have hle : ((e.state n).pc (.worker i)).ready ≤ 1 := by
      generalize (e.state n).pc (.worker i) = pc
      cases pc with
      | worker j pc => cases pc <;> first | exact Nat.zero_le 1 | exact Nat.le_refl 1
      | _ => exact Nat.zero_le 1
    omega

/-- The wait for the workers does not stand still: they register. -/
theorem Stands.not_readying (hfair : e.Fair Runnable) (hreturn : CallbacksReturn e)
    (h : SchedulerReachable cfg (e.state 0)) {n : ℕ} (hstands : Stands e n)
    (hpc : (e.state n).pc .controller = .controller cpc) : cpc.readying = false := by
  cases hreadying : cpc.readying with
  | false => rfl
  | true =>
    exfalso
    have hstays : ∀ k, n ≤ k → ∃ pc, (e.state k).pc .controller = .controller pc ∧
        pc.readying = true := by
      intro k hk
      obtain ⟨pc, hpc⟩ := (h.execution k).threads.controllerPc
      have hstands' := hstands.later hk
      refine ⟨pc, hpc, ?_⟩
      rcases hstands'.waits hfair h hpc with hwaits | hwaits | hwaits
      · rw [hstands'.not_draining hfair hreturn h hpc] at hwaits
        cases hwaits
      · exact hwaits
      · rw [hstands'.not_joining hfair hreturn h hpc] at hwaits
        cases hwaits
    have hcreated := ((h.execution n).readying hpc hreadying).2.created
    have hkept : ∀ (i : Fin W) {k m}, n ≤ k → k ≤ m → ((e.state k).pc (.worker i)).ready = 1 →
        ((e.state m).pc (.worker i)).ready = 1 := fun i k m _ hm hready =>
      h.lasts (I := fun s => (s.pc (.worker i)).ready = 1) SchedulerReachable.ready_stays hm hready
    obtain ⟨m, hm, hall⟩ := e.reaches_all (Q := fun (i : Fin W) s => (s.pc (.worker i)).ready = 1)
      hkept fun i => worker_registers hfair h (i.isLt.trans_eq hcreated.symm)
    -- from there on the count is complete
    have hcount : ∀ k, m ≤ k → W ≤ (e.state k).shared.worker.readyWorkerCount := by
      intro k hk
      have hreach := h.execution k
      obtain ⟨pc, hpc, hreadying⟩ := hstays k (hm.trans hk)
      rw [hreach.lifecycle.ready (.inr (hreach.readying hpc hreadying).2.contexts),
        total_workers hreach.threads.runs _ (fun _ => rfl) fun _ => rfl,
        Finset.sum_congr rfl fun i _ => hkept i hm hk (hall i)]
      simp
    obtain ⟨pc, hpc', hreadying'⟩ := hstays m hm
    have hwaits := (h.execution m).waitsFor pc hpc'
    have hstands' := hstands.later hm
    have hdraining := hstands'.not_draining hfair hreturn h hpc'
    refine hstands'.not_satisfied hfair h hpc' ?_ (hstands'.not_joining hfair hreturn h hpc')
      fun k hk => ⟨fun h => ?_, fun _ => hcount k hk⟩
    · cases pc with
      | readyWait => exact absurd (hcount m (Nat.le_refl m)) (Nat.not_le.mpr hwaits)
      | readyAsleep => exact absurd (hcount m (Nat.le_refl m)) (Nat.not_le.mpr hwaits)
      | readyLock => rfl
      | readyWoken => rfl
      | _ => cases hreadying'
    · rw [hdraining] at h
      cases h

/-- Every lifecycle call returns, whatever the backend refuses. -/
theorem lifecycle_call_returns (hfair : e.Fair Runnable) (hreturn : CallbacksReturn e)
    (h : SchedulerReachable cfg (e.state 0)) (n : ℕ) :
    ∃ m, n ≤ m ∧ ((e.state m).pc .controller).insideCall = false := by
  cases hinside : ((e.state n).pc .controller).insideCall with
  | false => exact ⟨n, Nat.le_refl n, hinside⟩
  | true =>
    refine e.descends
      (fun s => SchedulerReachable cfg s ∧ (s.pc .controller).insideCall = true)
      (fun s => (s.pc .controller).insideCall = false) (fun s => (s.pc .controller).callStepsLeft)
      ?_ ?_ ⟨h.execution n, hinside⟩
    · rintro t choice s s' ⟨hreach, hinside⟩ hstep
      cases hinside' : (s'.pc .controller).insideCall with
      | false => exact .inl rfl
      | true =>
        refine .inr ⟨⟨hreach.tail (.single ⟨t, choice, hstep⟩), rfl⟩, ?_⟩
        by_cases ht : t = .controller
        · subst ht
          obtain ⟨pc, hpc⟩ := hreach.threads.controllerPc
          rw [hpc] at hinside
          exact (hreach.call_advances hpc hinside hstep).1
        · exact (hreach.call_undisturbed ht hstep).1.le
    · -- a standstill is in one of the three waits, and each of them ends
      intro n hregion
      have hstands : Stands e n := ⟨fun k hk => (hregion k hk).1.1, fun k hk => (hregion k hk).1.2,
        fun k hk => (hregion k hk).2⟩
      obtain ⟨pc, hpc⟩ := (h.execution n).threads.controllerPc
      rcases hstands.waits hfair h hpc with hwaits | hwaits | hwaits
      · rw [hstands.not_draining hfair hreturn h hpc] at hwaits
        cases hwaits
      · rw [hstands.not_readying hfair hreturn h hpc] at hwaits
        cases hwaits
      · rw [hstands.not_joining hfair hreturn h hpc] at hwaits
        cases hwaits

end Runs

end SchedulingEngine
