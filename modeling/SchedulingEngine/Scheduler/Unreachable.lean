import SchedulingEngine.Scheduler.EarlyStart
import SchedulingEngine.Scheduler.Submissions

/-!
# The defensive branches (scheduler.c)

Several branches of the worker, of the submissions and of the lifecycle calls answer a
failure that the scheduler's own bookkeeping excludes as long as the backend's calls succeed.
Most of them are excluded by invariants of earlier modules; what is added here is the result
that a `scheduler_shutdown` or a `scheduler_join` carries (`ControllerPc.Untroubled`).
-/

namespace SchedulingEngine

open Concurrency

variable {W : ℕ} {C P : Type}

/-! ## Injected join failures -/

/-- The plan has made a native join look failed, and was not reset since. -/
def SchedulerFaultPlan.FailedJoin (plan : SchedulerFaultPlan) : Prop :=
  plan.point = .workerJoin ∧ plan.triggered = true

/-- A plan that fires has fired at its own point. -/
theorem consultFaultPlan_fires {cfg : SchedulerConfig W} {plan plan' : SchedulerFaultPlan}
    {point : SchedulerFaultPoint} (h : consultFaultPlan cfg plan point = (plan', true)) :
    plan'.point = point ∧ plan'.triggered = true := by
  unfold consultFaultPlan at h
  split at h
  · unfold schedulerFaultShouldTrigger at h
    split at h
    · cases h
    · rename_i hmatch
      simp only [Bool.or_eq_true, Bool.not_eq_true', decide_eq_true_eq, not_or] at hmatch
      split at h
      · cases h
      · dsimp only at h
        split at h
        · cases h
          exact ⟨not_not.mp hmatch.1.2, rfl⟩
        · cases h
  · cases h

/-- A plan that has fired does not change. -/
theorem SchedulerFaultPlan.FailedJoin.consult {plan : SchedulerFaultPlan} (h : plan.FailedJoin)
    (cfg : SchedulerConfig W) (point : SchedulerFaultPoint) :
    (consultFaultPlan cfg plan point).1.FailedJoin := by
  have hkeep : (consultFaultPlan cfg plan point).1 = plan := by
    unfold consultFaultPlan schedulerFaultShouldTrigger
    split
    · rw [if_pos (by simp [h.2])]
    · rfl
  rwa [hkeep]

/-! ## The results of shutdown and join -/

/-- The queue's shutdown has succeeded. -/
def QueuePc.ShutsDown : QueuePc P → Prop
  | .unlock _ r | .returned _ r => r.result = .ok
  | _ => True

theorem QueueStepSpec.shutsDown {T : Type} {cfg : QueueConfig} {t : T} {choice : QueueChoice T P}
    {q : ConcurrentTaskQueue T P} {f : ClosableFifo P} {pc : QueuePc P} {out : QueueSection T P}
    (h : QueueStepSpec cfg t choice q f pc out) (hwait : cfg.waitMayFail = false)
    (hop : pc.operation = some .shutdown) (hpc : pc.ShutsDown) : out.2.1.ShutsDown := by
  cases h with
  | call op => cases hop
  | callInvalid op => cases hop
  | enter hmutex henter hsec =>
    obtain ⟨hoperation, -⟩ := henter.accounts
    obtain rfl := Option.some.inj (hop.symm.trans hoperation)
    generalize hsame : QueueOperation.shutdown = op at hsec
    cases hsec with
    | wait w hopen hblocked => trivial
    | observe r hstep hshutdown => exact absurd hsame.symm hshutdown
    | _ => rfl
  | waitFailed w hfail hmutex => cases hwait.symm.trans hfail
  | unlock op r hmutex => exact hpc
  | _ => trivial

/-- The caller of the drain has met no failure before it. -/
def DrainCaller.Untroubled : DrainCaller → Prop
  | .shutdown r => r = .ok
  | .join => True

/-- A shutdown or a join that has met no failure, but for an injected one. -/
def ControllerPc.Untroubled (injected : Prop) : ControllerPc P → Prop
  | .shutdownUnlock (some r) | .returned .shutdown r => r ≠ .errorSystem
  | .shutdownQueue q => q.ShutsDown
  | .drainLock caller | .drainWait caller | .drainAsleep caller | .drainWoken caller =>
    caller.Untroubled
  | .drainUnlock caller succeeded => caller.Untroubled ∧ succeeded = true
  | .releaseJoin .join _ r _ | .releaseLock .join _ _ r _ | .releaseUnlock .join _ _ r _
  | .foldLock .join r | .foldUnlock .join r | .setStateLock _ .join r | .setStateUnlock .join r
  | .joinUnlock r | .returned .join r => r = .errorSystem → injected
  | .setStateLock _ .shutdown _ | .setStateUnlock .shutdown _ => False
  | _ => True

theorem ControllerPc.untroubled_wake (injected : Prop) (pc : ControllerPc P) :
    pc.wake.Untroubled injected ↔ pc.Untroubled injected := by
  cases pc with
  | shutdownQueue q => cases q <;> exact Iff.rfl
  | _ => exact Iff.rfl

section Answers

variable [DecidableEq C] {cfg : SchedulerConfig W} {choice : SchedulerChoice W C P}
  {sh : Scheduler W C P} {f : ClosableFifo P}

/-- **A lifecycle call meets no failure of its own.** The failures that it could meet are a
failed wait, a failed native join and a failed worker. -/
theorem ControllerStepSpec.untroubled {pc : ControllerPc P}
    {out : SchedulerStep W C P (ControllerPc P)} (h : ControllerStepSpec cfg choice sh pc out)
    (habs : Abstracts sh.queue f) (hwait : cfg.waitMayFail = false)
    (hjoin : cfg.joinMayFail = false) (hphase : (pc.phase W).Ok sh) (hall : pc.JoinsAll)
    (hunfailed : sh.worker.Unfailed) (hsound : ∀ i r, .await (.worker i) r ∈ out.2.2 → r = .ok)
    (hoperation : pc.queue.operation = (SchedulerPc.controller pc : SchedulerPc W P).operation)
    (hpc : pc.Untroubled sh.faultPlan.FailedJoin) :
    out.2.1.Untroubled out.1.faultPlan.FailedJoin := by
  cases h with
  | call call pc hcall =>
    exact beginCall_elim (M := ControllerPc.Untroubled _) hcall trivial trivial trivial trivial
      trivial
  | callNull call =>
    cases call with
    | shutdown | join => exact nofun
    | _ => trivial
  | readyLock hfree hinit => exact readyTest_elim (M := ControllerPc.Untroubled _) trivial trivial
  | readyAgain hfree hinit => exact readyTest_elim (M := ControllerPc.Untroubled _) trivial trivial
  | abortQueue hq => cases hq <;> trivial
  | releaseSkip caller i result allJoined hindex hskip =>
    cases caller with
    | abort => trivial
    | join => exact hpc
  | releaseNativeFailed caller i result allJoined hfail hindex hhandle =>
    cases hjoin.symm.trans hfail
  -- an injected failure of `join` is the one that the plan has fired
  | releaseInjected caller i result allJoined faultPlan workerResult hfault hindex hhandle hplan =>
    cases caller with
    | abort => trivial
    | join => exact fun _ => consultFaultPlan_fires hplan
  -- no worker fails, since none saw a failing wait
  | releaseFailedWorker caller i result allJoined faultPlan workerResult hresult hindex hhandle
      hplan =>
    exact absurd (hsound i workerResult (List.mem_singleton_self _)) hresult
  | releaseJoined caller i result allJoined faultPlan hindex hhandle hplan =>
    cases caller with
    | abort => trivial
    | join =>
      intro hresult
      subst hplan
      exact (hpc hresult).consult cfg .workerJoin
  -- nor did the infrastructure
  | releaseDone caller index result hindex =>
    cases caller with
    | abort => trivial
    | join =>
      show (if sh.worker.infrastructureFailure then SchedulerResult.errorSystem else result)
        = .errorSystem → _
      rw [hunfailed.1]
      exact hpc
  | releaseIncomplete caller index result hindex => cases hall
  | releaseLock caller index event result allJoined hfree hinit =>
    cases caller with
    | abort => trivial
    | join => exact hpc
  | releaseUnlockFailed caller i result allJoined hheld => exact absurd rfl hall.1
  | releaseUnlock caller i event result allJoined hevent hheld =>
    cases caller with
    | abort => trivial
    | join => exact hpc
  | fold caller result worker hfree hinit hfold =>
    cases caller with
    | abort => trivial
    | join => exact hpc
  | foldUnlock caller result hheld =>
    obtain ⟨-, hreleased, -⟩ := hphase
    have hnone : sh.worker.threads = none := hreleased.threads
    unfold afterRelease
    cases caller with
    | abort => trivial
    | join =>
      simp only [hnone, Option.isSome_none, Bool.false_eq_true, ↓reduceIte]
      exact hpc
  | setState state call r hfree =>
    cases call with
    | join => exact hpc
    | shutdown => exact absurd hpc id
    | _ => trivial
  | setStateUnlock call r hcall hheld =>
    cases call with
    | join => exact absurd rfl hcall
    | shutdown => exact absurd hpc id
    | _ => trivial
  | joinAnswered r hheld => exact hpc
  | shutdownStopped hfree hstate => exact nofun
  | shutdownRefused hfree hstate => exact nofun
  | shutdownAnswered r hheld => exact hpc
  | shutdownQueue hq =>
    cases hq with
    | run hact hleave => exact (queueAct_spec habs hact).shutsDown hwait hoperation hpc
    | leave op r =>
      show mapQueueShutdownResult r.result = .ok
      rw [show r.result = .ok from hpc]
      rfl
  | drainLock caller hfree => exact drainTest_elim (M := ControllerPc.Untroubled _) hpc ⟨hpc, rfl⟩
  | drainWait caller hheld => exact hpc
  | drainSpurious caller => exact hpc
  | drainAgain caller hfree => exact drainTest_elim (M := ControllerPc.Untroubled _) hpc ⟨hpc, rfl⟩
  -- and the waits of the controller succeed too
  | drainFailed caller hfree hfail => cases hwait.symm.trans hfail
  | shutdownDrained result hheld =>
    intro hresult
    cases (show result = .ok from hpc.1).symm.trans hresult
  | shutdownFailed result hheld => cases hpc.2
  | joinDrained hheld => exact nofun
  | joinFailed hheld => cases hpc.2
  | joinStopped hfree hstate => exact nofun
  | join hfree hstate =>
    exact drainTest_elim (M := ControllerPc.Untroubled _) trivial ⟨trivial, rfl⟩
  | joinRefused hfree hstate => exact nofun
  | joinUnlock answer hheld => exact hpc
  | _ => trivial

end Answers

/-! ## Every reachable state -/

section Reachable

variable [DecidableEq C] [Fintype C] {cfg : SchedulerConfig W} {s : SchedulerPool W C P}

/-- **A shutdown or a join carries `SCHEDULER_ERROR_SYSTEM` only for an injected failure.** -/
theorem SchedulerReachable.untroubled (h : SchedulerReachable cfg s)
    (hwait : cfg.waitMayFail = false) (hjoin : cfg.joinMayFail = false) :
    ∀ pc, s.pc .controller = .controller pc → pc.Untroubled s.shared.faultPlan.FailedJoin := by
  refine h.invariant (I := fun s => ∀ pc, s.pc .controller = .controller pc →
    pc.Untroubled s.shared.faultPlan.FailedJoin) ?_ ?_
  · rintro queue - pc ⟨⟩
    trivial
  · intro u u' t choice hu hI hstep
    refine hu.controller_step_awaits
      (fun sh pc => pc.Untroubled sh.faultPlan.FailedJoin) (fun sh pc => pc.untroubled_wake _)
      hstep ?_ ?_ hI
    · -- the other threads do not consult the plan
      intro pc ht hpc huntroubled
      obtain ⟨pc', fx, hspec, -⟩ := hu.threads.step_spec hstep
      rwa [show u'.shared.faultPlan = u.shared.faultPlan from hspec.faultPlan ht]
    · intro pc out ht hpc hspec hawait hout huntroubled
      obtain ⟨f, habs, -⟩ := hu.threads.abstracts
      have hoperation := hu.accounts.operation .controller
      rw [hpc] at hoperation
      have hsound : ∀ i r, .await (.worker i) r ∈ out.2.2 → r = .ok := by
        intro i r hr
        have hworker := (hu.sound hwait).sound (.worker i)
        rw [hawait i r hr] at hworker
        exact hworker
      rw [← hout]
      exact hspec.untroubled habs hwait hjoin (hu.lifecycle.phase hpc) (hu.joinsAll hjoin pc hpc)
        (hu.sound hwait).unfailed hsound hoperation huntroubled

theorem WorkerPc.running_le_one (pc : WorkerPc P) : pc.running ≤ 1 := by
  unfold WorkerPc.running
  split <;> omega

/-- **The defensive branches are unreachable** as long as waits and native joins succeed, in
every schedule of submitters, workers and lifecycle calls: a worker is handed a Task or
`ERROR_SHUTDOWN` and exits with `WORKER_RESULT_OK`; the counts that are about to be decremented
are positive; no failure is recorded; a registered submission answers by the queue's state;
and neither `scheduler_shutdown` nor `scheduler_join` answers `SCHEDULER_ERROR_SYSTEM`, unless
the fault plan of a test build has turned the success of a native join into a failure. -/
theorem defensive_branches_unreachable (h : SchedulerReachable cfg s)
    (hwait : cfg.waitMayFail = false) (hjoin : cfg.joinMayFail = false) :
    (∀ i op r, s.pc (.worker i) = .worker i (.dequeue (.returned op r)) →
      r.result = .errorShutdown ∨ r.result = .ok ∧ ∃ task, r.output = some task) ∧
    (∀ i q r, s.pc (.worker i) ≠ .worker i (.queueShutdown q r)) ∧
    (∀ i r, s.pc (.worker i) = .worker i (.finished r) → r = .ok) ∧
    (∀ i r, s.pc (.worker i) = .worker i (.exitLock r) →
      r = .ok ∧ 0 < s.shared.worker.activeWorkerCount) ∧
    (∀ u task r, (s.pc u).toCall = .deregisterLock task r →
      0 < s.shared.lifecycle.activeSubmitterCount) ∧
    (∀ contexts, s.shared.worker.workerContexts = some contexts → ∀ i,
      (contexts i).currentlyRunningCount ≤ 1 ∧
      (s.pc (.worker i) = .worker i .accountRunningDone →
        (contexts i).currentlyRunningCount = 1)) ∧
    s.shared.worker.infrastructureFailure = false ∧
    s.shared.worker.workerRuntimeFailureCount = 0 ∧
    (∀ u kind task, (s.pc u).toCall = .registerUnlock kind task .ok →
      ∀ ls s' r, (schedulerProgram cfg).allowed (StaysInCall u) ls s = true →
        (schedulerProgram cfg).run ls s = some s' → (s'.pc u).toCall = .submitted r →
        r = .ok ∨ r = .errorShutdown ∨ kind = .trySubmit ∧ r = .errorQueueFull) ∧
    (∀ r, s.pc .controller = .controller (.returned .shutdown r) → r ≠ .errorSystem) ∧
    (¬s.shared.faultPlan.FailedJoin →
      ∀ r, s.pc .controller = .controller (.returned .join r) → r ≠ .errorSystem) := by
  have hsound : ∀ i pc, s.pc (.worker i) = .worker i pc → pc.Sound := by
    intro i pc hpc
    have hworker := (h.sound hwait).sound (.worker i)
    rwa [hpc] at hworker
  refine ⟨?_, ?_, ?_, ?_, ?_, ?_, (h.sound hwait).unfailed.1,
    (h.sound hwait).unfailed.2, ?_, ?_, ?_⟩
  · intro i op r hpc
    rcases hsound i _ hpc with hr | ⟨hr, hsome⟩
    · exact .inl hr
    · exact .inr ⟨hr, Option.isSome_iff_exists.mp hsome⟩
  · exact fun i q r hpc => hsound i _ hpc
  · exact fun i r hpc => hsound i _ hpc
  · intro i r hpc
    have hactive := h.lifecycle.active_le (.worker i)
    rw [hpc] at hactive
    exact ⟨hsound i _ hpc, hactive⟩
  · intro u task r hcall
    have hregistered := h.accounts.registered_le u
    unfold SchedulerPc.registered at hregistered
    rwa [hcall] at hregistered
  · intro contexts hcontexts i
    obtain ⟨pc, hpc⟩ := h.threads.workerPc i
    have hrunning := h.running_count hpc hcontexts
    refine ⟨hrunning ▸ pc.running_le_one, fun hdone => ?_⟩
    exact h.running_count hdone hcontexts
  · intro u kind task hregistered ls s' r hcall hrun hanswer
    rcases h.submission hwait hregistered hcall hrun hanswer with ⟨hr, -⟩ | ⟨hr, -⟩
    · exact .inl hr
    · exact .inr hr
  · intro r hpc
    exact h.untroubled hwait hjoin _ hpc
  · intro hplan r hpc hr
    exact hplan (h.untroubled hwait hjoin _ hpc hr)

end Reachable

/-- A worker that has executed a Task, about to count its callback as done. -/
theorem defensive_branches_unreachable_running :
    ∃ s : SchedulerPool 1 (Fin 2) ℕ, SchedulerReachable reliableConfig s ∧
      s.pc (.worker 0) = .worker 0 .accountRunningDone ∧
      ∃ contexts, s.shared.worker.workerContexts = some contexts ∧
        (contexts 0).currentlyRunningCount = 1 := by
  obtain ⟨s, hreach, hobs⟩ := reachable_of_run
    (startSchedule ++ makes (.client 0) (.submit .submit (some 7)) 8 ++ advance (.worker 0) 7
      ++ makes (.worker 0) (.callbackReturns true) 1)
    (fun s => (s.pc (.worker 0), s.shared.worker.workerContexts.isSome))
    (v := (.worker 0 .accountRunningDone, true)) (by decide +kernel)
  obtain ⟨hdone, hsome⟩ := Prod.mk.inj hobs
  obtain ⟨contexts, hcontexts⟩ := Option.isSome_iff_exists.mp hsome
  obtain ⟨-, -, -, -, -, hrunning, -⟩ := defensive_branches_unreachable hreach rfl rfl
  exact ⟨s, hreach, hdone, contexts, hcontexts, (hrunning contexts hcontexts 0).2 hdone⟩

end SchedulingEngine
