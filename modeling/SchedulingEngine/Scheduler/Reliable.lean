import SchedulingEngine.Scheduler.Headcount

/-!
# What a reliable backend rules out (scheduler.c)

- Where native joins succeed, every join is complete: `SHUTTING_DOWN` is followed by
  `STOPPED` and never by `FAILED` (`SchedulerReachable.gated`).
- Where condition waits succeed, no worker fails: it exits when the queue is closed and
  empty, with `WORKER_RESULT_OK` (`SchedulerReachable.sound`).
-/

namespace SchedulingEngine

open Concurrency

variable {W : ℕ} {C P : Type}

/-! ## Joins -/

/-- No native join has failed in this `release_workers`. -/
def ControllerPc.JoinsAll : ControllerPc P → Prop
  | .releaseJoin _ _ _ allJoined => allJoined = true
  | .releaseLock _ _ event _ allJoined | .releaseUnlock _ _ event _ allJoined =>
    event ≠ .nativeFailed ∧ allJoined = true
  | .setStateLock .failed .join _ => False
  | _ => True

theorem ControllerPc.joinsAll_wake (pc : ControllerPc P) : pc.wake.JoinsAll ↔ pc.JoinsAll := by
  cases pc <;> exact Iff.rfl

section Joins

variable [DecidableEq C] {cfg : SchedulerConfig W} {choice : SchedulerChoice W C P}
  {sh : Scheduler W C P}

theorem ControllerStepSpec.joinsAll {pc : ControllerPc P}
    {out : SchedulerStep W C P (ControllerPc P)} (h : ControllerStepSpec cfg choice sh pc out)
    (hphase : (pc.phase W).Ok sh) (hjoin : cfg.joinMayFail = false) (hall : pc.JoinsAll) :
    out.2.1.JoinsAll := by
  cases h with
  | call call pc hcall =>
    exact beginCall_elim (M := ControllerPc.JoinsAll) hcall trivial trivial trivial trivial trivial
  | readyLock hfree hinit => exact readyTest_elim (M := ControllerPc.JoinsAll) trivial trivial
  | readyAgain hfree hinit => exact readyTest_elim (M := ControllerPc.JoinsAll) trivial trivial
  | abortQueue hq =>
    cases hq with
    | run hact hleave => trivial
    | leave op r => rfl
  | releaseSkip caller i result allJoined hindex hskip => exact hall
  -- excluded: native joins succeed
  | releaseNativeFailed caller i result allJoined hfail hindex hhandle =>
    cases hjoin.symm.trans hfail
  | releaseInjected caller i result allJoined faultPlan workerResult hfault hindex hhandle hplan =>
    exact ⟨nofun, hall⟩
  | releaseFailedWorker caller i result allJoined faultPlan workerResult hresult hindex hhandle =>
    exact hall
  | releaseJoined caller i result allJoined faultPlan hindex hhandle hplan => exact ⟨nofun, hall⟩
  | releaseIncomplete caller index result hindex => cases hall
  | releaseLock caller index event result allJoined hfree hinit => exact hall
  | releaseUnlockFailed caller i result allJoined hheld => exact absurd rfl hall.1
  | releaseUnlock caller i event result allJoined hevent hheld => exact hall.2
  -- with all workers joined the arrays are gone
  | foldUnlock caller result hheld =>
    obtain ⟨-, hreleased, -⟩ := hphase
    have hnone : sh.worker.threads = none := hreleased.threads
    unfold afterRelease
    cases caller with
    | abort => trivial
    | join =>
      simp only [hnone, Option.isSome_none, Bool.false_eq_true, ↓reduceIte]
      trivial
  | shutdownQueue hq => cases hq <;> trivial
  | drainLock caller hfree => exact drainTest_elim (M := ControllerPc.JoinsAll) trivial trivial
  | drainAgain caller hfree => exact drainTest_elim (M := ControllerPc.JoinsAll) trivial trivial
  | join hfree hstate => exact drainTest_elim (M := ControllerPc.JoinsAll) trivial trivial
  | joinDrained hheld => rfl
  | _ => trivial

/-- Behind the gate: `SHUTTING_DOWN`, or `STOPPED` after it. -/
def Scheduler.Gated (sh : Scheduler W C P) : Prop :=
  sh.lifecycle.state = .shuttingDown ∨ sh.lifecycle.state = .stopped

/-- **A lifecycle call does not reopen the gate.** -/
theorem ControllerStepSpec.gated {pc : ControllerPc P} {out : SchedulerStep W C P (ControllerPc P)}
    (h : ControllerStepSpec cfg choice sh pc out) (hphase : (pc.phase W).Ok sh)
    (hall : pc.JoinsAll) (hgated : sh.Gated) : out.1.Gated := by
  have hnot : ∀ state, state ≠ .shuttingDown → state ≠ .stopped → sh.lifecycle.state ≠ state := by
    rintro state h₁ h₂ rfl
    exact hgated.elim h₁ h₂
  cases h with
  | start hfree hstate => exact absurd hstate (hnot _ nofun nofun)
  | allocationFailed sh' hsh hfail =>
    subst hsh
    exact hgated
  | allocated sh' hsh hthreads hcontexts hsize =>
    subst hsh
    exact hgated
  | run hfree => exact absurd hphase.1 (hnot _ nofun nofun)
  | abortQueue hq => cases hq <;> exact hgated
  | setState state call r hfree =>
    cases state with
    | stopped => exact .inr rfl
    | shuttingDown => exact .inl rfl
    | initialized =>
      cases call with
      | start => exact absurd hphase.1 (hnot _ nofun nofun)
      | _ => exact absurd hphase id
    | failed =>
      cases call with
      | start => exact absurd hphase.1 (hnot _ nofun nofun)
      | join => exact absurd hall id
      | _ => exact absurd hphase id
    | _ => exact absurd hphase id
  | shutdownRunning hfree hstate => exact .inl rfl
  | shutdownQueue hq => cases hq <;> exact hgated
  | _ => exact hgated

end Joins

section Reachable

variable [DecidableEq C] [Fintype C] {cfg : SchedulerConfig W} {t : Thread W C}
  {choice : SchedulerChoice W C P} {s s' : SchedulerPool W C P}

theorem SchedulerReachable.joinsAll (h : SchedulerReachable cfg s)
    (hjoin : cfg.joinMayFail = false) :
    ∀ pc, s.pc .controller = .controller pc → pc.JoinsAll := by
  exact h.controller_invariant (fun _ pc => pc.JoinsAll) (fun _ pc => pc.joinsAll_wake)
    (fun _ => trivial) (fun _ _ hall => hall)
    fun hu hpc hspec _ hall => hspec.joinsAll (hu.lifecycle.phase hpc) hjoin hall

/-- One step behind the gate. -/
theorem SchedulerReachable.gated_step (h : SchedulerReachable cfg s)
    (hjoin : cfg.joinMayFail = false) (hstep : (schedulerProgram cfg).step t choice s = some s')
    (hgated : s.shared.Gated) : s'.shared.Gated := by
  rcases h.step_cases hstep with ⟨-, hframe⟩ | ⟨-, pc, pc', fx, hpc, hspec, -⟩
  · unfold Scheduler.Gated
    rw [hframe.state]
    exact hgated
  · exact hspec.gated (h.lifecycle.phase hpc) (h.joinsAll hjoin pc hpc) hgated

/-- **Once `SHUTTING_DOWN` was assigned**, the scheduler is in it or stopped. -/
theorem SchedulerReachable.gated (h : SchedulerReachable cfg s) (hjoin : cfg.joinMayFail = false) :
    .shuttingDown ∈ s.shared.history.states → s.shared.Gated := by
  refine h.invariant (I := fun s => .shuttingDown ∈ s.shared.history.states → s.shared.Gated)
    (fun queue _ hmem => ?_) fun hu hI hstep hmem => ?_
  · cases hmem with
    | tail _ hmem => cases hmem
  · rcases hu.assigns hstep with ⟨-, hstates⟩ | ⟨-, hstates⟩
    · exact hu.gated_step hjoin hstep (hI (hstates ▸ hmem))
    · rw [hstates, List.mem_append, List.mem_singleton] at hmem
      rcases hmem with hmem | hmem
      · exact hu.gated_step hjoin hstep (hI hmem)
      · exact .inl hmem.symm

end Reachable

/-! ## Workers -/

/-- A call of `concurrent_task_queue_dequeue` that got a Task or `ERROR_SHUTDOWN`. -/
def QueuePc.Dequeues : QueuePc P → Prop
  | .unlock _ r | .returned _ r =>
    r.result = .errorShutdown ∨ r.result = .ok ∧ r.output.isSome = true
  | _ => True

/-- A worker that does not fail. -/
def WorkerPc.Sound : WorkerPc P → Prop
  | .dequeue q => q.Dequeues
  | .queueShutdown _ _ => False
  | .exitLock r | .exitUnlock r | .finished r => r = .ok
  | _ => True

theorem WorkerPc.sound_wake (pc : WorkerPc P) : pc.wake.Sound ↔ pc.Sound := by
  cases pc with
  | dequeue q => cases q <;> exact Iff.rfl
  | _ => exact Iff.rfl

theorem QueueStepSpec.dequeues {T : Type} {cfg : QueueConfig} {t : T} {choice : QueueChoice T P}
    {q : ConcurrentTaskQueue T P} {f : ClosableFifo P} {pc : QueuePc P} {out : QueueSection T P}
    (h : QueueStepSpec cfg t choice q f pc out) (hwait : cfg.waitMayFail = false)
    (hop : pc.operation = some .dequeue) (hpc : pc.Dequeues) : out.2.1.Dequeues := by
  cases h with
  | call op => cases hop
  | callInvalid op => cases hop
  | enter hmutex henter hsec =>
    obtain ⟨hoperation, -⟩ := henter.accounts
    obtain rfl := Option.some.inj (hop.symm.trans hoperation)
    generalize hsame : QueueOperation.dequeue = op at hsec
    cases hsec with
    | wait w hopen hblocked => trivial
    | insert task f' ring hop' hinsert habs' => rcases hop' with rfl | rfl <;> cases hsame
    | remove task f' ring hop' hremove habs' => exact .inr ⟨rfl, rfl⟩
    | close => cases hsame
    | observe r hstep hshutdown =>
      rw [← hsame] at hstep
      rw [observe_dequeue hstep]
      exact .inl rfl
  | waitFailed w hfail hmutex => cases hwait.symm.trans hfail
  | unlock op r hmutex => exact hpc
  | _ => trivial

theorem afterDequeue_sound (op : QueueOperation P) {r : QueueReturn P}
    (h : (QueuePc.returned op r).Dequeues) : (afterDequeue r).Sound := by
  unfold afterDequeue
  rcases h with hr | ⟨hr, hsome⟩
  · rw [if_pos hr]
    rfl
  · obtain ⟨task, htask⟩ := Option.isSome_iff_exists.mp hsome
    rw [if_neg (by simp [hr]), hr, htask]
    trivial

section Workers

variable [DecidableEq C] {cfg : SchedulerConfig W} {t : Thread W C}
  {choice : SchedulerChoice W C P} {sh : Scheduler W C P}

/-- No worker has failed. -/
def WorkerDomain.Unfailed {T : Type} (w : WorkerDomain W T) : Prop :=
  w.infrastructureFailure = false ∧ w.workerRuntimeFailureCount = 0

omit [DecidableEq C] in
theorem recordWorkerExit_ok {T : Type} {w : WorkerDomain W T} (hactive : 0 < w.activeWorkerCount) :
    recordWorkerExit w .ok = ({ w with activeWorkerCount := w.activeWorkerCount - 1 }, .ok) := by
  have hne := Nat.ne_of_gt hactive
  simp [recordWorkerExit, hne]

/-- **A worker whose waits succeed does not fail.** -/
theorem WorkerStepSpec.sound {i : Fin W} {pc : WorkerPc P} {out : SchedulerStep W C P (WorkerPc P)}
    {f : ClosableFifo P} (h : WorkerStepSpec cfg t choice sh i pc out) (habs : Abstracts sh.queue f)
    (hwait : cfg.waitMayFail = false) (hok : WorkerOk sh i pc)
    (hactive : pc.active ≤ sh.worker.activeWorkerCount)
    (hoperation : (SchedulerPc.worker i pc).queue.operation = (SchedulerPc.worker i pc).operation)
    (hsound : pc.Sound) :
    out.2.1.Sound ∧ (sh.worker.Unfailed → out.1.worker.Unfailed) := by
  cases h with
  | badContext contexts hcontexts hbad => exact absurd hbad (hok.good_context rfl hcontexts)
  | dequeue hq =>
    cases hq with
    | run hact hleave => exact ⟨(queueAct_spec habs hact).dequeues hwait hoperation hsound, id⟩
    | leave op r => exact ⟨afterDequeue_sound op hsound, id⟩
  | call task runningAccounted hcall =>
    refine ⟨trivial, ?_⟩
    rw [hcall.worker]
    exact id
  | accountResult succeeded hcontexts => exact ⟨trivial, id⟩
  | queueShutdown r hq => exact absurd hsound id
  | exit r hfree hinit =>
    obtain rfl : r = .ok := hsound
    rw [recordWorkerExit_ok (w := (sh.lockWorker t).worker) hactive]
    exact ⟨rfl, id⟩
  | exited r hheld => exact ⟨hsound, id⟩
  | _ => exact ⟨trivial, id⟩

theorem ControllerStepSpec.unfailed {pc : ControllerPc P}
    {out : SchedulerStep W C P (ControllerPc P)} (h : ControllerStepSpec cfg choice sh pc out)
    (hunfailed : sh.worker.Unfailed) : out.1.worker.Unfailed := by
  cases h with
  | allocationFailed sh' hsh hfail =>
    subst hsh
    exact hunfailed
  | allocated sh' hsh hthreads hcontexts hsize =>
    subst hsh
    exact hunfailed
  | abortQueue hq => cases hq <;> exact hunfailed
  | releaseLock caller index event result allJoined hfree hinit => cases event <;> exact hunfailed
  | fold caller result worker hfree hinit hfold =>
    obtain ⟨_, _, _, _, _, rfl⟩ := foldWorkers_frame hfold
    exact hunfailed
  | shutdownQueue hq => cases hq <;> exact hunfailed
  | _ => exact hunfailed

/-- Where the thread stands as a worker. -/
def SchedulerPc.Sound : SchedulerPc W P → Prop
  | .worker _ pc => pc.Sound
  | _ => True

/-- No worker fails. -/
structure SoundInv [Fintype C] (s : SchedulerPool W C P) : Prop where
  sound : ∀ u, (s.pc u).Sound
  unfailed : s.shared.worker.Unfailed

variable [Fintype C] {s s' : SchedulerPool W C P}

theorem soundInv_step (hreach : SchedulerReachable cfg s) (hwait : cfg.waitMayFail = false)
    (h : SoundInv s) (hstep : (schedulerProgram cfg).step t choice s = some s') : SoundInv s' := by
  obtain ⟨pc, fx, hspec, hfx⟩ := hreach.threads.step_spec hstep
  obtain ⟨f, habs, -⟩ := hreach.threads.abstracts
  have hboth : pc.Sound ∧ s'.shared.worker.Unfailed := by
    have hself := hreach.lifecycle.threads t
    have hactive := hreach.lifecycle.active_le t
    have hoperation := hreach.accounts.operation t
    have hsound := h.sound t
    generalize s.pc t = tpc at hspec hself hactive hoperation hsound
    generalize hout : (s'.shared, pc, fx) = out at hspec
    cases hspec with
    | call c h' =>
      obtain ⟨hsh, hrest⟩ := Prod.mk.inj hout
      obtain ⟨rfl, -⟩ := Prod.mk.inj hrest
      refine ⟨trivial, ?_⟩
      rw [hsh, h'.worker]
      exact h.unfailed
    | worker i h' =>
      obtain ⟨hsh, hrest⟩ := Prod.mk.inj hout
      obtain ⟨rfl, -⟩ := Prod.mk.inj hrest
      obtain ⟨hpc, hunfailed⟩ := h'.sound habs hwait hself hactive hoperation hsound
      exact ⟨hpc, hsh ▸ hunfailed h.unfailed⟩
    | controller h' =>
      obtain ⟨hsh, hrest⟩ := Prod.mk.inj hout
      obtain ⟨rfl, -⟩ := Prod.mk.inj hrest
      exact ⟨trivial, hsh ▸ h'.unfailed h.unfailed⟩
  refine ⟨Program.forall_step (fun _ _ (pc : SchedulerPc W P) => pc.Sound) ?_ hfx hboth.1
    (fun _ _ hu => hu) h.sound, hboth.2⟩
  intro u sh
  refine schedulerProgram_blind (fun pc => ?_) fun _ => rfl
  cases pc with
  | worker i pc => exact propext pc.sound_wake
  | _ => rfl

/-- **Where condition waits succeed no worker fails.** -/
theorem SchedulerReachable.sound (h : SchedulerReachable cfg s) (hwait : cfg.waitMayFail = false) :
    SoundInv s := by
  refine h.invariant (fun queue _ => ⟨?_, rfl, rfl⟩) fun hu hI hstep =>
    soundInv_step hu hwait hI hstep
  rintro (_ | i | c) <;> trivial

end Workers

end SchedulingEngine
