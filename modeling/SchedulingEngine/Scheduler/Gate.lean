import SchedulingEngine.Scheduler.Lifecycle

/-!
# The submission gate

A submission is admitted by `register_submitter` while the state is `RUNNING`, and is
over once `deregister_submitter` has reported it. `GateInv` says when no submission can
be admitted: before all workers were created, and once the scheduler has stopped.
-/

namespace SchedulingEngine

open Concurrency

variable {W : ℕ} {C P : Type}

/-- Past the gate, with a result that may still be `SCHEDULER_OK`. -/
def CallPc.admitted : CallPc P → Bool
  | .registerUnlock _ _ .ok | .enqueue _ _ _ | .deregisterLock _ _ | .deregisterUnlock _ .ok => true
  | _ => false

def SchedulerPc.admitted (pc : SchedulerPc W P) : Bool := pc.toCall.admitted

theorem SchedulerPc.admitted_wake (pc : SchedulerPc W P) : pc.wake.admitted = pc.admitted := by
  rw [admitted, toCall_wake, admitted]
  cases pc.toCall <;> rfl

/-- A Task in flight was let in by the gate. -/
theorem CallPc.inFlight_eq_zero {pc : CallPc P} (h : pc.admitted = false) : pc.inFlight = 0 := by
  cases pc with
  | enqueue kind task q => cases h
  | deregisterLock task r => cases h
  | deregisterUnlock task r =>
    cases r with
    | ok => cases h
    | _ => rfl
  | _ => rfl

/-- An admitted submission is registered, or on its way out of `deregister_submitter`. -/
theorem CallPc.admitted_cases {pc : CallPc P} (h : pc.admitted = true) :
    pc.registered = 1 ∨ pc.holdsLifecycle = true := by
  cases pc with
  | registerUnlock kind task r => exact .inr rfl
  | enqueue kind task q => exact .inl rfl
  | deregisterLock task r => exact .inl rfl
  | deregisterUnlock task r => exact .inr rfl
  | _ => cases h

/-- A call that holds `lifecycle_mutex` holds it for its thread. -/
theorem SchedulerPc.holdsLifecycle_toCall {pc : SchedulerPc W P}
    (h : pc.toCall.holdsLifecycle = true) : pc.holdsLifecycle = true := by
  cases pc with
  | call pc => exact h
  | worker i pc =>
    cases pc with
    | callback task runningAccounted call => exact h
    | _ => cases h
  | controller pc => cases h

/-- The gate is the state: a submitter is let in while it is `RUNNING`. -/
theorem registerSubmitter_ok {T : Type} (l : LifecycleDomain T) :
    (registerSubmitter l).2 = .ok ↔ l.state = .running := by
  unfold registerSubmitter
  dsimp only
  split
  · rename_i hstate
    simp only [hstate, iff_false]
    split <;> nofun
  · rename_i hstate
    simp only [true_iff]
    exact Decidable.not_not.mp hstate

section Steps

variable [DecidableEq C] {cfg : SchedulerConfig W} {t : Thread W C}
  {choice : SchedulerChoice W C P} {sh : Scheduler W C P}

/-- A submission is admitted only while the state is `RUNNING`. -/
theorem CallStepSpec.admits {pc : CallPc P} {out : SchedulerStep W C P (CallPc P)}
    (h : CallStepSpec cfg t choice sh pc out) (hadmitted : out.2.1.admitted = true) :
    pc.admitted = true ∨ sh.lifecycle.state = .running := by
  cases h with
  | register kind task hfree =>
    refine .inr ((registerSubmitter_ok (sh.lockLifecycle t).lifecycle).mp ?_)
    dsimp only at hadmitted
    generalize (registerSubmitter (sh.lockLifecycle t).lifecycle).2 = r at hadmitted ⊢
    cases r <;> first | rfl | cases hadmitted
  | registered kind task hheld => exact .inl rfl
  | enqueue kind task hq => exact .inl rfl
  | deregister task r hfree => exact .inl rfl
  | captureQueue temporary hq => cases hq <;> cases hadmitted
  | _ => cases hadmitted

/-- Only an admitted submission is accepted. -/
theorem CallStepSpec.accepts {pc : CallPc P} {out : SchedulerStep W C P (CallPc P)}
    (h : CallStepSpec cfg t choice sh pc out) (hadmitted : pc.admitted = false) :
    out.1.history.accepted = sh.history.accepted := by
  cases h with
  | enqueue kind task hq => cases hadmitted
  | deregistered task r hheld =>
    cases r with
    | ok => cases hadmitted
    | _ => rfl
  | captureQueue temporary hq => rw [hq.frame]
  | _ => rfl

/-- A thread is let in by a step taken while the state is `RUNNING`. -/
theorem SchedulerStepSpec.admits {pc : SchedulerPc W P}
    {out : SchedulerStep W C P (SchedulerPc W P)} (h : SchedulerStepSpec cfg choice sh t pc out)
    (hadmitted : out.2.1.admitted = true) :
    pc.admitted = true ∨ sh.lifecycle.state = .running := by
  cases h with
  | call c h => exact h.admits hadmitted
  | worker i h =>
    cases h with
    | dequeue hq =>
      cases hq with
      | run hact hleave => cases hadmitted
      | leave op r =>
        rw [SchedulerPc.admitted, (afterDequeue_held i r).2.2.1] at hadmitted
        cases hadmitted
    | call task runningAccounted hcall => exact hcall.admits hadmitted
    | queueShutdown r hq => cases hq <;> cases hadmitted
    | _ => cases hadmitted
  | controller h => cases hadmitted

/-- A Task is accepted by a thread that had been let in. -/
theorem SchedulerStepSpec.accepts {pc : SchedulerPc W P}
    {out : SchedulerStep W C P (SchedulerPc W P)} (h : SchedulerStepSpec cfg choice sh t pc out)
    (hadmitted : pc.admitted = false) : out.1.history.accepted = sh.history.accepted := by
  cases h with
  | call c h => exact h.accepts hadmitted
  | worker i h =>
    cases h with
    | dequeue hq => rw [hq.frame]
    | call task runningAccounted hcall => exact hcall.accepts hadmitted
    | queueShutdown r hq => rw [hq.frame]
    | _ => rfl
  | controller h =>
    cases h with
    | allocationFailed sh' hsh => rw [hsh]; rfl
    | allocated sh' hsh => rw [hsh]; rfl
    | abortQueue hq => rw [hq.frame]
    | shutdownQueue hq => rw [hq.frame]
    | _ => rfl

/-- Workers are created, never taken back. -/
theorem ControllerStepSpec.created_le {pc : ControllerPc P}
    {out : SchedulerStep W C P (ControllerPc P)} (h : ControllerStepSpec cfg choice sh pc out) :
    sh.worker.createdWorkerCount ≤ out.1.worker.createdWorkerCount := by
  cases h with
  | allocationFailed sh' hsh => rw [hsh]; exact Nat.le_refl _
  | allocated sh' hsh => rw [hsh]; exact Nat.le_refl _
  | created i faultPlan hfree hinit => exact Nat.le_succ _
  | abortQueue hq => rw [hq.frame]
  | releaseLock caller index event result allJoined hfree hinit =>
    cases event <;> exact Nat.le_refl _
  | fold caller result worker hfree hinit hfold =>
    obtain ⟨_, _, _, _, _, rfl⟩ := foldWorkers_frame hfold
    exact Nat.le_refl _
  | shutdownQueue hq => rw [hq.frame]
  | _ => exact Nat.le_refl _

/-- Who assigns `STOPPED`. -/
theorem ControllerStepSpec.stops {pc : ControllerPc P} {out : SchedulerStep W C P (ControllerPc P)}
    (h : ControllerStepSpec cfg choice sh pc out) (hstopped : out.1.lifecycle.state = .stopped) :
    sh.lifecycle.state = .stopped ∨
      (∃ call r, pc = .setStateLock .stopped call r) ∧ sh.lifecycle.mutex = none := by
  cases h with
  | start hfree hstate => cases hstopped
  | allocationFailed sh' hsh => rw [hsh] at hstopped; exact .inl hstopped
  | allocated sh' hsh => rw [hsh] at hstopped; exact .inl hstopped
  | run hfree => cases hstopped
  | abortQueue hq => rw [hq.frame] at hstopped; exact .inl hstopped
  | setState state call r hfree =>
    cases hstopped
    exact .inr ⟨⟨call, r, rfl⟩, hfree⟩
  | shutdownRunning hfree hstate => cases hstopped
  | shutdownQueue hq => rw [hq.frame] at hstopped; exact .inl hstopped
  | _ => exact .inl hstopped

omit [DecidableEq C] in
/-- Only `STARTING`, `SHUTTING_DOWN` and `FAILED` are seen in the middle of a call. -/
theorem Phase.Ok.settled {phase : Phase} (h : phase.Ok sh)
    (hstate : sh.lifecycle.state ≠ .starting ∧ sh.lifecycle.state ≠ .shuttingDown ∧
      sh.lifecycle.state ≠ .failed) : sh.Settled := by
  obtain ⟨hstarting, hshuttingDown, hfailed⟩ := hstate
  have hdrain : ∀ {caller : DrainCaller}, sh.DrainedBy caller → sh.Settled := by
    intro caller hd
    cases caller with
    | shutdown result => exact absurd hd.1 hshuttingDown
    | join =>
      rcases hd with ⟨hs, -⟩ | ⟨hs, -⟩
      · exact absurd hs hshuttingDown
      · exact absurd hs hfailed
  have hrelease : ∀ {caller : ReleaseCaller}, sh.ReleasedBy caller → sh.Settled := by
    intro caller hr
    cases caller with
    | abort => exact absurd hr hstarting
    | join =>
      rcases hr with hs | hs
      · exact absurd hs hshuttingDown
      · exact absurd hs hfailed
  cases phase with
  | settled => exact h
  | closing => exact absurd h.1 hshuttingDown
  | draining caller => exact hdrain h.1
  | drained caller => exact hdrain h.1
  | releasing caller => exact hrelease h.1
  | released caller => exact hrelease h.1
  | impossible => exact h.elim
  | _ => exact absurd h.1 hstarting

omit [DecidableEq C] in
/-- A scheduler that runs has all its workers. -/
theorem Phase.Ok.running {phase : Phase} (h : phase.Ok sh)
    (hstate : sh.lifecycle.state = .running) : sh.crew.Populated W :=
  ((h.settled (by simp [hstate])).of_state hstate).1

omit [DecidableEq C] in
/-- `STOPPED` is seen only between the calls. -/
theorem Phase.Ok.stopped {phase : Phase} (h : phase.Ok sh)
    (hstate : sh.lifecycle.state = .stopped) : sh.SettledIn .stopped :=
  (h.settled (by simp [hstate])).of_state hstate

/-- A stopped scheduler stays stopped. -/
theorem ControllerStepSpec.stopped_stays {pc : ControllerPc P}
    {out : SchedulerStep W C P (ControllerPc P)} (h : ControllerStepSpec cfg choice sh pc out)
    (hphase : (pc.phase W).Ok sh) (hstopped : sh.lifecycle.state = .stopped) :
    out.1.lifecycle.state = .stopped := by
  cases h with
  | start hfree hstate => rw [hstopped] at hstate; cases hstate
  | allocationFailed sh' hsh => rw [hsh]; exact hstopped
  | allocated sh' hsh => rw [hsh]; exact hstopped
  | run hfree =>
    rw [show sh.lifecycle.state = .starting from hphase.1] at hstopped
    cases hstopped
  | abortQueue hq => rw [hq.frame]; exact hstopped
  | setState state call r hfree =>
    -- the phases in which the state is assigned are those of another state
    have hother : ∀ caller : ReleaseCaller, sh.ReleasedBy caller → False := by
      intro caller hr
      cases caller with
      | abort => cases hstopped.symm.trans hr
      | join => rcases hr with hs | hs <;> cases hstopped.symm.trans hs
    cases state with
    | stopped => rfl
    | initialized =>
      cases call with
      | start => cases hstopped.symm.trans hphase.1
      | _ => exact hphase.elim
    | failed =>
      cases call with
      | start => exact (hother .abort hphase.1).elim
      | join => exact (hother .join hphase.1).elim
      | _ => exact hphase.elim
    | _ => exact hphase.elim
  | shutdownRunning hfree hstate => rw [hstopped] at hstate; cases hstate
  | shutdownQueue hq => rw [hq.frame]; exact hstopped
  | _ => exact hstopped

end Steps

/-! ## Reachable states -/

section Reachable

variable [DecidableEq C] [Fintype C] {cfg : SchedulerConfig W} {t : Thread W C}
  {choice : SchedulerChoice W C P} {s s' : SchedulerPool W C P}

/-- When nobody is past the gate. -/
structure GateInv (s : SchedulerPool W C P) : Prop where
  unopened : s.shared.worker.createdWorkerCount < W →
    (∀ u, (s.pc u).admitted = false) ∧ s.shared.history.accepted = []
  stopped : s.shared.lifecycle.state = .stopped → ∀ u, (s.pc u).admitted = false

/-- With nobody registered and `lifecycle_mutex` free, nobody is admitted. -/
theorem nobody_admitted (hinv : ThreadInv cfg s) (haccounts : Accounts s)
    (hquiet : s.shared.Quiet) (hfree : s.shared.lifecycle.mutex = none) (u : Thread W C) :
    (s.pc u).admitted = false := by
  cases hadmitted : (s.pc u).admitted with
  | false => rfl
  | true =>
    rcases CallPc.admitted_cases hadmitted with hregistered | hholds
    · have hle := haccounts.registered_le u
      rw [show s.shared.lifecycle.activeSubmitterCount = 0 from hquiet, SchedulerPc.registered,
        hregistered] at hle
      cases hle
    · have howner := (hinv.lifecycle u).mpr (SchedulerPc.holdsLifecycle_toCall hholds)
      cases hfree.symm.trans howner

/-- Once nobody is inside and the gate is closed, nobody comes in. -/
theorem admitted_stays_false {pc : SchedulerPc W P} {fx : List (SchedulerEffect W C)}
    (hfx : (schedulerProgram cfg).applyEffects (Function.update s.pc t pc) fx = some s'.pc)
    (hspec : SchedulerStepSpec cfg choice s.shared t (s.pc t) (s'.shared, pc, fx))
    (hrunning : s.shared.lifecycle.state ≠ .running) (h : ∀ u, (s.pc u).admitted = false) :
    ∀ u, (s'.pc u).admitted = false := by
  refine Program.forall_step (fun _ _ (pc : SchedulerPc W P) => pc.admitted = false) ?_ hfx ?_
    (fun _ _ hu => hu) h
  · intro u sh
    refine schedulerProgram_blind (fun pc => ?_) fun _ => rfl
    rw [SchedulerPc.admitted_wake]
  · cases hadmitted : pc.admitted with
    | false => rfl
    | true =>
      rcases hspec.admits hadmitted with hbefore | hstate
      · rw [h t] at hbefore
        cases hbefore
      · exact absurd hstate hrunning

omit [DecidableEq C] [Fintype C] in
/-- At first nobody is inside. -/
theorem gateInv_initial (queue : TaskQueue P) :
    GateInv (schedulerInitial queue : SchedulerPool W C P) := by
  refine ⟨fun _ => ⟨?_, rfl⟩, nofun⟩
  rintro (_ | i | c) <;> rfl

/-- **One step keeps the gate's invariant.** -/
theorem gateInv_step (hreach : SchedulerReachable cfg s) (h : GateInv s)
    (hstep : (schedulerProgram cfg).step t choice s = some s') : GateInv s' := by
  obtain ⟨pc, fx, hspec, hfx⟩ := hreach.threads.step_spec hstep
  obtain ⟨cpc, hcpc⟩ := hreach.threads.controllerPc
  have hphase := hreach.lifecycle.phase hcpc
  have hcases := hreach.step_cases hstep
  refine ⟨?_, ?_⟩
  · intro hcreated'
    have hcreated : s.shared.worker.createdWorkerCount < W := by
      rcases hcases with ⟨-, hframe⟩ | ⟨-, cpc, cpc', fx', -, hcontroller, -⟩
      · exact Nat.lt_of_le_of_lt
          (Nat.le_of_eq (congrArg Crew.createdWorkerCount hframe.crew).symm) hcreated'
      · exact Nat.lt_of_le_of_lt hcontroller.created_le hcreated'
    obtain ⟨hadmitted, haccepted⟩ := h.unopened hcreated
    refine ⟨admitted_stays_false hfx hspec ?_ hadmitted, ?_⟩
    · intro hrunning
      have hall : s.shared.worker.createdWorkerCount = W := (hphase.running hrunning).created
      omega
    · exact (hspec.accepts (hadmitted t)).trans haccepted
  · intro hstopped'
    have hbefore : s.shared.lifecycle.state = .stopped ∨
        s.shared.lifecycle.state ≠ .running ∧ ∀ u, (s.pc u).admitted = false := by
      rcases hcases with ⟨-, hframe⟩ | ⟨-, cpc', _, _, hcpc', hcontroller, -⟩
      · exact .inl (hframe.state.symm.trans hstopped')
      · rcases hcontroller.stops hstopped' with hstopped | ⟨⟨call, r, rfl⟩, hfree⟩
        · exact .inl hstopped
        · -- the controller has drained the submitters and takes the free mutex
          have hok := hreach.lifecycle.phase hcpc'
          cases call with
          | join =>
            obtain ⟨hrelease, -, -, -, hquiet⟩ := hok
            refine .inr ⟨?_, nobody_admitted hreach.threads hreach.accounts hquiet hfree⟩
            rcases hrelease with hstate | hstate <;> simp [hstate]
          | _ => exact hok.elim
    rcases hbefore with hstopped | ⟨hrunning, hadmitted⟩
    · exact admitted_stays_false hfx hspec (by simp [hstopped]) (h.stopped hstopped)
    · exact admitted_stays_false hfx hspec hrunning hadmitted

/-- It holds in every reachable state. -/
theorem SchedulerReachable.gate (h : SchedulerReachable cfg s) : GateInv s :=
  h.invariant (fun queue _ => gateInv_initial queue) gateInv_step

end Reachable

end SchedulingEngine
