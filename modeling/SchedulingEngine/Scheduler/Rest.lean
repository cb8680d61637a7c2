import SchedulingEngine.Scheduler.Monotone

/-!
# A scheduler at rest

Once the workers are joined and their arrays freed, in `STOPPED` or in `FAILED` after a
start that gave up, nothing but rejected submissions and further lifecycle calls can
happen: the totals stand, the queue is empty, and what was accepted was executed
(`AtRest`). A snapshot captured from then on is exact (`Scheduler.Rests`,
`CallPc.Rests`), and both validators pass it, also while submissions are being rejected.
-/

namespace SchedulingEngine

open Concurrency

variable {W : ℕ} {C P : Type}

/-! ## The workers are gone -/

section Steps

variable [DecidableEq C] {cfg : SchedulerConfig W} {t : Thread W C}
  {choice : SchedulerChoice W C P} {sh : Scheduler W C P}

/-- A lifecycle call after the workers are gone does not bring them back. -/
theorem ControllerStepSpec.released {pc : ControllerPc P}
    {out : SchedulerStep W C P (ControllerPc P)} (h : ControllerStepSpec cfg choice sh pc out)
    (hphase : (pc.phase W).Ok sh)
    (hstate : sh.lifecycle.state = .stopped ∨ sh.lifecycle.state = .failed)
    (hreleased : sh.crew.Released) :
    out.1.crew.Released ∧ out.1.worker.createdWorkerCount = sh.worker.createdWorkerCount ∧
      ∀ k : WorkerCount, k.folded out.1.worker = k.folded sh.worker := by
  have hstarting : sh.lifecycle.state ≠ .starting := by
    rcases hstate with hstate | hstate <;> rw [hstate] <;> nofun
  have hnone : sh.worker.threads = none := hreleased.threads
  have hcontexts : sh.worker.workerContexts = none :=
    Option.isNone_iff_eq_none.mp (Option.isSome_eq_false_iff.mp hreleased.contexts)
  cases h with
  | allocationFailed sh' hsh hfail => exact absurd hphase.1 hstarting
  | allocated sh' hsh hthreads hcontexts hsize => exact absurd hphase.1 hstarting
  | syncInitFailed mutexInitialized hmutex hfail => exact absurd hphase.1 hstarting
  | createFailed i faultPlan hfree hinit hfail hplan => exact absurd hphase.1 hstarting
  | created i faultPlan hfree hinit hplan => exact absurd hphase.1 hstarting
  | releaseFailedWorker caller i result allJoined faultPlan workerResult hresult
    hindex hhandle hplan =>
    obtain ⟨threads, hthreads, -⟩ := hhandle
    rw [hnone] at hthreads
    cases hthreads
  | releaseLock caller index event result allJoined hfree hinit =>
    cases event <;> exact ⟨hreleased, rfl, fun k => by cases k <;> rfl⟩
  | releaseUnlock caller i event result allJoined hevent hheld =>
    refine ⟨⟨?_, hreleased.contexts, hreleased.started⟩, rfl, fun k => by cases k <;> rfl⟩
    show sh.worker.threads.map _ = none
    rw [hnone]
    rfl
  | fold caller result worker hfree hinit hfold =>
    have hstarted : sh.worker.startedWorkerCount = 0 := hreleased.started
    have hlocked : (sh.lockWorker .controller).worker.workerContexts = none := hcontexts
    unfold foldWorkers at hfold
    simp only [hlocked, Option.ite_none_right_eq_some, Option.some.injEq] at hfold
    obtain ⟨-, rfl⟩ := hfold
    exact ⟨⟨rfl, rfl, rfl⟩, rfl, fun k => by cases k <;> rfl⟩
  | abortQueue hq => rw [hq.frame]; exact ⟨hreleased, rfl, fun _ => rfl⟩
  | shutdownQueue hq => rw [hq.frame]; exact ⟨hreleased, rfl, fun _ => rfl⟩
  | _ => exact ⟨hreleased, rfl, fun k => by cases k <;> rfl⟩

end Steps

section Rest

variable [DecidableEq C] [Fintype C] {cfg : SchedulerConfig W} {t : Thread W C}
  {choice : SchedulerChoice W C P} {s s' : SchedulerPool W C P}

/-- The workers are joined and gone, none of them failed, and nobody is past the gate. -/
structure AtRest (s : SchedulerPool W C P) : Prop where
  state : s.shared.lifecycle.state = .stopped ∨ s.shared.lifecycle.state = .failed
  released : s.shared.crew.Released
  admitted : ∀ u, (s.pc u).admitted = false
  clear : s.shared.worker.infrastructureFailure = false
  joined : s.shared.worker.joinedWorkerCount = s.shared.worker.createdWorkerCount

/-- **A scheduler at rest stays at rest**, and its totals stand. -/
theorem AtRest.step (h : AtRest s) (hreach : SchedulerReachable cfg s)
    (hstep : (schedulerProgram cfg).step t choice s = some s') :
    AtRest s' ∧ s'.shared.worker.createdWorkerCount = s.shared.worker.createdWorkerCount ∧
      ∀ k : WorkerCount, k.folded s'.shared.worker = k.folded s.shared.worker := by
  obtain ⟨cpc, hcpc⟩ := hreach.threads.controllerPc
  obtain ⟨pc, fx, hspec, hfx⟩ := hreach.threads.step_spec hstep
  have hdead : AllDead s := fun i wpc hwpc => hreach.released h.released hwpc
  have hrunning : s.shared.lifecycle.state ≠ .running := by
    rcases h.state with hstate | hstate <;> rw [hstate] <;> nofun
  -- the workers are gone, so `FAILED` and `STOPPED` are the only states left
  have hstate : s'.shared.lifecycle.state = .stopped ∨ s'.shared.lifecycle.state = .failed := by
    cases hreach.assigns hstep with
    | keep hkeep hstates => rw [hkeep]; exact h.state
    | move hmove hstates =>
      have hbefore := h.state
      generalize s.shared.lifecycle.state = before, s'.shared.lifecycle.state =
        after at hmove hbefore ⊢
      rcases hbefore with rfl | rfl
      · cases hmove
      · cases hmove
        · exact .inr rfl
        · exact .inl rfl
  -- and the arrays are freed, so no total can move any more
  have hgone : s'.shared.crew.Released ∧
      s'.shared.worker.createdWorkerCount = s.shared.worker.createdWorkerCount ∧
      ∀ k : WorkerCount, k.folded s'.shared.worker = k.folded s.shared.worker := by
    rcases hreach.step_cases hstep with ⟨ht, hframe⟩ | ⟨rfl, pc, pc', fx, hpc, hcontroller, -⟩
    · have hfrees : (s.pc t).freesSlots = false := by
        have hrun := hreach.threads.runs t
        generalize s.pc t = tpc at hrun
        cases tpc with
        | controller pc => cases t <;> first | exact absurd rfl ht | exact hrun.elim
        | _ => rfl
      refine ⟨hframe.crew ▸ h.released, congrArg Crew.createdWorkerCount hframe.crew, ?_⟩
      exact (hspec.steady (hreach.lifecycle.threads t) hfrees).folded
    · exact hcontroller.released (hreach.lifecycle.phase hpc) h.state h.released
  refine ⟨⟨hstate, hgone.1, ?_, ?_, ?_⟩, hgone.2⟩
  · exact admitted_stays_false hfx hspec hrunning h.admitted
  · exact (hdead.step hreach.threads hstep).1.trans h.clear
  · -- the joined workers are at most the created ones, and none is taken back
    have hreach' := hreach.tail (.single ⟨t, choice, hstep⟩)
    obtain ⟨cpc', hcpc'⟩ := hreach'.threads.controllerPc
    have hle := (hreach'.headcount.joined cpc' hcpc').gone hgone.1.threads
    have hgrows : s.shared.worker.joinedWorkerCount ≤ s'.shared.worker.joinedWorkerCount :=
      (hreach.grows hstep).staff.2.1
    have hcreated := hgone.2.1
    have hjoined := h.joined
    have hcrew : s'.shared.crew.createdWorkerCount = s'.shared.worker.createdWorkerCount := rfl
    omega

omit [DecidableEq C] [Fintype C] in
/-- A stopped or failed scheduler had its `worker_mutex` initialised. -/
theorem Phase.Ok.synchronized {sh : Scheduler W C P} {phase : Phase} (h : phase.Ok sh)
    (hstate : sh.lifecycle.state = .stopped ∨ sh.lifecycle.state = .failed) :
    sh.Synchronized true := by
  have hstarting : sh.lifecycle.state ≠ .starting := by
    rcases hstate with hstate | hstate <;> rw [hstate] <;> nofun
  cases phase with
  | settled =>
    rcases hstate with hstate | hstate
    · exact (Scheduler.Settled.of_state h hstate).2.1
    · exact (Scheduler.Settled.of_state h hstate).2.1
  | closing => exact h.2.2
  | draining caller => exact h.2.1
  | drained caller => exact h.2.1
  | releasing caller => exact h.2.2.1
  | released caller => exact h.2.2.1
  | impossible => exact h.elim
  | _ => exact absurd h.1 hstarting

/-- What the domains of a scheduler at rest say: its state is one of `A`, the workers it
created have counted `total`. -/
structure Scheduler.Rests (sh : Scheduler W C P) (A : SchedulerState → Prop)
    (total : WorkerCount → ℕ) (created : ℕ) : Prop where
  state : A sh.lifecycle.state
  synced : sh.lifecycle.workerSyncInitialized = true
  exact : sh.Exact
  submitted : sh.lifecycle.submittedCount = sh.lifecycle.acceptedCount + sh.lifecycle.rejectedCount
  fits : sh.lifecycle.submittedCount ≤ uint64Max
  accepted : sh.lifecycle.acceptedCount = total .dequeued
  totals : ∀ k : WorkerCount, k.folded sh.worker = total k
  started : sh.worker.startedWorkerCount = 0
  joined : sh.worker.joinedWorkerCount = created
  created : sh.worker.createdWorkerCount = created
  active : sh.worker.activeWorkerCount = 0
  size : taskQueueSize sh.queue.queue = 0

omit [DecidableEq C] [Fintype C] in
/-- A registration counts one submission more, unless the counter is full. -/
theorem registerSubmitter_submitted {T : Type} (l : LifecycleDomain T) :
    (registerSubmitter l).1.submittedCount
      = (incrementSaturating l.submittedCount l.accountingOverflow).1 := by
  unfold registerSubmitter
  dsimp only
  split <;> rfl

omit [DecidableEq C] [Fintype C] in
/-- A deregistration counts none. -/
theorem deregisterSubmitter_submitted {T : Type} (l : LifecycleDomain T) (r : SchedulerResult) :
    (deregisterSubmitter l r).1.submittedCount = l.submittedCount := by
  unfold deregisterSubmitter
  by_cases hr : r = .ok
  · simp only [hr, if_true]
    split <;> rfl
  · simp only [hr, if_false]
    split <;> rfl

omit [DecidableEq C] [Fintype C] in
/-- A saturated counter fits its 64 bits. -/
theorem incrementSaturating_le {counter : ℕ} {overflow : Bool} (h : counter ≤ uint64Max) :
    (incrementSaturating counter overflow).1 ≤ uint64Max := by
  unfold incrementSaturating
  split
  · exact h
  · dsimp only
    omega

omit [Fintype C] in
/-- So does `submitted_count` after every step. -/
theorem SchedulerStepSpec.submitted_fits {sh : Scheduler W C P} {pc : SchedulerPc W P}
    {out : SchedulerStep W C P (SchedulerPc W P)} (h : SchedulerStepSpec cfg choice sh t pc out)
    (hfits : sh.lifecycle.submittedCount ≤ uint64Max) :
    out.1.lifecycle.submittedCount ≤ uint64Max := by
  have hcall : ∀ {pc : CallPc P} {out : SchedulerStep W C P (CallPc P)},
      CallStepSpec cfg t choice sh pc out → out.1.lifecycle.submittedCount ≤ uint64Max := by
    intro pc out hcall
    cases hcall with
    | register kind task hfree =>
      show (registerSubmitter (sh.lockLifecycle t).lifecycle).1.submittedCount ≤ uint64Max
      rw [registerSubmitter_submitted]
      exact incrementSaturating_le hfits
    | enqueue kind task hq => rw [hq.frame]; exact hfits
    | deregister task r hfree =>
      exact (deregisterSubmitter_submitted (sh.lockLifecycle t).lifecycle r).trans_le hfits
    | captureQueue temporary hq => rw [hq.frame]; exact hfits
    | _ => exact hfits
  cases h with
  | call c h => exact hcall h
  | worker i h =>
    cases h with
    | dequeue hq => rw [hq.frame]; exact hfits
    | call task runningAccounted h => exact hcall h
    | queueShutdown r hq => rw [hq.frame]; exact hfits
    | _ => exact hfits
  | controller h =>
    cases h with
    | allocationFailed sh' hsh hfail => subst hsh; exact hfits
    | allocated sh' hsh hthreads hcontexts hsize => subst hsh; exact hfits
    | abortQueue hq => rw [hq.frame]; exact hfits
    | shutdownQueue hq => rw [hq.frame]; exact hfits
    | _ => exact hfits

/-- And in every reachable state. -/
theorem SchedulerReachable.submitted_fits (h : SchedulerReachable cfg s) :
    s.shared.lifecycle.submittedCount ≤ uint64Max := by
  refine h.invariant (I := fun s => s.shared.lifecycle.submittedCount ≤ uint64Max) ?_ ?_
  · exact fun queue _ => Nat.zero_le _
  · intro u u' t choice hreach hfits hstep
    obtain ⟨pc, fx, hspec, hfx⟩ := hreach.threads.step_spec hstep
    exact hspec.submitted_fits hfits

omit [DecidableEq C] [Fintype C] in
/-- Who was not let in is neither active nor about to be accepted. -/
theorem CallPc.counts_of_not_admitted {pc : CallPc P} (h : pc.admitted = false) :
    pc.registered = 0 ∧ pc.reported = 0 := by
  cases pc with
  | registerUnlock kind task r => cases r <;> first | exact ⟨rfl, rfl⟩ | cases h
  | enqueue kind task q => cases h
  | deregisterLock task r => cases h
  | deregisterUnlock task r => cases r <;> first | exact ⟨rfl, rfl⟩ | cases h
  | _ => exact ⟨rfl, rfl⟩

/-- **What was accepted was executed, and everything is counted**, as long as no counter
has overflowed. -/
theorem AtRest.rests (h : AtRest s) (hreach : SchedulerReachable cfg s) (hexact : s.shared.Exact)
    {A : SchedulerState → Prop} (hA : A s.shared.lifecycle.state) :
    s.shared.Rests A (fun k => k.folded s.shared.worker) s.shared.worker.createdWorkerCount := by
  obtain ⟨cpc, hcpc⟩ := hreach.threads.controllerPc
  obtain ⟨hdead, hinvoked, -⟩ :=
    hreach.executed_of_released h.released h.clear h.admitted
  have hcontexts : s.shared.worker.workerContexts = none :=
    Option.isNone_iff_eq_none.mp (Option.isSome_eq_false_iff.mp h.released.contexts)
  -- nobody is registered, nobody reports a Task, no worker has one in its hands
  have hquiet : s.shared.lifecycle.activeSubmitterCount = 0 := by
    rw [hreach.accounts.registered]
    exact Finset.sum_eq_zero fun u _ => (CallPc.counts_of_not_admitted (h.admitted u)).1
  have hreported : Program.total SchedulerPc.reported s.pc = 0 :=
    Finset.sum_eq_zero fun u _ => (CallPc.counts_of_not_admitted (h.admitted u)).2
  have hpending : Program.total SchedulerPc.pending s.pc = 0 := by
    refine hdead.total_eq_zero hreach.threads _ (fun _ => rfl) (fun _ => rfl) fun i wpc hwpc => ?_
    cases wpc <;> first | rfl | cases hwpc
  have hactive : Program.total SchedulerPc.active s.pc = 0 := by
    refine hdead.total_eq_zero hreach.threads _ (fun _ => rfl) (fun _ => rfl) fun i wpc hwpc => ?_
    cases wpc <;> first | rfl | cases hwpc
  have hlength : s.shared.history.invoked.length = s.shared.history.accepted.length := by
    have hcard := congrArg Multiset.card hinvoked
    rwa [Multiset.coe_card, Multiset.coe_card] at hcard
  exact
    { state := hA
      synced := ((hreach.lifecycle.phase hcpc).synchronized h.state).1
      exact := hexact
      submitted := by
        have hbalanced := hreach.counters.balanced hexact.1
        unfold LifecycleDomain.Balanced at hbalanced
        omega
      fits := hreach.submitted_fits
      accepted := by
        have haccepted := hreach.counters.accepted hexact.1
        have hdequeued := hreach.counters.dequeued hexact.2
        rw [WorkerDomain.counted_none hcontexts] at hdequeued
        omega
      totals := fun _ => rfl
      started := h.released.started
      joined := h.joined
      created := rfl
      active := hreach.lifecycle.active.trans hactive
      size := (hreach.drained_of_released h.released h.clear).2 }

end Rest

/-! ## Captures at rest -/

/-- What a capture has copied of the lifecycle domain. -/
structure SchedulerSnapshot.Settles (A : SchedulerState → Prop) (total : WorkerCount → ℕ)
    (a : SchedulerSnapshot) : Prop where
  version : a.version = snapshotVersion
  consistency : a.consistency = consistencyDomainExact
  state : ∃ state, A state ∧ a.state = snapshotStateFromInternal state
  exact : a.overflowDetected = false
  submitted : a.submittedCount = a.acceptedCount + a.rejectedCount
  fits : a.submittedCount ≤ uint64Max
  accepted : a.acceptedCount = total .dequeued
  running : a.currentlyRunningCount = 0

/-- And of the worker domain. -/
structure SchedulerSnapshot.Rests (A : SchedulerState → Prop) (total : WorkerCount → ℕ)
    (created : ℕ) (a : SchedulerSnapshot) : Prop extends a.Settles A total where
  totals : ∀ k : WorkerCount, k.captured a = total k
  joined : a.joinedWorkerCount = created
  created : a.createdWorkerCount = created
  active : a.activeWorkerCount = 0

/-- A capture that began with the scheduler at rest. -/
def CallPc.Rests (A : SchedulerState → Prop) (total : WorkerCount → ℕ) (created : ℕ) :
    CallPc P → Prop
  | .captureLifecycleUnlock temporary workerSyncAvailable =>
    temporary.Settles A total ∧ workerSyncAvailable = true
  | .captureWorkerLock temporary => temporary.Settles A total
  | .captureLoad _ _ _ => False
  | .captureWorkerUnlock temporary => temporary.Rests A total created
  | .captureQueue temporary q => temporary.Rests A total created ∧
      q.Reads fun value => value.currentSize = 0
  | .captured (some snapshot) => snapshot.Rests A total created ∧ snapshot.queueCurrentSize = 0
  | _ => True

section Captures

variable {A : SchedulerState → Prop} {total : WorkerCount → ℕ} {created : ℕ}

theorem CallPc.rests_wake (pc : CallPc P) :
    pc.wake.Rests A total created ↔ pc.Rests A total created := by
  cases pc with
  | captureQueue temporary q =>
    show (_ ∧ q.wake.Reads _) ↔ (_ ∧ q.Reads _)
    rw [q.reads_wake]
  | _ => rfl

/-- Outside a capture there is nothing to be said. -/
theorem CallPc.rests_of_not_capturing {pc : CallPc P} (h : pc.capturing = false) :
    pc.Rests A total created := by
  cases pc with
  | captureLifecycleUnlock temporary workerSyncAvailable => cases h
  | captureWorkerLock temporary => cases h
  | captureLoad temporary index field => cases h
  | captureWorkerUnlock temporary => cases h
  | captureQueue temporary q => cases h
  | captured snapshot => cases h
  | _ => trivial

/-- **A capture of a scheduler at rest copies what rests.** -/
theorem CallStepSpec.rests [DecidableEq C] {cfg : SchedulerConfig W} {t : Thread W C}
    {choice : SchedulerChoice W C P} {sh : Scheduler W C P} {f : ClosableFifo P} {pc : CallPc P}
    {out : SchedulerStep W C P (CallPc P)} (h : CallStepSpec cfg t choice sh pc out)
    (habs : Abstracts sh.queue f) (hrests : sh.Rests A total created)
    (hpc : pc.Rests A total created) : out.2.1.Rests A total created := by
  -- the copy of the worker domain reads the folded totals
  have hcopy : ∀ temporary : SchedulerSnapshot, temporary.Settles A total →
      (SchedulingEngine.captureWorker sh.worker temporary).Rests A total created := by
    intro temporary htemporary
    refine ⟨⟨htemporary.version, htemporary.consistency, htemporary.state, ?_, htemporary.submitted,
      htemporary.fits, htemporary.accepted, htemporary.running⟩, fun k => ?_, hrests.joined,
      hrests.created, hrests.active⟩
    · exact Bool.or_eq_false_iff.mpr ⟨htemporary.exact, hrests.exact.2.totals⟩
    · rw [← hrests.totals k]
      cases k <;> rfl
  cases h with
  | captureLifecycle hfree =>
    exact ⟨⟨rfl, rfl, ⟨_, hrests.state, rfl⟩, hrests.exact.1, hrests.submitted, hrests.fits,
      hrests.accepted, rfl⟩, hrests.synced⟩
  | captureNoWorkers temporary hheld => cases hpc.2
  | captureLifecycleDone temporary hheld => exact hpc.1
  -- no slots are loaded at rest
  | captureWorker temporary hfree hinit hstarted =>
    rw [hrests.started] at hstarted
    cases hstarted
  | captureNoSlots temporary hfree hinit hstarted => exact hcopy temporary hpc
  | captureLoad temporary index field next contexts hcontexts hnext => exact hpc.elim
  | captureNextSlot temporary index contexts hcontexts hindex => exact hpc.elim
  | captureLastSlot temporary index contexts hcontexts hindex => exact hpc.elim
  | captureWorkerDone temporary hheld => exact ⟨hpc, trivial⟩
  -- the queue is empty and closed
  | captureQueue temporary hq =>
    obtain ⟨htemporary, hreads⟩ := hpc
    cases hq with
    | run hact hleave =>
      refine ⟨htemporary, (queueAct_spec habs hact).reads ?_ hreads⟩
      exact habs.size_eq.symm.trans hrests.size
    | leave op r =>
      cases r with
      | snapshot value =>
        cases value with
        | none => trivial
        | some value =>
          refine ⟨⟨⟨htemporary.version, htemporary.consistency, htemporary.state, htemporary.exact,
            htemporary.submitted, htemporary.fits, htemporary.accepted, htemporary.running⟩,
            fun k => ?_, htemporary.joined, htemporary.created, htemporary.active⟩, hreads⟩
          exact (captured_copyQueue k temporary value).trans (htemporary.totals k)
      | _ => trivial
  | enqueue kind task hq => cases hq <;> trivial
  | _ => trivial

end Captures

/-! ## What the validators say of them -/

section Verdicts

variable [DecidableEq C] [Fintype C] {cfg : SchedulerConfig W} {s : SchedulerPool W C P}
  {A : SchedulerState → Prop} {total : WorkerCount → ℕ} {created : ℕ} {snapshot : SchedulerSnapshot}

/-- What the totals of workers that are gone say about each other. -/
structure Balances (total : WorkerCount → ℕ) : Prop where
  started : total .dequeued = total .started
  finished : total .started = total .succeeded + total .failed
  fits : total .started ≤ uint64Max

/-- **A snapshot at rest is exact**, and both validators pass it. -/
theorem SchedulerSnapshot.Rests.validates (h : snapshot.Rests A total created)
    (hsize : snapshot.queueCurrentSize = 0) (hbalances : Balances total)
    (hA : ∀ state, A state → state = .stopped ∨ state = .failed)
    (hstructural : snapshot.Structural) (hcreated : snapshot.createdWorkerCount ≤ sizeMax) :
    (schedulerSnapshotValidate snapshot .quiescent).issues = [] ∧
      schedulerSnapshotValidateQuiescent snapshot = true ∧
      snapshot.FitsUint64 ∧ snapshot.QuiescentSound := by
  have hdequeued : snapshot.dequeuedCount = total .dequeued := h.totals .dequeued
  have hstarted : snapshot.callbackStartedCount = total .started := h.totals .started
  have hsucceeded : snapshot.callbackSucceededCount = total .succeeded := h.totals .succeeded
  have hfailed : snapshot.callbackFailedCount = total .failed := h.totals .failed
  have hsubmitted := h.submitted
  have haccepted := h.accepted
  have hfit := h.fits
  have htotal := hbalances.fits
  have hbalanced := hbalances.started
  have hfinished := hbalances.finished
  have hmax : uint64Max < 2 ^ 64 := by decide
  have hsizeMax : sizeMax < 2 ^ 64 := by decide
  -- all fields are numbers that the books bound
  have hfits : snapshot.FitsUint64 := by constructor <;> omega
  have hsound : snapshot.QuiescentSound :=
    { live :=
        { version := h.version
          consistency := h.consistency
          exact := h.exact
          structural := hstructural
          accepted_le := by omega
          rejected_le := by omega
          outcomes_le := by omega
          started_le := by omega
          dequeued_le := by omega }
      state := by
        obtain ⟨state, hstate, heq⟩ := h.state
        rw [heq]
        rcases hA state hstate with rfl | rfl
        · exact .inr (.inl rfl)
        · exact .inr (.inr rfl)
      submitted := hsubmitted
      dequeued := by omega
      started := by omega
      outcomes := by omega
      size := hsize
      running := h.running
      active := h.active
      joined := fun _ => h.joined.trans h.created.symm }
  refine ⟨(noIssue_verdict.quiescent_iff hfits).mpr hsound, ?_, hfits, hsound⟩
  exact (validateQuiescent_iff hfits).mpr ⟨hsound.live.basic, hsound.submitted, hsound.dequeued,
    hsound.started, hsound.outcomes, hsound.running, hsound.size, hsound.active, hsound.joined⟩

/-- The totals of the workers that are gone balance. -/
theorem SchedulerReachable.balances (h : SchedulerReachable cfg s) (hexact : s.shared.Exact) :
    Balances fun k => k.folded s.shared.worker :=
  have hfolded := h.slots.folded hexact.2
  ⟨hfolded.started, hfolded.finished, hfolded.bounded⟩

/-- Captures that begin at rest end at rest. -/
theorem AtRest.captures {s' : SchedulerPool W C P} {u : Thread W C} (h : AtRest s)
    (hreach : SchedulerReachable cfg s) (hsteps : (schedulerProgram cfg).Steps s s')
    (hA : A s.shared.lifecycle.state)
    (hmoves : ∀ state state', A state → StateMove state state' → A state')
    (hbegins : (s.pc u).toCall.capturing = false) :
    AtRest s' ∧ (∀ k : WorkerCount, k.folded s'.shared.worker = k.folded s.shared.worker) ∧
      s'.shared.worker.createdWorkerCount = s.shared.worker.createdWorkerCount ∧
      A s'.shared.lifecycle.state ∧ (s'.shared.Exact → (s'.pc u).toCall.Rests A
        (fun k => k.folded s.shared.worker) s.shared.worker.createdWorkerCount) := by
  refine hsteps.invariant (I := fun w => AtRest w ∧
    (∀ k : WorkerCount, k.folded w.shared.worker = k.folded s.shared.worker) ∧
    w.shared.worker.createdWorkerCount = s.shared.worker.createdWorkerCount ∧
    A w.shared.lifecycle.state ∧ (w.shared.Exact → (w.pc u).toCall.Rests A
      (fun k => k.folded s.shared.worker) s.shared.worker.createdWorkerCount))
    ⟨h, fun _ => rfl, rfl, hA, fun _ => CallPc.rests_of_not_capturing hbegins⟩ ?_
  rintro w w' hrun ⟨hrest, hfolded, hcreated, hstate, hrests⟩ ⟨t, choice, hstep⟩
  have hw := hreach.tail hrun
  obtain ⟨hrest', hcreated', hfolded'⟩ := hrest.step hw hstep
  obtain ⟨f, habs, -⟩ := hw.threads.abstracts
  refine ⟨hrest', fun k => (hfolded' k).trans (hfolded k), hcreated'.trans hcreated, ?_, ?_⟩
  · cases hw.assigns hstep with
    | keep hkeep hstates => rw [hkeep]; exact hstate
    | move hmove hstates => exact hmoves _ _ hstate hmove
  · intro hexact'
    have hexact := hw.exact_before hstep hexact'
    have hshared : w.shared.Rests A (fun k => k.folded s.shared.worker)
        s.shared.worker.createdWorkerCount := by
      have hhere := hrest.rests hw hexact hstate
      rw [hcreated, funext hfolded] at hhere
      exact hhere
    exact hw.call_step u (fun pc => pc.rests_wake) hstep id (fun _ _ hpc => hpc)
      (fun out _ hspec _ => hspec.rests habs hshared (hrests hexact)) (hrests hexact)

end Verdicts

end SchedulingEngine
