import SchedulingEngine.Scheduler.Monotone

/-!
# Snapshots are fresh

A capture copies the fields of its snapshot at different instants, while submitters, workers and
lifecycle calls go on. `Scheduler.stock` is what could be copied at a single instant. Every
cumulative field of a snapshot lies between its value in the stock when the capture began and its
value in the stock when the capture returned (`captures_fresh`): a snapshot is neither stale nor
ahead of the scheduler, and where nothing happens meanwhile it is exact.
-/

namespace SchedulingEngine

open Concurrency

variable {W : ℕ} {C P : Type}

/-! ## What could be copied at one instant -/

/-- What a capture finds out about overflows in the worker domain. -/
def WorkerDomain.overflowing {T : Type} (w : WorkerDomain W T) : Bool :=
  w.accountingOverflow ||
    (w.workerContexts.elim false fun contexts =>
      decide (∃ i, (contexts i).accountingOverflow = true)) ||
    decide (∃ k, uint64Max < w.counted k)

theorem WorkerDomain.overflowing_iff {T : Type} {w : WorkerDomain W T} :
    w.overflowing = true ↔ w.Overflowing := by
  unfold overflowing Overflowing
  rw [Bool.or_eq_true, Bool.or_eq_true, decide_eq_true_iff, or_assoc]
  cases hcontexts : w.workerContexts with
  | none => simp
  | some contexts => simp

/-- The counts of submissions and, once there are workers, those of workers and Tasks. -/
def Scheduler.stockCounts (sh : Scheduler W C P) : SchedulerSnapshot :=
  if sh.lifecycle.workerSyncInitialized then
    { captureWorker sh.worker (captureLifecycle W sh.lifecycle).1 with
      dequeuedCount := min uint64Max (sh.worker.counted .dequeued)
      callbackStartedCount := min uint64Max (sh.worker.counted .started)
      callbackSucceededCount := min uint64Max (sh.worker.counted .succeeded)
      callbackFailedCount := min uint64Max (sh.worker.counted .failed)
      overflowDetected := sh.lifecycle.accountingOverflow || sh.worker.overflowing }
  else (captureLifecycle W sh.lifecycle).1

/-- The cumulative fields as they stand. -/
def Scheduler.stock (sh : Scheduler W C P) : SchedulerSnapshot :=
  { sh.stockCounts with queueHighWaterMark := sh.queue.highWaterMark }

section Stock

variable {sh : Scheduler W C P} {b : SchedulerSnapshot}

theorem Scheduler.stock_synced (hsync : sh.lifecycle.workerSyncInitialized = true) :
    sh.stock.submissions = sh.lifecycle.submissions ∧ sh.stock.staff = sh.worker.staff ∧
      (∀ k : WorkerCount, k.captured sh.stock = min uint64Max (sh.worker.counted k)) ∧
      sh.stock.overflowDetected = (sh.lifecycle.accountingOverflow || sh.worker.overflowing) ∧
      sh.stock.queueHighWaterMark = sh.queue.highWaterMark := by
  unfold Scheduler.stock Scheduler.stockCounts
  rw [if_pos hsync]
  refine ⟨rfl, rfl, fun k => ?_, rfl, rfl⟩
  cases k <;> rfl

theorem Scheduler.stock_unsynced (hsync : sh.lifecycle.workerSyncInitialized = false) :
    sh.stock.submissions = sh.lifecycle.submissions ∧ sh.stock.Unmanned ∧
      sh.stock.overflowDetected = sh.lifecycle.accountingOverflow ∧
      sh.stock.queueHighWaterMark = sh.queue.highWaterMark := by
  unfold Scheduler.stock Scheduler.stockCounts
  rw [if_neg (by rw [hsync]; exact Bool.false_ne_true)]
  refine ⟨rfl, ⟨rfl, fun k => ?_⟩, rfl, rfl⟩
  cases k <;> rfl

theorem Scheduler.stock_within (sh : Scheduler W C P) : sh.stock.Within sh := by
  cases hsync : sh.lifecycle.workerSyncInitialized with
  | true =>
    obtain ⟨hsubmissions, hstaff, hcounts, hoverflow, hmark⟩ := Scheduler.stock_synced hsync
    refine ⟨hsubmissions.le, hstaff.le, fun k => ?_, fun k => ?_, fun hunsynced => ?_,
      fun hflag => ?_, hmark.le⟩
    · rw [hcounts k]
      exact Nat.min_le_left _ _
    · rw [hcounts k]
      exact Nat.min_le_right _ _
    · cases hsync.symm.trans hunsynced
    · rw [hoverflow, Bool.or_eq_true, WorkerDomain.overflowing_iff] at hflag
      exact hflag.imp_right fun hover => ⟨hsync, hover⟩
  | false =>
    obtain ⟨hsubmissions, hunmanned, hoverflow, hmark⟩ := Scheduler.stock_unsynced hsync
    obtain ⟨hstaff, hcounts⟩ := hunmanned
    refine ⟨hsubmissions.le, ?_, fun k => ?_, fun k => ?_,
      fun _ => ⟨hstaff, hcounts⟩, fun hflag => ?_, hmark.le⟩
    · rw [hstaff]
      exact ⟨Nat.zero_le _, Nat.zero_le _, Nat.zero_le _, Nat.zero_le _, Nat.zero_le _⟩
    · rw [hcounts k]
      exact Nat.zero_le _
    · rw [hcounts k]
      exact Nat.zero_le _
    · exact .inl (hoverflow ▸ hflag)

/-- What lies below the scheduler is nowhere ahead of the stock. -/
theorem SchedulerSnapshot.Within.precedes_stock (h : b.Within sh) : b.Precedes sh.stock := by
  cases hsync : sh.lifecycle.workerSyncInitialized with
  | true =>
    obtain ⟨hsubmissions, hstaff, hcounts, hoverflow, hmark⟩ := Scheduler.stock_synced hsync
    refine SchedulerSnapshot.Copied.precedes ⟨h.submissions.trans hsubmissions.ge,
      h.staff.trans hstaff.ge, fun k => ?_, fun hflag => ?_⟩ (h.mark.trans hmark.ge)
    · rw [hcounts k]
      exact Nat.le_min.mpr ⟨h.fits k, h.counts k⟩
    · rw [hoverflow, Bool.or_eq_true, WorkerDomain.overflowing_iff]
      exact (h.overflow hflag).imp_right And.right
  | false =>
    obtain ⟨hsubmissions, hunmanned, hoverflow, hmark⟩ := Scheduler.stock_unsynced hsync
    obtain ⟨hstaff, hcounts⟩ := h.unmanned hsync
    refine SchedulerSnapshot.Copied.precedes ⟨h.submissions.trans hsubmissions.ge, ?_, fun k => ?_,
      fun hflag => ?_⟩ (h.mark.trans hmark.ge)
    · rw [hstaff, hunmanned.1]
    · rw [hcounts k, hunmanned.2 k]
    · rw [hoverflow]
      rcases h.overflow hflag with hflag | ⟨hsynced, -⟩
      · exact hflag
      · cases hsync.symm.trans hsynced

end Stock

/-! ## Captures -/

section Reachable

variable [DecidableEq C] [Fintype C] {cfg : SchedulerConfig W} {v : Thread W C}
  {s s' : SchedulerPool W C P} {b : SchedulerSnapshot}

/-- **Snapshots are fresh**: whatever submitters, workers and lifecycle calls do while
`scheduler_capture_snapshot` runs, no cumulative field of the snapshot is behind its value when the
capture began or ahead of its value when the capture returned, and an overflow that had happened
before the capture is reported by it. -/
theorem captures_fresh (h : SchedulerReachable cfg s) (hsteps : (schedulerProgram cfg).Steps s s')
    (hbegins : (s.pc v).toCall.capturing = false)
    (hreturns : (s'.pc v).toCall = .captured (some b)) :
    s.shared.stock.Precedes b ∧ b.Precedes s'.shared.stock := by
  have hend := hsteps.invariant (I := fun s' => s.shared.stock.Within s'.shared ∧
      (s'.pc v).toCall.Above s.shared.stock s'.shared)
    ⟨s.shared.stock_within, CallPc.above_of_not_capturing hbegins⟩ <| by
    rintro u₁ u₂ hrun ⟨hwithin, habove⟩ ⟨t, choice, hstep⟩
    have hreach := h.tail hrun
    exact ⟨hwithin.grow (hreach.grows hstep), above_step hreach hstep hwithin habove⟩
  have hbelow := (h.tail hsteps).below v
  rw [hreturns] at hend hbelow
  exact ⟨hend.2, hbelow.precedes_stock⟩

end Reachable

/-- A Task waits in the queue when the capture of `tearSchedule` begins. -/
def queuedSchedule : SmallSchedule :=
  startSchedule ++ makes firstClient (.submit .submit (some 7)) 8

/-- The worker counts the Task as dequeued and as started between a capture's loads of the two
counters. -/
def tearSchedule : SmallSchedule :=
  makes secondClient .capture 4 ++ advance soleWorker 5 ++ advance secondClient 9

theorem captures_fresh_torn :
    ∃ (s s' : SchedulerPool 1 (Fin 2) ℕ) (b : SchedulerSnapshot),
      SchedulerReachable reliableConfig s ∧ (schedulerProgram reliableConfig).Steps s s' ∧
      s.shared.stock.dequeuedCount = 0 ∧ s'.shared.stock.dequeuedCount = 1 ∧
      (s'.pc (.client 1)).toCall = .captured (some b) ∧
      b.dequeuedCount = 0 ∧ b.callbackStartedCount = 1 ∧
      s.shared.stock.Precedes b ∧ b.Precedes s'.shared.stock := by
  obtain ⟨s, hs, hobs⟩ := reachable_of_run queuedSchedule
    (fun s => ((s.pc (.client 1)).toCall.capturing, s.shared.stock.dequeuedCount,
      ((schedulerProgram reliableConfig).run tearSchedule s).map fun s' =>
        (s'.shared.stock.dequeuedCount, (s'.pc (.client 1)).toCall)))
    (v := (false, 0, some (1, .captured (some
      { version := 1, consistency := 1, state := .running, submissionsOpen := true,
        configuredWorkerCount := 1, submittedCount := 1, acceptedCount := 1,
        createdWorkerCount := 1, readyWorkerCount := 1, activeWorkerCount := 1,
        callbackStartedCount := 1, queueCapacity := 1, queueHighWaterMark := 1 }))))
    (by decide +kernel)
  obtain ⟨hbegins, hobs⟩ := Prod.mk.inj hobs
  obtain ⟨hbefore, hobs⟩ := Prod.mk.inj hobs
  obtain ⟨s', hrun, hobs⟩ := Option.map_eq_some_iff.mp hobs
  obtain ⟨hafter, hreturns⟩ := Prod.mk.inj hobs
  have hsteps := Program.steps_of_run hrun
  exact ⟨s, s', _, hs, hsteps, hbefore, hafter, hreturns, rfl, rfl,
    captures_fresh hs hsteps hbegins hreturns⟩

end SchedulingEngine
