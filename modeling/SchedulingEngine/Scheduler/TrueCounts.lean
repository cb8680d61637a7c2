import SchedulingEngine.Scheduler.Gauges
import SchedulingEngine.Scheduler.Logbook

/-!
# The counters and the true counts (scheduler.c)

The logbook is true after every run (`logbookInv_of_run`), so the counters of the scheduler are
the numbers of their events cut off at `UINT64_MAX`, and a snapshot says these numbers at the
moments of its reads, with the callbacks that ran when it loaded the slots
(`accounting_saturates`).
-/

namespace SchedulingEngine

open Concurrency Saturation

variable {W : ℕ} {C P : Type}

/-! ## Stages -/

section Stages

/-- A stage of a Task. -/
def AccountEvent.isStage : AccountEvent W C → Bool
  | .stage _ _ => true
  | _ => false

/-- Past a dequeue that returned a Task. -/
def WorkerPc.fed : WorkerPc P → Bool
  | .accountDequeued _ | .accountStarted _ | .accountRunning _ | .invoke _ _ | .callback _ _ _
  | .accountResult _ _ | .accountRunningDone => true
  | _ => false

def SchedulerPc.fed : SchedulerPc W P → Bool
  | .worker _ pc => pc.fed
  | _ => false

variable {t u : Thread W C} {s s' : SchedulerPool W C P}

theorem Tally.stages_foldl {es : List (AccountEvent W C)} (h : ∀ e ∈ es, e.isStage = false)
    (m : Tally W) : (es.foldl Tally.record m).stages = m.stages := by
  induction es generalizing m with
  | nil => rfl
  | cons e es ih =>
    have hfirst : (m.record e).stages = m.stages := by
      have hnot := h e List.mem_cons_self
      cases e with
      | stage i k => cases hnot
      | _ => rfl
    exact (ih (fun e he => h e (List.mem_cons_of_mem _ he)) _).trans hfirst

theorem CallPc.accounts_not_stage {sh : Scheduler W C P} {pc : CallPc P} {e : AccountEvent W C}
    (he : e ∈ pc.accounts sh u) : e.isStage = false := by
  cases pc with
  | registerLock kind task =>
    simp only [CallPc.accounts, List.mem_cons] at he
    rcases he with rfl | he
    · rfl
    · split at he
      · cases he
      · rw [List.mem_singleton.mp he]
        rfl
  | deregisterLock task r => rw [List.mem_singleton.mp he]; rfl
  | captureLifecycleLock => rw [List.mem_singleton.mp he]; rfl
  | captureWorkerLock temporary => rw [List.mem_singleton.mp he]; rfl
  | captureLoad temporary index field =>
    simp only [CallPc.accounts] at he
    split at he
    · rw [List.mem_singleton.mp he]; rfl
    · cases he
  | _ => cases he

theorem ControllerPc.accounts_not_stage {pc pc' : ControllerPc P} {e : AccountEvent W C}
    (he : e ∈ pc.accounts pc') : e.isStage = false := by
  unfold ControllerPc.accounts at he
  split at he
  · rw [List.mem_singleton.mp he]; rfl
  · split at he
    · cases he
    · rw [List.mem_singleton.mp he]; rfl
  · cases he

/-- Stages are counted by workers that have a Task. -/
theorem accountEvents_unfed (hunfed : (s.pc t).fed = false) {e : AccountEvent W C}
    (he : e ∈ accountEvents s t s') : e.isStage = false := by
  unfold accountEvents at he
  generalize s.pc t = pc at hunfed he
  cases pc with
  | call pc => exact CallPc.accounts_not_stage he
  | worker j pc =>
    cases pc with
    -- `record_worker_exit` counts failures only
    | exitLock r => rw [List.eq_of_mem_replicate he]; rfl
    | accountDequeued task => cases hunfed
    | accountStarted task => cases hunfed
    | accountResult runningAccounted succeeded => cases hunfed
    | callback task runningAccounted call => cases hunfed
    | _ => cases he
  | controller pc =>
    generalize s'.pc t = pc' at he
    cases pc' with
    | controller pc' => exact ControllerPc.accounts_not_stage he
    | _ => cases he

end Stages

/-! ## Runs -/

section Runs

variable [DecidableEq C] [Fintype C] {cfg : SchedulerConfig W} {t u : Thread W C}
  {choice : SchedulerChoice W C P} {s s' : SchedulerPool W C P} {b : Logbook W C}

omit [DecidableEq C] [Fintype C] in
theorem SchedulerPc.accounts_wake (sh : Scheduler W C P) (t : Thread W C)
    (pc pc' : SchedulerPc W P) :
    pc.accounts sh t pc'.wake = pc.accounts sh t pc' := by
  cases pc with
  | controller pc =>
    cases pc' with
    | controller pc' =>
      cases pc with
      | createLock index => cases pc' <;> rfl
      | _ => rfl
    | _ => rfl
  | _ => rfl

theorem accountEvents_eq {pc : SchedulerPc W P} {fx : List (SchedulerEffect W C)}
    (hfx : (schedulerProgram cfg).applyEffects (Function.update s.pc t pc) fx = some s'.pc) :
    accountEvents s t s' = (s.pc t).accounts s.shared t pc := by
  have hblind : (schedulerProgram (C := C) (P := P) cfg).Blind ((s.pc t).accounts s.shared t) := by
    refine schedulerProgram_blind (SchedulerPc.accounts_wake s.shared t (s.pc t)) fun i => ?_
    cases s.pc t <;> rfl
  exact (Program.step_blind hblind hfx).1

omit [DecidableEq C] [Fintype C] in
theorem CallPc.accounts_reader {sh : Scheduler W C P} {pc : CallPc P} {e : AccountEvent W C}
    (he : e ∈ pc.accounts sh u) : e.reader = none ∨ e.reader = some u := by
  cases pc with
  | registerLock kind task =>
    simp only [CallPc.accounts, List.mem_cons] at he
    rcases he with rfl | he
    · exact .inl rfl
    · split at he
      · cases he
      · rw [List.mem_singleton.mp he]
        exact .inl rfl
  | deregisterLock task r =>
    rw [List.mem_singleton.mp he]
    exact .inl rfl
  | captureLifecycleLock =>
    rw [List.mem_singleton.mp he]
    exact .inr rfl
  | captureWorkerLock temporary =>
    rw [List.mem_singleton.mp he]
    exact .inr rfl
  | captureLoad temporary index field =>
    simp only [CallPc.accounts] at he
    split at he
    · rw [List.mem_singleton.mp he]
      exact .inr rfl
    · cases he
  | _ => cases he

omit [DecidableEq C] [Fintype C] in
/-- A thread reads for itself. -/
theorem accountEvents_reader (hruns : t.Runs (s.pc t)) {e : AccountEvent W C}
    (he : e ∈ accountEvents s t s') : e.reader = none ∨ e.reader = some t := by
  unfold accountEvents at he
  generalize s.pc t = pc at hruns he
  cases pc with
  | call pc => exact CallPc.accounts_reader he
  | worker i pc =>
    cases t with
    | worker j =>
      obtain rfl : j = i := hruns
      cases pc with
      | callback task runningAccounted call => exact CallPc.accounts_reader he
      | accountDequeued task => rw [List.mem_singleton.mp he]; exact .inl rfl
      | accountStarted task => rw [List.mem_singleton.mp he]; exact .inl rfl
      | accountResult runningAccounted succeeded => rw [List.mem_singleton.mp he]; exact .inl rfl
      | exitLock r => rw [List.eq_of_mem_replicate he]; exact .inl rfl
      | _ => cases he
    | _ => exact hruns.elim
  | controller pc =>
    cases hpc' : s'.pc t with
    | controller pc' =>
      rw [hpc'] at he
      simp only [SchedulerPc.accounts] at he
      unfold ControllerPc.accounts at he
      split at he
      · rw [List.mem_singleton.mp he]; exact .inl rfl
      · split at he
        · cases he
        · rw [List.mem_singleton.mp he]; exact .inl rfl
      · cases he
    | _ => rw [hpc'] at he; cases he

omit [DecidableEq C] [Fintype C] in
/-- Inside a call the events are those of the call. -/
theorem accountEvents_toCall (hruns : t.Runs (s.pc t)) (hcall : (s.pc t).toCall ≠ .idle) :
    accountEvents s t s' = (s.pc t).toCall.accounts s.shared t := by
  unfold accountEvents
  generalize s.pc t = pc at hruns hcall
  cases pc with
  | call pc => rfl
  | worker i pc =>
    cases t with
    | worker j =>
      obtain rfl : j = i := hruns
      cases pc with
      | callback task runningAccounted call => rfl
      | _ => exact absurd rfl hcall
    | _ => exact hruns.elim
  | controller pc => exact absurd rfl hcall

omit [DecidableEq C] [Fintype C] in
/-- The phases in which captures do not know `worker_mutex` yet. -/
theorem Phase.Ok.unsynced {sh : Scheduler W C P} {phase : Phase} (h : phase.Ok sh)
    (hsync : sh.lifecycle.workerSyncInitialized = false) :
    sh.lifecycle.state = .initialized ∨ phase = .bare ∨ phase = .allocated ∨
      phase = .synchronized := by
  have hnot : ¬sh.Synchronized true := fun h => nomatch hsync.symm.trans h.1
  cases phase with
  | settled =>
    left
    have hsettled : ∀ state, sh.lifecycle.state = state → sh.SettledIn state :=
      fun state hstate => Scheduler.Settled.of_state h hstate
    cases hstate : sh.lifecycle.state with
    | initialized => rfl
    | starting => exact (hsettled _ hstate).elim
    | running => exact absurd (hsettled _ hstate).2.1 hnot
    | shuttingDown => exact absurd (hsettled _ hstate).2.1 hnot
    | stopped => exact absurd (hsettled _ hstate).2.1 hnot
    | failed => exact absurd (hsettled _ hstate).2.1 hnot
  | bare => exact .inr (.inl rfl)
  | allocated => exact .inr (.inr (.inl rfl))
  | synchronized => exact .inr (.inr (.inr rfl))
  | creating k => exact absurd h.2.2.1 hnot
  | ready => exact absurd h.2.2.1 hnot
  | closing => exact absurd h.2.2 hnot
  | draining caller => exact absurd h.2.1 hnot
  | drained caller => exact absurd h.2.1 hnot
  | aborting => exact absurd h.2.2.1 hnot
  | releasing caller => exact absurd h.2.2.1 hnot
  | released caller => exact absurd h.2.2.1 hnot
  | impossible => exact h.elim

omit [DecidableEq C] [Fintype C] in
theorem ControllerPc.untried_of_unsynced {sh : Scheduler W C P} {pc : ControllerPc P}
    (hphase : (pc.phase W).Ok sh) (hsync : sh.lifecycle.workerSyncInitialized = false) :
    sh.Untried pc := by
  rcases hphase.unsynced hsync with hstate | hearly
  · exact .inl hstate
  · right
    unfold ControllerPc.phase at hearly
    split at hearly <;> first | rfl | simp at hearly

/-- Before captures know `worker_mutex` no failure is counted and no worker created. -/
theorem SchedulerReachable.unsynced (h : SchedulerReachable cfg s)
    (hsync : s.shared.lifecycle.workerSyncInitialized = false) :
    (∀ k, FailureCount.counter s.shared.worker k = 0) ∧ s.shared.worker.createdWorkerCount = 0 := by
  obtain ⟨pc, hpc⟩ := h.threads.controllerPc
  have huntried := ControllerPc.untried_of_unsynced (h.lifecycle.phase hpc) hsync
  obtain ⟨-, ring, hring, -⟩ := id h
  have hworker := (h.unused hring hpc huntried).worker
  constructor
  · intro k
    rw [hworker]
    cases k <;> rfl
  · rw [hworker]
    rfl

/-- What the logbook says of the scheduler and of the captures. -/
structure LogbookInv (b : Logbook W C) (s : SchedulerPool W C P) : Prop where
  kept : b.now.Kept s.shared.books
  past : b.Past
  copies : ∀ u, (s.pc u).toCall.Copies (b.copied u) (b.flagged u)

/-- **One step keeps the logbook true.** -/
theorem logbookInv_step (hreach : SchedulerReachable cfg s) (h : LogbookInv b s)
    (hstep : (schedulerProgram cfg).step t choice s = some s') :
    LogbookInv ((accountEvents s t s').foldl Logbook.record b) s' := by
  obtain ⟨pc, fx, hspec, hfx⟩ := hreach.threads.step_spec hstep
  have hruns := hreach.threads.runs t
  refine ⟨?_, h.past.foldl _, fun u => ?_⟩
  · rw [Logbook.now_foldl, accountEvents_eq hfx]
    exact hspec.kept (hreach.lifecycle.threads t) (hreach.headcount.running t) h.kept
  · refine hreach.call_step u (A := fun pc => pc.Copies (b.copied u) (b.flagged u))
      (fun pc => pc.copies_wake _ _) hstep (fun _ => trivial) ?_ ?_ (h.copies u)
    · -- a capture copies what its own thread reads
      intro ht pc hpc
      have hunread : ∀ e ∈ accountEvents s t s', e.reader ≠ some u := by
        intro e he hread
        rcases accountEvents_reader hruns he with hnone | hself
        · cases hnone.symm.trans hread
        · exact ht (Option.some.inj (hself.symm.trans hread))
      obtain ⟨hcopied, hflagged⟩ := Logbook.unread hunread b
      rwa [hcopied, hflagged]
    · rintro out rfl hcall hout
      -- before the call there is no capture
      by_cases hidle : (s.pc t).toCall = .idle
      · rw [hidle] at hcall
        cases hcall <;> trivial
      · rw [accountEvents_toCall hruns hidle]
        obtain ⟨cpc, hcpc⟩ := hreach.threads.controllerPc
        have hphase := hreach.lifecycle.phase hcpc
        refine hcall.copies h.kept h.past (fun hsync => ?_) (fun hstarted => ?_) ?_
          (fun temporary index contexts hpc => hreach.running_fits hpc) (h.copies t)
        · obtain ⟨hfailures, hcreated⟩ := hreach.unsynced hsync
          refine ⟨fun k => ?_, h.kept.stages_zero hcreated⟩
          have hvalue : (0 : ℕ) = min uint64Max (b.now.failures k) :=
            (hfailures k).symm.trans (h.kept.failures k)
          have hlimit : 0 < uint64Max := by decide
          omega
        · rcases hphase.releasable with hgone | ⟨k, hthere⟩
          · rw [show s.shared.worker.startedWorkerCount = 0 from hgone.started] at hstarted
            exact absurd hstarted (Nat.lt_irrefl 0)
          · exact hthere.contexts
        · intro i hsome hi k
          exact h.kept.spare i ((hphase.started_eq hsome).symm.trans_le hi) k

omit [DecidableEq C] [Fintype C] in
theorem logbookInv_initial (queue : TaskQueue P) :
    LogbookInv ({} : Logbook W C) (schedulerInitial queue : SchedulerPool W C P) := by
  refine ⟨?_, fun u i k => ⟨Nat.le_refl _, Nat.le_refl _⟩, ?_⟩
  · have hnone : ∀ {K : Type} (n : K → ℕ), (∀ k, n k = 0) → ¬∃ k, uint64Max < n k := by
      rintro K n hn ⟨k, hk⟩
      rw [hn k] at hk
      exact Nat.not_lt_zero _ hk
    have htotal : ∀ k, ({} : Tally W).total k = 0 := fun k => Finset.sum_eq_zero fun i _ => rfl
    refine ⟨⟨fun k => ?_, iff_of_false nofun (hnone _ fun _ => rfl)⟩, fun k => ?_, nofun, nofun,
      fun _ k => ?_, iff_of_false nofun ?_, fun i _ k => rfl⟩
    · cases k <;> rfl
    · cases k <;> rfl
    · rw [show ({} : Logbook W C).now.total k = 0 from htotal k]
      cases k <;> rfl
    · rintro (hfailure | ⟨-, hover⟩)
      · exact hnone _ (fun _ => rfl) hfailure
      · exact hnone _ htotal hover
  · rintro (_ | i | c) <;> trivial

/-- **The logbook is true after every run.** -/
theorem logbookInv_of_run {queue : TaskQueue P}
    (hinit : taskQueueInit cfg.capacity true = (.ok, some queue)) (hW : 0 < W)
    {ls : List (Thread W C × SchedulerChoice W C P)}
    (hrun : (schedulerProgram cfg).run ls (schedulerInitial queue) = some s) :
    SchedulerReachable cfg s ∧ LogbookInv (logbookOf cfg ls (schedulerInitial queue)) s := by
  refine Program.log_of_steps accountEvents
    (J := fun noted s => SchedulerReachable cfg s ∧ LogbookInv (noted.foldl Logbook.record {}) s)
    (fun hJ hstep => ⟨hJ.1.tail (.single ⟨_, _, hstep⟩), ?_⟩)
    ⟨⟨hW, queue, hinit, .refl⟩, logbookInv_initial queue⟩ hrun
  rw [List.foldl_append]
  exact logbookInv_step hJ.1 hJ.2 hstep

/-- A run that goes on counts on. -/
theorem logbookOf_le {s₀ : SchedulerPool W C P}
    {ls more : List (Thread W C × SchedulerChoice W C P)}
    (hrun : (schedulerProgram cfg).run ls s₀ = some s) :
    (logbookOf cfg ls s₀).now.Le (logbookOf cfg (ls ++ more) s₀).now := by
  unfold logbookOf
  rw [Program.log_append accountEvents more hrun, List.foldl_append]
  generalize ((schedulerProgram cfg).log accountEvents ls s₀).foldl Logbook.record {} = b
  rw [Logbook.now_foldl]
  exact Tally.le_foldl _ _

/-- **What the counters of a scheduler say of the true counts.** Cut off at `UINT64_MAX`, they
never wrap, and each flag says whether a count it answers for is beyond. While there are slots,
folding them in any order gives the same totals. -/
structure Scheduler.Saturates (sh : Scheduler W C P) (n : Tally W) : Prop where
  submissions : ∀ k, SubmissionCount.counter sh.lifecycle k = min uint64Max (n.submissions k)
  submissionFlag : sh.lifecycle.accountingOverflow = true ↔ ∃ k, uint64Max < n.submissions k
  failures : ∀ k, FailureCount.counter sh.worker k = min uint64Max (n.failures k)
  slots : ∀ contexts, sh.worker.workerContexts = some contexts → ∀ i,
    (∀ k : WorkerCount, k.slot (contexts i) = min uint64Max (n.stages i k)) ∧
      ((contexts i).accountingOverflow = true ↔ ∃ k, uint64Max < n.stages i k)
  totals : sh.worker.workerContexts = none →
    ∀ k : WorkerCount, k.folded sh.worker = min uint64Max (∑ i, n.stages i k)
  workerFlag : sh.worker.accountingOverflow = true ↔ (∃ k, uint64Max < n.failures k) ∨
    sh.worker.workerContexts = none ∧ ∃ k, uint64Max < ∑ i, n.stages i k
  anyOrder : ∀ contexts, sh.worker.workerContexts = some contexts → ∀ order : List (Fin W),
    order.Perm ((List.finRange W).take sh.worker.startedWorkerCount) →
    ∀ k : WorkerCount, k.folded (order.foldl (fun w i => foldContext w (contexts i)) sh.worker)
      = min uint64Max (∑ i, n.stages i k)

omit [DecidableEq C] [Fintype C] in
theorem Tally.Kept.saturates {sh : Scheduler W C P} {n : Tally W} (h : n.Kept sh.books)
    (hcreated : sh.worker.workerContexts.isSome = true →
      sh.worker.createdWorkerCount = sh.worker.startedWorkerCount) : sh.Saturates n where
  submissions := h.submissions.value
  submissionFlag := h.submissions.flag
  failures := h.failures
  slots contexts hcontexts i :=
    ⟨(h.slots contexts hcontexts i).value, (h.slots contexts hcontexts i).flag⟩
  totals hnone k := (sh.worker.total_eq k).symm.trans (h.folded hnone k)
  workerFlag := h.overflow
  anyOrder contexts hcontexts order horder := by
    have hall : ∀ i : Fin W, (i : ℕ) < sh.worker.createdWorkerCount → i ∈ order := by
      intro i hi
      refine horder.mem_iff.mpr (List.mem_take_iff_getElem.mpr ⟨i, ?_, List.getElem_finRange _⟩)
      rw [List.length_finRange, ← hcreated (by rw [hcontexts]; rfl)]
      omega
    have hnodup : order.Nodup :=
      horder.nodup_iff.mpr ((List.nodup_finRange W).sublist (List.take_sublist _ _))
    exact (h.fold hcontexts (fun k => (sh.worker.total_eq k).symm) rfl hnodup hall).1

omit [DecidableEq C] [Fintype C] in
/-- A snapshot without the flag says the true counts. -/
theorem SchedulerSnapshot.Reports.exact {copied : Tally W} {flagged : Fin W → WorkerCount → ℕ}
    {a : SchedulerSnapshot} (h : a.Reports copied flagged) (hflag : a.overflowDetected = false) :
    (∀ k, SubmissionCount.captured a k = copied.submissions k) ∧
    (∀ k, FailureCount.captured a k = copied.failures k) ∧
    ∀ k : WorkerCount, k.captured a = ∑ i, copied.stages i k := by
  have hnot : ¬a.overflowDetected = true := by
    rw [hflag]
    nofun
  rw [h.overflow, not_or, not_or, not_or] at hnot
  obtain ⟨hsubmissions, hfailures, -, htotals⟩ := hnot
  refine ⟨fun k => ?_, fun k => ?_, fun k => ?_⟩
  · rw [h.submissions k]
    exact Nat.min_eq_right (Nat.not_lt.mp fun hover => hsubmissions ⟨k, hover⟩)
  · rw [h.failures k]
    exact Nat.min_eq_right (Nat.not_lt.mp fun hover => hfailures ⟨k, hover⟩)
  · rw [h.counts k]
    exact Nat.min_eq_right (Nat.not_lt.mp fun hover => htotals ⟨k, hover⟩)

/-- The flags of a scheduler stay raised: a slot's for as long as there are slots, and after
that the flag of the worker domain. -/
structure Scheduler.Sticky (sh sh' : Scheduler W C P) : Prop where
  submissions : sh.lifecycle.accountingOverflow = true → sh'.lifecycle.accountingOverflow = true
  worker : sh.worker.accountingOverflow = true → sh'.worker.accountingOverflow = true
  slots : ∀ contexts, sh.worker.workerContexts = some contexts → ∀ i,
    (contexts i).accountingOverflow = true →
      match sh'.worker.workerContexts with
      | none => sh'.worker.accountingOverflow = true
      | some contexts' => (contexts' i).accountingOverflow = true

/-- The flag of the worker domain is never lowered, not by the fold either. -/
theorem SchedulerReachable.workerFlag_step (h : SchedulerReachable cfg s)
    (hstep : (schedulerProgram cfg).step t choice s = some s')
    (hflag : s.shared.worker.accountingOverflow = true) :
    s'.shared.worker.accountingOverflow = true := by
  obtain ⟨pc, fx, hspec, hfx⟩ := h.threads.step_spec hstep
  have hself := h.lifecycle.threads t
  by_cases hfrees : (s.pc t).freesSlots = false
  · exact (hspec.steady hself hfrees).flag hflag
  have hfits := h.fits
  generalize hout : (s'.shared, pc, fx) = out at hspec
  rw [show s'.shared = out.1 by rw [← hout]]
  generalize s.pc t = pc₀ at hspec hself hfrees
  generalize s.shared = sh at hspec hself hflag hfits
  cases hspec with
  | call c h => exact absurd rfl hfrees
  | worker i h => exact absurd rfl hfrees
  | controller h =>
    cases h with
    | syncInit => exact hflag
    | syncInitFailed mutexInitialized hmutex hfail => exact hflag
    | fold caller result worker hfree hinit hfold =>
      show worker.accountingOverflow = true
      unfold foldWorkers at hfold
      split at hfold
      · obtain ⟨-, hworker⟩ := Option.ite_none_right_eq_some.mp hfold
        cases hworker
        exact hflag
      · rename_i contexts hcontexts
        cases hfold
        refine (foldl_foldContext_sums contexts _ fun k => ?_).2.mpr (.inl hflag)
        exact Nat.le_trans (by cases k <;> exact Nat.le_refl _) (hfits k)
    | _ => exact absurd rfl hfrees

theorem SchedulerReachable.sticky {n n' : Tally W} (h : SchedulerReachable cfg s)
    (hsteps : (schedulerProgram cfg).Steps s s') (hn : n.Kept s.shared.books)
    (hn' : n'.Kept s'.shared.books) (hle : n.Le n') : s.shared.Sticky s'.shared where
  submissions hflag := by
    obtain ⟨k, hk⟩ := hn.submissions.flag.mp hflag
    exact hn'.submissions.flag.mpr ⟨k, Nat.lt_of_lt_of_le hk (hle.submissions k)⟩
  worker hflag := by
    refine (hsteps.invariant (I := fun s => SchedulerReachable cfg s ∧
      s.shared.worker.accountingOverflow = true) ⟨h, hflag⟩ ?_).2
    rintro u u' - ⟨hu, hraised⟩ ⟨t, choice, hstep⟩
    exact ⟨hu.tail (.single ⟨_, _, hstep⟩), hu.workerFlag_step hstep hraised⟩
  slots contexts hcontexts i hflag := by
    obtain ⟨k, hk⟩ := (hn.slots contexts hcontexts i).flag.mp hflag
    have hk' : uint64Max < n'.stages i k := Nat.lt_of_lt_of_le hk (hle.stages i k)
    split
    · rename_i hnone
      refine hn'.overflow.mpr (.inr ⟨hnone, k, Nat.lt_of_lt_of_le hk' ?_⟩)
      exact Finset.single_le_sum (f := fun i => n'.stages i k) (fun _ _ => Nat.zero_le _)
        (Finset.mem_univ i)
    · rename_i contexts' hcontexts'
      exact (hn'.slots contexts' hcontexts' i).flag.mpr ⟨k, hk'⟩

/-- **Accounting is exact up to saturation.** In every state of every run the counters are the
true numbers of their events cut off at `UINT64_MAX`, a returned snapshot reports the true
numbers at the moments of its reads in the same way, with the sum of the callbacks that ran at
its loads of the slots, both raise their flags exactly when a number is beyond, and no flag that
was raised is ever down again, in the scheduler or in a snapshot whose capture begins later. -/
theorem accounting_saturates {queue : TaskQueue P}
    (hinit : taskQueueInit cfg.capacity true = (.ok, some queue)) (hW : 0 < W)
    {ls more : List (Thread W C × SchedulerChoice W C P)}
    (hrun : (schedulerProgram cfg).run ls (schedulerInitial queue) = some s)
    (hmore : (schedulerProgram cfg).run more s = some s') :
    s.shared.Saturates (logbookOf cfg ls (schedulerInitial queue)).now ∧
    (∀ i pc contexts, s.pc (.worker i) = .worker i pc →
      s.shared.worker.workerContexts = some contexts →
      (contexts i).currentlyRunningCount = pc.running) ∧
    (∀ u a, (s.pc u).toCall = .captured (some a) →
      a.Reports ((logbookOf cfg ls (schedulerInitial queue)).copied u)
        ((logbookOf cfg ls (schedulerInitial queue)).flagged u) ∧
      a.currentlyRunningCount = ∑ i, gaugesOf cfg ls (schedulerInitial queue) u i ∧
      (a.overflowDetected = false →
        (∀ k, SubmissionCount.captured a k
          = ((logbookOf cfg ls (schedulerInitial queue)).copied u).submissions k) ∧
        (∀ k, FailureCount.captured a k
          = ((logbookOf cfg ls (schedulerInitial queue)).copied u).failures k) ∧
        ∀ k : WorkerCount, k.captured a
          = ∑ i, ((logbookOf cfg ls (schedulerInitial queue)).copied u).stages i k)) ∧
    s.shared.Sticky s'.shared ∧
    ∀ u v a a', (s.pc u).toCall = .captured (some a) →
      (v ≠ u → (s.pc v).toCall.capturing = false) → (s'.pc v).toCall = .captured (some a') →
      a.overflowDetected = true → a'.overflowDetected = true := by
  obtain ⟨hreach, hbook⟩ := logbookInv_of_run hinit hW hrun
  obtain ⟨-, hbook'⟩ := logbookInv_of_run hinit hW (Program.run_append hrun hmore)
  obtain ⟨pc, hpc⟩ := hreach.threads.controllerPc
  have hsteps := Program.steps_of_run hmore
  have hstarted := (hreach.lifecycle.phase hpc).started_eq
  refine ⟨hbook.kept.saturates fun hsome => (hstarted hsome).symm, ?_, ?_,
    hreach.sticky hsteps hbook.kept hbook'.kept (logbookOf_le hrun), ?_⟩
  · intro i pc contexts hpc hcontexts
    exact hreach.running_count hpc hcontexts
  · intro u a hcaptured
    have hreports := hbook.copies u
    rw [hcaptured] at hreports
    exact ⟨hreports, captured_running hinit hW hrun hcaptured,
      fun hflag => SchedulerSnapshot.Reports.exact hreports hflag⟩
  · intro u v a a' hfirst hbegins hsecond
    exact (hreach.precedes hsteps hfirst hbegins hsecond).overflow

end Runs

theorem accounting_saturates_across_join :
    ∃ (s s' : SchedulerPool 1 (Fin 2) ℕ) (a : SchedulerSnapshot),
      (schedulerProgram reliableConfig).run captureSchedule (schedulerInitial smallQueue) = some s ∧
      (schedulerProgram reliableConfig).run recaptureSchedule s = some s' ∧
      (s.pc (.client 1)).toCall = .captured (some a) ∧ a.dequeuedCount = 1 ∧
      s.shared.Saturates
        (logbookOf reliableConfig captureSchedule (schedulerInitial smallQueue)).now ∧
      ∑ i, ((logbookOf reliableConfig captureSchedule (schedulerInitial smallQueue)).copied
        (.client 1)).stages i .dequeued = 1 := by
  have hobs : ((schedulerProgram reliableConfig).run captureSchedule
      (schedulerInitial smallQueue)).map (fun s => ((s.pc (.client 1)).toCall,
        ((schedulerProgram reliableConfig).run recaptureSchedule s).isSome))
      = some (.captured (some taskSnapshot), true) := by decide +kernel
  obtain ⟨s, hrun, hobs⟩ := Option.map_eq_some_iff.mp hobs
  obtain ⟨hcaptured, hmore⟩ := Prod.mk.inj hobs
  obtain ⟨s', hmore⟩ := Option.isSome_iff_exists.mp hmore
  obtain ⟨hsaturates, -, hreports, -⟩ :=
    accounting_saturates (by decide) Nat.one_pos hrun hmore
  refine ⟨s, s', taskSnapshot, hrun, hmore, hcaptured, rfl, hsaturates, ?_⟩
  exact (((hreports _ _ hcaptured).2.2 rfl).2.2 .dequeued).symm

end SchedulingEngine
