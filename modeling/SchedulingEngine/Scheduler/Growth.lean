import SchedulingEngine.Scheduler.Snapshots

/-!
# Every counter only goes up

No step of any thread takes a count back or clears an overflow flag. The one place where
this is not plain is `release_workers`, which moves the slots of the workers into the
totals and frees them: a sum may be cut off there, and then the flag goes up with it
(`foldWorkers_grows`).
-/

namespace SchedulingEngine

open Concurrency

variable {W : ℕ} {C P : Type}

/-! ## What only goes up -/

/-- The counts of submissions. -/
def LifecycleDomain.submissions {T : Type} (l : LifecycleDomain T) : ℕ × ℕ × ℕ :=
  (l.submittedCount, l.acceptedCount, l.rejectedCount)

/-- The counts of submissions go up and the flag stays. -/
structure LifecycleDomain.Grows {T : Type} (l l' : LifecycleDomain T) : Prop where
  submissions : l.submissions ≤ l'.submissions
  flag : l.accountingOverflow = true → l'.accountingOverflow = true
  sync : l.workerSyncInitialized = true → l'.workerSyncInitialized = true

namespace WorkerDomain

variable {T : Type} {w w' w'' : WorkerDomain W T}

/-- The counts of workers and of failures that only go up. -/
def staff (w : WorkerDomain W T) : ℕ × ℕ × ℕ × ℕ × ℕ :=
  (w.createdWorkerCount, w.joinedWorkerCount, w.workerStartupFailureCount,
    w.workerRuntimeFailureCount, w.joinFailureCount)

/-- A counter of the workers has overflowed, or a sum of them would. -/
def Overflowing (w : WorkerDomain W T) : Prop :=
  w.accountingOverflow = true ∨
    (∃ contexts, w.workerContexts = some contexts ∧ ∃ i, (contexts i).accountingOverflow = true) ∨
    ∃ k, uint64Max < w.counted k

/-- The totals stay, and what the slots hold only goes up. -/
structure Steady (w w' : WorkerDomain W T) : Prop where
  folded : ∀ k : WorkerCount, k.folded w' = k.folded w
  slots : ∀ contexts, w.workerContexts = some contexts →
    ∃ contexts', w'.workerContexts = some contexts' ∧ ∀ i,
      (∀ k : WorkerCount, k.slot (contexts i) ≤ k.slot (contexts' i)) ∧
        ((contexts i).accountingOverflow = true → (contexts' i).accountingOverflow = true)
  flag : w.accountingOverflow = true → w'.accountingOverflow = true

/-- What the workers count goes up, as far as a counter goes. -/
structure Grows (w w' : WorkerDomain W T) : Prop where
  counted : ∀ k, min uint64Max (w.counted k) ≤ w'.counted k
  overflowing : w.Overflowing → w'.Overflowing

/-- A step that leaves slots and totals alone. -/
theorem Steady.same (hcontexts : w'.workerContexts = w.workerContexts)
    (hfolded : ∀ k : WorkerCount, k.folded w' = k.folded w)
    (hflag : w.accountingOverflow = true → w'.accountingOverflow = true) : Steady w w' where
  folded := hfolded
  slots contexts h := ⟨contexts, hcontexts.trans h, fun _ => ⟨fun _ => Nat.le_refl _, id⟩⟩
  flag := hflag

/-- One step after the other. -/
theorem Steady.trans (h : Steady w w') (h' : Steady w' w'') : Steady w w'' where
  folded k := (h'.folded k).trans (h.folded k)
  slots contexts hcontexts := by
    obtain ⟨contexts', hcontexts', hle⟩ := h.slots contexts hcontexts
    obtain ⟨contexts'', hcontexts'', hle'⟩ := h'.slots contexts' hcontexts'
    refine ⟨contexts'', hcontexts'', fun i => ⟨fun k => ?_, fun hflag => ?_⟩⟩
    · exact Nat.le_trans ((hle i).1 k) ((hle' i).1 k)
    · exact (hle' i).2 ((hle i).2 hflag)
  flag hflag := h'.flag (h.flag hflag)

/-- A store to a slot. -/
theorem Steady.store (i : Fin W) {g : WorkerContext → WorkerContext}
    (hg : ∀ context, (∀ k : WorkerCount, k.slot context ≤ k.slot (g context)) ∧
      (context.accountingOverflow = true → (g context).accountingOverflow = true)) :
    Steady w (setContext w i g) where
  folded k := by cases k <;> rfl
  slots contexts hcontexts := by
    refine ⟨Function.update contexts i (g (contexts i)), ?_, fun j => ?_⟩
    · show w.workerContexts.map _ = _
      rw [hcontexts]
      rfl
    · by_cases hj : j = i
      · subst hj
        rw [Function.update_self]
        exact hg (contexts j)
      · rw [Function.update_of_ne hj]
        exact ⟨fun _ => Nat.le_refl _, id⟩
  flag := id

/-- So what is counted in all goes up. -/
theorem Steady.counted (h : Steady w w') (k : WorkerCount) : w.counted k ≤ w'.counted k := by
  unfold WorkerDomain.counted
  rw [h.folded k]
  refine Nat.add_le_add_left ?_ _
  cases hcontexts : w.workerContexts with
  | none => exact Nat.zero_le _
  | some contexts =>
    obtain ⟨contexts', hcontexts', hle⟩ := h.slots contexts hcontexts
    rw [hcontexts']
    exact Finset.sum_le_sum fun i _ => (hle i).1 k

/-- And a domain whose totals stay grows. -/
theorem Steady.grows (h : Steady w w') : Grows w w' where
  counted k := Nat.le_trans (Nat.min_le_right _ _) (h.counted k)
  overflowing := by
    rintro (hflag | ⟨contexts, hcontexts, i, hflag⟩ | ⟨k, hover⟩)
    · exact .inl (h.flag hflag)
    · obtain ⟨contexts', hcontexts', hle⟩ := h.slots contexts hcontexts
      exact .inr (.inl ⟨contexts', hcontexts', i, (hle i).2 hflag⟩)
    · exact .inr (.inr ⟨k, Nat.lt_of_lt_of_le hover (h.counted k)⟩)

end WorkerDomain

/-! ## The fold -/

section Fold

variable {T : Type} {w w' : WorkerDomain W T}

/-- The totals fit their counters. -/
def WorkerDomain.Fits (w : WorkerDomain W T) : Prop := ∀ k : WorkerCount, k.folded w ≤ uint64Max

/-- The fold of a slot adds it to the totals, or raises the flag. -/
theorem foldContext_sums (context : WorkerContext) (h : w.Fits) :
    (∀ k : WorkerCount,
      k.folded (foldContext w context) = min uint64Max (k.folded w + k.slot context)) ∧
    ((foldContext w context).accountingOverflow = true ↔
      w.accountingOverflow = true ∨ context.accountingOverflow = true ∨
        ∃ k : WorkerCount, uint64Max < k.folded w + k.slot context) := by
  have hdequeued : w.dequeuedCount ≤ uint64Max := h .dequeued
  have hstarted : w.callbackStartedCount ≤ uint64Max := h .started
  have hsucceeded : w.successfulCallbackCount ≤ uint64Max := h .succeeded
  have hfailed : w.failedCallbackCount ≤ uint64Max := h .failed
  constructor
  · intro k
    cases k with
    | dequeued => exact (addSaturating_eq _ _ hdequeued).1
    | started => exact (addSaturating_eq _ _ hstarted).1
    | succeeded => exact (addSaturating_eq _ _ hsucceeded).1
    | failed => exact (addSaturating_eq _ _ hfailed).1
  · unfold foldContext
    simp only [Bool.or_eq_true]
    rw [(addSaturating_eq _ _ hfailed).2, (addSaturating_eq _ _ hsucceeded).2,
      (addSaturating_eq _ _ hstarted).2, (addSaturating_eq _ _ hdequeued).2]
    constructor
    · rintro (((((hflag | hover) | hover) | hover) | hover) | hflag)
      · exact .inl hflag
      · exact .inr (.inr ⟨.dequeued, hover⟩)
      · exact .inr (.inr ⟨.started, hover⟩)
      · exact .inr (.inr ⟨.succeeded, hover⟩)
      · exact .inr (.inr ⟨.failed, hover⟩)
      · exact .inr (.inl hflag)
    · rintro (hflag | hflag | ⟨k, hover⟩)
      · exact .inl (.inl (.inl (.inl (.inl hflag))))
      · exact .inr hflag
      · cases k with
        | dequeued => exact .inl (.inl (.inl (.inl (.inr hover))))
        | started => exact .inl (.inl (.inl (.inr hover)))
        | succeeded => exact .inl (.inl (.inr hover))
        | failed => exact .inl (.inr hover)

/-- **The fold of the slots**: each total is the sum of what it was and of the slots, cut off at
`UINT64_MAX`, and the flag is raised by a flag or by a sum beyond it. -/
theorem foldl_foldContext_sums (contexts : Fin W → WorkerContext) (is : List (Fin W))
    (h : w.Fits) :
    (∀ k : WorkerCount, k.folded (is.foldl (fun w i => foldContext w (contexts i)) w)
      = min uint64Max (k.folded w + (is.map fun i => k.slot (contexts i)).sum)) ∧
    ((is.foldl (fun w i => foldContext w (contexts i)) w).accountingOverflow = true ↔
      w.accountingOverflow = true ∨ (∃ i ∈ is, (contexts i).accountingOverflow = true) ∨
        ∃ k : WorkerCount, uint64Max < k.folded w + (is.map fun i => k.slot (contexts i)).sum) := by
  -- slot by slot: what is folded in so far is below `UINT64_MAX` or cut off at it
  induction is generalizing w with
  | nil =>
    refine ⟨fun k => ?_, .inl, ?_⟩
    · exact (Nat.min_eq_right (h k)).symm
    · rintro (hflag | ⟨i, hi, -⟩ | ⟨k, hover⟩)
      · exact hflag
      · cases hi
      · exact absurd (h k) (Nat.not_le.mpr hover)
  | cons i is ih =>
    obtain ⟨hsum, hflag⟩ := foldContext_sums (contexts i) h
    have hfits : (foldContext w (contexts i)).Fits := by
      intro k
      rw [hsum k]
      exact Nat.min_le_left _ _
    obtain ⟨hsums, hflags⟩ := ih hfits
    constructor
    · intro k
      rw [List.foldl_cons, hsums k, hsum k, List.map_cons, List.sum_cons]
      omega
    · rw [List.foldl_cons, hflags, hflag]
      constructor
      · -- the flag was raised before, at this slot or at a later one
        rintro ((hbefore | hslot | ⟨k, hover⟩) | ⟨j, hj, hslot⟩ | ⟨k, hover⟩)
        · exact .inl hbefore
        · exact .inr (.inl ⟨i, List.mem_cons_self, hslot⟩)
        · refine .inr (.inr ⟨k, ?_⟩)
          rw [List.map_cons, List.sum_cons]
          omega
        · exact .inr (.inl ⟨j, List.mem_cons_of_mem _ hj, hslot⟩)
        · refine .inr (.inr ⟨k, ?_⟩)
          rw [hsum k] at hover
          rw [List.map_cons, List.sum_cons]
          omega
      · rintro (hbefore | ⟨j, hj, hslot⟩ | ⟨k, hover⟩)
        · exact .inl (.inl hbefore)
        · rcases List.mem_cons.mp hj with rfl | hj
          · exact .inl (.inr (.inl hslot))
          · exact .inr (.inl ⟨j, hj, hslot⟩)
        · -- the sum overflows at this slot or at a later one
          rw [List.map_cons, List.sum_cons] at hover
          by_cases hhere : uint64Max < k.folded w + k.slot (contexts i)
          · exact .inl (.inr (.inr ⟨k, hhere⟩))
          · refine .inr (.inr ⟨k, ?_⟩)
            rw [hsum k]
            omega

/-- **The fold drops nothing**: what the workers count stays, as far as a counter goes, and
an overflow stays an overflow. -/
theorem foldWorkers_grows (hfold : foldWorkers w = some w') (hfits : w.Fits)
    (huntouched : ∀ contexts, w.workerContexts = some contexts → ∀ i : Fin W,
      w.startedWorkerCount ≤ (i : ℕ) → (contexts i).Untouched) : w.Grows w' ∧ w'.Fits := by
  unfold foldWorkers at hfold
  cases hcontexts : w.workerContexts with
  | none =>
    simp only [hcontexts, Option.ite_none_right_eq_some, Option.some.injEq] at hfold
    obtain ⟨-, rfl⟩ := hfold
    have hsteady : w.Steady { w with
        threads := none, workerContexts := none, startedWorkerCount := 0, readyWorkerCount := 0 } :=
      .same hcontexts.symm (fun k => by cases k <;> rfl) id
    refine ⟨hsteady.grows, fun k => ?_⟩
    rw [hsteady.folded k]
    exact hfits k
  | some contexts =>
    simp only [hcontexts, Option.some.injEq] at hfold
    obtain ⟨hsums, hflags⟩ :=
      foldl_foldContext_sums contexts ((List.finRange W).take w.startedWorkerCount) hfits
    -- the slots beyond the started workers hold nothing
    have hsum : ∀ k : WorkerCount,
        k.folded w + (((List.finRange W).take w.startedWorkerCount).map fun i =>
          k.slot (contexts i)).sum = w.counted k := by
      intro k
      rw [sum_take_finRange _ _ fun i hi => (huntouched contexts hcontexts i hi).slot_eq_zero k]
      unfold WorkerDomain.counted
      rw [hcontexts]
      rfl
    have hfolded : ∀ k : WorkerCount, k.folded w' = min uint64Max (w.counted k) := by
      intro k
      rw [← hsum k, ← hsums k, ← hfold]
      cases k <;> rfl
    have hnone : w'.workerContexts = none := by rw [← hfold]
    refine ⟨⟨fun k => ?_, fun hover => .inl ?_⟩, fun k => ?_⟩
    · rw [WorkerDomain.counted_none hnone, hfolded k]
    · rw [← hfold]
      refine hflags.mpr ?_
      rcases hover with hflag | ⟨contexts₁, h₁, i, hflag⟩ | ⟨k, hover⟩
      · exact .inl hflag
      · cases hcontexts.symm.trans h₁
        refine .inr (.inl ⟨i, ?_, hflag⟩)
        by_contra hi
        have hspare := huntouched contexts hcontexts i ?_
        · rw [hspare.2.2.2.2] at hflag
          cases hflag
        · by_contra hstarted
          refine hi (List.mem_take_iff_getElem.mpr ⟨i, ?_, ?_⟩)
          · rw [List.length_finRange]
            omega
          · exact List.getElem_finRange _
      · exact .inr (.inr ⟨k, by rwa [hsum k]⟩)
    · rw [hfolded k]
      exact Nat.min_le_left _ _

end Fold

/-! ## One step -/

/-- What a step of any thread may do to the counters. -/
structure Scheduler.Grows (sh sh' : Scheduler W C P) : Prop where
  lifecycle : sh.lifecycle.Grows sh'.lifecycle
  staff : sh.worker.staff ≤ sh'.worker.staff
  worker : sh.worker.Grows sh'.worker
  mark : sh.queue.highWaterMark ≤ sh'.queue.highWaterMark

section Sections

variable {T : Type}

theorem LifecycleDomain.Grows.refl (l : LifecycleDomain T) : l.Grows l := ⟨le_refl _, id, id⟩

/-- A registration counts one submission more. -/
theorem registerSubmitter_grows (l : LifecycleDomain T) : l.Grows (registerSubmitter l).1 := by
  have hsubmitted := incrementSaturating_grows l.submittedCount l.accountingOverflow
  have hrejected := incrementSaturating_grows l.rejectedCount
    (incrementSaturating l.submittedCount l.accountingOverflow).2
  unfold registerSubmitter
  dsimp only
  split
  · exact ⟨⟨hsubmitted.1, Nat.le_refl _, hrejected.1⟩, fun h => hrejected.2 (hsubmitted.2 h), id⟩
  · exact ⟨⟨hsubmitted.1, Nat.le_refl _, Nat.le_refl _⟩, hsubmitted.2, id⟩

/-- A deregistration counts it as accepted or rejected. -/
theorem deregisterSubmitter_grows (l : LifecycleDomain T) (r : SchedulerResult) :
    l.Grows (deregisterSubmitter l r).1 := by
  have haccepted := incrementSaturating_grows l.acceptedCount l.accountingOverflow
  have hrejected := incrementSaturating_grows l.rejectedCount l.accountingOverflow
  unfold deregisterSubmitter
  by_cases hr : r = .ok
  · simp only [hr, if_true]
    split
    · exact ⟨⟨Nat.le_refl _, haccepted.1, Nat.le_refl _⟩, haccepted.2, id⟩
    · exact ⟨⟨Nat.le_refl _, haccepted.1, Nat.le_refl _⟩, haccepted.2, id⟩
  · simp only [hr, if_false]
    split
    · exact ⟨⟨Nat.le_refl _, Nat.le_refl _, hrejected.1⟩, hrejected.2, id⟩
    · exact ⟨⟨Nat.le_refl _, Nat.le_refl _, hrejected.1⟩, hrejected.2, id⟩

/-- An exit counts failures and no stages. -/
theorem recordWorkerExit_grows (w : WorkerDomain W T) (r : WorkerResult) :
    w.staff ≤ (recordWorkerExit w r).1.staff ∧ w.Steady (recordWorkerExit w r).1 := by
  have hfailure := incrementSaturating_grows w.workerRuntimeFailureCount w.accountingOverflow
  have hagain := incrementSaturating_grows
    (incrementSaturating w.workerRuntimeFailureCount w.accountingOverflow).1
    (incrementSaturating w.workerRuntimeFailureCount w.accountingOverflow).2
  unfold recordWorkerExit
  dsimp only
  split <;> split
  · exact ⟨⟨Nat.le_refl _, Nat.le_refl _, Nat.le_refl _, Nat.le_trans hfailure.1 hagain.1,
      Nat.le_refl _⟩, .same rfl (fun k => by cases k <;> rfl) fun h => hagain.2 (hfailure.2 h)⟩
  · exact ⟨⟨Nat.le_refl _, Nat.le_refl _, Nat.le_refl _, hfailure.1, Nat.le_refl _⟩,
      .same rfl (fun k => by cases k <;> rfl) hfailure.2⟩
  · exact ⟨⟨Nat.le_refl _, Nat.le_refl _, Nat.le_refl _, hfailure.1, Nat.le_refl _⟩,
      .same rfl (fun k => by cases k <;> rfl) hfailure.2⟩
  · exact ⟨le_refl _, .same rfl (fun k => by cases k <;> rfl) id⟩

end Sections

section Stores

/-- No store of a worker to its slot takes a count back. -/
theorem accountDequeued_grows (context : WorkerContext) :
    (∀ k : WorkerCount, k.slot context ≤ k.slot (accountDequeued context)) ∧
      (context.accountingOverflow = true →
        (accountDequeued context).accountingOverflow = true) := by
  have h := incrementSingleWriterAtomic_grows context.dequeuedCount context.accountingOverflow
  refine ⟨fun k => ?_, h.2⟩
  cases k with
  | dequeued => exact h.1
  | _ => exact Nat.le_refl _

/-- The counters of a slot go up and its flag stays. -/
theorem accountStarted_grows (context : WorkerContext) :
    (∀ k : WorkerCount, k.slot context ≤ k.slot (accountStarted context)) ∧
      (context.accountingOverflow = true → (accountStarted context).accountingOverflow = true) := by
  have h :=
    incrementSingleWriterAtomic_grows context.callbackStartedCount context.accountingOverflow
  refine ⟨fun k => ?_, h.2⟩
  cases k with
  | started => exact h.1
  | _ => exact Nat.le_refl _

/-- The running count is a gauge, so nothing counted changes. -/
theorem accountRunning_grows (context : WorkerContext) :
    (∀ k : WorkerCount, k.slot context ≤ k.slot (accountRunning context).1) ∧
      (context.accountingOverflow = true →
        (accountRunning context).1.accountingOverflow = true) :=
  ⟨fun k => by cases k <;> exact Nat.le_refl _,
    (incrementSingleWriterAtomic_grows context.currentlyRunningCount context.accountingOverflow).2⟩

/-- One outcome more. -/
theorem accountResult_grows (succeeded : Bool) (context : WorkerContext) :
    (∀ k : WorkerCount, k.slot context ≤ k.slot (accountResult succeeded context)) ∧
      (context.accountingOverflow = true →
        (accountResult succeeded context).accountingOverflow = true) := by
  have hsucceeded :=
    incrementSingleWriterAtomic_grows context.callbackSucceededCount context.accountingOverflow
  have hfailed :=
    incrementSingleWriterAtomic_grows context.callbackFailedCount context.accountingOverflow
  cases succeeded with
  | true =>
    refine ⟨fun k => ?_, hsucceeded.2⟩
    cases k with
    | succeeded => exact hsucceeded.1
    | _ => exact Nat.le_refl _
  | false =>
    refine ⟨fun k => ?_, hfailed.2⟩
    cases k with
    | failed => exact hfailed.1
    | _ => exact Nat.le_refl _

end Stores

/-- About to take the slots away from workers that do not run. -/
def ControllerPc.freesSlots : ControllerPc P → Bool
  | .startSyncInit | .foldLock _ _ => true
  | _ => false

def SchedulerPc.freesSlots : SchedulerPc W P → Bool
  | .controller pc => pc.freesSlots
  | _ => false

section Steps

variable [DecidableEq C] {cfg : SchedulerConfig W} {t : Thread W C}
  {choice : SchedulerChoice W C P} {sh : Scheduler W C P} {f : ClosableFifo P}

/-- Among the calls a submission counts. -/
theorem CallStepSpec.lifecycle_grows {pc : CallPc P} {out : SchedulerStep W C P (CallPc P)}
    (h : CallStepSpec cfg t choice sh pc out) : sh.lifecycle.Grows out.1.lifecycle := by
  cases h with
  | register kind task hfree =>
    have hgrows := registerSubmitter_grows (sh.lockLifecycle t).lifecycle
    exact ⟨hgrows.submissions, hgrows.flag, hgrows.sync⟩
  | enqueue kind task hq => rw [hq.frame]; exact .refl _
  | deregister task r hfree =>
    have hgrows := deregisterSubmitter_grows (sh.lockLifecycle t).lifecycle r
    exact ⟨hgrows.submissions, hgrows.flag, hgrows.sync⟩
  | captureQueue temporary hq => rw [hq.frame]; exact .refl _
  | _ => exact ⟨le_refl _, id, id⟩

/-- Every thread's steps let the counts of submissions go up. -/
theorem SchedulerStepSpec.lifecycle_grows {pc : SchedulerPc W P}
    {out : SchedulerStep W C P (SchedulerPc W P)} (h : SchedulerStepSpec cfg choice sh t pc out) :
    sh.lifecycle.Grows out.1.lifecycle := by
  cases h with
  | call c h => exact h.lifecycle_grows
  | worker i h =>
    cases h with
    | dequeue hq => rw [hq.frame]; exact .refl _
    | call task runningAccounted hcall => exact hcall.lifecycle_grows
    | queueShutdown r hq => rw [hq.frame]; exact .refl _
    | _ => exact .refl _
  | controller h =>
    cases h with
    | syncLock hfree => exact ⟨le_refl _, id, fun _ => rfl⟩
    | abortQueue hq => rw [hq.frame]; exact .refl _
    | shutdownQueue hq => rw [hq.frame]; exact .refl _
    | allocationFailed sh' hsh hfail => subst hsh; exact .refl _
    | allocated sh' hsh hthreads hcontexts hsize => subst hsh; exact .refl _
    | _ => exact ⟨le_refl _, id, id⟩

/-- Workers, and the failures of lifecycle calls, are counted once for all. -/
theorem SchedulerStepSpec.staff_grows {pc : SchedulerPc W P}
    {out : SchedulerStep W C P (SchedulerPc W P)} (h : SchedulerStepSpec cfg choice sh t pc out) :
    sh.worker.staff ≤ out.1.worker.staff := by
  cases h with
  | call c h =>
    dsimp only
    rw [h.worker]
    exact le_refl _
  | worker i h =>
    cases h with
    | dequeue hq => rw [hq.frame]
    | call task runningAccounted hcall =>
      dsimp only
      rw [hcall.worker]
      exact le_refl _
    | queueShutdown r hq => rw [hq.frame]
    -- exits count failures
    | exit r hfree hinit => exact (recordWorkerExit_grows (sh.lockWorker (.worker i)).worker r).1
    | _ => exact le_refl _
  | controller h =>
    cases h with
    | allocationFailed sh' hsh hfail => subst hsh; exact le_refl _
    | allocated sh' hsh hthreads hcontexts hsize => subst hsh; exact le_refl _
    -- the controller counts created and joined workers, and what failed
    | createFailed i faultPlan hfree hinit hfail hplan =>
      exact ⟨Nat.le_refl _, Nat.le_refl _, (incrementSaturating_grows _ _).1, Nat.le_refl _,
        Nat.le_refl _⟩
    | created i faultPlan hfree hinit hplan =>
      exact ⟨Nat.le_succ _, Nat.le_refl _, Nat.le_refl _, Nat.le_refl _, Nat.le_refl _⟩
    | releaseLock caller index event result allJoined hfree hinit =>
      cases event with
      | joined =>
        exact ⟨Nat.le_refl _, Nat.le_succ _, Nat.le_refl _, Nat.le_refl _, Nat.le_refl _⟩
      | _ =>
        exact ⟨Nat.le_refl _, Nat.le_refl _, Nat.le_refl _, Nat.le_refl _,
          (incrementSaturating_grows _ _).1⟩
    | fold caller result worker hfree hinit hfold =>
      obtain ⟨dequeued, started, succeeded, failed, overflow, rfl⟩ := foldWorkers_frame hfold
      exact le_refl _
    | abortQueue hq => rw [hq.frame]
    | shutdownQueue hq => rw [hq.frame]
    | _ => exact le_refl _

/-- The queue raises its mark and never lowers it. -/
theorem QueueStepSpec.mark_grows {T : Type} {cfg : QueueConfig} {t : T} {choice : QueueChoice T P}
    {q : ConcurrentTaskQueue T P} {pc : QueuePc P} {out : QueueSection T P}
    (h : QueueStepSpec cfg t choice q f pc out) (habs : Abstracts q f) :
    q.highWaterMark ≤ out.1.highWaterMark := by
  cases h with
  | enter hmutex henter hspec =>
    have henters := (henter.abstracts habs).highWater
    rw [habs.highWater, ← henters]
    cases hspec with
    | wait w hopen hblocked => cases w <;> exact Nat.le_refl _
    | insert task f' ring hop hinsert habs' =>
      show _ ≤ f'.highWater
      rw [henters, (ClosableFifo.insert_eq_some.mp hinsert).2.2.2.2.2]
      exact Nat.le_max_left _ _
    | _ => exact Nat.le_refl _
  | waitFailed w hfail hmutex => cases w <;> exact Nat.le_refl _
  | _ => exact Nat.le_refl _

/-- The high-water mark goes up with every step. -/
theorem SchedulerStepSpec.mark_grows {pc : SchedulerPc W P}
    {out : SchedulerStep W C P (SchedulerPc W P)} (h : SchedulerStepSpec cfg choice sh t pc out)
    (habs : Abstracts sh.queue f) : sh.queue.highWaterMark ≤ out.1.queue.highWaterMark := by
  obtain ⟨sh', pc', fx⟩ := out
  have hmove := h.queueMove
  dsimp only at hmove ⊢
  generalize pc.queue = q, pc'.queue = q' at hmove
  cases hmove with
  | run hact hq => exact (queueAct_spec habs hact).mark_grows habs
  | jump hqueue hq hq' hfx => rw [hqueue]

/-- **A step leaves the totals, and takes nothing back from the slots**, unless it frees
them. -/
theorem SchedulerStepSpec.steady {pc : SchedulerPc W P}
    {out : SchedulerStep W C P (SchedulerPc W P)} (h : SchedulerStepSpec cfg choice sh t pc out)
    (hself : ThreadOk sh t pc) (hfrees : pc.freesSlots = false) :
    sh.worker.Steady out.1.worker := by
  have hsame : ∀ {w' : WorkerDomain W (Thread W C)},
      w'.workerContexts = sh.worker.workerContexts →
      (∀ k : WorkerCount, k.folded w' = k.folded sh.worker) →
      w'.accountingOverflow = sh.worker.accountingOverflow → sh.worker.Steady w' :=
    fun hcontexts hfolded hflag => .same hcontexts hfolded fun h => hflag.trans h
  have hcall : ∀ {pc : CallPc P} {out : SchedulerStep W C P (CallPc P)},
      CallStepSpec cfg t choice sh pc out → sh.worker.Steady out.1.worker := by
    intro pc out hcall
    rw [hcall.worker]
    exact hsame rfl (fun k => by cases k <;> rfl) rfl
  cases h with
  | call c h => exact hcall h
  | worker i h =>
    cases h with
    | dequeue hq => rw [hq.frame]; exact hsame rfl (fun k => by cases k <;> rfl) rfl
    | accountDequeued task hcontexts => exact .store i accountDequeued_grows
    | accountStarted task hcontexts => exact .store i accountStarted_grows
    | accountRunning task contexts hcontexts => exact .store i accountRunning_grows
    | call task runningAccounted h => exact hcall h
    | accountResult succeeded hcontexts => exact .store i (accountResult_grows succeeded)
    | accountResultOnly succeeded hcontexts => exact .store i (accountResult_grows succeeded)
    | accountRunningDone hcontexts =>
      exact .store i fun context => ⟨fun k => by cases k <;> exact Nat.le_refl _, id⟩
    | queueShutdown r hq => rw [hq.frame]; exact hsame rfl (fun k => by cases k <;> rfl) rfl
    | exit r hfree hinit =>
      have hlocked : sh.worker.Steady (sh.lockWorker (.worker i)).worker :=
        hsame rfl (fun k => by cases k <;> rfl) rfl
      exact hlocked.trans (recordWorkerExit_grows (sh.lockWorker (.worker i)).worker r).2
    | _ => exact hsame rfl (fun k => by cases k <;> rfl) rfl
  | controller h =>
    -- the context of a worker about to be created is given its identity
    have hcreating : ∀ i, sh.worker.Steady (creating sh i) := by
      intro i
      have hlocked : sh.worker.Steady (sh.lockWorker .controller).worker :=
        hsame rfl (fun k => by cases k <;> rfl) rfl
      exact hlocked.trans (.store i fun context =>
        ⟨fun k => by cases k <;> exact Nat.le_refl _, id⟩)
    -- before a start there are no slots
    have hbare : ∀ {w' : WorkerDomain W (Thread W C)}, sh.crew.Empty →
        (∀ k : WorkerCount, k.folded w' = k.folded sh.worker) →
        w'.accountingOverflow = sh.worker.accountingOverflow → sh.worker.Steady w' := by
      intro w' hempty hfolded hflag
      refine ⟨hfolded, fun contexts hcontexts => ?_, fun h => hflag.trans h⟩
      have hnone : sh.worker.workerContexts.isSome = false := hempty.contexts
      rw [hcontexts] at hnone
      cases hnone
    cases h with
    | allocationFailed sh' hsh hfail =>
      subst hsh
      exact hbare hself.1.2.1 (fun k => by cases k <;> rfl) rfl
    | allocated sh' hsh hthreads hcontexts hsize =>
      subst hsh
      exact hbare hself.1.2.1 (fun k => by cases k <;> rfl) rfl
    | syncInit => cases hfrees
    | syncInitFailed mutexInitialized hmutex hfail => cases hfrees
    | createFailed i faultPlan hfree hinit hfail hplan =>
      exact (hcreating i).trans
        (.same rfl (fun k => by cases k <;> rfl) (incrementSaturating_grows _ _).2)
    | created i faultPlan hfree hinit hplan =>
      exact (hcreating i).trans (.same rfl (fun k => by cases k <;> rfl) id)
    | releaseLock caller index event result allJoined hfree hinit =>
      cases event with
      | joined => exact hsame rfl (fun k => by cases k <;> rfl) rfl
      | _ => exact .same rfl (fun k => by cases k <;> rfl) (incrementSaturating_grows _ _).2
    | fold caller result worker hfree hinit hfold => cases hfrees
    | abortQueue hq => rw [hq.frame]; exact hsame rfl (fun k => by cases k <;> rfl) rfl
    | shutdownQueue hq => rw [hq.frame]; exact hsame rfl (fun k => by cases k <;> rfl) rfl
    | _ => exact hsame rfl (fun k => by cases k <;> rfl) rfl

/-- **What the workers count only goes up**, also when their slots are freed. -/
theorem SchedulerStepSpec.worker_grows {pc : SchedulerPc W P}
    {out : SchedulerStep W C P (SchedulerPc W P)} (h : SchedulerStepSpec cfg choice sh t pc out)
    (hself : ThreadOk sh t pc) (hspare : sh.SpareSlots) (hfits : sh.worker.Fits) :
    sh.worker.Grows out.1.worker ∧ out.1.worker.Fits := by
  have hsteady : sh.worker.Steady out.1.worker → sh.worker.Grows out.1.worker ∧ out.1.worker.Fits :=
    fun hsteady => ⟨hsteady.grows, fun k => (hsteady.folded k).trans_le (hfits k)⟩
  -- only two steps free the slots, and the totals have to make up for them
  by_cases hfrees : pc.freesSlots = false
  · exact hsteady (h.steady hself hfrees)
  · cases h with
    | call c h => exact absurd rfl hfrees
    | worker i h => exact absurd rfl hfrees
    | controller h =>
      cases h with
      | syncInit => exact hsteady (.same rfl (fun k => by cases k <;> rfl) id)
      -- a start that fails this early frees slots that nobody used
      | syncInitFailed mutexInitialized hmutex hfail =>
        obtain ⟨contexts, hcontexts⟩ := Option.isSome_iff_exists.mp hself.1.2.1.contexts
        have hzero : sh.worker.createdWorkerCount = 0 := hself.1.2.1.created
        have huntouched := fun i => hspare contexts hcontexts i (by rw [hzero]; exact Nat.zero_le _)
        refine ⟨⟨fun k => ?_, ?_⟩, fun k => ?_⟩
        · rw [WorkerDomain.counted_untouched hcontexts huntouched, WorkerDomain.counted_none rfl]
          cases k <;> exact Nat.min_le_right _ _
        · rintro (hflag | ⟨contexts₁, h₁, i, hflag⟩ | ⟨k, hover⟩)
          · exact .inl hflag
          · cases hcontexts.symm.trans h₁
            rw [(huntouched i).2.2.2.2] at hflag
            cases hflag
          · rw [WorkerDomain.counted_untouched hcontexts huntouched] at hover
            exact absurd (hfits k) (Nat.not_le.mpr hover)
        · cases k with
          | dequeued => exact hfits .dequeued
          | started => exact hfits .started
          | succeeded => exact hfits .succeeded
          | failed => exact hfits .failed
      -- the fold adds the slots to the totals before it frees them
      | fold caller result worker hfree hinit hfold =>
        have hlocked : sh.worker.Steady (sh.lockWorker .controller).worker :=
          .same rfl (fun k => by cases k <;> rfl) id
        have hspared : ∀ contexts, (sh.lockWorker .controller).worker.workerContexts =
            some contexts →
            ∀ i : Fin W, (sh.lockWorker .controller).worker.startedWorkerCount ≤ (i : ℕ) →
              (contexts i).Untouched := by
          intro contexts hcontexts i hi
          refine hspare contexts hcontexts i ?_
          have hsome : sh.worker.workerContexts.isSome = true :=
            Option.isSome_iff_exists.mpr ⟨contexts, hcontexts⟩
          exact (hself.1.started_eq hsome).symm.trans_le hi
        obtain ⟨hgrows, hfits'⟩ := foldWorkers_grows hfold
          (fun k => (hlocked.folded k).trans_le (hfits k)) hspared
        refine ⟨⟨fun k => ?_, fun hover => ?_⟩, hfits'⟩
        · have hcount := hlocked.counted k
          have hfold' := hgrows.counted k
          dsimp only
          omega
        · exact hgrows.overflowing (hlocked.grows.overflowing hover)
      | _ => exact absurd rfl hfrees

end Steps

section Reachable

variable [DecidableEq C] [Fintype C] {cfg : SchedulerConfig W} {t : Thread W C}
  {choice : SchedulerChoice W C P} {s s' : SchedulerPool W C P}

/-- The totals fit their counters in every reachable state. -/
theorem SchedulerReachable.fits (h : SchedulerReachable cfg s) : s.shared.worker.Fits := by
  refine h.invariant (I := fun s => s.shared.worker.Fits) ?_ ?_
  · intro queue _ k
    cases k <;> exact Nat.zero_le _
  · intro u u' t choice hreach hfits hstep
    obtain ⟨pc, fx, hspec, hfx⟩ := hreach.threads.step_spec hstep
    exact (hspec.worker_grows (hreach.lifecycle.threads t) hreach.spareSlots hfits).2

/-- **Every step of every thread raises the counters.** -/
theorem SchedulerReachable.grows (h : SchedulerReachable cfg s)
    (hstep : (schedulerProgram cfg).step t choice s = some s') : s.shared.Grows s'.shared := by
  obtain ⟨pc, fx, hspec, hfx⟩ := h.threads.step_spec hstep
  obtain ⟨f, habs, -⟩ := h.threads.abstracts
  exact
    { lifecycle := hspec.lifecycle_grows
      staff := hspec.staff_grows
      worker := (hspec.worker_grows (h.lifecycle.threads t) h.spareSlots h.fits).1
      mark := hspec.mark_grows habs }

end Reachable

end SchedulingEngine
