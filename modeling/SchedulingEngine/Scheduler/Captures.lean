import SchedulingEngine.Scheduler.Acceptances

/-!
# Snapshots of the slots (scheduler.c)

A capture loads the counters of a slot one after the other, while its worker goes on
counting. A snapshot can therefore count a callback as started whose Task it does not count
as dequeued, of a healthy scheduler (`snapshot_torn`). `Tears` is the step that comes
between two such loads, and in a run without it every snapshot keeps the bounds inside the
worker domain (`captured_ordered`), by an invariant that says of each capture under way
what it is about to load.
-/

namespace SchedulingEngine

open Concurrency

variable {W : ℕ} {C P : Type}

/-! ## Torn captures -/

/-- A capture at this field has loaded a counter of the slot, and not one that bounds it. -/
def SlotField.watches : SlotField → WorkerCount → Bool
  | .callbackStarted, .started | .callbackSucceeded, .succeeded | .callbackSucceeded, .failed
  | .callbackFailed, .failed => true
  | _, _ => false

/-- A capture of the slot of worker `i` that has yet to load the count `k`. -/
def CallPc.watches (i : Fin W) (k : WorkerCount) : CallPc P → Bool
  | .captureLoad _ index field => index = (i : ℕ) && field.watches k
  | _ => false

/-- A step by which a worker counts a stage of a Task that a capture of its slot has yet
to load, after it has loaded the stage before. -/
def Tears (s : SchedulerPool W C P) (t : Thread W C) : Prop :=
  ∃ i u k, t = .worker i ∧ (s.pc t).stores k ≠ 0 ∧ (s.pc u).toCall.watches i k = true

instance [DecidableEq C] [Fintype C] (s : SchedulerPool W C P) (t : Thread W C) :
    Decidable (Tears s t) := inferInstanceAs (Decidable (∃ _, _))

/-! ## Started, succeeded and failed -/

/-- The bounds inside the worker domain. -/
structure SchedulerSnapshot.Ordered (snapshot : SchedulerSnapshot)
    (started finished : ℕ) : Prop where
  started : snapshot.callbackStartedCount + started ≤ snapshot.dequeuedCount
  finished : snapshot.callbackSucceededCount + snapshot.callbackFailedCount + finished
    ≤ snapshot.callbackStartedCount
  bounded : snapshot.callbackStartedCount ≤ uint64Max

/-- What a capture at this field is about to add to its started and finished callbacks,
without a load of what bounds them. -/
def SlotField.ahead (count : WorkerCount → ℕ) : SlotField → ℕ × ℕ
  | .callbackStarted => (count .started, 0)
  | .callbackSucceeded => (0, count .succeeded + count .failed)
  | .callbackFailed => (0, count .failed)
  | _ => (0, 0)

/-- A capture keeps the bounds, with what it is about to load. -/
def CallPc.Ordered (sh : Scheduler W C P) : CallPc P → Prop
  | .captureLoad temporary index field => temporary.overflowDetected = false →
    ∀ i : Fin W, (i : ℕ) = index →
      temporary.Ordered (field.ahead (sh.slotCount i)).1 (field.ahead (sh.slotCount i)).2
  | .captureLifecycleUnlock temporary _ | .captureWorkerUnlock temporary
  | .captureQueue temporary _ | .captured (some temporary) =>
    temporary.overflowDetected = false → temporary.Ordered 0 0
  | _ => True

theorem CallPc.ordered_wake (sh : Scheduler W C P) (pc : CallPc P) :
    pc.wake.Ordered sh = pc.Ordered sh := by
  cases pc <;> rfl

section Ordered

variable {sh sh' : Scheduler W C P}

/-- A load that did not overflow. -/
theorem captureField_exact {context : WorkerContext} {temporary : SchedulerSnapshot}
    {field : SlotField} (h : (captureField context temporary field).overflowDetected = false) :
    temporary.overflowDetected = false := by
  cases field with
  | accountingOverflow => exact (Bool.or_eq_false_iff.mp h).1
  | _ => exact (addSaturating_exact h).1

/-- **One load keeps the bounds**, by the order of the counts in the slot. -/
theorem captureField_ordered {context : WorkerContext} {temporary : SchedulerSnapshot}
    {field next : SlotField} (hnext : field.next = some next)
    (hslot : context.callbackStartedCount ≤ context.dequeuedCount ∧
      context.callbackSucceededCount + context.callbackFailedCount ≤ context.callbackStartedCount)
    (hexact : (captureField context temporary field).overflowDetected = false)
    (h : temporary.Ordered (field.ahead fun k => k.slot context).1
      (field.ahead fun k => k.slot context).2) :
    (captureField context temporary field).Ordered (next.ahead fun k => k.slot context).1
      (next.ahead fun k => k.slot context).2 := by
  obtain ⟨hstarted, hfinished, hbounded⟩ := h
  obtain ⟨hslotStarted, hslotFinished⟩ := hslot
  cases field with
  | accountingOverflow => cases hnext
  | currentlyRunning =>
    cases hnext
    exact ⟨hstarted, hfinished, hbounded⟩
  -- with the dequeues loaded, what is ahead are the starts of the same slot
  | dequeued =>
    cases hnext
    have hload := (addSaturating_exact hexact).2
    refine ⟨?_, hfinished, hbounded⟩
    show _ + context.callbackStartedCount ≤ (addSaturating _ _ _).1
    rw [hload]
    exact Nat.add_le_add hstarted hslotStarted
  -- then the outcomes of the slot, which are no more than its starts
  | callbackStarted =>
    cases hnext
    have hload := (addSaturating_exact hexact).2
    refine ⟨?_, ?_, addSaturating_le hbounded⟩
    · show (addSaturating _ _ _).1 + 0 ≤ _
      rw [hload]
      exact hstarted
    · show _ + (context.callbackSucceededCount + context.callbackFailedCount)
        ≤ (addSaturating _ _ _).1
      rw [hload]
      exact Nat.add_le_add hfinished hslotFinished
  | callbackSucceeded =>
    cases hnext
    have hload := (addSaturating_exact hexact).2
    refine ⟨hstarted, ?_, hbounded⟩
    show (addSaturating _ _ _).1 + temporary.callbackFailedCount + context.callbackFailedCount ≤ _
    rw [hload]
    refine Nat.le_trans (Nat.le_of_eq ?_) hfinished
    show _ = temporary.callbackSucceededCount + temporary.callbackFailedCount
      + (context.callbackSucceededCount + context.callbackFailedCount)
    omega
  -- the last load leaves nothing ahead
  | callbackFailed =>
    cases hnext
    have hload := (addSaturating_exact hexact).2
    refine ⟨hstarted, ?_, hbounded⟩
    show temporary.callbackSucceededCount + (addSaturating _ _ _).1 + 0 ≤ _
    rw [hload]
    refine Nat.le_trans (Nat.le_of_eq ?_) hfinished
    show _ = temporary.callbackSucceededCount + temporary.callbackFailedCount
      + context.callbackFailedCount
    omega

/-- The last load of a slot reads a flag. -/
theorem captureField_last {context : WorkerContext} {temporary : SchedulerSnapshot}
    (h : temporary.Ordered 0 0) :
    (captureField context temporary .accountingOverflow).Ordered 0 0 :=
  ⟨h.started, h.finished, h.bounded⟩

variable [DecidableEq C] {cfg : SchedulerConfig W} {t : Thread W C}
  {choice : SchedulerChoice W C P}

/-- The capture itself. -/
theorem CallStepSpec.ordered {pc : CallPc P} {out : SchedulerStep W C P (CallPc P)}
    (h : CallStepSpec cfg t choice sh pc out) (hfolded : FoldedBalanced sh.worker)
    (hslots : ∀ i, sh.slotCount i .started ≤ sh.slotCount i .dequeued ∧
      sh.slotCount i .succeeded + sh.slotCount i .failed ≤ sh.slotCount i .started)
    (hordered : pc.Ordered sh) : out.2.1.Ordered out.1 := by
  -- the folded totals are balanced
  have htotals : ∀ temporary, (SchedulingEngine.captureWorker sh.worker temporary).Ordered 0 0 :=
    fun temporary => ⟨Nat.le_of_eq hfolded.started.symm, Nat.le_of_eq hfolded.finished.symm,
      hfolded.bounded⟩
  cases h with
  | captureLifecycle hfree => exact fun _ => ⟨Nat.le_refl _, Nat.le_refl _, Nat.zero_le _⟩
  | captureNoWorkers temporary hheld => exact hordered
  | captureWorker temporary hfree hinit hstarted => exact fun _ _ _ => htotals temporary
  | captureNoSlots temporary hfree hinit hstarted => exact fun _ => htotals temporary
  | captureLoad temporary index field next contexts hcontexts hnext =>
    intro hexact i hi
    -- the slot that is being loaded has not been stored to since its first load
    obtain rfl : i = index := Fin.ext hi
    have hslot := hslots i
    have hbefore := hordered (captureField_exact hexact) i rfl
    have hcount : sh.slotCount i = fun k => k.slot (contexts i) :=
      funext fun k => Scheduler.slotCount_some hcontexts i k
    rw [hcount] at hslot hbefore ⊢
    exact captureField_ordered hnext hslot hexact hbefore
  | captureNextSlot temporary index contexts hcontexts hindex =>
    intro hexact _ _
    exact captureField_last (hordered (captureField_exact hexact) index rfl)
  | captureLastSlot temporary index contexts hcontexts hindex =>
    intro hexact
    exact captureField_last (hordered (captureField_exact hexact) index rfl)
  | captureWorkerDone temporary hheld => exact hordered
  | captureQueue temporary hq =>
    cases hq with
    | run hact hleave => exact hordered
    | leave op r =>
      cases r with
      | snapshot value =>
        cases value with
        | none => trivial
        | some value =>
          intro hexact
          obtain ⟨hstarted, hfinished, hbounded⟩ := hordered hexact
          exact ⟨hstarted, hfinished, hbounded⟩
      | _ => trivial
  | enqueue kind task hq => cases hq <;> trivial
  | _ => trivial

omit [DecidableEq C] in
/-- The steps of others, which do not count what the capture is about to load. -/
theorem CallPc.Ordered.frame {pc : CallPc P} (hordered : pc.Ordered sh)
    (hslots : ∀ i : Fin W, ∀ k, pc.watches i k = true → sh'.slotCount i k ≤ sh.slotCount i k) :
    pc.Ordered sh' := by
  cases pc with
  | captureLoad temporary index field =>
    intro hexact i hi
    obtain ⟨hstarted, hfinished, hbounded⟩ := hordered hexact i hi
    have hle : ∀ k, field.watches k = true → sh'.slotCount i k ≤ sh.slotCount i k :=
      fun k hk => hslots i k (by simp [CallPc.watches, hi, hk])
    cases field with
    | callbackStarted =>
      exact ⟨Nat.le_trans (Nat.add_le_add_left (hle .started rfl) _) hstarted, hfinished, hbounded⟩
    | callbackSucceeded =>
      refine ⟨hstarted, Nat.le_trans (Nat.add_le_add_left ?_ _) hfinished, hbounded⟩
      exact Nat.add_le_add (hle .succeeded rfl) (hle .failed rfl)
    | callbackFailed =>
      exact ⟨hstarted, Nat.le_trans (Nat.add_le_add_left (hle .failed rfl) _) hfinished, hbounded⟩
    | _ => exact ⟨hstarted, hfinished, hbounded⟩
  | captured snapshot => cases snapshot <;> exact hordered
  | _ => exact hordered

end Ordered

section OrderedRuns

variable [DecidableEq C] [Fintype C] {cfg : SchedulerConfig W} {t : Thread W C}
  {choice : SchedulerChoice W C P} {s s' : SchedulerPool W C P}

/-- **One step keeps the captures ordered**, if it does not tear them. -/
theorem ordered_step (hreach : SchedulerReachable cfg s) (hok : ¬Tears s t)
    (hstep : (schedulerProgram cfg).step t choice s = some s') (hexact' : s'.shared.Exact)
    (h : ∀ u, (s.pc u).toCall.Ordered s.shared) : ∀ u, (s'.pc u).toCall.Ordered s'.shared := by
  obtain ⟨pc, fx, hspec, hfx⟩ := hreach.threads.step_spec hstep
  obtain ⟨f, habs, -⟩ := hreach.threads.abstracts
  have hself := hreach.lifecycle.threads t
  have hexact := (hreach.exact_before hstep hexact').2
  refine Program.forall_step (fun _ sh (pc : SchedulerPc W P) => pc.toCall.Ordered sh)
    ?_ hfx ?_ ?_ h
  · intro u sh
    refine schedulerProgram_blind (fun pc => ?_) fun _ => rfl
    rw [SchedulerPc.toCall_wake, CallPc.ordered_wake]
  · rcases hspec.call_cases with ⟨-, hidle⟩ | ⟨call, hcall, hsh, hpc⟩
    · dsimp only at hidle ⊢
      rw [hidle]
      trivial
    · dsimp only at hsh hpc ⊢
      rw [hsh, hpc]
      exact hcall.ordered (hreach.slots.folded hexact) (hreach.slot_ordered hexact) (h t)
  · intro u hu hordered
    refine hordered.frame fun i k hwatches => ?_
    rcases hspec.slotCount habs hself hexact'.2 i with hcount | ⟨hzero, -⟩
    · rw [hcount]
      split
      · rename_i ht
        have hnone : (s.pc t).stores k = 0 := by
          by_contra hne
          exact hok ⟨i, u, k, ht, hne, hwatches⟩
        rw [hnone]
        exact Nat.le_refl _
      · exact Nat.le_refl _
    · rw [hzero]
      exact Nat.zero_le _

omit [DecidableEq C] [Fintype C] in
theorem ordered_initial (queue : TaskQueue P) :
    ∀ u, ((schedulerInitial queue : SchedulerPool W C P).pc u).toCall.Ordered
      (schedulerInitial (C := C) (W := W) queue).shared := by
  rintro (_ | i | c) <;> trivial

/-- What `scheduler_snapshot_validate_basic` answers without its checks of the callbacks. -/
def SchedulerSnapshot.withoutCallbacks (snapshot : SchedulerSnapshot) : SchedulerSnapshot :=
  { snapshot with
    callbackStartedCount := 0
    callbackSucceededCount := 0
    callbackFailedCount := 0 }

omit [DecidableEq C] [Fintype C] in
/-- The 64-bit subtraction of the checks does not wrap. -/
theorem SchedulerSnapshot.Ordered.room {snapshot : SchedulerSnapshot} (h : snapshot.Ordered 0 0) :
    snapshot.callbackSucceededCount ≤ snapshot.callbackStartedCount ∧
      snapshot.callbackFailedCount
        ≤ uint64Sub snapshot.callbackStartedCount snapshot.callbackSucceededCount := by
  have hfinished := h.finished
  have hbounded : snapshot.callbackStartedCount ≤ 2 ^ 64 - 1 := h.bounded
  have hle : snapshot.callbackSucceededCount ≤ snapshot.callbackStartedCount := by omega
  refine ⟨hle, ?_⟩
  unfold uint64Sub
  rw [Nat.add_sub_assoc hle, Nat.add_mod_left, Nat.mod_eq_of_lt (by omega)]
  omega

/-- **A snapshot keeps the order of the stages**, in every run without overflow in which no
capture is torn; then neither validation rejects it for them. -/
theorem captured_ordered {queue : TaskQueue P} (hW : 0 < W)
    (hinit : taskQueueInit cfg.capacity true = (.ok, some queue))
    (hrun : (schedulerProgram cfg).StepsIf (fun s t => ¬Tears s t) (schedulerInitial queue) s)
    (hexact : s.shared.Exact) {u : Thread W C} {snapshot : SchedulerSnapshot}
    (hcaptured : (s.pc u).toCall = .captured (some snapshot))
    (hflag : snapshot.overflowDetected = false) :
    snapshot.callbackStartedCount ≤ snapshot.dequeuedCount ∧
      snapshot.callbackSucceededCount + snapshot.callbackFailedCount
        ≤ snapshot.callbackStartedCount ∧
      ¬(schedulerSnapshotValidate snapshot .live).Records .callbackStartsExceedDequeued ∧
      ¬(schedulerSnapshotValidate snapshot .live).Records .callbackOutcomesExceedStarts ∧
      schedulerSnapshotValidateBasic snapshot
        = schedulerSnapshotValidateBasic snapshot.withoutCallbacks := by
  have hordered : s.shared.Exact → ∀ u, (s.pc u).toCall.Ordered s.shared := by
    refine hrun.invariant (I := fun s => s.shared.Exact → ∀ u, (s.pc u).toCall.Ordered s.shared)
      (fun _ => ordered_initial queue) ?_
    intro v v' t choice hv hok hstep ih hexact'
    have hreach : SchedulerReachable cfg v := ⟨hW, queue, hinit, hv⟩
    exact ordered_step hreach hok hstep hexact' (ih (hreach.exact_before hstep hexact'))
  have hbounds := hordered hexact u
  rw [hcaptured] at hbounds
  have hbounds := hbounds hflag
  obtain ⟨hle, hroom⟩ := hbounds.room
  have hstarted : snapshot.callbackStartedCount ≤ snapshot.dequeuedCount := hbounds.started
  refine ⟨hstarted, hbounds.finished, live_silent rfl (Nat.not_lt.mpr hstarted),
    live_silent rfl ?_, ?_⟩
  · rintro (hexceeds | hexceeds)
    · exact absurd hexceeds (Nat.not_lt.mpr hle)
    · exact absurd hexceeds (Nat.not_lt.mpr hroom)
  · unfold schedulerSnapshotValidateBasic SchedulerSnapshot.withoutCallbacks
    simp only [gt_iff_lt, Nat.not_lt_zero, decide_false, decide_eq_false (Nat.not_lt.mpr hstarted),
      decide_eq_false (Nat.not_lt.mpr hle), decide_eq_false (Nat.not_lt.mpr hroom)]

end OrderedRuns

theorem captured_ordered_after_task :
    ∃ (s : SchedulerPool 1 (Fin 2) ℕ) (snapshot : SchedulerSnapshot),
      (s.pc (.client 1)).toCall = .captured (some snapshot) ∧ snapshot.callbackStartedCount = 1 ∧
      snapshot.callbackStartedCount ≤ snapshot.dequeuedCount := by
  have hobs : ((schedulerProgram reliableConfig).run captureSchedule
      (schedulerInitial smallQueue)).map (fun s =>
        ((s.pc (.client 1)).toCall, decide s.shared.Exact))
      = some (.captured (some
          { version := 1, consistency := 1, state := .running, submissionsOpen := true,
            configuredWorkerCount := 1, submittedCount := 1, acceptedCount := 1,
            createdWorkerCount := 1, readyWorkerCount := 1, activeWorkerCount := 1,
            dequeuedCount := 1, callbackStartedCount := 1, callbackSucceededCount := 1,
            queueCapacity := 1, queueHighWaterMark := 1 }), true) := by decide +kernel
  obtain ⟨s, hrun, hobs⟩ := Option.map_eq_some_iff.mp hobs
  obtain ⟨hcaptured, hexact⟩ := Prod.mk.inj hobs
  have hallowed : (schedulerProgram reliableConfig).allowed (fun s t => ¬Tears s t)
      captureSchedule (schedulerInitial smallQueue) = true := by decide +kernel
  refine ⟨s, _, hcaptured, rfl, ?_⟩
  exact (captured_ordered Nat.one_pos (by decide) (Program.stepsIf_of_run hallowed hrun)
    (of_decide_eq_true hexact) hcaptured rfl).1

/-- The worker counts a Task as dequeued and as started between a capture's loads of the
two counters. -/
def tornSchedule : SmallSchedule :=
  startSchedule ++ makes firstClient (.submit .submit (some 7)) 8 ++ makes secondClient .capture 4
    ++ advance soleWorker 5 ++ advance secondClient 9

/-- The scheduler runs, nothing has failed and no counter has overflowed, and a snapshot
counts more callbacks as started than Tasks as dequeued. -/
theorem snapshot_torn :
    ∃ (s : SchedulerPool 1 (Fin 2) ℕ) (snapshot : SchedulerSnapshot),
      SchedulerReachable reliableConfig s ∧ s.shared.Exact ∧
      s.shared.lifecycle.state = .running ∧
      (s.pc (.client 1)).toCall = .captured (some snapshot) ∧
      snapshot.overflowDetected = false ∧
      snapshot.dequeuedCount < snapshot.callbackStartedCount ∧
      (schedulerSnapshotValidate snapshot .live).Records .callbackStartsExceedDequeued ∧
      schedulerSnapshotValidateBasic snapshot = false ∧
      schedulerSnapshotValidateBasic snapshot.withoutCallbacks = true := by
  obtain ⟨s, hreach, hobs⟩ := reachable_of_run tornSchedule
    (fun s => ((s.pc (.client 1)).toCall, s.shared.lifecycle.state, decide s.shared.Exact))
    (v := (.captured (some
          { version := 1, consistency := 1, state := .running, submissionsOpen := true,
            configuredWorkerCount := 1, submittedCount := 1, acceptedCount := 1,
            createdWorkerCount := 1, readyWorkerCount := 1, activeWorkerCount := 1,
            callbackStartedCount := 1, queueCapacity := 1, queueHighWaterMark := 1 }),
        .running, true)) (by decide +kernel)
  obtain ⟨hcaptured, hobs⟩ := Prod.mk.inj hobs
  obtain ⟨hstate, hexact⟩ := Prod.mk.inj hobs
  exact ⟨s, _, hreach, of_decide_eq_true hexact, hstate, hcaptured, rfl, by decide,
    ⟨⟨.callbackStartsExceedDequeued, .violation, 1, 0⟩, by decide, rfl⟩, by decide, by decide⟩

end SchedulingEngine
