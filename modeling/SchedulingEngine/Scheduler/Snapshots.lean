import SchedulingEngine.Observability.Exactness
import SchedulingEngine.Scheduler.Captures
import SchedulingEngine.Scheduler.Headcount

/-!
# What every snapshot shows

`scheduler_capture_snapshot` copies the lifecycle domain, the worker domain with the slots
of the workers, and the queue at three different moments. Still, every snapshot keeps the
bounds that `validate_structural` checks (`captured_structural`):

- the counts of workers are copied together, under `worker_mutex`;
- the slots are loaded under `worker_mutex` as well. The workers go on storing to them, but
  none of them can register or exit meanwhile, and a slot counts one running callback at
  most, of a worker that is active (`CallPc.Structured`);
- the queue's size, mark and capacity are copied together, under its mutex.
-/

namespace SchedulingEngine

open Concurrency

variable {W : ℕ} {C P : Type}

/-! ## Partial sums over the workers -/

/-- The sum over the workers below `n`. -/
def sumBelow (v : Fin W → ℕ) (n : ℕ) : ℕ := ∑ i : Fin W, if (i : ℕ) < n then v i else 0

theorem sumBelow_zero (v : Fin W → ℕ) : sumBelow v 0 = 0 :=
  Finset.sum_eq_zero fun _ _ => if_neg (Nat.not_lt_zero _)

/-- One slot more. -/
theorem sumBelow_succ (v : Fin W → ℕ) (i : Fin W) : sumBelow v (i + 1) = sumBelow v i + v i := by
  have hone : ∑ j : Fin W, (if j = i then v j else 0) = v i := by simp
  unfold sumBelow
  rw [← hone, ← Finset.sum_add_distrib]
  refine Finset.sum_congr rfl fun j _ => ?_
  by_cases hji : j = i
  · subst hji
    simp
  · have hlt : (j : ℕ) < i + 1 ↔ (j : ℕ) < i := by
      have hne := Fin.val_ne_of_ne hji
      omega
    simp [hji, hlt]

/-- The slots below `n` are some of all slots. -/
theorem sumBelow_le (v : Fin W → ℕ) (n : ℕ) : sumBelow v n ≤ ∑ i, v i := by
  refine Finset.sum_le_sum fun i _ => ?_
  split
  · exact Nat.le_refl _
  · exact Nat.zero_le _

/-! ## The queue's part -/

/-- What a capture of the queue has read. -/
def QueueReturn.Reads (A : ConcurrentTaskQueueRuntimeSnapshot → Prop) : QueueReturn P → Prop
  | .snapshot (some value) => A value
  | _ => True

def QueuePc.Reads (A : ConcurrentTaskQueueRuntimeSnapshot → Prop) : QueuePc P → Prop
  | .unlock _ r | .returned _ r => r.Reads A
  | _ => True

theorem QueuePc.reads_wake (A : ConcurrentTaskQueueRuntimeSnapshot → Prop) (q : QueuePc P) :
    q.wake.Reads A = q.Reads A := by
  cases q <;> rfl

/-- What was read keeps what follows from it. -/
theorem QueueReturn.Reads.mono {A B : ConcurrentTaskQueueRuntimeSnapshot → Prop}
    (hAB : ∀ value, A value → B value) {r : QueueReturn P} (h : r.Reads A) : r.Reads B := by
  unfold QueueReturn.Reads at h ⊢
  split at h
  · exact hAB _ h
  · trivial

theorem QueuePc.Reads.mono {A B : ConcurrentTaskQueueRuntimeSnapshot → Prop}
    (hAB : ∀ value, A value → B value) {q : QueuePc P} (h : q.Reads A) : q.Reads B := by
  cases q with
  | unlock op r => exact QueueReturn.Reads.mono hAB h
  | returned op r => exact QueueReturn.Reads.mono hAB h
  | _ => trivial

/-- A capture reads the capacity, the size and the mark as they are. -/
theorem fifoStep_reads {A : ConcurrentTaskQueueRuntimeSnapshot → Prop} {op : QueueOperation P}
    {f f' : ClosableFifo P} {r : QueueReturn P}
    (hA : A { capacity := f.capacity, currentSize := f.contents.length,
              highWaterMark := f.highWater })
    (h : fifoStep op f = some (r, f')) : r.Reads A := by
  unfold fifoStep at h
  cases op with
  | captureRuntimeSnapshot =>
    cases h
    exact hA
  | tryEnqueue task => dsimp only at h; split at h <;> cases h <;> trivial
  | enqueue task =>
    dsimp only at h
    split at h
    · cases h
      trivial
    · split at h <;> cases h
      trivial
  | tryDequeue => dsimp only at h; split at h <;> cases h <;> trivial
  | dequeue =>
    dsimp only at h
    split at h
    · cases h
      trivial
    · split at h <;> cases h
      trivial
  | tryPeek => dsimp only at h; split at h <;> cases h <;> trivial
  | _ => cases h; trivial

/-- A capture of the queue reads the counters under the queue's mutex. -/
theorem QueueStepSpec.reads {T : Type} {cfg : QueueConfig} {t : T} {choice : QueueChoice T P}
    {q : ConcurrentTaskQueue T P} {f : ClosableFifo P} {pc : QueuePc P} {out : QueueSection T P}
    {A : ConcurrentTaskQueueRuntimeSnapshot → Prop} (h : QueueStepSpec cfg t choice q f pc out)
    (hA : A { capacity := f.capacity, currentSize := f.contents.length,
              highWaterMark := f.highWater })
    (hpc : pc.Reads A) : out.2.1.Reads A := by
  cases h with
  | callInvalid op => cases op <;> trivial
  | enter hmutex henter hspec =>
    cases hspec with
    | observe r hstep hshutdown => exact fifoStep_reads hA hstep
    | _ => trivial
  | unlock op r hmutex => exact hpc
  | _ => trivial

/-- A size under its mark, a mark under the capacity. -/
def QueueReturn.Measured : QueueReturn P → Prop
  | .snapshot (some value) =>
    value.currentSize ≤ value.highWaterMark ∧ value.highWaterMark ≤ value.capacity
  | _ => True

def QueuePc.Measured : QueuePc P → Prop
  | .unlock _ r | .returned _ r => r.Measured
  | _ => True

/-- The bounds of a queue's snapshot as a property of what was read. -/
theorem QueuePc.measured_eq : (QueuePc.Measured : QueuePc P → Prop)
    = QueuePc.Reads fun value =>
      value.currentSize ≤ value.highWaterMark ∧ value.highWaterMark ≤ value.capacity := by
  funext q
  have hreturn : ∀ r : QueueReturn P, r.Measured = r.Reads fun value =>
      value.currentSize ≤ value.highWaterMark ∧ value.highWaterMark ≤ value.capacity := by
    rintro (_ | _ | _ | _ | _) <;> rfl
  cases q with
  | unlock op r => exact hreturn r
  | returned op r => exact hreturn r
  | _ => rfl

theorem QueuePc.measured_wake (q : QueuePc P) : q.wake.Measured = q.Measured := by
  cases q <;> rfl

/-- The queue's snapshot is within its bounds, whenever it is taken. -/
theorem QueueStepSpec.measured {T : Type} {cfg : QueueConfig} {t : T} {choice : QueueChoice T P}
    {q : ConcurrentTaskQueue T P} {f : ClosableFifo P} {pc : QueuePc P} {out : QueueSection T P}
    (h : QueueStepSpec cfg t choice q f pc out) (hpc : pc.Measured) : out.2.1.Measured := by
  rw [QueuePc.measured_eq] at hpc ⊢
  exact h.reads ⟨f.length_le, f.highWater_le⟩ hpc

/-! ## A capture under way -/

namespace SchedulerSnapshot

/-- The bounds that hold from the copy of the worker domain on. -/
structure Manned (W : ℕ) (snapshot : SchedulerSnapshot) : Prop where
  configured : snapshot.configuredWorkerCount = W
  created_le : snapshot.createdWorkerCount ≤ W
  sized : snapshot.createdWorkerCount ≤ sizeMax
  ready_le : snapshot.readyWorkerCount ≤ snapshot.createdWorkerCount
  active_joined_le :
    snapshot.activeWorkerCount + snapshot.joinedWorkerCount ≤ snapshot.createdWorkerCount
  startup_le : snapshot.workerStartupFailureCount ≤ W
  flags : snapshot.FlagsMatch

/-- What the captures establish part by part is what the structural checks ask for. -/
theorem Manned.structural {snapshot : SchedulerSnapshot} (h : snapshot.Manned W)
    (hrunning : snapshot.currentlyRunningCount ≤ snapshot.activeWorkerCount)
    {queue : ConcurrentTaskQueueRuntimeSnapshot}
    (hqueue : queue.currentSize ≤ queue.highWaterMark ∧ queue.highWaterMark ≤ queue.capacity) :
    Structural { snapshot with
      queueCapacity := queue.capacity
      queueCurrentSize := queue.currentSize
      queueHighWaterMark := queue.highWaterMark } where
  size_le := hqueue.1
  highWater_le := hqueue.2
  created_le := h.created_le.trans_eq h.configured.symm
  ready_le := h.ready_le
  active_joined_le := h.active_joined_le
  running_le := hrunning
  startup_le := h.startup_le.trans_eq h.configured.symm
  flags := h.flags

end SchedulerSnapshot

/-- How many slots a capture at this field of slot `index` has loaded the running count of. -/
def SlotField.runningLoaded (index : ℕ) : SlotField → ℕ
  | .accountingOverflow => index + 1
  | _ => index

/-- What holds of a capture while the workers' activity is `active`. -/
def CallPc.Structured (active : Fin W → ℕ) : CallPc P → Prop
  | .captureLifecycleUnlock temporary _ | .captureWorkerLock temporary =>
    temporary.Manned W ∧ temporary.currentlyRunningCount = 0
  | .captureLoad temporary index field => temporary.Manned W ∧
      temporary.activeWorkerCount = ∑ i, active i ∧
      temporary.currentlyRunningCount ≤ sumBelow active (field.runningLoaded index)
  | .captureWorkerUnlock temporary =>
    temporary.Manned W ∧ temporary.currentlyRunningCount ≤ temporary.activeWorkerCount
  | .captureQueue temporary q =>
    temporary.Manned W ∧ temporary.currentlyRunningCount ≤ temporary.activeWorkerCount ∧ q.Measured
  | .captured (some snapshot) =>
    snapshot.Structural ∧ snapshot.createdWorkerCount ≤ sizeMax ∧ snapshot.configuredWorkerCount = W
  | _ => True

theorem CallPc.structured_wake (active : Fin W → ℕ) (pc : CallPc P) :
    pc.wake.Structured active = pc.Structured active := by
  cases pc with
  | captureQueue temporary q =>
    show (_ ∧ _ ∧ q.wake.Measured) = (_ ∧ _ ∧ q.Measured)
    rw [q.measured_wake]
  | _ => rfl

section Captures

variable [DecidableEq C] {cfg : SchedulerConfig W} {t : Thread W C}
  {choice : SchedulerChoice W C P} {sh : Scheduler W C P} {f : ClosableFifo P}

/-- A load of the slots keeps the other counts. -/
theorem captureField_manned (context : WorkerContext) {temporary : SchedulerSnapshot}
    (field : SlotField) (h : temporary.Manned W) : (captureField context temporary field).Manned W ∧
      (captureField context temporary field).activeWorkerCount = temporary.activeWorkerCount := by
  cases field <;> exact ⟨⟨h.1, h.2, h.3, h.4, h.5, h.6, h.7⟩, rfl⟩

/-- The counts of running callbacks loaded so far. -/
theorem captureField_running {context : WorkerContext} {temporary : SchedulerSnapshot}
    (field : SlotField) :
    (captureField context temporary field).currentlyRunningCount
      ≤ temporary.currentlyRunningCount
        + if field = .currentlyRunning then context.currentlyRunningCount else 0 := by
  cases field with
  | currentlyRunning => exact addSaturating_le_add
  | _ => exact Nat.le_refl _

/-- The bounds hold of the copy of the lifecycle domain, in which no worker is counted yet. -/
theorem captureLifecycle_manned {T : Type} (W : ℕ) (l : LifecycleDomain T) :
    (captureLifecycle W l).1.Manned W where
  configured := rfl
  created_le := Nat.zero_le _
  sized := Nat.zero_le _
  ready_le := Nat.zero_le _
  active_joined_le := Nat.zero_le _
  startup_le := Nat.zero_le _
  flags := by
    unfold captureLifecycle SchedulerSnapshot.FlagsMatch
    cases l.state <;> simp [snapshotStateFromInternal]

/-- The capture itself. -/
theorem CallStepSpec.structured {active : Fin W → ℕ} {pc : CallPc P}
    {out : SchedulerStep W C P (CallPc P)} (h : CallStepSpec cfg t choice sh pc out)
    (habs : Abstracts sh.queue f)
    (hworker : ∀ temporary : SchedulerSnapshot, temporary.Manned W →
      (SchedulingEngine.captureWorker sh.worker temporary).Manned W)
    (hactive : sh.worker.activeWorkerCount = ∑ i, active i)
    (hrunning : ∀ contexts, sh.worker.workerContexts = some contexts → ∀ i,
      (contexts i).currentlyRunningCount ≤ active i)
    (hstructured : pc.Structured active) : out.2.1.Structured active := by
  cases h with
  | captureLifecycle hfree => exact ⟨captureLifecycle_manned W sh.lifecycle, rfl⟩
  | captureNoWorkers temporary hheld =>
    exact ⟨hstructured.1, hstructured.2.trans_le (Nat.zero_le _), trivial⟩
  | captureLifecycleDone temporary hheld => exact hstructured
  | captureWorker temporary hfree hinit hstarted =>
    exact ⟨hworker temporary hstructured.1, hactive, hstructured.2.trans_le (Nat.zero_le _)⟩
  | captureNoSlots temporary hfree hinit hstarted =>
    exact ⟨hworker temporary hstructured.1, hstructured.2.trans_le (Nat.zero_le _)⟩
  -- the running counts loaded so far stay below the activity of their workers
  | captureLoad temporary index field next contexts hcontexts hnext =>
    obtain ⟨hmanned, hcount, hloaded⟩ := hstructured
    obtain ⟨hmanned', hcount'⟩ := captureField_manned (contexts index) field hmanned
    refine ⟨hmanned', hcount'.trans hcount, Nat.le_trans (captureField_running field) ?_⟩
    cases field with
    | currentlyRunning =>
      cases hnext
      show temporary.currentlyRunningCount + (contexts index).currentlyRunningCount
        ≤ sumBelow active (index + 1)
      rw [sumBelow_succ]
      exact Nat.add_le_add hloaded (hrunning contexts hcontexts index)
    | accountingOverflow => cases hnext
    | _ => cases hnext; exact hloaded
  | captureNextSlot temporary index contexts hcontexts hindex =>
    obtain ⟨hmanned, hcount, hloaded⟩ := hstructured
    exact ⟨(captureField_manned _ .accountingOverflow hmanned).1, hcount, hloaded⟩
  -- after the last slot the sum is below the number of active workers
  | captureLastSlot temporary index contexts hcontexts hindex =>
    obtain ⟨hmanned, hcount, hloaded⟩ := hstructured
    exact ⟨(captureField_manned _ .accountingOverflow hmanned).1,
      Nat.le_trans hloaded ((sumBelow_le active _).trans_eq hcount.symm)⟩
  | captureWorkerDone temporary hheld => exact ⟨hstructured.1, hstructured.2, trivial⟩
  | captureQueue temporary hq =>
    obtain ⟨hmanned, hle, hmeasured⟩ := hstructured
    cases hq with
    | run hact hleave => exact ⟨hmanned, hle, (queueAct_spec habs hact).measured hmeasured⟩
    | leave op r =>
      cases r with
      | snapshot value =>
        cases value with
        | none => trivial
        | some value =>
          exact ⟨hmanned.structural hle hmeasured, hmanned.sized, hmanned.configured⟩
      | _ => trivial
  | enqueue kind task hq => cases hq <;> trivial
  | _ => trivial

omit [DecidableEq C] in
/-- A call that holds `worker_mutex` holds it for its thread. -/
theorem SchedulerPc.holdsWorker_toCall {pc : SchedulerPc W P} (h : pc.toCall.holdsWorker = true) :
    pc.holdsWorker = true := by
  cases pc with
  | call pc => exact h
  | worker i pc =>
    cases pc with
    | callback task runningAccounted call => exact h
    | _ => cases h
  | controller pc => cases h

/-- Workers register and exit under `worker_mutex`, and not in the middle of a call. -/
theorem SchedulerStepSpec.active_stays {pc : SchedulerPc W P}
    {out : SchedulerStep W C P (SchedulerPc W P)} (h : SchedulerStepSpec cfg choice sh t pc out)
    (hbusy : sh.worker.mutex ≠ none ∨ pc.toCall ≠ .idle) : out.2.1.active = pc.active := by
  cases h with
  | call c h => rfl
  | worker i h =>
    cases h with
    | register hcontexts hfree hinit =>
      rcases hbusy with hheld | hcall
      · exact absurd hfree hheld
      · exact absurd rfl hcall
    | dequeue hq =>
      cases hq with
      | run hact hleave => rfl
      | leave op r => exact (afterDequeue_counts r).1
    | queueShutdown r hq => cases hq <;> rfl
    | exit r hfree hinit =>
      rcases hbusy with hheld | hcall
      · exact absurd hfree hheld
      · exact absurd rfl hcall
    | badContext contexts hcontexts hbad => rfl
    | _ => rfl
  | controller h => rfl

end Captures

/-! ## Reachable states -/

section Reachable

variable [DecidableEq C] [Fintype C] {cfg : SchedulerConfig W} {t : Thread W C}
  {choice : SchedulerChoice W C P} {s s' : SchedulerPool W C P}

/-- Which workers are active. -/
def activity (s : SchedulerPool W C P) (i : Fin W) : ℕ := (s.pc (.worker i)).active

/-- The count of active workers is the number of them. -/
theorem SchedulerReachable.active_eq (h : SchedulerReachable cfg s) :
    s.shared.worker.activeWorkerCount = ∑ i, activity s i := by
  rw [h.lifecycle.active, total_workers h.threads.runs _ (fun _ => rfl) fun _ => rfl]
  rfl

/-- A worker that runs a callback is active. -/
theorem SchedulerReachable.running_le (h : SchedulerReachable cfg s)
    {contexts : Fin W → WorkerContext} (hcontexts : s.shared.worker.workerContexts = some contexts)
    (i : Fin W) : (contexts i).currentlyRunningCount ≤ activity s i := by
  obtain ⟨wpc, hwpc⟩ := h.threads.workerPc i
  have hrunning := h.headcount.running (.worker i)
  rw [hwpc] at hrunning
  have hslot : s.shared.slot i = some (contexts i) := by
    unfold Scheduler.slot
    rw [hcontexts]
    rfl
  unfold activity
  rw [hrunning _ hslot, hwpc]
  exact wpc.running_le_active

/-- A copy of the worker domain. -/
theorem SchedulerReachable.captureWorker_manned (h : SchedulerReachable cfg s)
    {temporary : SchedulerSnapshot} (hmanned : temporary.Manned W) :
    (captureWorker s.shared.worker temporary).Manned W := by
  obtain ⟨cpc, hcpc⟩ := h.threads.controllerPc
  have hcrew := h.headcount.crew
  refine ⟨hmanned.configured, hcrew.created_le, ?_, h.ready_le_created, h.active_add_joined_le, ?_,
    hmanned.flags⟩
  · show s.shared.worker.createdWorkerCount ≤ sizeMax
    by_cases hcreated : 0 < s.shared.worker.createdWorkerCount
    · calc s.shared.worker.createdWorkerCount
          ≤ W := hcrew.created_le
        _ ≤ sizeMax / schedThreadSize := hcrew.sized (.inr hcreated)
        _ ≤ sizeMax := Nat.div_le_self _ _
    · omega
  · exact Nat.le_trans (h.headcount.startup cpc hcpc).le_one h.1

/-- **One step keeps the captures structured.** -/
theorem structured_step (hreach : SchedulerReachable cfg s)
    (hstep : (schedulerProgram cfg).step t choice s = some s')
    (h : ∀ u, (s.pc u).toCall.Structured (activity s)) :
    ∀ u, (s'.pc u).toCall.Structured (activity s') := by
  obtain ⟨pc, fx, hspec, hfx⟩ := hreach.threads.step_spec hstep
  obtain ⟨f, habs, -⟩ := hreach.threads.abstracts
  -- nobody becomes active or inactive while `worker_mutex` is held, or by a step of a call
  have hactivity : s.shared.worker.mutex ≠ none ∨ (s.pc t).toCall ≠ .idle →
      activity s' = activity s := by
    intro hbusy
    have hstays := hspec.active_stays hbusy
    obtain ⟨hself, hother⟩ := Program.step_blind
      (schedulerProgram_blind SchedulerPc.active_wake fun _ => rfl) hfx
    funext i
    unfold activity
    by_cases ht : .worker i = t
    · rw [ht, hself]
      exact hstays
    · exact hother _ ht
  have hbefore : ∀ u, (s.pc u).toCall.Structured (activity s') := by
    intro u
    have hu := h u
    generalize hcall : (s.pc u).toCall = call at hu
    cases call with
    | captureLoad temporary index field =>
      rw [hactivity (.inl ?_)]
      · exact hu
      · have hholds : (s.pc u).holdsWorker = true :=
          SchedulerPc.holdsWorker_toCall (by rw [hcall]; rfl)
        have howner : s.shared.worker.mutex = some u := (hreach.threads.worker u).mpr hholds
        rw [howner]
        nofun
    | captured snapshot => cases snapshot <;> exact hu
    | _ => exact hu
  refine Program.forall_step
    (fun _ _ (pc : SchedulerPc W P) => pc.toCall.Structured (activity s')) ?_ hfx ?_
    (fun _ _ hu => hu) hbefore
  · intro u sh
    refine schedulerProgram_blind (fun pc => ?_) fun _ => rfl
    rw [SchedulerPc.toCall_wake, CallPc.structured_wake]
  · rcases hspec.call_cases with ⟨-, hidle⟩ | ⟨call, hcall, hsh, hpc⟩
    · dsimp only at hidle ⊢
      rw [hidle]
      trivial
    · dsimp only at hpc ⊢
      rw [hpc]
      by_cases hcalling : (s.pc t).toCall = .idle
      · rw [hcalling] at hcall
        cases hcall <;> trivial
      · have hsame := hactivity (.inr hcalling)
        refine hcall.structured habs (fun _ => hreach.captureWorker_manned) ?_ ?_ (hbefore t)
        · rw [hsame]
          exact hreach.active_eq
        · rw [hsame]
          exact fun contexts hcontexts => hreach.running_le hcontexts

/-- What a capture has copied so far fits the activity of the workers. -/
theorem SchedulerReachable.structured (h : SchedulerReachable cfg s) :
    ∀ u, (s.pc u).toCall.Structured (activity s) := by
  refine h.invariant (I := fun s => ∀ u, (s.pc u).toCall.Structured (activity s)) ?_ ?_
  · intro queue _
    rintro (_ | i | c) <;> trivial
  · exact fun hreach hinv hstep => structured_step hreach hstep hinv

/-- The structural checks are silent about a snapshot that keeps their bounds. -/
theorem SchedulerSnapshot.Structural.silent {snapshot : SchedulerSnapshot} (h : snapshot.Structural)
    (hcreated : snapshot.createdWorkerCount ≤ sizeMax) (result : SchedulerValidationResult) :
    validateStructural snapshot result = result := by
  obtain ⟨hsize, hmark, hconfigured, hready, hboth, hrunning, hstartup, hflags⟩ := h
  have hcapacity := Nat.le_trans hsize hmark
  have hactive := Nat.le_trans (Nat.le_add_right _ _) hboth
  have hjoined := Nat.le_trans (Nat.le_add_left _ _) hboth
  have hsub := uint64Sub_of_le hjoined (Nat.lt_of_le_of_lt hcreated (by decide))
  have hrest : ¬snapshot.createdWorkerCount - snapshot.joinedWorkerCount
      < snapshot.activeWorkerCount := by omega
  unfold validateStructural checkGreater check
  simp only [gt_iff_lt, Nat.not_lt.mpr hcapacity, Nat.not_lt.mpr hmark, Nat.not_lt.mpr hsize,
    Nat.not_lt.mpr hconfigured, Nat.not_lt.mpr hready, Nat.not_lt.mpr hactive,
    Nat.not_lt.mpr hjoined, hsub, hrest, Nat.not_lt.mpr hrunning, Nat.not_lt.mpr hstartup,
    (lifecycleFlagsValid_iff snapshot).mpr hflags, if_false, Bool.true_eq_false]

/-- **Structural validation never raises a false alarm**: whatever the threads around a
scheduler do, and whatever the backend refuses them, no snapshot breaks a structural
bound. -/
theorem captured_structural (h : SchedulerReachable cfg s) {u : Thread W C}
    {snapshot : SchedulerSnapshot} (hcaptured : (s.pc u).toCall = .captured (some snapshot)) :
    snapshot.Structural ∧
      ∀ result : SchedulerValidationResult, validateStructural snapshot result = result := by
  have hstructured := h.structured u
  rw [hcaptured] at hstructured
  exact ⟨hstructured.1, hstructured.1.silent hstructured.2.1⟩

end Reachable

/-- The snapshot of `captureSchedule`. -/
def taskSnapshot : SchedulerSnapshot :=
  { version := 1, consistency := 1, state := .running, submissionsOpen := true
    configuredWorkerCount := 1, submittedCount := 1, acceptedCount := 1, createdWorkerCount := 1
    readyWorkerCount := 1, activeWorkerCount := 1, dequeuedCount := 1, callbackStartedCount := 1
    callbackSucceededCount := 1, queueCapacity := 1, queueHighWaterMark := 1 }

/-- A client captures a scheduler whose one worker has run a Task. -/
theorem captured_structural_after_task :
    ∃ (s : SchedulerPool 1 (Fin 2) ℕ) (snapshot : SchedulerSnapshot),
      SchedulerReachable reliableConfig s ∧
      (s.pc (.client 1)).toCall = .captured (some snapshot) ∧ snapshot.createdWorkerCount = 1 ∧
      snapshot.Structural := by
  obtain ⟨s, hs, hcaptured⟩ := reachable_of_run captureSchedule
    (fun s => (s.pc (.client 1)).toCall) (v := .captured (some taskSnapshot)) (by decide +kernel)
  exact ⟨s, taskSnapshot, hs, hcaptured, rfl, (captured_structural hs hcaptured).1⟩

end SchedulingEngine
