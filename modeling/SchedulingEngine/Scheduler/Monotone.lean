import SchedulingEngine.Scheduler.Growth

/-!
# Snapshots grow

The counts of a snapshot are copied at different instants: the lifecycle domain, then
the worker domain with the slots one by one, then the queue.

`SchedulerSnapshot.Within` says that a snapshot lies below the scheduler. A capture keeps
what it has copied below (`CallPc.Below`), and a capture that began with the scheduler
above a snapshot copies values above that snapshot (`CallPc.Above`). So of two captures
one after the other, the second is above the first.
-/

namespace SchedulingEngine

open Concurrency

variable {W : ℕ} {C P : Type}

/-! ## Snapshots in order -/

/-- This stage of the Tasks, in a snapshot. -/
def WorkerCount.captured : WorkerCount → SchedulerSnapshot → ℕ
  | .dequeued, snapshot => snapshot.dequeuedCount
  | .started, snapshot => snapshot.callbackStartedCount
  | .succeeded, snapshot => snapshot.callbackSucceededCount
  | .failed, snapshot => snapshot.callbackFailedCount

namespace SchedulerSnapshot

def submissions (a : SchedulerSnapshot) : ℕ × ℕ × ℕ :=
  (a.submittedCount, a.acceptedCount, a.rejectedCount)

def staff (a : SchedulerSnapshot) : ℕ × ℕ × ℕ × ℕ × ℕ :=
  (a.createdWorkerCount, a.joinedWorkerCount, a.workerStartupFailureCount,
    a.workerRuntimeFailureCount, a.joinFailureCount)

/-- No cumulative field of `b` is behind that of `a`, and an overflow once seen stays seen. -/
structure Precedes (a b : SchedulerSnapshot) : Prop where
  submitted : a.submittedCount ≤ b.submittedCount
  accepted : a.acceptedCount ≤ b.acceptedCount
  rejected : a.rejectedCount ≤ b.rejectedCount
  created : a.createdWorkerCount ≤ b.createdWorkerCount
  joined : a.joinedWorkerCount ≤ b.joinedWorkerCount
  dequeued : a.dequeuedCount ≤ b.dequeuedCount
  callbackStarted : a.callbackStartedCount ≤ b.callbackStartedCount
  callbackSucceeded : a.callbackSucceededCount ≤ b.callbackSucceededCount
  callbackFailed : a.callbackFailedCount ≤ b.callbackFailedCount
  queueHighWaterMark : a.queueHighWaterMark ≤ b.queueHighWaterMark
  startupFailures : a.workerStartupFailureCount ≤ b.workerStartupFailureCount
  runtimeFailures : a.workerRuntimeFailureCount ≤ b.workerRuntimeFailureCount
  joinFailures : a.joinFailureCount ≤ b.joinFailureCount
  overflow : a.overflowDetected = true → b.overflowDetected = true

/-- The same, up to the queue. -/
structure Copied (a b : SchedulerSnapshot) : Prop where
  submissions : a.submissions ≤ b.submissions
  staff : a.staff ≤ b.staff
  counts : ∀ k : WorkerCount, k.captured a ≤ k.captured b
  overflow : a.overflowDetected = true → b.overflowDetected = true

theorem Copied.precedes {a b : SchedulerSnapshot} (h : a.Copied b)
    (hmark : a.queueHighWaterMark ≤ b.queueHighWaterMark) : a.Precedes b := by
  obtain ⟨hsubmitted, haccepted, hrejected⟩ := h.submissions
  obtain ⟨hcreated, hjoined, hstartup, hruntime, hjoin⟩ := h.staff
  exact ⟨hsubmitted, haccepted, hrejected, hcreated, hjoined, h.counts .dequeued,
    h.counts .started, h.counts .succeeded, h.counts .failed, hmark, hstartup, hruntime, hjoin,
    h.overflow⟩

/-- Nothing copied from the worker domain. -/
def Unmanned (a : SchedulerSnapshot) : Prop := a.staff = 0 ∧ ∀ k : WorkerCount, k.captured a = 0

/-- The snapshot lies below the scheduler. -/
structure Within (sh : Scheduler W C P) (a : SchedulerSnapshot) : Prop where
  submissions : a.submissions ≤ sh.lifecycle.submissions
  staff : a.staff ≤ sh.worker.staff
  fits : ∀ k : WorkerCount, k.captured a ≤ uint64Max
  counts : ∀ k : WorkerCount, k.captured a ≤ sh.worker.counted k
  unmanned : sh.lifecycle.workerSyncInitialized = false → a.Unmanned
  overflow : a.overflowDetected = true → sh.lifecycle.accountingOverflow = true ∨
    sh.lifecycle.workerSyncInitialized = true ∧ sh.worker.Overflowing
  mark : a.queueHighWaterMark ≤ sh.queue.highWaterMark

/-- It stays below. -/
theorem Within.grow {sh sh' : Scheduler W C P} {a : SchedulerSnapshot} (h : a.Within sh)
    (hgrows : sh.Grows sh') : a.Within sh' where
  submissions := le_trans h.submissions hgrows.lifecycle.submissions
  staff := le_trans h.staff hgrows.staff
  fits := h.fits
  counts k := by
    calc k.captured a
        ≤ min uint64Max (sh.worker.counted k) := Nat.le_min.mpr ⟨h.fits k, h.counts k⟩
      _ ≤ sh'.worker.counted k := hgrows.worker.counted k
  unmanned hsync := by
    refine h.unmanned ?_
    by_contra hsynced
    rw [hgrows.lifecycle.sync (Bool.eq_true_of_not_eq_false hsynced)] at hsync
    cases hsync
  overflow hflag := by
    rcases h.overflow hflag with hflag | ⟨hsync, hover⟩
    · exact .inl (hgrows.lifecycle.flag hflag)
    · exact .inr ⟨hgrows.lifecycle.sync hsync, hgrows.worker.overflowing hover⟩
  mark := Nat.le_trans h.mark hgrows.mark

end SchedulerSnapshot

/-! ## The loads of a slot -/

/-- The place of a load among those of its slot. -/
def SlotField.place : SlotField → ℕ
  | .dequeued => 0
  | .callbackStarted => 1
  | .callbackSucceeded => 2
  | .callbackFailed => 3
  | .currentlyRunning => 4
  | .accountingOverflow => 5

/-- The load of this stage. -/
def WorkerCount.field : WorkerCount → SlotField
  | .dequeued => .dequeued
  | .started => .callbackStarted
  | .succeeded => .callbackSucceeded
  | .failed => .callbackFailed

/-- How many slots a capture at this field of slot `index` has loaded stage `k` of. -/
def SlotField.loaded (index : ℕ) (field : SlotField) (k : WorkerCount) : ℕ :=
  if k.field.place < field.place then index + 1 else index

theorem SlotField.place_injective : Function.Injective SlotField.place := by
  intro a b h
  cases a <;> cases b <;> first | rfl | cases h

theorem SlotField.next_place {field next : SlotField} (h : field.next = some next) :
    next.place = field.place + 1 := by
  cases field <;> cases h <;> rfl

/-- A load of stage `k` adds one slot to those loaded; the other loads add none. -/
theorem SlotField.loaded_next {field next : SlotField} (h : field.next = some next) (index : ℕ)
    (k : WorkerCount) :
    next.loaded index k = if k.field = field then index + 1 else field.loaded index k := by
  unfold SlotField.loaded
  rw [SlotField.next_place h]
  by_cases hk : k.field = field
  · rw [if_pos hk, if_pos (by rw [hk]; exact Nat.lt_succ_self _)]
  · rw [if_neg hk]
    have hplace : k.field.place ≠ field.place := fun h => hk (SlotField.place_injective h)
    split <;> split <;> omega

theorem SlotField.loaded_field (index : ℕ) (k : WorkerCount) : k.field.loaded index k = index :=
  if_neg (Nat.lt_irrefl _)

/-- When a slot is through, every stage of it is loaded. -/
theorem SlotField.loaded_last (index : ℕ) (k : WorkerCount) :
    SlotField.accountingOverflow.loaded index k = index + 1 ∧
      SlotField.dequeued.loaded (index + 1) k = index + 1 := by
  cases k <;> exact ⟨rfl, rfl⟩

section Loads

variable {context : WorkerContext} {temporary : SchedulerSnapshot}

/-- What a load does to the counts. -/
theorem captureField_captured (context : WorkerContext) (field : SlotField) (k : WorkerCount)
    (hfits : k.captured temporary ≤ uint64Max) :
    k.captured (captureField context temporary field)
      = if k.field = field then min uint64Max (k.captured temporary + k.slot context)
        else k.captured temporary := by
  by_cases hk : k.field = field
  · subst hk
    rw [if_pos rfl]
    cases k <;> exact (addSaturating_eq _ _ hfits).1
  · rw [if_neg hk]
    cases field <;> cases k <;> first | rfl | exact absurd rfl hk

/-- When a load raises the flag. -/
theorem captureField_overflow (field : SlotField)
    (hfits : ∀ k : WorkerCount, k.captured temporary ≤ uint64Max)
    (hrunning : field = .currentlyRunning →
      temporary.currentlyRunningCount + context.currentlyRunningCount ≤ uint64Max) :
    (captureField context temporary field).overflowDetected = true ↔
      temporary.overflowDetected = true ∨
      (field = .accountingOverflow ∧ context.accountingOverflow = true) ∨
      ∃ k : WorkerCount, k.field = field ∧ uint64Max < k.captured temporary + k.slot context := by
  -- a load of a count raises the flag when its sum does not fit
  have hcount : ∀ k : WorkerCount,
      ((addSaturating (k.captured temporary) (k.slot context) temporary.overflowDetected).2 = true ↔
        temporary.overflowDetected = true ∨ (k.field = .accountingOverflow ∧
          context.accountingOverflow = true) ∨
        ∃ k' : WorkerCount, k'.field = k.field ∧
          uint64Max < k'.captured temporary + k'.slot context) := by
    intro k
    rw [(addSaturating_eq _ _ (hfits k)).2]
    constructor
    · rintro (hflag | hover)
      · exact .inl hflag
      · exact .inr (.inr ⟨k, rfl, hover⟩)
    · rintro (hflag | ⟨hfield, -⟩ | ⟨k', hfield, hover⟩)
      · exact .inl hflag
      · cases k <;> cases hfield
      · have hk : k' = k := by cases k <;> cases k' <;> first | rfl | cases hfield
        exact .inr (hk ▸ hover)
  cases field with
  | dequeued => exact hcount .dequeued
  | callbackStarted => exact hcount .started
  | callbackSucceeded => exact hcount .succeeded
  | callbackFailed => exact hcount .failed
  -- the running counts have room
  | currentlyRunning =>
    have hroom := hrunning rfl
    have hflag : (captureField context temporary .currentlyRunning).overflowDetected
        = temporary.overflowDetected := by
      show (addSaturating _ _ _).2 = _
      unfold addSaturating
      rw [if_neg (by omega)]
    rw [hflag]
    refine ⟨.inl, ?_⟩
    rintro (hflag | ⟨hfield, -⟩ | ⟨k, hfield, -⟩)
    · exact hflag
    · cases hfield
    · cases k <;> cases hfield
  -- and the last load takes over the flag of the slot
  | accountingOverflow =>
    show (_ || _) = true ↔ _
    rw [Bool.or_eq_true]
    constructor
    · rintro (hflag | hslot)
      · exact .inl hflag
      · exact .inr (.inl ⟨rfl, hslot⟩)
    · rintro (hflag | ⟨-, hslot⟩ | ⟨k, hfield, -⟩)
      · exact .inl hflag
      · exact .inr hslot
      · cases k <;> cases hfield

end Loads

/-! ## What the slots hold -/

theorem sumBelow_mono {v v' : Fin W → ℕ} (h : ∀ i, v i ≤ v' i) (n : ℕ) :
    sumBelow v n ≤ sumBelow v' n := by
  refine Finset.sum_le_sum fun i _ => ?_
  split
  · exact h i
  · exact Nat.le_refl _

/-- Raising the values raises the sum over all workers at least as much as a part of it. -/
theorem sumBelow_add_sum_le {v v' : Fin W → ℕ} (h : ∀ i, v i ≤ v' i) (n : ℕ) :
    sumBelow v' n + ∑ i, v i ≤ sumBelow v n + ∑ i, v' i := by
  unfold sumBelow
  rw [← Finset.sum_add_distrib, ← Finset.sum_add_distrib]
  refine Finset.sum_le_sum fun i _ => ?_
  have hi := h i
  split <;> omega

/-- Nothing beyond the first `n` workers. -/
theorem sumBelow_all {v : Fin W → ℕ} {n : ℕ} (h : ∀ i : Fin W, n ≤ (i : ℕ) → v i = 0) :
    sumBelow v n = ∑ i, v i := by
  refine Finset.sum_congr rfl fun i _ => ?_
  split
  · rfl
  · rename_i hi
    exact (h i (Nat.not_lt.mp hi)).symm

theorem WorkerDomain.Steady.slotCount {sh sh' : Scheduler W C P} (h : sh.worker.Steady sh'.worker)
    (k : WorkerCount) (i : Fin W) : sh.slotCount i k ≤ sh'.slotCount i k := by
  cases hcontexts : sh.worker.workerContexts with
  | none => rw [Scheduler.slotCount_none hcontexts]; exact Nat.zero_le _
  | some contexts =>
    obtain ⟨contexts', hcontexts', hle⟩ := h.slots contexts hcontexts
    rw [Scheduler.slotCount_some hcontexts, Scheduler.slotCount_some hcontexts']
    exact (hle i).1 k

/-- The slots from `n` on hold nothing. -/
def Scheduler.EmptyFrom (sh : Scheduler W C P) (n : ℕ) : Prop :=
  ∀ contexts, sh.worker.workerContexts = some contexts → ∀ i : Fin W, n ≤ (i : ℕ) →
    (contexts i).Untouched

theorem Scheduler.EmptyFrom.slotCount {sh : Scheduler W C P} {n : ℕ} (h : sh.EmptyFrom n)
    (k : WorkerCount) (i : Fin W) (hi : n ≤ (i : ℕ)) : sh.slotCount i k = 0 := by
  cases hcontexts : sh.worker.workerContexts with
  | none => exact Scheduler.slotCount_none hcontexts i k
  | some contexts =>
    rw [Scheduler.slotCount_some hcontexts]
    exact (h contexts hcontexts i hi).slot_eq_zero k

/-! ## A capture stays below the scheduler -/

/-- What a capture has copied so far. -/
def CallPc.Below (sh : Scheduler W C P) : CallPc P → Prop
  | .captureLifecycleUnlock temporary workerSyncAvailable => temporary.Within sh ∧
      (workerSyncAvailable = true → sh.lifecycle.workerSyncInitialized = true)
  | .captureWorkerLock temporary =>
    temporary.Within sh ∧ sh.lifecycle.workerSyncInitialized = true
  | .captureLoad temporary index field => temporary.Within sh ∧
      sh.lifecycle.workerSyncInitialized = true ∧ ∀ k : WorkerCount, k.captured temporary
        ≤ k.folded sh.worker + sumBelow (sh.slotCount · k) (field.loaded index k)
  | .captureWorkerUnlock temporary => temporary.Within sh
  | .captureQueue temporary q => temporary.Within sh ∧
      q.Reads fun value => value.highWaterMark ≤ sh.queue.highWaterMark
  | .captured (some snapshot) => snapshot.Within sh
  | _ => True

theorem CallPc.below_wake (sh : Scheduler W C P) (pc : CallPc P) :
    pc.wake.Below sh ↔ pc.Below sh := by
  cases pc with
  | captureQueue temporary q =>
    show (_ ∧ q.wake.Reads _) ↔ (_ ∧ q.Reads _)
    rw [q.reads_wake]
  | _ => rfl

/-- Loading the slots, with `worker_mutex` held. -/
def CallPc.loading : CallPc P → Bool
  | .captureLoad _ _ _ => true
  | _ => false

/-- The steps of other threads. -/
theorem CallPc.Below.other {sh sh' : Scheduler W C P} {pc : CallPc P} (h : pc.Below sh)
    (hgrows : sh.Grows sh') (hsteady : pc.loading = true → sh.worker.Steady sh'.worker) :
    pc.Below sh' := by
  cases pc with
  | captureLifecycleUnlock temporary workerSyncAvailable =>
    exact ⟨h.1.grow hgrows, fun hsync => hgrows.lifecycle.sync (h.2 hsync)⟩
  | captureWorkerLock temporary => exact ⟨h.1.grow hgrows, hgrows.lifecycle.sync h.2⟩
  | captureLoad temporary index field =>
    refine ⟨h.1.grow hgrows, hgrows.lifecycle.sync h.2.1, fun k => ?_⟩
    have hslots := hsteady rfl
    rw [hslots.folded k]
    exact Nat.le_trans (h.2.2 k) (Nat.add_le_add_left (sumBelow_mono (hslots.slotCount k) _) _)
  | captureWorkerUnlock temporary => exact h.grow hgrows
  | captureQueue temporary q =>
    exact ⟨h.1.grow hgrows, h.2.mono fun _ hvalue => Nat.le_trans hvalue hgrows.mark⟩
  | captured snapshot =>
    cases snapshot with
    | none => trivial
    | some snapshot => exact h.grow hgrows
  | _ => trivial

section Captures

variable {sh : Scheduler W C P} {temporary : SchedulerSnapshot} {contexts : Fin W → WorkerContext}

/-- The copy of the worker domain. -/
theorem SchedulerSnapshot.Within.copyWorker (h : temporary.Within sh) (hfits : sh.worker.Fits)
    (hsync : sh.lifecycle.workerSyncInitialized = true) :
    (captureWorker sh.worker temporary).Within sh where
  submissions := h.submissions
  staff := le_refl _
  fits k := by
    have hk := hfits k
    cases k <;> exact hk
  counts k := by
    have hk : k.folded sh.worker ≤ sh.worker.counted k := Nat.le_add_right _ _
    cases k <;> exact hk
  unmanned hunsynced := by
    rw [hsync] at hunsynced
    cases hunsynced
  overflow hflag := by
    rcases Bool.or_eq_true_iff.mp hflag with hflag | hflag
    · exact h.overflow hflag
    · exact .inr ⟨hsync, .inl hflag⟩
  mark := h.mark

/-- The copy of the queue's part leaves the counts of the workers. -/
theorem captured_copyQueue (k : WorkerCount) (temporary : SchedulerSnapshot)
    (queue : ConcurrentTaskQueueRuntimeSnapshot) :
    k.captured { temporary with
      queueCapacity := queue.capacity
      queueCurrentSize := queue.currentSize
      queueHighWaterMark := queue.highWaterMark } = k.captured temporary := by
  cases k <;> rfl

theorem SchedulerSnapshot.Within.copyQueue (h : temporary.Within sh)
    {queue : ConcurrentTaskQueueRuntimeSnapshot}
    (hmark : queue.highWaterMark ≤ sh.queue.highWaterMark) :
    SchedulerSnapshot.Within sh { temporary with
      queueCapacity := queue.capacity
      queueCurrentSize := queue.currentSize
      queueHighWaterMark := queue.highWaterMark } where
  submissions := h.submissions
  staff := h.staff
  fits k := (captured_copyQueue k temporary queue).trans_le (h.fits k)
  counts k := (captured_copyQueue k temporary queue).trans_le (h.counts k)
  unmanned hsync :=
    ⟨(h.unmanned hsync).1, fun k => (captured_copyQueue k temporary queue).trans
      ((h.unmanned hsync).2 k)⟩
  overflow := h.overflow
  mark := hmark

/-- A load of slot `index`, when what was loaded of each stage is known. -/
theorem SchedulerSnapshot.Within.load (h : temporary.Within sh)
    (hcontexts : sh.worker.workerContexts = some contexts) (index : Fin W) (field : SlotField)
    (hsync : sh.lifecycle.workerSyncInitialized = true)
    (hrunning : field = .currentlyRunning →
      temporary.currentlyRunningCount + (contexts index).currentlyRunningCount ≤ uint64Max)
    (hloaded : ∀ k : WorkerCount, k.captured temporary
      ≤ k.folded sh.worker + sumBelow (sh.slotCount · k) (field.loaded index k)) :
    (captureField (contexts index) temporary field).Within sh := by
  have hcaptured := fun k => captureField_captured (contexts index) field k (h.fits k)
  have hoverflow := captureField_overflow field h.fits hrunning
  -- a sum of loaded slots stays below the sum of all
  have hbound : ∀ k : WorkerCount, k.field = field →
      k.captured temporary + k.slot (contexts index) ≤ sh.worker.counted k := by
    rintro k rfl
    have hk := hloaded k
    rw [SlotField.loaded_field] at hk
    have hslot := Scheduler.slotCount_some hcontexts index k
    have hnext := sumBelow_succ (sh.slotCount · k) index
    have hall := sumBelow_le (sh.slotCount · k) (index + 1)
    rw [sh.counted_eq k]
    omega
  refine ⟨?_, ?_, fun k => ?_, fun k => ?_, ?_, fun hflag => ?_, ?_⟩
  · cases field <;> exact h.submissions
  · cases field <;> exact h.staff
  · rw [hcaptured k]
    split
    · exact Nat.min_le_left _ _
    · exact h.fits k
  · rw [hcaptured k]
    split
    · rename_i hk
      exact Nat.le_trans (Nat.min_le_right _ _) (hbound k hk)
    · exact h.counts k
  · intro hunsynced
    rw [hsync] at hunsynced
    cases hunsynced
  · rcases hoverflow.mp hflag with hflag | ⟨-, hslot⟩ | ⟨k, hk, hover⟩
    · exact h.overflow hflag
    · exact .inr ⟨hsync, .inr (.inl ⟨contexts, hcontexts, index, hslot⟩)⟩
    · exact .inr ⟨hsync, .inr (.inr ⟨k, Nat.lt_of_lt_of_le hover (hbound k hk)⟩)⟩
  · cases field <;> exact h.mark

/-- **A capture copies what is there.** -/
theorem CallStepSpec.below [DecidableEq C] {cfg : SchedulerConfig W} {t : Thread W C}
    {choice : SchedulerChoice W C P} {f : ClosableFifo P} {pc : CallPc P}
    {out : SchedulerStep W C P (CallPc P)} (h : CallStepSpec cfg t choice sh pc out)
    (habs : Abstracts sh.queue f) (hgrows : sh.Grows out.1) (hfits : sh.worker.Fits)
    (hrunning : ∀ temporary (index : Fin W) contexts,
      pc = .captureLoad temporary index .currentlyRunning →
      sh.worker.workerContexts = some contexts →
      temporary.currentlyRunningCount + (contexts index).currentlyRunningCount ≤ uint64Max)
    (hbelow : pc.Below sh) : out.2.1.Below out.1 := by
  cases h with
  -- a fresh snapshot is zero but for the lifecycle domain
  | captureLifecycle hfree =>
    refine ⟨⟨le_refl _, ?_, fun k => ?_, fun k => ?_, fun _ => ⟨rfl, fun k => ?_⟩, .inl, ?_⟩, id⟩
    · exact ⟨Nat.zero_le _, Nat.zero_le _, Nat.zero_le _, Nat.zero_le _, Nat.zero_le _⟩
    · cases k <;> exact Nat.zero_le _
    · cases k <;> exact Nat.zero_le _
    · cases k <;> rfl
    · exact Nat.zero_le _
  | captureNoWorkers temporary hheld => exact ⟨hbelow.1.grow hgrows, trivial⟩
  | captureLifecycleDone temporary hheld =>
    exact ⟨hbelow.1.grow hgrows, hgrows.lifecycle.sync (hbelow.2 rfl)⟩
  | captureWorker temporary hfree hinit hstarted =>
    refine ⟨(hbelow.1.copyWorker hfits hbelow.2).grow hgrows, hbelow.2, fun k => ?_⟩
    cases k <;> exact Nat.le_add_right _ _
  | captureNoSlots temporary hfree hinit hstarted =>
    exact (hbelow.1.copyWorker hfits hbelow.2).grow hgrows
  -- what is loaded was counted, and what is counted stays counted
  | captureLoad temporary index field next contexts hcontexts hnext =>
    obtain ⟨hwithin, hsync, hloaded⟩ := hbelow
    refine ⟨hwithin.load hcontexts index field hsync ?_ hloaded, hsync, fun k => ?_⟩
    · rintro rfl
      exact hrunning temporary index contexts rfl hcontexts
    · rw [captureField_captured _ _ _ (hwithin.fits k), SlotField.loaded_next hnext]
      have hk := hloaded k
      split
      · rename_i hfield
        rw [← hfield, SlotField.loaded_field] at hk
        have hslot := Scheduler.slotCount_some hcontexts index k
        have hstep := sumBelow_succ (sh.slotCount · k) index
        dsimp only
        omega
      · exact hk
  | captureNextSlot temporary index contexts hcontexts hindex =>
    obtain ⟨hwithin, hsync, hloaded⟩ := hbelow
    refine ⟨hwithin.load hcontexts index _ hsync nofun hloaded, hsync, fun k => ?_⟩
    have hk := hloaded k
    obtain ⟨hlast, hfirst⟩ := SlotField.loaded_last index k
    rw [hlast] at hk
    rw [hfirst]
    cases k <;> exact hk
  | captureLastSlot temporary index contexts hcontexts hindex =>
    exact hbelow.1.load hcontexts index _ hbelow.2.1 nofun hbelow.2.2
  | captureWorkerDone temporary hheld => exact ⟨hbelow.grow hgrows, trivial⟩
  -- the queue's mark only rises while the capture is inside
  | captureQueue temporary hq =>
    obtain ⟨hwithin, hreads⟩ := hbelow
    cases hq with
    | run hact hleave =>
      refine ⟨hwithin.grow hgrows, (queueAct_spec habs hact).reads ?_ (hreads.mono ?_)⟩
      · exact Nat.le_trans (Nat.le_of_eq habs.highWater.symm) hgrows.mark
      · exact fun value hvalue => Nat.le_trans hvalue hgrows.mark
    | leave op r =>
      cases r with
      | snapshot value =>
        cases value with
        | none => trivial
        | some value => exact hwithin.copyQueue hreads
      | _ => trivial
  | enqueue kind task hq => cases hq <;> trivial
  | _ => trivial

end Captures

/-! ## A later capture stays above an earlier snapshot -/

/-- A capture that has loaded the first `loaded k` slots of each stage `k`, and whether the
first `index` of them overflowed: what is still to be loaded brings it above `a`. -/
structure SchedulerSnapshot.Loading (a : SchedulerSnapshot) (sh : Scheduler W C P)
    (temporary : SchedulerSnapshot) (index : ℕ) (loaded : WorkerCount → ℕ) : Prop where
  submissions : a.submissions ≤ temporary.submissions
  staff : a.staff ≤ temporary.staff
  counts : ∀ k : WorkerCount, k.captured a + sumBelow (sh.slotCount · k) (loaded k)
    ≤ k.captured temporary + ∑ i, sh.slotCount i k
  overflow : a.overflowDetected = true → temporary.overflowDetected = true ∨
    (∃ contexts, sh.worker.workerContexts = some contexts ∧
      ∃ i : Fin W, index ≤ (i : ℕ) ∧ (contexts i).accountingOverflow = true) ∨
    ∃ k : WorkerCount, uint64Max + sumBelow (sh.slotCount · k) (loaded k)
      < k.captured temporary + ∑ i, sh.slotCount i k

/-- What holds of a capture that began with the scheduler above `a`. -/
def CallPc.Above (a : SchedulerSnapshot) (sh : Scheduler W C P) : CallPc P → Prop
  | .captureLifecycleUnlock temporary workerSyncAvailable =>
    a.submissions ≤ temporary.submissions ∧ (workerSyncAvailable = false → a.Unmanned) ∧
      (a.overflowDetected = true → temporary.overflowDetected = true ∨
        workerSyncAvailable = true ∧ sh.worker.Overflowing)
  | .captureWorkerLock temporary => a.submissions ≤ temporary.submissions ∧
      (a.overflowDetected = true → temporary.overflowDetected = true ∨ sh.worker.Overflowing)
  | .captureLoad temporary index field => a.Loading sh temporary index (field.loaded index)
  | .captureWorkerUnlock temporary => a.Copied temporary
  | .captureQueue temporary q => a.Copied temporary ∧
      q.Reads fun value => a.queueHighWaterMark ≤ value.highWaterMark
  | .captured (some snapshot) => a.Precedes snapshot
  | _ => True

theorem CallPc.above_wake (a : SchedulerSnapshot) (sh : Scheduler W C P) (pc : CallPc P) :
    pc.wake.Above a sh ↔ pc.Above a sh := by
  cases pc with
  | captureQueue temporary q =>
    show (_ ∧ q.wake.Reads _) ↔ (_ ∧ q.Reads _)
    rw [q.reads_wake]
  | _ => rfl

section Above

variable {a temporary : SchedulerSnapshot} {sh sh' : Scheduler W C P}
  {contexts : Fin W → WorkerContext} {index : ℕ} {loaded : WorkerCount → ℕ}

/-- Workers go on counting while their slots are loaded. -/
theorem SchedulerSnapshot.Loading.steady (h : a.Loading sh temporary index loaded)
    (hsteady : sh.worker.Steady sh'.worker) : a.Loading sh' temporary index loaded where
  submissions := h.submissions
  staff := h.staff
  counts k := by
    have hk := h.counts k
    have hgrow := sumBelow_add_sum_le (hsteady.slotCount k) (loaded k)
    omega
  overflow hflag := by
    rcases h.overflow hflag with hflag | ⟨contexts, hcontexts, i, hi, hslot⟩ | ⟨k, hover⟩
    · exact .inl hflag
    · obtain ⟨contexts', hcontexts', hle⟩ := hsteady.slots contexts hcontexts
      exact .inr (.inl ⟨contexts', hcontexts', i, hi, (hle i).2 hslot⟩)
    · refine .inr (.inr ⟨k, ?_⟩)
      have hgrow := sumBelow_add_sum_le (hsteady.slotCount k) (loaded k)
      omega

/-- The slots are through. -/
theorem SchedulerSnapshot.Loading.done (h : a.Loading sh temporary index loaded)
    (hempty : sh.EmptyFrom index) (hloaded : ∀ k, loaded k = index)
    (hfits : ∀ k : WorkerCount, k.captured temporary ≤ uint64Max) : a.Copied temporary where
  submissions := h.submissions
  staff := h.staff
  counts k := by
    have hk := h.counts k
    rw [hloaded k, sumBelow_all (hempty.slotCount k)] at hk
    omega
  overflow hflag := by
    rcases h.overflow hflag with hflag | ⟨contexts, hcontexts, i, hi, hslot⟩ | ⟨k, hover⟩
    · exact hflag
    · rw [(hempty contexts hcontexts i hi).2.2.2.2] at hslot
      cases hslot
    · have hk := hfits k
      rw [hloaded k, sumBelow_all (hempty.slotCount k)] at hover
      omega

/-- The copy of the worker domain, before any slot. -/
theorem SchedulerSnapshot.Within.loading (h : a.Within sh)
    (hsubmissions : a.submissions ≤ temporary.submissions)
    (hoverflow : a.overflowDetected = true →
      temporary.overflowDetected = true ∨ sh.worker.Overflowing) :
    a.Loading sh (captureWorker sh.worker temporary) 0 (SlotField.dequeued.loaded 0) := by
  have hcaptured : ∀ k : WorkerCount,
      k.captured (captureWorker sh.worker temporary) = k.folded sh.worker := by
    intro k
    cases k <;> rfl
  have hnone : ∀ k : WorkerCount, SlotField.dequeued.loaded 0 k = 0 := by
    intro k
    cases k <;> rfl
  refine ⟨hsubmissions, h.staff, fun k => ?_, fun hflag => ?_⟩
  · rw [hcaptured k, hnone k, sumBelow_zero, ← sh.counted_eq k]
    exact h.counts k
  · rcases hoverflow hflag with hflag | hflag | ⟨contexts, hcontexts, i, hslot⟩ | ⟨k, hover⟩
    · exact .inl (Bool.or_eq_true_iff.mpr (.inl hflag))
    · exact .inl (Bool.or_eq_true_iff.mpr (.inr hflag))
    · exact .inr (.inl ⟨contexts, hcontexts, i, Nat.zero_le _, hslot⟩)
    · refine .inr (.inr ⟨k, ?_⟩)
      rw [hcaptured k, hnone k, sumBelow_zero, ← sh.counted_eq k]
      exact hover

/-- The load of a count. -/
theorem SchedulerSnapshot.Loading.load {field next : SlotField} {i : Fin W}
    (h : a.Loading sh temporary i (field.loaded i)) (ha : a.Within sh)
    (hfits : ∀ k : WorkerCount, k.captured temporary ≤ uint64Max)
    (hcontexts : sh.worker.workerContexts = some contexts) (hnext : field.next = some next)
    (hrunning : field = .currentlyRunning →
      temporary.currentlyRunningCount + (contexts i).currentlyRunningCount ≤ uint64Max) :
    a.Loading sh (captureField (contexts i) temporary field) i (next.loaded i) := by
  have hcaptured := fun k => captureField_captured (contexts i) field k (hfits k)
  have hoverflow := captureField_overflow field hfits hrunning
  have hslot := fun k => Scheduler.slotCount_some hcontexts i k
  have hsucc := fun k => sumBelow_succ (sh.slotCount · k) i
  have hall := fun k => sumBelow_le (sh.slotCount · k) (i + 1)
  refine ⟨?_, ?_, fun k => ?_, fun hflag => ?_⟩
  · cases field <;> exact h.submissions
  · cases field <;> exact h.staff
  · have hk := h.counts k
    have hfit := ha.fits k
    rw [hcaptured k, SlotField.loaded_next hnext]
    split
    · rename_i hfield
      have hk' := hslot k
      have hs := hsucc k
      have hle := hall k
      rw [← hfield, SlotField.loaded_field] at hk
      omega
    · exact hk
  · rcases h.overflow hflag with hflag | hlater | ⟨k, hover⟩
    · exact .inl (hoverflow.mpr (.inl hflag))
    · exact .inr (.inl hlater)
    · -- the sum overflows in this load, or is still to overflow
      by_cases hfield : k.field = field
      · by_cases hhere : uint64Max < k.captured temporary + k.slot (contexts i)
        · exact .inl (hoverflow.mpr (.inr (.inr ⟨k, hfield, hhere⟩)))
        · refine .inr (.inr ⟨k, ?_⟩)
          have hk' := hslot k
          have hs := hsucc k
          rw [hcaptured k, SlotField.loaded_next hnext, if_pos hfield, if_pos hfield]
          rw [← hfield, SlotField.loaded_field] at hover
          omega
      · refine .inr (.inr ⟨k, ?_⟩)
        rw [hcaptured k, SlotField.loaded_next hnext, if_neg hfield, if_neg hfield]
        exact hover

/-- The load of the flag, the last of a slot. -/
theorem SchedulerSnapshot.Loading.flag {i : Fin W}
    (h : a.Loading sh temporary i (SlotField.accountingOverflow.loaded i))
    (hcontexts : sh.worker.workerContexts = some contexts) :
    a.Loading sh (captureField (contexts i) temporary .accountingOverflow) (i + 1)
      (SlotField.dequeued.loaded (i + 1)) := by
  have hloaded : SlotField.dequeued.loaded ((i : ℕ) + 1) =
      SlotField.accountingOverflow.loaded i := by
    funext k
    obtain ⟨hlast, hfirst⟩ := SlotField.loaded_last i k
    rw [hlast, hfirst]
  have hcaptured : ∀ k : WorkerCount,
      k.captured (captureField (contexts i) temporary .accountingOverflow) =
        k.captured temporary := by
    intro k
    cases k <;> rfl
  rw [hloaded]
  refine ⟨h.submissions, h.staff, fun k => ?_, fun hflag => ?_⟩
  · rw [hcaptured k]
    exact h.counts k
  · rcases h.overflow hflag with hflag | ⟨contexts₁, h₁, j, hj, hslot⟩ | ⟨k, hover⟩
    · exact .inl (Bool.or_eq_true_iff.mpr (.inl hflag))
    · cases hcontexts.symm.trans h₁
      rcases Nat.eq_or_lt_of_le hj with hij | hij
      · cases Fin.val_injective hij
        exact .inl (Bool.or_eq_true_iff.mpr (.inr hslot))
      · exact .inr (.inl ⟨contexts, hcontexts, j, hij, hslot⟩)
    · refine .inr (.inr ⟨k, ?_⟩)
      rw [hcaptured k]
      exact hover

/-- The steps of other threads. -/
theorem CallPc.Above.other {pc : CallPc P} (h : pc.Above a sh) (hgrows : sh.Grows sh')
    (hsteady : pc.loading = true → sh.worker.Steady sh'.worker) : pc.Above a sh' := by
  cases pc with
  | captureLifecycleUnlock temporary workerSyncAvailable =>
    refine ⟨h.1, h.2.1, fun hflag => (h.2.2 hflag).imp_right ?_⟩
    exact fun hover => ⟨hover.1, hgrows.worker.overflowing hover.2⟩
  | captureWorkerLock temporary =>
    exact ⟨h.1, fun hflag => (h.2 hflag).imp_right hgrows.worker.overflowing⟩
  | captureLoad temporary index field => exact h.steady (hsteady rfl)
  | captured snapshot => cases snapshot <;> exact h
  | _ => exact h

/-- **A capture stays above what the scheduler was above when it began.** -/
theorem CallStepSpec.above [DecidableEq C] {cfg : SchedulerConfig W} {t : Thread W C}
    {choice : SchedulerChoice W C P} {f : ClosableFifo P} {pc : CallPc P}
    {out : SchedulerStep W C P (CallPc P)} (h : CallStepSpec cfg t choice sh pc out)
    (habs : Abstracts sh.queue f) (hfits : sh.worker.Fits)
    (hempty : sh.EmptyFrom sh.worker.startedWorkerCount)
    (hrunning : ∀ temporary (index : Fin W) contexts,
      pc = .captureLoad temporary index .currentlyRunning →
      sh.worker.workerContexts = some contexts →
      temporary.currentlyRunningCount + (contexts index).currentlyRunningCount ≤ uint64Max)
    (hbelow : pc.Below sh) (ha : a.Within sh) (habove : pc.Above a sh) :
    out.2.1.Above a out.1 := by
  cases h with
  | captureLifecycle hfree =>
    refine ⟨ha.submissions, ha.unmanned, fun hflag => ?_⟩
    exact (ha.overflow hflag).imp_right id
  -- nothing to copy: the earlier snapshot had no workers either
  | captureNoWorkers temporary hheld =>
    obtain ⟨hsubmissions, hunmanned, hoverflow⟩ := habove
    obtain ⟨hstaff, hcounts⟩ := hunmanned rfl
    refine ⟨⟨hsubmissions, ?_, fun k => ?_, fun hflag => ?_⟩, trivial⟩
    · rw [hstaff]
      exact ⟨Nat.zero_le _, Nat.zero_le _, Nat.zero_le _, Nat.zero_le _, Nat.zero_le _⟩
    · rw [hcounts k]
      exact Nat.zero_le _
    · rcases hoverflow hflag with hflag | ⟨hsync, -⟩
      · exact hflag
      · cases hsync
  | captureLifecycleDone temporary hheld =>
    obtain ⟨hsubmissions, -, hoverflow⟩ := habove
    exact ⟨hsubmissions, fun hflag => (hoverflow hflag).imp_right And.right⟩
  | captureWorker temporary hfree hinit hstarted =>
    exact (ha.loading habove.1 habove.2).steady (.same rfl (fun k => by cases k <;> rfl) id)
  -- after the fold the totals hold what the slots held
  | captureNoSlots temporary hfree hinit hstarted =>
    refine (ha.loading habove.1 habove.2).done ?_ (fun k => ?_) fun k => ?_
    · rw [← hstarted]
      exact hempty
    · cases k <;> rfl
    · exact (hbelow.1.copyWorker hfits hbelow.2).fits k
  -- a slot loaded again has not gone down
  | captureLoad temporary index field next contexts hcontexts hnext =>
    refine SchedulerSnapshot.Loading.load habove ha hbelow.1.fits hcontexts hnext ?_
    rintro rfl
    exact hrunning temporary index contexts rfl hcontexts
  | captureNextSlot temporary index contexts hcontexts hindex =>
    exact SchedulerSnapshot.Loading.flag habove hcontexts
  | captureLastSlot temporary index contexts hcontexts hindex =>
    refine (SchedulerSnapshot.Loading.flag habove hcontexts).done ?_ (fun k => ?_) fun k => ?_
    · exact fun contexts hcontexts i hi => hempty contexts hcontexts i (Nat.le_trans hindex hi)
    · exact (SlotField.loaded_last index k).2
    · exact (hbelow.1.load hcontexts index .accountingOverflow hbelow.2.1 nofun hbelow.2.2).fits k
  | captureWorkerDone temporary hheld => exact ⟨habove, trivial⟩
  | captureQueue temporary hq =>
    obtain ⟨hcopied, hreads⟩ := habove
    cases hq with
    | run hact hleave =>
      refine ⟨hcopied, (queueAct_spec habs hact).reads ?_ hreads⟩
      exact Nat.le_trans ha.mark (Nat.le_of_eq habs.highWater)
    | leave op r =>
      cases r with
      | snapshot value =>
        cases value with
        | none => trivial
        | some value =>
          refine SchedulerSnapshot.Copied.precedes ⟨hcopied.submissions, hcopied.staff, fun k => ?_,
            hcopied.overflow⟩ hreads
          exact Nat.le_trans (hcopied.counts k) (Nat.le_of_eq (captured_copyQueue k _ _).symm)
      | _ => trivial
  | enqueue kind task hq => cases hq <;> trivial
  | _ => trivial

end Above

/-! ## Two captures -/

/-- Inside `scheduler_capture_snapshot`, past its first lock. -/
def CallPc.capturing : CallPc P → Bool
  | .captureLifecycleUnlock _ _ | .captureWorkerLock _ | .captureLoad _ _ _ | .captureWorkerUnlock _
  | .captureQueue _ _ | .captured _ => true
  | _ => false

theorem CallPc.above_of_not_capturing {a : SchedulerSnapshot} {sh : Scheduler W C P} {pc : CallPc P}
    (h : pc.capturing = false) : pc.Above a sh := by
  cases pc with
  | captureLifecycleUnlock temporary workerSyncAvailable => cases h
  | captureWorkerLock temporary => cases h
  | captureLoad temporary index field => cases h
  | captureWorkerUnlock temporary => cases h
  | captureQueue temporary q => cases h
  | captured snapshot => cases h
  | _ => trivial

section Reachable

variable [DecidableEq C] [Fintype C] {cfg : SchedulerConfig W} {t u v : Thread W C}
  {choice : SchedulerChoice W C P} {s s' : SchedulerPool W C P} {a b : SchedulerSnapshot}

/-- A thread that loads the slots holds `worker_mutex`. -/
theorem SchedulerReachable.loading_owner (h : SchedulerReachable cfg s)
    (hloading : (s.pc u).toCall.loading = true) : s.shared.worker.mutex = some u := by
  refine (h.threads.worker u).mpr ?_
  have hholds : (s.pc u).toCall.holdsWorker = true := by
    generalize (s.pc u).toCall = call at hloading
    cases call with
    | captureLoad temporary index field => rfl
    | _ => cases hloading
  exact SchedulerPc.holdsWorker_toCall hholds

/-- While one thread holds `worker_mutex`, the others leave totals and slots to their
owners. -/
theorem SchedulerReachable.steady (h : SchedulerReachable cfg s)
    (hstep : (schedulerProgram cfg).step t choice s = some s')
    (hheld : s.shared.worker.mutex ≠ none)
    (hsync : s.shared.lifecycle.workerSyncInitialized = true) :
    s.shared.worker.Steady s'.shared.worker := by
  obtain ⟨pc, fx, hspec, hfx⟩ := h.threads.step_spec hstep
  have hself := h.lifecycle.threads t
  refine hspec.steady hself ?_
  generalize s.pc t = pc₀ at hspec hself
  generalize hout : (s'.shared, pc, fx) = out at hspec
  cases hspec with
  | controller hcontroller =>
    cases hcontroller with
    | syncInit => exact absurd (hsync.symm.trans hself.1.2.2.1.1) nofun
    | syncInitFailed mutexInitialized hmutex hfail =>
      exact absurd (hsync.symm.trans hself.1.2.2.1.1) nofun
    | fold caller result worker hfree hinit hfold => exact absurd hfree hheld
    | _ => rfl
  | _ => rfl

/-- The sum of the running counts fits. -/
theorem SchedulerReachable.running_fits (h : SchedulerReachable cfg s)
    {temporary : SchedulerSnapshot}
    {index : Fin W} {contexts : Fin W → WorkerContext}
    (hcall : (s.pc u).toCall = .captureLoad temporary index .currentlyRunning)
    (hcontexts : s.shared.worker.workerContexts = some contexts) :
    temporary.currentlyRunningCount + (contexts index).currentlyRunningCount ≤ uint64Max := by
  have hstructured := h.structured u
  rw [hcall] at hstructured
  obtain ⟨hmanned, hactive, hrunning⟩ := hstructured
  calc temporary.currentlyRunningCount + (contexts index).currentlyRunningCount
      ≤ sumBelow (activity s) index + activity s index :=
        Nat.add_le_add hrunning (h.running_le hcontexts index)
    _ = sumBelow (activity s) (index + 1) := (sumBelow_succ _ index).symm
    _ ≤ ∑ i, activity s i := sumBelow_le _ _
    _ = temporary.activeWorkerCount := hactive.symm
    _ ≤ temporary.createdWorkerCount :=
        Nat.le_trans (Nat.le_add_right _ _) hmanned.active_joined_le
    _ ≤ uint64Max := hmanned.sized

theorem SchedulerReachable.emptyFrom (h : SchedulerReachable cfg s) :
    s.shared.EmptyFrom s.shared.worker.startedWorkerCount := by
  intro contexts hcontexts i hi
  obtain ⟨cpc, hcpc⟩ := h.threads.controllerPc
  have hstarted := (h.lifecycle.phase hcpc).started_eq (Option.isSome_iff_exists.mpr ⟨_, hcontexts⟩)
  exact h.spareSlots contexts hcontexts i (hstarted.symm.trans_le hi)

/-- **Every capture stays below the scheduler.** -/
theorem SchedulerReachable.below (h : SchedulerReachable cfg s) :
    ∀ u, (s.pc u).toCall.Below s.shared := by
  refine h.invariant (I := fun s => ∀ u, (s.pc u).toCall.Below s.shared) ?_ ?_
  · intro queue _
    rintro (_ | i | c) <;> trivial
  · intro s s' t choice hreach hbelow hstep u
    obtain ⟨f, habs, -⟩ := hreach.threads.abstracts
    have hgrows := hreach.grows hstep
    refine hreach.call_step u
      (A := fun pc => pc.Below s.shared ∧ (pc.loading = true → s.shared.worker.mutex ≠ none))
      (fun pc => pc.below_wake s'.shared) hstep
        (fun _ => trivial) ?_ ?_ ⟨hbelow u, fun hloading => ?_⟩
    · rintro - pc ⟨hpc, hheld⟩
      refine hpc.other hgrows fun hloading => ?_
      have hsync : s.shared.lifecycle.workerSyncInitialized = true := by
        cases pc with
        | captureLoad temporary index field => exact hpc.2.1
        | _ => cases hloading
      exact hreach.steady hstep (hheld hloading) hsync
    · intro out ht hspec hout
      rw [← hout] at hgrows ⊢
      exact hspec.below habs hgrows hreach.fits
        (fun temporary index contexts hcall => hreach.running_fits hcall) (hbelow u)
    · rw [hreach.loading_owner hloading]
      nofun

/-- One step, after a capture has returned `a`. -/
theorem above_step (hreach : SchedulerReachable cfg s)
    (hstep : (schedulerProgram cfg).step t choice s = some s') (ha : a.Within s.shared)
    (habove : (s.pc v).toCall.Above a s.shared) : (s'.pc v).toCall.Above a s'.shared := by
  obtain ⟨f, habs, -⟩ := hreach.threads.abstracts
  have hgrows := hreach.grows hstep
  have hbelow := hreach.below v
  refine hreach.call_step v
    (A := fun pc => pc.Above a s.shared ∧ (pc.loading = true → s.shared.worker.mutex ≠ none ∧
      s.shared.lifecycle.workerSyncInitialized = true))
    (fun pc => pc.above_wake a s'.shared) hstep
    (fun _ => trivial) ?_ ?_ ⟨habove, fun hloading => ?_⟩
  · rintro - pc ⟨hpc, hheld⟩
    exact hpc.other hgrows fun hloading => hreach.steady hstep (hheld hloading).1 (hheld hloading).2
  · intro out ht hspec hout
    rw [← hout]
    exact hspec.above habs hreach.fits hreach.emptyFrom
      (fun temporary index contexts hcall => hreach.running_fits hcall) hbelow ha habove
  · have hheld := hreach.loading_owner hloading
    generalize (s.pc v).toCall = call at hloading hbelow
    cases call with
    | captureLoad temporary index field => exact ⟨by rw [hheld]; nofun, hbelow.2.1⟩
    | _ => cases hloading

/-- A capture that begins after another has returned is nowhere behind it. -/
theorem SchedulerReachable.precedes (h : SchedulerReachable cfg s)
    (hsteps : (schedulerProgram cfg).Steps s s')
    (hfirst : (s.pc u).toCall = .captured (some a))
    (hbegins : v ≠ u → (s.pc v).toCall.capturing = false)
    (hsecond : (s'.pc v).toCall = .captured (some b)) : a.Precedes b := by
  have hwithin : a.Within s.shared := by
    have hbelow := h.below u
    rw [hfirst] at hbelow
    exact hbelow
  have habove : (s.pc v).toCall.Above a s.shared := by
    by_cases hv : v = u
    · rw [hv, hfirst]
      exact SchedulerSnapshot.Copied.precedes ⟨le_refl _, le_refl _, fun _ => Nat.le_refl _, id⟩
        (Nat.le_refl _)
    · exact CallPc.above_of_not_capturing (hbegins hv)
  obtain ⟨-, hend⟩ := hsteps.invariant
    (I := fun s' => a.Within s'.shared ∧ (s'.pc v).toCall.Above a s'.shared) ⟨hwithin, habove⟩ <| by
    rintro u₁ u₂ hrun ⟨ha, hv⟩ ⟨t, choice, hstep⟩
    have hreach := h.tail hrun
    exact ⟨ha.grow (hreach.grows hstep), above_step hreach hstep ha hv⟩
  rw [hsecond] at hend
  exact hend

/-- **Snapshots are monotone**: of two captures in the lifetime of a scheduler, the second
of which begins after the first returned, the second is nowhere behind the first, whatever
submitters, workers and lifecycle calls did meanwhile. -/
theorem captures_monotone (h : SchedulerReachable cfg s)
    (hsteps : (schedulerProgram cfg).Steps s s')
    (hfirst : (s.pc u).toCall = .captured (some a))
    (hbegins : v ≠ u → (s.pc v).toCall.capturing = false)
    (hsecond : (s'.pc v).toCall = .captured (some b)) : a.Precedes b :=
  h.precedes hsteps hfirst hbegins hsecond

end Reachable

/-- Shutdown and join, and another capture by the same client. -/
def recaptureSchedule : SmallSchedule :=
  makes .controller (.lifecycle .shutdown true) 8 ++ advance soleWorker 5
    ++ makes .controller (.lifecycle .join true) 10 ++ advance secondClient 1
    ++ makes secondClient .capture 7

/-- The snapshot after `recaptureSchedule`. -/
def joinedSnapshot : SchedulerSnapshot :=
  { taskSnapshot with
    state := .stopped, submissionsOpen := false, shutdownStarted := true, readyWorkerCount := 0
    activeWorkerCount := 0, joinedWorkerCount := 1 }

theorem captures_monotone_across_join :
    ∃ (s s' : SchedulerPool 1 (Fin 2) ℕ) (a b : SchedulerSnapshot),
      SchedulerReachable reliableConfig s ∧ (schedulerProgram reliableConfig).Steps s s' ∧
      (s.pc (.client 1)).toCall = .captured (some a) ∧ a.joinedWorkerCount = 0 ∧
      (s'.pc (.client 1)).toCall = .captured (some b) ∧ b.joinedWorkerCount = 1 ∧
      a.Precedes b := by
  obtain ⟨s, hs, hobs⟩ := reachable_of_run captureSchedule
    (fun s => ((s.pc (.client 1)).toCall, ((schedulerProgram reliableConfig).run
      recaptureSchedule s).map fun s' => (s'.pc (.client 1)).toCall))
    (v := (.captured (some taskSnapshot), some (.captured (some joinedSnapshot))))
    (by decide +kernel)
  obtain ⟨hfirst, hobs⟩ := Prod.mk.inj hobs
  obtain ⟨s', hrun, hsecond⟩ := Option.map_eq_some_iff.mp hobs
  have hsteps := Program.steps_of_run hrun
  refine ⟨s, s', _, _, hs, hsteps, hfirst, rfl, hsecond, rfl, ?_⟩
  exact captures_monotone hs hsteps hfirst (fun hne => absurd rfl hne) hsecond

end SchedulingEngine
