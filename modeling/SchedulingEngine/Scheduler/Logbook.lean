import SchedulingEngine.Scheduler.EarlyStart
import SchedulingEngine.Scheduler.Tally

/-!
# What a snapshot says of the events (scheduler.c)

A capture reads the lifecycle domain, then the worker domain, then the slots one load after
the other, while workers go on counting. `Logbook` notes beside the true counts what they were
when each thread's capture read them, and `CallPc.Copies` follows a capture through its reads:
each field it has filled in is the true count of its own moment cut off at `UINT64_MAX`, and
its flag says whether one of these, or the sum of the slots read so far, is beyond.
-/

namespace SchedulingEngine

open Concurrency Saturation

variable {W : ℕ} {C P : Type}

/-! ## The logbook -/

/-- The true counts now, what they were when the capture of each thread read them, and what
those of a slot were when the capture loaded its flag. -/
structure Logbook (W : ℕ) (C : Type) where
  now : Tally W := {}
  copied : Thread W C → Tally W := fun _ => {}
  flagged : Thread W C → Fin W → WorkerCount → ℕ := fun _ _ _ => 0

/-- Which thread reads at the event. -/
def AccountEvent.reader : AccountEvent W C → Option (Thread W C)
  | .copiesLifecycle u | .copiesWorkers u | .loads u _ _ => some u
  | _ => none

namespace Tally

/-- The counts of `now` that a read of the event takes over. -/
def read (copied now : Tally W) : AccountEvent W C → Tally W
  | .copiesLifecycle _ => now
  | .copiesWorkers _ => { copied with failures := now.failures, stages := now.stages }
  | .loads _ i field =>
    { copied with
      stages := Function.update copied.stages i fun k =>
        if k.field = field then now.stages i k else copied.stages i k }
  | _ => copied

/-- The same for the flags of the slots. -/
def readFlags (flagged : Fin W → WorkerCount → ℕ) (now : Tally W) :
    AccountEvent W C → Fin W → WorkerCount → ℕ
  | .copiesLifecycle _ | .copiesWorkers _ => now.stages
  | .loads _ i .accountingOverflow => Function.update flagged i (now.stages i)
  | _ => flagged

end Tally

section Logbook

variable [DecidableEq C]

def Logbook.record (b : Logbook W C) (e : AccountEvent W C) : Logbook W C where
  now := b.now.record e
  copied u := if e.reader = some u then (b.copied u).read b.now e else b.copied u
  flagged u := if e.reader = some u then Tally.readFlags (b.flagged u) b.now e else b.flagged u

/-- The logbook after a run from `scheduler_init` on. -/
def logbookOf [Fintype C] (cfg : SchedulerConfig W) (ls : List (Thread W C × SchedulerChoice W C P))
    (s : SchedulerPool W C P) : Logbook W C :=
  ((schedulerProgram cfg).log accountEvents ls s).foldl Logbook.record {}

theorem Logbook.now_foldl (es : List (AccountEvent W C)) (b : Logbook W C) :
    (es.foldl Logbook.record b).now = es.foldl Tally.record b.now := by
  induction es generalizing b with
  | nil => rfl
  | cons e es ih => exact ih _

/-- Threads that do not read keep what they have read. -/
theorem Logbook.unread {es : List (AccountEvent W C)} {u : Thread W C}
    (h : ∀ e ∈ es, e.reader ≠ some u) (b : Logbook W C) :
    (es.foldl Logbook.record b).copied u = b.copied u ∧
      (es.foldl Logbook.record b).flagged u = b.flagged u := by
  induction es generalizing b with
  | nil => exact ⟨rfl, rfl⟩
  | cons e es ih =>
    obtain ⟨hcopied, hflagged⟩ := ih (fun e he => h e (List.mem_cons_of_mem _ he)) (b.record e)
    have hreader := h e List.mem_cons_self
    exact ⟨hcopied.trans (if_neg hreader), hflagged.trans (if_neg hreader)⟩

/-- What was read is not ahead of the true counts. -/
def Logbook.Past (b : Logbook W C) : Prop :=
  ∀ u i k, (b.copied u).stages i k ≤ b.now.stages i k ∧ b.flagged u i k ≤ b.now.stages i k

/-- Every count is at most that of `n'`. -/
structure Tally.Le (n n' : Tally W) : Prop where
  submissions : ∀ k, n.submissions k ≤ n'.submissions k
  failures : ∀ k, n.failures k ≤ n'.failures k
  stages : ∀ i k, n.stages i k ≤ n'.stages i k

theorem Tally.Le.refl (n : Tally W) : n.Le n :=
  ⟨fun _ => Nat.le_refl _, fun _ => Nat.le_refl _, fun _ _ => Nat.le_refl _⟩

theorem Tally.Le.trans {n n' n'' : Tally W} (h : n.Le n') (h' : n'.Le n'') : n.Le n'' where
  submissions k := Nat.le_trans (h.submissions k) (h'.submissions k)
  failures k := Nat.le_trans (h.failures k) (h'.failures k)
  stages i k := Nat.le_trans (h.stages i k) (h'.stages i k)

theorem le_update_succ {K : Type} [DecidableEq K] (n : K → ℕ) (k j : K) :
    n j ≤ Function.update n k (n k + 1) j := by
  by_cases hj : j = k
  · subst hj
    rw [Function.update_self]
    exact Nat.le_succ _
  · rw [Function.update_of_ne hj]

omit [DecidableEq C] in
theorem Tally.le_record (n : Tally W) (e : AccountEvent W C) : n.Le (n.record e) := by
  cases e with
  | submission k => exact ⟨le_update_succ _ k, (Le.refl n).failures, (Le.refl n).stages⟩
  | failure k => exact ⟨(Le.refl n).submissions, le_update_succ _ k, (Le.refl n).stages⟩
  | stage i k =>
    refine ⟨(Le.refl n).submissions, (Le.refl n).failures, fun j k' => ?_⟩
    show _ ≤ Function.update n.stages i _ j k'
    by_cases hj : j = i
    · subst hj
      rw [Function.update_self]
      exact le_update_succ _ k k'
    · rw [Function.update_of_ne hj]
  | _ => exact Le.refl n

omit [DecidableEq C] in
theorem Tally.le_foldl (es : List (AccountEvent W C)) (n : Tally W) :
    n.Le (es.foldl Tally.record n) := by
  induction es generalizing n with
  | nil => exact Le.refl n
  | cons e es ih => exact (n.le_record e).trans (ih _)

theorem Logbook.Past.record {b : Logbook W C} (h : b.Past) (e : AccountEvent W C) :
    (b.record e).Past := by
  intro u i k
  obtain ⟨hcopied, hflagged⟩ := h u i k
  have hnow := (b.now.le_record e).stages i k
  constructor
  · refine Nat.le_trans ?_ hnow
    show (if e.reader = some u then (b.copied u).read b.now e else b.copied u).stages i k ≤ _
    split
    · cases e with
      | copiesLifecycle v => exact Nat.le_refl _
      | copiesWorkers v => exact Nat.le_refl _
      -- a load takes over the count of now in one field of one slot
      | loads v j field =>
        show Function.update (b.copied u).stages j _ i k ≤ _
        by_cases hi : i = j
        · subst hi
          rw [Function.update_self]
          split
          · exact Nat.le_refl _
          · exact hcopied
        · rwa [Function.update_of_ne hi]
      | _ => exact hcopied
    · exact hcopied
  · refine Nat.le_trans ?_ hnow
    show (if e.reader = some u then Tally.readFlags (b.flagged u) b.now e else b.flagged u) i k ≤ _
    split
    · cases e with
      | copiesLifecycle v => exact Nat.le_refl _
      | copiesWorkers v => exact Nat.le_refl _
      | loads v j field =>
        cases field with
        | accountingOverflow =>
          show Function.update (b.flagged u) j _ i k ≤ _
          by_cases hi : i = j
          · subst hi
            rw [Function.update_self]
          · rwa [Function.update_of_ne hi]
        | _ => exact hflagged
      | _ => exact hflagged
    · exact hflagged

theorem Logbook.Past.foldl {b : Logbook W C} (h : b.Past) (es : List (AccountEvent W C)) :
    (es.foldl Logbook.record b).Past := by
  induction es generalizing b with
  | nil => exact h
  | cons e es ih => exact ih (h.record e)

end Logbook

/-! ## Captures -/

namespace SchedulerSnapshot

/-- The lifecycle domain copied, and nothing else. -/
structure CopiesLifecycle (copied : Tally W) (a : SchedulerSnapshot) : Prop where
  submissions : Shows uint64Max copied.submissions (SubmissionCount.captured a)
    (a.overflowDetected = true)

/-- The worker domain copied as well, from `b` at the true counts `n`. -/
structure CopiesWorkers (n copied : Tally W) (b : Books W) (a : SchedulerSnapshot) : Prop where
  submissions : ∀ k, SubmissionCount.captured a k = min uint64Max (copied.submissions k)
  failures : ∀ k, FailureCount.captured a k = min uint64Max (n.failures k)
  totals : ∀ k : WorkerCount, k.captured a = b.totals k
  overflow : a.overflowDetected = true ↔
    (∃ k, uint64Max < copied.submissions k) ∨ (∃ k, uint64Max < n.failures k) ∨
      b.slots = none ∧ ∃ k, uint64Max < n.total k

/-- Loading the slots, up to a field of slot `index`. -/
structure Loads (copied : Tally W) (flagged : Fin W → WorkerCount → ℕ) (index : ℕ)
    (loaded : WorkerCount → ℕ) (a : SchedulerSnapshot) : Prop where
  submissions : ∀ k, SubmissionCount.captured a k = min uint64Max (copied.submissions k)
  failures : ∀ k, FailureCount.captured a k = min uint64Max (copied.failures k)
  counts : ∀ k, k.captured a
    = min uint64Max (sumBelow (fun i => min uint64Max (copied.stages i k)) (loaded k))
  overflow : a.overflowDetected = true ↔
    (∃ k, uint64Max < copied.submissions k) ∨ (∃ k, uint64Max < copied.failures k) ∨
    (∃ i : Fin W, (i : ℕ) < index ∧ ∃ k, uint64Max < flagged i k) ∨
    ∃ k, uint64Max < sumBelow (fun i => min uint64Max (copied.stages i k)) (loaded k)
  flags : ∀ i : Fin W, (i : ℕ) < index → ∀ k, copied.stages i k ≤ flagged i k

/-- **What a snapshot reports**: the true counts at the moments of its reads, cut off at
`UINT64_MAX`, and whether one of them is beyond. -/
structure Reports (copied : Tally W) (flagged : Fin W → WorkerCount → ℕ) (a : SchedulerSnapshot) :
    Prop where
  submissions : ∀ k, SubmissionCount.captured a k = min uint64Max (copied.submissions k)
  failures : ∀ k, FailureCount.captured a k = min uint64Max (copied.failures k)
  counts : ∀ k, k.captured a = min uint64Max (copied.total k)
  overflow : a.overflowDetected = true ↔
    (∃ k, uint64Max < copied.submissions k) ∨ (∃ k, uint64Max < copied.failures k) ∨
    (∃ i k, uint64Max < flagged i k) ∨ ∃ k, uint64Max < copied.total k

end SchedulerSnapshot

/-- What a capture has read so far. -/
def CallPc.Copies (copied : Tally W) (flagged : Fin W → WorkerCount → ℕ) : CallPc P → Prop
  | .captureLifecycleUnlock temporary workerSyncAvailable =>
    temporary.CopiesLifecycle copied ∧ (∀ k, FailureCount.captured temporary k = 0) ∧
      (∀ k : WorkerCount, k.captured temporary = 0) ∧
      (workerSyncAvailable = false → (∀ k, copied.failures k = 0) ∧
        ∀ i k, copied.stages i k = 0 ∧ flagged i k = 0)
  | .captureWorkerLock temporary => temporary.CopiesLifecycle copied
  | .captureLoad temporary index field => temporary.Loads copied flagged index (field.loaded index)
  | .captureWorkerUnlock temporary | .captureQueue temporary _ | .captured (some temporary) =>
    temporary.Reports copied flagged
  | _ => True

theorem CallPc.copies_wake (copied : Tally W) (flagged : Fin W → WorkerCount → ℕ) (pc : CallPc P) :
    pc.wake.Copies copied flagged ↔ pc.Copies copied flagged := by
  cases pc <;> exact Iff.rfl

section Copies

variable {n copied : Tally W} {flagged : Fin W → WorkerCount → ℕ} {a : SchedulerSnapshot}
  {b : Books W}

/-- A capture without a worker domain to copy. -/
theorem SchedulerSnapshot.CopiesLifecycle.reports (h : a.CopiesLifecycle copied)
    (hfailures : ∀ k, FailureCount.captured a k = 0)
    (hcounts : ∀ k : WorkerCount, k.captured a = 0) (hfailed : ∀ k, copied.failures k = 0)
    (hstages : ∀ i k, copied.stages i k = 0 ∧ flagged i k = 0) : a.Reports copied flagged := by
  have htotal : ∀ k, copied.total k = 0 := fun k => Finset.sum_eq_zero fun i _ => (hstages i k).1
  have hzero : ¬uint64Max < 0 := Nat.not_lt_zero _
  refine ⟨h.submissions.value, fun k => ?_, fun k => ?_, ?_⟩
  · rw [hfailures k, hfailed k, Nat.min_eq_right (Nat.zero_le _)]
  · rw [hcounts k, htotal k, Nat.min_eq_right (Nat.zero_le _)]
  · rw [h.submissions.flag]
    refine (or_iff_left ?_).symm
    rintro (⟨k, hk⟩ | ⟨i, k, hk⟩ | ⟨k, hk⟩)
    · exact hzero (hfailed k ▸ hk)
    · exact hzero ((hstages i k).2 ▸ hk)
    · exact hzero (htotal k ▸ hk)

/-- The slots are still to be loaded. -/
theorem SchedulerSnapshot.CopiesWorkers.loads (h : a.CopiesWorkers n copied b)
    (hsome : b.slots.isSome = true) (htotals : ∀ k, b.totals k = 0) :
    a.Loads { copied with failures := n.failures, stages := n.stages } n.stages 0
      (SlotField.dequeued.loaded 0) := by
  have hsum : ∀ k, sumBelow (fun i => min uint64Max (n.stages i k)) (SlotField.dequeued.loaded 0 k)
      = 0 := by
    intro k
    rw [show SlotField.dequeued.loaded 0 k = 0 by cases k <;> rfl, sumBelow_zero]
  refine ⟨h.submissions, h.failures, fun k => ?_, ?_, fun i hi => absurd hi (Nat.not_lt_zero _)⟩
  · rw [h.totals k, htotals k, hsum k, Nat.min_eq_right (Nat.zero_le _)]
  · rw [h.overflow]
    refine or_congr_right (or_congr_right (iff_of_false ?_ ?_))
    · rintro ⟨hnone, -⟩
      rw [hnone] at hsome
      cases hsome
    · rintro (⟨i, hi, -⟩ | ⟨k, hk⟩)
      · exact Nat.not_lt_zero _ hi
      · rw [hsum k] at hk
        exact Nat.not_lt_zero _ hk

/-- There is no slot to load: nothing was counted yet, or everything is in the totals. -/
theorem SchedulerSnapshot.CopiesWorkers.reports (h : a.CopiesWorkers n copied b) (hn : n.Kept b)
    (hempty : b.slots.isSome = true → ∀ i k, n.stages i k = 0) :
    a.Reports { copied with failures := n.failures, stages := n.stages } n.stages := by
  have hsingle : ∀ i k, n.stages i k ≤ n.total k := fun i k =>
    Finset.single_le_sum (f := fun i => n.stages i k) (fun _ _ => Nat.zero_le _) (Finset.mem_univ i)
  refine ⟨h.submissions, h.failures, fun k => ?_, ?_⟩
  · rw [h.totals k]
    cases hslots : b.slots with
    | none => exact hn.folded hslots k
    | some contexts =>
      have hsome : b.slots.isSome = true := by rw [hslots]; rfl
      have htotal : n.total k = 0 := Finset.sum_eq_zero fun i _ => hempty hsome i k
      rw [hn.unfolded hsome k]
      show 0 = min uint64Max (n.total k)
      rw [htotal, Nat.min_eq_right (Nat.zero_le _)]
  · rw [h.overflow]
    refine or_congr_right (or_congr_right ?_)
    cases hslots : b.slots with
    | none =>
      constructor
      · exact fun hover => .inr hover.2
      · rintro (⟨i, k, hk⟩ | hover)
        · exact ⟨rfl, k, Nat.lt_of_lt_of_le hk (hsingle i k)⟩
        · exact ⟨rfl, hover⟩
    | some contexts =>
      have hzero := hempty (by rw [hslots]; rfl)
      refine iff_of_false nofun ?_
      rintro (⟨i, k, hk⟩ | ⟨k, hk⟩)
      · rw [hzero i k] at hk
        exact Nat.not_lt_zero _ hk
      · have htotal : n.total k = 0 := Finset.sum_eq_zero fun i _ => hzero i k
        have hover : uint64Max < n.total k := hk
        rw [htotal] at hover
        exact Nat.not_lt_zero _ hover

end Copies

section Loads

variable {now copied : Tally W} {flagged : Fin W → WorkerCount → ℕ} {a : SchedulerSnapshot}
  {context : WorkerContext} {u : Thread W C}

theorem sumBelow_congr {v v' : Fin W → ℕ} {m : ℕ} (h : ∀ i : Fin W, (i : ℕ) < m → v i = v' i) :
    sumBelow v m = sumBelow v' m := by
  refine Finset.sum_congr rfl fun i _ => ?_
  split
  · rename_i hi
    exact h i hi
  · rfl

/-- What a load adds to the slots that were read before. -/
theorem sumBelow_read (copied now : Tally W) (u : Thread W C) (i : Fin W) {field next : SlotField}
    (hnext : field.next = some next) (k : WorkerCount) :
    sumBelow (fun j => min uint64Max ((copied.read now (.loads u i field)).stages j k))
        (next.loaded i k)
      = sumBelow (fun j => min uint64Max (copied.stages j k)) (field.loaded i k)
        + if k.field = field then min uint64Max (now.stages i k) else 0 := by
  have hbelow : ∀ j : Fin W, (j : ℕ) < i →
      (copied.read now (.loads u i field)).stages j k = copied.stages j k := by
    intro j hj
    show Function.update copied.stages i _ j k = _
    rw [Function.update_of_ne (Fin.ne_of_lt hj)]
  have hself : (copied.read now (.loads u i field)).stages i k
      = if k.field = field then now.stages i k else copied.stages i k := by
    show Function.update copied.stages i _ i k = _
    rw [Function.update_self]
  rw [SlotField.loaded_next hnext]
  by_cases hk : k.field = field
  · rw [if_pos hk, if_pos hk, ← hk, SlotField.loaded_field, sumBelow_succ, hk, hself, if_pos hk]
    refine congrArg (· + _) (sumBelow_congr fun j hj => ?_)
    rw [hbelow j hj]
  · rw [if_neg hk, if_neg hk, Nat.add_zero]
    refine sumBelow_congr fun j _ => ?_
    by_cases hj : j = i
    · subst hj
      rw [hself, if_neg hk]
    · show min uint64Max (Function.update copied.stages i _ j k) = _
      rw [Function.update_of_ne hj]

/-- The load of a count. -/
theorem SchedulerSnapshot.Loads.load {i : Fin W} {field next : SlotField}
    (h : a.Loads copied flagged i (field.loaded i)) (hnext : field.next = some next)
    (hslot : ∀ k : WorkerCount, k.slot context = min uint64Max (now.stages i k))
    (hrunning : field = .currentlyRunning →
      a.currentlyRunningCount + context.currentlyRunningCount ≤ uint64Max) :
    (captureField context a field).Loads (copied.read now (.loads u i field))
      (Tally.readFlags flagged now (.loads u i field)) i (next.loaded i) := by
  have hfits : ∀ k : WorkerCount, k.captured a ≤ uint64Max := by
    intro k
    rw [h.counts k]
    exact Nat.min_le_left _ _
  have hflagged : Tally.readFlags flagged now (.loads u i field) = flagged := by
    cases field with
    | accountingOverflow => cases hnext
    | _ => rfl
  -- the load adds one slot's count to the sum of its own field
  have hsum := fun k => sumBelow_read copied now u i hnext k
  rw [hflagged]
  refine ⟨?_, ?_, fun k => ?_, ?_, ?_⟩
  · intro k
    refine Eq.trans ?_ (h.submissions k)
    cases field <;> cases k <;> rfl
  · intro k
    refine Eq.trans ?_ (h.failures k)
    cases field <;> cases k <;> rfl
  · have hk := h.counts k
    rw [captureField_captured context field k (hfits k), hsum k, hslot k]
    split <;> omega
  · -- the flag: of the capture so far, or of this addition
    have hlast : field ≠ .accountingOverflow := by
      rintro rfl
      cases hnext
    rw [captureField_overflow field hfits hrunning, h.overflow]
    constructor
    · rintro ((hs | hf | hi | ⟨k, hk⟩) | ⟨hfield, -⟩ | ⟨k, hfield, hk⟩)
      · exact .inl hs
      · exact .inr (.inl hf)
      · exact .inr (.inr (.inl hi))
      · refine .inr (.inr (.inr ⟨k, ?_⟩))
        rw [hsum k]
        omega
      · exact absurd hfield hlast
      · refine .inr (.inr (.inr ⟨k, ?_⟩))
        have hcount := h.counts k
        rw [hsum k, if_pos hfield, ← hslot k]
        omega
    · rintro (hs | hf | hi | ⟨k, hk⟩)
      · exact .inl (.inl hs)
      · exact .inl (.inr (.inl hf))
      · exact .inl (.inr (.inr (.inl hi)))
      · -- the sum was beyond before, or this load takes it there
        have hcount := h.counts k
        rw [hsum k] at hk
        by_cases hbefore : uint64Max
            < sumBelow (fun j => min uint64Max (copied.stages j k)) (field.loaded i k)
        · exact .inl (.inr (.inr (.inr ⟨k, hbefore⟩)))
        · by_cases hfield : k.field = field
          · refine .inr (.inr ⟨k, hfield, ?_⟩)
            rw [if_pos hfield, ← hslot k] at hk
            omega
          · rw [if_neg hfield] at hk
            omega
  · intro j hj k
    have hle := h.flags j hj k
    show Function.update copied.stages i _ j k ≤ _
    rwa [Function.update_of_ne (Fin.ne_of_lt hj)]

/-- The load of the flag, the last of a slot. -/
theorem SchedulerSnapshot.Loads.flag {i : Fin W}
    (h : a.Loads copied flagged i (SlotField.accountingOverflow.loaded i))
    (hflag : context.accountingOverflow = true ↔ ∃ k, uint64Max < now.stages i k)
    (hpast : ∀ k, copied.stages i k ≤ now.stages i k) :
    (captureField context a .accountingOverflow).Loads
      (copied.read now (.loads u i .accountingOverflow))
      (Tally.readFlags flagged now (.loads u i .accountingOverflow)) (i + 1)
      (SlotField.dequeued.loaded (i + 1)) := by
  -- the last load of a slot copies its flag and no count
  have hcopied : copied.read now (.loads u i .accountingOverflow) = copied := by
    have hstages : (Function.update copied.stages i fun k =>
        if k.field = .accountingOverflow then now.stages i k else copied.stages i k)
        = copied.stages := by
      rw [Function.update_eq_self_iff]
      funext k
      cases k <;> rfl
    show ({ copied with stages := _ } : Tally W) = copied
    rw [hstages]
  have hloaded : SlotField.dequeued.loaded ((i : ℕ) + 1) =
      SlotField.accountingOverflow.loaded i := by
    funext k
    obtain ⟨hlast, hfirst⟩ := SlotField.loaded_last i k
    rw [hlast, hfirst]
  have hself : Tally.readFlags flagged now (.loads u i .accountingOverflow) i = now.stages i :=
    Function.update_self _ _ _
  have hother : ∀ j, j ≠ i →
      Tally.readFlags flagged now (.loads u i .accountingOverflow) j = flagged j :=
    fun j hj => Function.update_of_ne hj _ _
  rw [hcopied, hloaded]
  refine ⟨?_, ?_, fun k => ?_, ?_, ?_⟩
  · intro k
    refine Eq.trans ?_ (h.submissions k)
    cases k <;> rfl
  · intro k
    refine Eq.trans ?_ (h.failures k)
    cases k <;> rfl
  · refine Eq.trans ?_ (h.counts k)
    cases k <;> rfl
  · show (_ || _) = true ↔ _
    rw [Bool.or_eq_true, h.overflow, hflag]
    constructor
    · -- one slot more has shown its flag
      rintro ((hs | hf | ⟨j, hj, k, hk⟩ | hsum) | ⟨k, hk⟩)
      · exact .inl hs
      · exact .inr (.inl hf)
      · refine .inr (.inr (.inl ⟨j, Nat.lt_succ_of_lt hj, k, ?_⟩))
        rwa [hother j (Fin.ne_of_lt hj)]
      · exact .inr (.inr (.inr hsum))
      · refine .inr (.inr (.inl ⟨i, Nat.lt_succ_self _, k, ?_⟩))
        rwa [hself]
    · rintro (hs | hf | ⟨j, hj, k, hk⟩ | hsum)
      · exact .inl (.inl hs)
      · exact .inl (.inr (.inl hf))
      · by_cases hji : j = i
        · subst hji
          rw [hself] at hk
          exact .inr ⟨k, hk⟩
        · rw [hother j hji] at hk
          have hne : (j : ℕ) ≠ i := fun h => hji (Fin.val_injective h)
          exact .inl (.inr (.inr (.inl ⟨j, by omega, k, hk⟩)))
      · exact .inl (.inr (.inr (.inr hsum)))
  · intro j hj k
    by_cases hji : j = i
    · subst hji
      rw [hself]
      exact hpast k
    · rw [hother j hji]
      have hne : (j : ℕ) ≠ i := fun h => hji (Fin.val_injective h)
      exact h.flags j (by omega) k

/-- When every slot in use is loaded, the snapshot reports the sums over all workers. -/
theorem SchedulerSnapshot.Loads.reports {index : ℕ} {loaded : WorkerCount → ℕ}
    (h : a.Loads copied flagged index loaded) (hloaded : ∀ k, loaded k = index)
    (hrest : ∀ i : Fin W, index ≤ (i : ℕ) → ∀ k, copied.stages i k = 0 ∧ flagged i k = 0) :
    a.Reports copied flagged := by
  have hsum : ∀ k, sumBelow (fun i => min uint64Max (copied.stages i k)) (loaded k)
      = ∑ i, min uint64Max (copied.stages i k) := by
    intro k
    rw [hloaded k]
    refine sumBelow_all fun i hi => ?_
    rw [(hrest i hi k).1]
    exact Nat.min_eq_right (Nat.zero_le _)
  refine ⟨h.submissions, h.failures, fun k => ?_, ?_⟩
  · rw [h.counts k, hsum k]
    exact min_sum_min uint64Max Finset.univ fun i => copied.stages i k
  · rw [h.overflow]
    refine or_congr_right (or_congr_right ?_)
    constructor
    · rintro (⟨i, -, k, hk⟩ | ⟨k, hk⟩)
      · exact .inl ⟨i, k, hk⟩
      · rw [hsum k] at hk
        exact .inr ⟨k, (lt_sum_iff uint64Max Finset.univ _).mpr (.inr hk)⟩
    · have hflagged : ∀ i k, uint64Max < flagged i k →
          ∃ i : Fin W, (i : ℕ) < index ∧ ∃ k, uint64Max < flagged i k := by
        intro i k hk
        refine ⟨i, Nat.not_le.mp fun hi => ?_, k, hk⟩
        rw [(hrest i hi k).2] at hk
        exact absurd hk (Nat.not_lt_zero _)
      rintro (⟨i, k, hk⟩ | ⟨k, hk⟩)
      · exact .inl (hflagged i k hk)
      · rcases (lt_sum_iff uint64Max Finset.univ _).mp hk with ⟨i, -, hterm⟩ | hcut
        · -- a worker alone is beyond: its flag was loaded after its count
          have hi : (i : ℕ) < index := by
            by_contra hi
            rw [(hrest i (Nat.not_lt.mp hi) k).1] at hterm
            exact absurd hterm (Nat.not_lt_zero _)
          exact .inl ⟨i, hi, k, Nat.lt_of_lt_of_le hterm (h.flags i hi k)⟩
        · refine .inr ⟨k, ?_⟩
          rwa [hsum k]

end Loads

section Steps

variable [DecidableEq C] {cfg : SchedulerConfig W} {t : Thread W C} {choice : SchedulerChoice W C P}
  {sh : Scheduler W C P} {b : Logbook W C}

omit [DecidableEq C] in
/-- The copy of the lifecycle domain. -/
theorem captureLifecycle_copies {n : Tally W} (hn : n.Kept sh.books)
    (hunsynced : sh.lifecycle.workerSyncInitialized = false →
      (∀ k, n.failures k = 0) ∧ ∀ i k, n.stages i k = 0) :
    (CallPc.captureLifecycleUnlock (captureLifecycle W sh.lifecycle).1
      (captureLifecycle W sh.lifecycle).2 : CallPc P).Copies n n.stages := by
  refine ⟨⟨fun k => ?_, hn.submissions.flag⟩, fun k => ?_, fun k => ?_, fun hsync => ?_⟩
  · refine Eq.trans ?_ (hn.submissions.value k)
    cases k <;> rfl
  · cases k <;> rfl
  · cases k <;> rfl
  · obtain ⟨hfailures, hstages⟩ := hunsynced hsync
    exact ⟨hfailures, fun i k => ⟨hstages i k, hstages i k⟩⟩

omit [DecidableEq C] in
theorem captureWorker_copies {n copied : Tally W} {temporary : SchedulerSnapshot}
    (hn : n.Kept sh.books) (h : temporary.CopiesLifecycle copied) :
    (captureWorker sh.worker temporary).CopiesWorkers n copied sh.books := by
  refine ⟨fun k => ?_, fun k => ?_, fun k => ?_, ?_⟩
  · refine Eq.trans ?_ (h.submissions.value k)
    cases k <;> rfl
  · refine Eq.trans ?_ (hn.failures k)
    cases k <;> rfl
  · cases k <;> rfl
  · show (_ || _) = true ↔ _
    rw [Bool.or_eq_true, h.submissions.flag]
    exact or_congr_right hn.overflow

/-- **A capture reads the true counts of the moment.** -/
theorem CallStepSpec.copies {pc : CallPc P} {out : SchedulerStep W C P (CallPc P)}
    (h : CallStepSpec cfg t choice sh pc out) (hn : b.now.Kept sh.books) (hpast : b.Past)
    (hunsynced : sh.lifecycle.workerSyncInitialized = false →
      (∀ k, b.now.failures k = 0) ∧ ∀ i k, b.now.stages i k = 0)
    (hcrew : 0 < sh.worker.startedWorkerCount → sh.worker.workerContexts.isSome = true)
    (hempty : ∀ i : Fin W, sh.worker.workerContexts.isSome = true →
      sh.worker.startedWorkerCount ≤ (i : ℕ) → ∀ k, b.now.stages i k = 0)
    (hrunning : ∀ temporary (index : Fin W) contexts,
      pc = .captureLoad temporary index .currentlyRunning →
      sh.worker.workerContexts = some contexts →
      temporary.currentlyRunningCount + (contexts index).currentlyRunningCount ≤ uint64Max)
    (hcopies : pc.Copies (b.copied t) (b.flagged t)) :
    out.2.1.Copies (((pc.accounts sh t).foldl Logbook.record b).copied t)
      (((pc.accounts sh t).foldl Logbook.record b).flagged t) := by
  -- one event that the thread itself reads at
  have hread : ∀ e : AccountEvent W C, e.reader = some t → pc.accounts sh t = [e] →
      ∀ {pc' : CallPc P}, pc'.Copies ((b.copied t).read b.now e)
        (Tally.readFlags (b.flagged t) b.now e) →
      pc'.Copies (((pc.accounts sh t).foldl Logbook.record b).copied t)
        (((pc.accounts sh t).foldl Logbook.record b).flagged t) := by
    intro e hreader hevents pc' hpc'
    rw [hevents]
    show pc'.Copies (if e.reader = some t then _ else _) (if e.reader = some t then _ else _)
    rwa [if_pos hreader, if_pos hreader]
  cases h with
  | captureLifecycle hfree =>
    exact hread (.copiesLifecycle t) rfl rfl (captureLifecycle_copies hn hunsynced)
  | captureNoWorkers temporary hheld =>
    obtain ⟨hlifecycle, hfailures, hcounts, hzero⟩ := hcopies
    obtain ⟨hfailed, hstages⟩ := hzero rfl
    exact hlifecycle.reports hfailures hcounts hfailed hstages
  | captureLifecycleDone temporary hheld => exact hcopies.1
  | captureWorker temporary hfree hinit hstarted =>
    refine hread (.copiesWorkers t) rfl rfl ?_
    exact (captureWorker_copies hn hcopies).loads (hcrew hstarted) (hn.unfolded (hcrew hstarted))
  | captureNoSlots temporary hfree hinit hstarted =>
    refine hread (.copiesWorkers t) rfl rfl ?_
    refine (captureWorker_copies hn hcopies).reports hn fun hsome i => hempty i hsome ?_
    exact hstarted.trans_le (Nat.zero_le _)
  | captureLoad temporary index field next contexts hcontexts hnext =>
    refine hread (.loads t index field) rfl (dif_pos index.isLt) ?_
    refine SchedulerSnapshot.Loads.load hcopies hnext (hn.slots contexts hcontexts index).value ?_
    rintro rfl
    exact hrunning temporary index contexts rfl hcontexts
  | captureNextSlot temporary index contexts hcontexts hindex =>
    refine hread (.loads t index .accountingOverflow) rfl (dif_pos index.isLt) ?_
    exact SchedulerSnapshot.Loads.flag hcopies (hn.slots contexts hcontexts index).flag
      fun k => (hpast t index k).1
  | captureLastSlot temporary index contexts hcontexts hindex =>
    refine hread (.loads t index .accountingOverflow) rfl (dif_pos index.isLt) ?_
    have hloads := SchedulerSnapshot.Loads.flag (u := t) hcopies
      (hn.slots contexts hcontexts index).flag fun k => (hpast t index k).1
    refine hloads.reports (fun k => (SlotField.loaded_last index k).2) fun i hi k => ?_
    -- the slots beyond the started workers count nothing, and never have
    have hzero := hempty i (by rw [hcontexts]; rfl) (Nat.le_trans hindex hi) k
    have hne : i ≠ index := by
      rintro rfl
      exact absurd hi (Nat.not_succ_le_self _)
    have hpast' := hpast t i k
    rw [hzero] at hpast'
    constructor
    · show Function.update (b.copied t).stages index _ i k = 0
      rw [Function.update_of_ne hne]
      exact Nat.le_zero.mp hpast'.1
    · show Function.update (b.flagged t) index _ i k = 0
      rw [Function.update_of_ne hne]
      exact Nat.le_zero.mp hpast'.2
  | captureWorkerDone temporary hheld => exact hcopies
  | captureQueue temporary hq =>
    cases hq with
    | run hact hleave => exact hcopies
    | leave op r =>
      cases r with
      | snapshot value =>
        cases value with
        | none => trivial
        | some value =>
          exact ⟨fun k => (hcopies.submissions k).symm ▸ by cases k <;> rfl,
            fun k => (hcopies.failures k).symm ▸ by cases k <;> rfl,
            fun k => (captured_copyQueue k _ _).trans (hcopies.counts k), hcopies.overflow⟩
      | _ => trivial
  | enqueue kind task hq => cases hq <;> trivial
  | _ => trivial

/-- **Every step counts its events.** -/
theorem SchedulerStepSpec.kept {n : Tally W} {pc : SchedulerPc W P}
    {out : SchedulerStep W C P (SchedulerPc W P)} (h : SchedulerStepSpec cfg choice sh t pc out)
    (hself : ThreadOk sh t pc) (hrunning : ThreadRunning sh t pc) (hn : n.Kept sh.books) :
    ((pc.accounts sh t out.2.1).foldl Tally.record n).Kept out.1.books := by
  cases h with
  | call c h => exact h.kept hn
  | worker i h => exact h.kept (fun hpc => Nat.not_le.mp (mt hself.created.mpr hpc)) hrunning hn
  | controller h => exact h.kept hself.1 hn

end Steps

end SchedulingEngine
