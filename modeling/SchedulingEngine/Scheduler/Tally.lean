import SchedulingEngine.Arithmetic.Saturation
import SchedulingEngine.Scheduler.Monotone

/-!
# What the saturating counters say of the events (scheduler.c)

`AccountEvent` lists what the scheduler counts: submissions by their outcome, failures of the
infrastructure, and the stages of a Task on each worker. A `Tally` counts the same events with
unbounded numbers; `accountEvents` says which of them a step is.

- `Tally.Kept`: every counter is its true count cut off at `UINT64_MAX`, the folded totals are
  the sums of the true counts of all workers cut off once, and each of the flags says whether a
  count it answers for is beyond. Every step keeps it.
-/

namespace SchedulingEngine

open Concurrency Saturation

variable {W : ℕ} {C P : Type}

/-! ## Counters and events -/

/-- The submissions counted under `lifecycle_mutex`. -/
inductive SubmissionCount where
  | submitted
  | accepted
  | rejected
  deriving DecidableEq, Repr

/-- The failures counted under `worker_mutex`. -/
inductive FailureCount where
  | startup
  | runtime
  | join
  deriving DecidableEq, Repr

def SubmissionCount.counter {T : Type} (l : LifecycleDomain T) : SubmissionCount → ℕ
  | .submitted => l.submittedCount
  | .accepted => l.acceptedCount
  | .rejected => l.rejectedCount

def SubmissionCount.captured (snapshot : SchedulerSnapshot) : SubmissionCount → ℕ
  | .submitted => snapshot.submittedCount
  | .accepted => snapshot.acceptedCount
  | .rejected => snapshot.rejectedCount

def FailureCount.counter {T : Type} (w : WorkerDomain W T) : FailureCount → ℕ
  | .startup => w.workerStartupFailureCount
  | .runtime => w.workerRuntimeFailureCount
  | .join => w.joinFailureCount

def FailureCount.captured (snapshot : SchedulerSnapshot) : FailureCount → ℕ
  | .startup => snapshot.workerStartupFailureCount
  | .runtime => snapshot.workerRuntimeFailureCount
  | .join => snapshot.joinFailureCount

/-- The totals of the workers that are gone. -/
def WorkerDomain.total {T : Type} (w : WorkerDomain W T) : WorkerCount → ℕ
  | .dequeued => w.dequeuedCount
  | .started => w.callbackStartedCount
  | .succeeded => w.successfulCallbackCount
  | .failed => w.failedCallbackCount

theorem WorkerDomain.total_eq {T : Type} (w : WorkerDomain W T) (k : WorkerCount) :
    w.total k = k.folded w := by
  cases k <;> rfl

/-- What is counted, and when a capture reads the counts. -/
inductive AccountEvent (W : ℕ) (C : Type) where
  | submission (k : SubmissionCount)
  | failure (k : FailureCount)
  | stage (i : Fin W) (k : WorkerCount)
  | copiesLifecycle (u : Thread W C)
  | copiesWorkers (u : Thread W C)
  | loads (u : Thread W C) (i : Fin W) (field : SlotField)
  deriving DecidableEq

/-- The true counts. -/
structure Tally (W : ℕ) where
  submissions : SubmissionCount → ℕ := fun _ => 0
  failures : FailureCount → ℕ := fun _ => 0
  stages : Fin W → WorkerCount → ℕ := fun _ _ => 0

namespace Tally

/-- One event more. -/
def record (n : Tally W) : AccountEvent W C → Tally W
  | .submission k =>
    { n with submissions := Function.update n.submissions k (n.submissions k + 1) }
  | .failure k => { n with failures := Function.update n.failures k (n.failures k + 1) }
  | .stage i k =>
    { n with
      stages := Function.update n.stages i (Function.update (n.stages i) k (n.stages i k + 1)) }
  | _ => n

/-- What all workers did. -/
def total (n : Tally W) (k : WorkerCount) : ℕ := ∑ i, n.stages i k

end Tally

/-- The counter that a deregistration increments. -/
def decidedCount (r : SchedulerResult) : SubmissionCount :=
  if r = .ok then .accepted else .rejected

/-- A register that finds the state closed, and every deregister, decides a submission. -/
def CallPc.accounts (sh : Scheduler W C P) (u : Thread W C) : CallPc P → List (AccountEvent W C)
  | .registerLock _ _ =>
    .submission .submitted ::
      if sh.lifecycle.state = .running then [] else [.submission .rejected]
  | .deregisterLock _ r => [.submission (decidedCount r)]
  | .captureLifecycleLock => [.copiesLifecycle u]
  | .captureWorkerLock _ => [.copiesWorkers u]
  | .captureLoad _ index field => if h : index < W then [.loads u ⟨index, h⟩ field] else []
  | _ => []

/-- The failures that `record_worker_exit` counts. -/
def exitFailures (activeWorkerCount : ℕ) (r : WorkerResult) : ℕ :=
  if activeWorkerCount = 0 then 2 else if r = .ok then 0 else 1

def WorkerPc.accounts (sh : Scheduler W C P) (i : Fin W) : WorkerPc P → List (AccountEvent W C)
  | .accountDequeued _ => [.stage i .dequeued]
  | .accountStarted _ => [.stage i .started]
  | .accountResult _ succeeded => [.stage i (if succeeded then .succeeded else .failed)]
  | .callback _ _ call => call.accounts sh (.worker i)
  | .exitLock r =>
    List.replicate (exitFailures sh.worker.activeWorkerCount r) (.failure .runtime)
  | _ => []

/-- A thread that was not created, and a native join that failed or is made to look failed. -/
def ControllerPc.accounts : ControllerPc P → ControllerPc P → List (AccountEvent W C)
  | .createLock _, .createUnlock _ false => [.failure .startup]
  | .releaseLock _ _ event _ _, _ => if event = .joined then [] else [.failure .join]
  | _, _ => []

/-- The events of a step of thread `t` from `pc` to `pc'`. -/
def SchedulerPc.accounts (sh : Scheduler W C P) (t : Thread W C) :
    SchedulerPc W P → SchedulerPc W P → List (AccountEvent W C)
  | .call pc, _ => pc.accounts sh t
  | .worker i pc, _ => pc.accounts sh i
  | .controller pc, .controller pc' => pc.accounts pc'
  | .controller _, _ => []

def accountEvents (s : SchedulerPool W C P) (t : Thread W C) (s' : SchedulerPool W C P) :
    List (AccountEvent W C) :=
  (s.pc t).accounts s.shared t (s'.pc t)

/-! ## The counters follow the events -/

/-- The counters of a scheduler with their flags. -/
structure Books (W : ℕ) where
  submissions : SubmissionCount → ℕ
  submissionOverflow : Bool
  failures : FailureCount → ℕ
  totals : WorkerCount → ℕ
  slots : Option (Fin W → WorkerContext)
  workerOverflow : Bool
  created : ℕ

def Scheduler.books (sh : Scheduler W C P) : Books W where
  submissions := SubmissionCount.counter sh.lifecycle
  submissionOverflow := sh.lifecycle.accountingOverflow
  failures := FailureCount.counter sh.worker
  totals := sh.worker.total
  slots := sh.worker.workerContexts
  workerOverflow := sh.worker.accountingOverflow
  created := sh.worker.createdWorkerCount

/-- **What the counters say of the true counts.** While a worker's slot is there it counts for
itself; once the slots are gone the totals count for all. -/
structure Tally.Kept (n : Tally W) (b : Books W) : Prop where
  submissions : Shows uint64Max n.submissions b.submissions (b.submissionOverflow = true)
  failures : ∀ k, b.failures k = min uint64Max (n.failures k)
  slots : ∀ contexts, b.slots = some contexts → ∀ i,
    Shows uint64Max (n.stages i) (fun k => k.slot (contexts i))
      ((contexts i).accountingOverflow = true)
  unfolded : b.slots.isSome = true → ∀ k, b.totals k = 0
  folded : b.slots = none → ∀ k, b.totals k = min uint64Max (n.total k)
  overflow : b.workerOverflow = true ↔
    (∃ k, uint64Max < n.failures k) ∨ b.slots = none ∧ ∃ k, uint64Max < n.total k
  spare : ∀ i : Fin W, b.created ≤ i → ∀ k, n.stages i k = 0

theorem incrementSaturating_eq {counter : ℕ} (overflow : Bool) (h : counter ≤ uint64Max) :
    (incrementSaturating counter overflow).1 = min uint64Max (counter + 1) ∧
      ((incrementSaturating counter overflow).2 = true ↔
        overflow = true ∨ counter = uint64Max) := by
  unfold incrementSaturating
  split
  · rename_i hfull
    refine ⟨by dsimp only; omega, iff_of_true rfl (.inr hfull)⟩
  · rename_i hroom
    refine ⟨by dsimp only; omega, .inl, ?_⟩
    rintro (hflag | hfull)
    · exact hflag
    · exact absurd hfull hroom

theorem incrementSingleWriterAtomic_eq (counter : ℕ) (overflow : Bool) :
    ((incrementSingleWriterAtomic counter overflow).1,
      (incrementSingleWriterAtomic counter overflow).2.1) =
        incrementSaturating counter overflow := by
  unfold incrementSingleWriterAtomic incrementSaturating
  split <;> rfl

namespace Tally.Kept

variable {n : Tally W} {b b' : Books W}

/-- A submission counted. -/
theorem submission (h : n.Kept b) (k : SubmissionCount)
    (hself : b'.submissions k = (incrementSaturating (b.submissions k) b.submissionOverflow).1)
    (hflag : b'.submissionOverflow
      = (incrementSaturating (b.submissions k) b.submissionOverflow).2)
    (hb : b' = { b with
      submissions := b'.submissions, submissionOverflow := b'.submissionOverflow })
    (hother : ∀ j, j ≠ k → b'.submissions j = b.submissions j) :
    (n.record (C := C) (.submission k)).Kept b' := by
  obtain ⟨hvalue, hover⟩ := incrementSaturating_eq b.submissionOverflow (h.submissions.le k)
  rw [hb]
  refine ⟨?_, h.failures, h.slots, h.unfolded, h.folded, h.overflow, h.spare⟩
  refine h.submissions.increment k (hself.trans hvalue) hother ?_
  rw [hflag]
  exact hover

/-- A failure counted. -/
theorem failure (h : n.Kept b) (k : FailureCount)
    (hself : b'.failures k = (incrementSaturating (b.failures k) b.workerOverflow).1)
    (hflag : b'.workerOverflow = (incrementSaturating (b.failures k) b.workerOverflow).2)
    (hb : b' = { b with failures := b'.failures, workerOverflow := b'.workerOverflow })
    (hother : ∀ j, j ≠ k → b'.failures j = b.failures j) :
    (n.record (C := C) (.failure k)).Kept b' := by
  -- the failures share their flag with the totals, so the rule is applied to them alone
  have hshows : Shows uint64Max n.failures b.failures (∃ k, uint64Max < n.failures k) :=
    ⟨h.failures, Iff.rfl⟩
  obtain ⟨hvalue, hover⟩ := incrementSaturating_eq b.workerOverflow (hshows.le k)
  have hnext := hshows.increment k (hself.trans hvalue) hother Iff.rfl
  rw [hb]
  refine ⟨h.submissions, hnext.value, h.slots, h.unfolded, h.folded, ?_, h.spare⟩
  show b'.workerOverflow = true ↔ (∃ k', uint64Max < Function.update n.failures k _ k') ∨ _
  rw [hflag, hover, h.overflow, ← hnext.flag]
  exact or_right_comm

/-- A stage counted in the slot of worker `i`. -/
theorem stage (h : n.Kept b) {i : Fin W} (hi : (i : ℕ) < b.created) (k : WorkerCount)
    {g : WorkerContext → WorkerContext} (hsome : b.slots.isSome = true)
    (hself : ∀ context, k.slot (g context)
      = (incrementSaturating (k.slot context) context.accountingOverflow).1)
    (hflag : ∀ context, (g context).accountingOverflow
      = (incrementSaturating (k.slot context) context.accountingOverflow).2)
    (hother : ∀ context (j : WorkerCount), j ≠ k → j.slot (g context) = j.slot context)
    (hb : b' = { b with
      slots := b.slots.map fun contexts => Function.update contexts i (g (contexts i)) }) :
    (n.record (C := C) (.stage i k)).Kept b' := by
  obtain ⟨contexts, hcontexts⟩ := Option.isSome_iff_exists.mp hsome
  rw [hcontexts, Option.map_some] at hb
  have hnone : ∀ {p : Prop}, b'.slots = none → p := by
    rw [hb]
    nofun
  -- the counter and the flag of one slot go with its true count
  have hslot : ∀ context, (∀ m, Shows uint64Max m (fun k => k.slot context)
      (context.accountingOverflow = true) → Shows uint64Max (Function.update m k (m k + 1))
        (fun k => k.slot (g context)) ((g context).accountingOverflow = true)) := by
    intro context m hshows
    obtain ⟨hvalue, hover⟩ := incrementSaturating_eq context.accountingOverflow (hshows.le k)
    refine hshows.increment k ((hself context).trans hvalue) (hother context) ?_
    rw [hflag context]
    exact hover
  refine ⟨by rw [hb]; exact h.submissions, by rw [hb]; exact h.failures, ?_, ?_,
    fun hgone => hnone hgone, ?_, ?_⟩
  · -- the other slots are as they were
    intro contexts' hcontexts' j
    rw [hb] at hcontexts'
    cases hcontexts'
    show Shows _ (Function.update n.stages i _ j) _ _
    by_cases hj : j = i
    · subst hj
      rw [Function.update_self, Function.update_self]
      exact hslot _ _ (h.slots contexts hcontexts j)
    · rw [Function.update_of_ne hj, Function.update_of_ne hj]
      exact h.slots contexts hcontexts j
  · intro _ k'
    rw [hb]
    exact h.unfolded hsome k'
  · have hover := h.overflow
    rw [hcontexts] at hover
    rw [show b'.workerOverflow = b.workerOverflow by rw [hb], hover]
    refine or_congr_right (iff_of_false nofun fun hgone => hnone hgone.1)
  · intro j hj k'
    rw [hb] at hj
    have hji : j ≠ i := by
      rintro rfl
      exact absurd hi (Nat.not_lt.mpr hj)
    show Function.update n.stages i _ j k' = 0
    rw [Function.update_of_ne hji]
    exact h.spare j hj k'

/-- A slot rewritten without counting, perhaps with a worker more. -/
theorem rewrite (h : n.Kept b) (i : Fin W) {g : WorkerContext → WorkerContext}
    (hcounts : ∀ contexts, b.slots = some contexts →
      (∀ k : WorkerCount, k.slot (g (contexts i)) = k.slot (contexts i)) ∧
        (g (contexts i)).accountingOverflow = (contexts i).accountingOverflow)
    {created : ℕ} (hcreated : b.created ≤ created)
    (hb : b' = { b with
      slots := b.slots.map fun contexts => Function.update contexts i (g (contexts i)), created }) :
    n.Kept b' := by
  rw [hb]
  have hspare : ∀ j : Fin W, created ≤ j → ∀ k, n.stages j k = 0 :=
    fun j hj => h.spare j (Nat.le_trans hcreated hj)
  cases hcontexts : b.slots with
  | none =>
    have hover := h.overflow
    rw [hcontexts] at hover
    exact ⟨h.submissions, h.failures, nofun, nofun, fun _ => h.folded hcontexts, hover, hspare⟩
  | some contexts =>
    have hover := h.overflow
    rw [hcontexts] at hover
    refine ⟨h.submissions, h.failures, ?_, fun _ => h.unfolded (by rw [hcontexts]; rfl), nofun,
      hover.trans (or_congr_right (iff_of_false nofun nofun)), hspare⟩
    intro contexts' hcontexts' j
    cases hcontexts'
    have hslot := h.slots contexts hcontexts j
    by_cases hj : j = i
    · subst hj
      obtain ⟨hcount, hflag⟩ := hcounts contexts hcontexts
      dsimp only
      rw [Function.update_self, hflag]
      exact ⟨fun k => (hcount k).trans (hslot.value k), hslot.flag⟩
    · dsimp only
      rwa [Function.update_of_ne hj]

/-- Nothing is counted before a worker is created. -/
theorem stages_zero (h : n.Kept b) (hcreated : b.created = 0) (i : Fin W) (k : WorkerCount) :
    n.stages i k = 0 :=
  h.spare i (hcreated.trans_le (Nat.zero_le _)) k

theorem total_zero (h : n.Kept b) (hcreated : b.created = 0) (k : WorkerCount) : n.total k = 0 :=
  Finset.sum_eq_zero fun i _ => h.stages_zero hcreated i k

/-- Before a worker is created the slots come and go without a trace. -/
theorem arrays (h : n.Kept b) (hcreated : b.created = 0)
    {slots : Option (Fin W → WorkerContext)}
    (hslots : ∀ contexts, slots = some contexts → ∀ i, contexts i = {}) :
    n.Kept { b with slots } := by
  have htotals : ∀ k, b.totals k = 0 := by
    intro k
    cases hb : b.slots with
    | none => rw [h.folded hb k, h.total_zero hcreated k, Nat.min_eq_right (Nat.zero_le _)]
    | some contexts => exact h.unfolded (by rw [hb]; rfl) k
  have hnone : ∀ p : Prop, ¬(p ∧ ∃ k, uint64Max < n.total k) := by
    rintro p ⟨-, k, hk⟩
    rw [h.total_zero hcreated k] at hk
    exact absurd hk (Nat.not_lt_zero _)
  refine ⟨h.submissions, h.failures, ?_, fun _ => htotals, fun _ k => ?_, ?_, h.spare⟩
  · intro contexts hcontexts i
    rw [hslots contexts hcontexts i, funext (h.stages_zero hcreated i)]
    refine ⟨fun k => ?_, iff_of_false nofun ?_⟩
    · cases k <;> rfl
    · rintro ⟨k, hk⟩
      exact absurd hk (Nat.not_lt_zero _)
  · rw [h.total_zero hcreated k]
    exact (htotals k).trans (Nat.min_eq_right (Nat.zero_le _)).symm
  · exact h.overflow.trans (or_congr_right (iff_of_false (hnone _) (hnone _)))

/-- The fold adds up what the workers did, in whatever order it takes them. -/
theorem fold (h : n.Kept b) {T : Type} {w : WorkerDomain W T} {contexts : Fin W → WorkerContext}
    (hcontexts : b.slots = some contexts) (htotals : ∀ k : WorkerCount, k.folded w = b.totals k)
    (hflag : w.accountingOverflow = b.workerOverflow) {is : List (Fin W)}
    (hnodup : is.Nodup) (hall : ∀ i : Fin W, (i : ℕ) < b.created → i ∈ is) :
    (∀ k : WorkerCount, k.folded (is.foldl (fun w i => foldContext w (contexts i)) w)
      = min uint64Max (n.total k)) ∧
    ((is.foldl (fun w i => foldContext w (contexts i)) w).accountingOverflow = true ↔
      (∃ k, uint64Max < n.failures k) ∨ ∃ k, uint64Max < n.total k) := by
  have hzero : ∀ k : WorkerCount, k.folded w = 0 :=
    fun k => (htotals k).trans (h.unfolded (by rw [hcontexts]; rfl) k)
  have hfits : w.Fits := fun k => (hzero k).trans_le (Nat.zero_le _)
  obtain ⟨hsums, hflags⟩ := foldl_foldContext_sums contexts is hfits
  have hsum : ∀ v : Fin W → ℕ, (is.map v).sum = ∑ i ∈ is.toFinset, v i :=
    fun v => (List.sum_toFinset v hnodup).symm
  have hover : (w.accountingOverflow = true) ↔ ∃ k, uint64Max < n.failures k := by
    rw [hflag, h.overflow, hcontexts]
    exact or_iff_left nofun
  -- the workers that are left out have counted nothing
  have htotal : ∀ k, ∑ i ∈ is.toFinset, n.stages i k = n.total k := by
    intro k
    refine Finset.sum_subset (Finset.subset_univ _) fun i _ hi => h.spare i ?_ k
    by_contra hcreated
    exact hi (List.mem_toFinset.mpr (hall i (Nat.not_le.mp hcreated)))
  have hshows : Shows uint64Max (fun k => ∑ i ∈ is.toFinset, n.stages i k)
      (fun k => k.folded (is.foldl (fun w i => foldContext w (contexts i)) w))
      ((∃ i ∈ is.toFinset, (contexts i).accountingOverflow = true) ∨
        ∃ k : WorkerCount, uint64Max < ∑ i ∈ is.toFinset, k.slot (contexts i)) := by
    refine Shows.sum (fun i _ => h.slots contexts hcontexts i) (fun k => ?_) Iff.rfl
    rw [hsums k, hzero k, Nat.zero_add, hsum]
  constructor
  · intro k
    rw [hshows.value k, htotal k]
  · have hflag' := hshows.flag
    simp only [htotal] at hflag'
    rw [hflags, hover, ← hflag']
    simp only [hzero, Nat.zero_add, hsum, List.mem_toFinset]

/-- **The totals after the fold** are the true sums over all workers, cut off once. -/
theorem release {sh : Scheduler W C P} {t : Thread W C} {worker : WorkerDomain W (Thread W C)}
    (h : n.Kept sh.books) (hfold : foldWorkers (sh.lockWorker t).worker = some worker)
    (hcreated : sh.worker.workerContexts.isSome = true →
      sh.worker.createdWorkerCount = sh.worker.startedWorkerCount) :
    n.Kept { sh with worker }.books := by
  have hbooks : n.Kept { sh with worker := (sh.lockWorker t).worker }.books := h
  have hcreated' : (sh.lockWorker t).worker.workerContexts.isSome = true →
      (sh.lockWorker t).worker.createdWorkerCount
        = (sh.lockWorker t).worker.startedWorkerCount := hcreated
  clear h hcreated
  generalize (sh.lockWorker t).worker = w at hfold hbooks hcreated'
  obtain ⟨_, _, _, _, _, hframe⟩ := foldWorkers_frame hfold
  have hslots : worker.workerContexts = none := by rw [hframe]
  have hfailures : FailureCount.counter worker = FailureCount.counter w := by
    funext k
    rw [hframe]
    cases k <;> rfl
  unfold foldWorkers at hfold
  cases hcontexts : w.workerContexts with
  -- nothing to fold: a join again
  | none =>
    simp only [hcontexts, Option.ite_none_right_eq_some, Option.some.injEq] at hfold
    obtain ⟨-, rfl⟩ := hfold
    have hnone : n.Kept { ({ sh with worker := w } : Scheduler W C P).books with
      slots := w.workerContexts } := hbooks
    rw [hcontexts] at hnone
    exact hnone
  | some contexts =>
    simp only [hcontexts, Option.some.injEq] at hfold
    -- the loop of the source covers every worker that was created
    have hall : ∀ i : Fin W, (i : ℕ) < w.createdWorkerCount →
        i ∈ (List.finRange W).take w.startedWorkerCount := by
      intro i hi
      refine List.mem_take_iff_getElem.mpr ⟨i, ?_, List.getElem_finRange _⟩
      rw [List.length_finRange, ← hcreated' (by rw [hcontexts]; rfl)]
      omega
    obtain ⟨hsums, hflags⟩ := hbooks.fold (w := w) hcontexts (fun k => (w.total_eq k).symm) rfl
      ((List.nodup_finRange W).sublist (List.take_sublist _ _)) hall
    refine ⟨hbooks.submissions, ?_, ?_, ?_, fun _ k => ?_, ?_, ?_⟩
    · show ∀ k, FailureCount.counter worker k = _
      rw [hfailures]
      exact hbooks.failures
    · intro contexts' hcontexts'
      cases hslots.symm.trans hcontexts'
    · intro hsome
      cases (congrArg Option.isSome hslots).symm.trans hsome
    · -- each total has become the sum over all workers
      rw [← hsums k]
      show worker.total k = _
      rw [worker.total_eq k, ← hfold]
      cases k <;> rfl
    · show worker.accountingOverflow = true ↔ _ ∨ worker.workerContexts = none ∧ _
      rw [hslots, ← hfold]
      exact hflags.trans (or_congr_right ⟨fun hover => ⟨rfl, hover⟩, And.right⟩)
    · show ∀ i : Fin W, worker.createdWorkerCount ≤ i → _
      rw [hframe]
      exact hbooks.spare

end Tally.Kept

section Steps

variable {cfg : SchedulerConfig W} {t : Thread W C} {choice : SchedulerChoice W C P}
  {sh : Scheduler W C P} {n : Tally W}

/-- A registration. -/
theorem registerSubmitter_kept (hn : n.Kept sh.books) (t : Thread W C) (kind : SubmitKind)
    (task : P) :
    (((CallPc.registerLock kind task).accounts sh t).foldl Tally.record n).Kept
      { sh with lifecycle := (registerSubmitter (sh.lockLifecycle t).lifecycle).1 }.books := by
  -- first the call is counted, then its rejection
  let submitted := incrementSaturating sh.lifecycle.submittedCount sh.lifecycle.accountingOverflow
  have hsubmitted : (n.record (C := C) (.submission .submitted)).Kept
      { sh.books with
        submissions := SubmissionCount.counter
          { sh.lifecycle with submittedCount := submitted.1, accountingOverflow := submitted.2 }
        submissionOverflow := submitted.2 } := by
    refine hn.submission .submitted rfl rfl rfl ?_
    intro j hj
    cases j with
    | submitted => exact absurd rfl hj
    | _ => rfl
  by_cases hstate : sh.lifecycle.state = .running
  · simp only [CallPc.accounts, if_pos hstate, List.foldl_cons, List.foldl_nil]
    have hregister : registerSubmitter (sh.lockLifecycle t).lifecycle
        = ({ (sh.lockLifecycle t).lifecycle with
              submittedCount := submitted.1, accountingOverflow := submitted.2
              activeSubmitterCount := sh.lifecycle.activeSubmitterCount + 1 }, .ok) := by
      unfold registerSubmitter
      exact if_neg (not_not.mpr hstate)
    rw [hregister]
    exact hsubmitted
  · simp only [CallPc.accounts, if_neg hstate, List.foldl_cons, List.foldl_nil]
    let refused : Books W := { sh.books with
      submissions := SubmissionCount.counter
        { sh.lifecycle with
          submittedCount := submitted.1
          rejectedCount := (incrementSaturating sh.lifecycle.rejectedCount submitted.2).1 }
      submissionOverflow := (incrementSaturating sh.lifecycle.rejectedCount submitted.2).2 }
    have hrejected : Tally.Kept _ refused := hsubmitted.submission (C := C) .rejected rfl rfl rfl ?_
    · unfold registerSubmitter
      simp only [Scheduler.lockLifecycle, ne_eq, hstate, not_false_eq_true, if_true]
      exact hrejected
    · intro j hj
      cases j with
      | rejected => exact absurd rfl hj
      | _ => rfl

theorem deregisterSubmitter_counters {T : Type} (l : LifecycleDomain T) (r : SchedulerResult) :
    (decidedCount r).counter (deregisterSubmitter l r).1
        = (incrementSaturating ((decidedCount r).counter l) l.accountingOverflow).1 ∧
      (deregisterSubmitter l r).1.accountingOverflow
        = (incrementSaturating ((decidedCount r).counter l) l.accountingOverflow).2 ∧
      ∀ j, j ≠ decidedCount r → j.counter (deregisterSubmitter l r).1 = j.counter l := by
  unfold deregisterSubmitter decidedCount
  by_cases hr : r = .ok
  · simp only [if_pos hr]
    split <;> refine ⟨rfl, rfl, fun j hj => ?_⟩ <;> cases j <;> first | rfl | exact absurd rfl hj
  · simp only [if_neg hr]
    split <;> refine ⟨rfl, rfl, fun j hj => ?_⟩ <;> cases j <;> first | rfl | exact absurd rfl hj

/-- A deregistration. -/
theorem deregisterSubmitter_kept (hn : n.Kept sh.books) (t : Thread W C) (r : SchedulerResult)
    (task : P) :
    (((CallPc.deregisterLock task r).accounts sh t).foldl Tally.record n).Kept
      { sh with lifecycle := (deregisterSubmitter (sh.lockLifecycle t).lifecycle r).1 }.books := by
  obtain ⟨hself, hflag, hother⟩ := deregisterSubmitter_counters (sh.lockLifecycle t).lifecycle r
  exact hn.submission (C := C) (decidedCount r) hself hflag rfl hother

variable [DecidableEq C]

/-- **A submission or a capture counts what it is.** -/
theorem CallStepSpec.kept {pc : CallPc P} {out : SchedulerStep W C P (CallPc P)}
    (h : CallStepSpec cfg t choice sh pc out) (hn : n.Kept sh.books) :
    ((pc.accounts sh t).foldl Tally.record n).Kept out.1.books := by
  cases h with
  | register kind task hfree => exact registerSubmitter_kept hn t kind task
  | deregister task r hfree => exact deregisterSubmitter_kept hn t r task
  | enqueue kind task hq => cases hq <;> exact hn
  | captureLoad temporary index field next contexts hcontexts hnext =>
    simp only [CallPc.accounts, index.isLt, dite_true]
    exact hn
  | captureNextSlot temporary index contexts hcontexts hindex =>
    simp only [CallPc.accounts, index.isLt, dite_true]
    exact hn
  | captureLastSlot temporary index contexts hcontexts hindex =>
    simp only [CallPc.accounts, index.isLt, dite_true]
    exact hn
  | captureQueue temporary hq => cases hq <;> exact hn
  | _ => exact hn

omit [DecidableEq C] in
/-- A failure of the infrastructure, as `record_worker_exit` counts it. -/
theorem recordWorkerExit_cases {T : Type} (w : WorkerDomain W T) (r : WorkerResult) :
    let failed (w : WorkerDomain W T) : WorkerDomain W T :=
      { w with
        infrastructureFailure := true
        workerRuntimeFailureCount :=
          (incrementSaturating w.workerRuntimeFailureCount w.accountingOverflow).1
        accountingOverflow :=
          (incrementSaturating w.workerRuntimeFailureCount w.accountingOverflow).2 }
    (w.activeWorkerCount = 0 ∧ (recordWorkerExit w r).1 = failed (failed w)) ∨
    (w.activeWorkerCount ≠ 0 ∧ r = .ok ∧
      (recordWorkerExit w r).1 = { w with activeWorkerCount := w.activeWorkerCount - 1 }) ∨
    (w.activeWorkerCount ≠ 0 ∧ r ≠ .ok ∧
      (recordWorkerExit w r).1
        = failed { w with activeWorkerCount := w.activeWorkerCount - 1 }) := by
  by_cases hactive : w.activeWorkerCount = 0
  · exact .inl ⟨hactive, by simp [recordWorkerExit, hactive]⟩
  · by_cases hr : r = .ok
    · exact .inr (.inl ⟨hactive, hr, by simp [recordWorkerExit, hactive, hr]⟩)
    · exact .inr (.inr ⟨hactive, hr, by simp [recordWorkerExit, hactive, hr]⟩)

omit [DecidableEq C] in
/-- The exit of a worker. -/
theorem recordWorkerExit_kept (hn : n.Kept sh.books) (t : Thread W C) (i : Fin W)
    (r : WorkerResult) :
    ((WorkerPc.accounts sh i (.exitLock r : WorkerPc P)).foldl Tally.record n).Kept
      { sh with worker := (recordWorkerExit (sh.lockWorker t).worker r).1 }.books := by
  have hfailure : ∀ {m : Tally W} {w : WorkerDomain W (Thread W C)},
      m.Kept { sh with worker := w }.books →
      (m.record (C := C) (.failure .runtime)).Kept { sh with
        worker := { w with
          infrastructureFailure := true
          workerRuntimeFailureCount :=
            (incrementSaturating w.workerRuntimeFailureCount w.accountingOverflow).1
          accountingOverflow :=
            (incrementSaturating w.workerRuntimeFailureCount w.accountingOverflow).2 } }.books := by
    intro m w hm
    refine hm.failure .runtime rfl rfl rfl fun j hj => ?_
    cases j with
    | runtime => exact absurd rfl hj
    | _ => rfl
  have hlocked : n.Kept { sh with worker := (sh.lockWorker t).worker }.books := hn
  show ((List.replicate (exitFailures sh.worker.activeWorkerCount r)
    (AccountEvent.failure (W := W) (C := C) .runtime)).foldl Tally.record n).Kept _
  unfold exitFailures
  rcases recordWorkerExit_cases (sh.lockWorker t).worker r with
    ⟨hactive, hexit⟩ | ⟨hactive, hr, hexit⟩ | ⟨hactive, hr, hexit⟩
  · rw [hexit, if_pos (show sh.worker.activeWorkerCount = 0 from hactive)]
    exact hfailure (hfailure hlocked)
  · rw [hexit, if_neg (show sh.worker.activeWorkerCount ≠ 0 from hactive), if_pos hr]
    exact hlocked
  · rw [hexit, if_neg (show sh.worker.activeWorkerCount ≠ 0 from hactive), if_neg hr]
    exact hfailure hlocked

/-- **A worker counts the stages of its Task and its own failure.** -/
theorem WorkerStepSpec.kept {i : Fin W} {pc : WorkerPc P} {out : SchedulerStep W C P (WorkerPc P)}
    (h : WorkerStepSpec cfg (.worker i) choice sh i pc out)
    (hi : pc ≠ .notCreated → (i : ℕ) < sh.worker.createdWorkerCount)
    (hrunning : RunningCount sh i pc) (hn : n.Kept sh.books) :
    ((pc.accounts sh i).foldl Tally.record n).Kept out.1.books := by
  have hatomic : ∀ (counter : ℕ) (overflow : Bool),
      (incrementSingleWriterAtomic counter overflow).1 = (incrementSaturating counter overflow).1 ∧
      (incrementSingleWriterAtomic counter overflow).2.1
        = (incrementSaturating counter overflow).2 := by
    intro counter overflow
    exact Prod.mk.inj (incrementSingleWriterAtomic_eq counter overflow)
  have hresult : ∀ (succeeded : Bool), sh.worker.workerContexts.isSome = true →
      (i : ℕ) < sh.worker.createdWorkerCount →
      (n.record (C := C) (.stage i (if succeeded then .succeeded else .failed))).Kept
        (storeSlot i sh (SchedulingEngine.accountResult succeeded)).books := by
    intro succeeded hcontexts hcreated
    cases succeeded with
    | true =>
      refine hn.stage (g := SchedulingEngine.accountResult true) hcreated .succeeded hcontexts
        (fun context => (hatomic _ _).1)
        (fun context => (hatomic _ _).2) (fun context j hj => ?_) rfl
      cases j <;> first | rfl | exact absurd rfl hj
    | false =>
      refine hn.stage (g := SchedulingEngine.accountResult false) hcreated .failed hcontexts
        (fun context => (hatomic _ _).1)
        (fun context => (hatomic _ _).2) (fun context j hj => ?_) rfl
      cases j <;> first | rfl | exact absurd rfl hj
  cases h with
  | dequeue hq => cases hq <;> exact hn
  | accountDequeued task hcontexts =>
    refine hn.stage (C := C) (g := SchedulingEngine.accountDequeued) (hi nofun) .dequeued hcontexts
      (fun context => (hatomic _ _).1)
      (fun context => (hatomic _ _).2) (fun context j hj => ?_) rfl
    cases j <;> first | rfl | exact absurd rfl hj
  | accountStarted task hcontexts =>
    refine hn.stage (C := C) (g := SchedulingEngine.accountStarted) (hi nofun) .started hcontexts
      (fun context => (hatomic _ _).1)
      (fun context => (hatomic _ _).2) (fun context j hj => ?_) rfl
    cases j <;> first | rfl | exact absurd rfl hj
  | accountRunning task contexts hcontexts =>
    -- the worker runs no other callback, so this counter is far from its limit
    refine hn.rewrite (g := fun context => (SchedulingEngine.accountRunning context).1) i
      (fun contexts hcontexts => ⟨fun k => by cases k <;> rfl, ?_⟩) (Nat.le_refl _) rfl
    show (incrementSingleWriterAtomic (contexts i).currentlyRunningCount
      (contexts i).accountingOverflow).2.1 = (contexts i).accountingOverflow
    have hslot : sh.slot i = some (contexts i) :=
      congrArg (Option.map fun contexts : Fin W → WorkerContext => contexts i) hcontexts
    rw [hrunning (contexts i) hslot]
    rfl
  | call task runningAccounted hcall => exact hcall.kept hn
  | accountResult succeeded hcontexts => exact hresult succeeded hcontexts (hi nofun)
  | accountResultOnly succeeded hcontexts => exact hresult succeeded hcontexts (hi nofun)
  | accountRunningDone hcontexts =>
    exact hn.rewrite i (fun contexts _ => ⟨fun k => by cases k <;> rfl, rfl⟩) (Nat.le_refl _) rfl
  | queueShutdown r hq => cases hq <;> exact hn
  | exit r hfree hinit => exact recordWorkerExit_kept hn _ i r
  | _ => exact hn

/-- **A lifecycle call counts the creations and joins that fail, and folds the slots.** -/
theorem ControllerStepSpec.kept {pc : ControllerPc P} {out : SchedulerStep W C P (ControllerPc P)}
    (h : ControllerStepSpec cfg choice sh pc out) (hphase : (pc.phase W).Ok sh)
    (hn : n.Kept sh.books) :
    ((pc.accounts (W := W) (C := C) out.2.1).foldl Tally.record n).Kept out.1.books := by
  cases h with
  | allocationFailed sh' hsh hfail =>
    subst hsh
    exact hn.arrays hphase.2.1.created nofun
  | allocated sh' hsh hthreads hcontexts hsize =>
    subst hsh
    refine hn.arrays hphase.2.1.created fun contexts hsome i => ?_
    cases hcontexts.symm.trans hsome
    rfl
  -- the arrays come and go while no worker has been created
  | syncInitFailed mutexInitialized hmutex hfail => exact hn.arrays hphase.2.1.created nofun
  | createFailed i faultPlan hfree hinit hfail hplan =>
    have hcreating : n.Kept { sh with worker := creating sh i }.books :=
      hn.rewrite (g := fun context => { context with scheduler := true, workerIndex := i }) i
        (fun contexts _ => ⟨fun k => by cases k <;> rfl, rfl⟩) (Nat.le_refl _) rfl
    refine hcreating.failure (C := C) .startup rfl rfl rfl fun j hj => ?_
    cases j with
    | startup => exact absurd rfl hj
    | _ => rfl
  | created i faultPlan hfree hinit hplan =>
    exact hn.rewrite (g := fun context => { context with scheduler := true, workerIndex := i }) i
      (fun contexts _ => ⟨fun k => by cases k <;> rfl, rfl⟩) (Nat.le_succ _) rfl
  | abortQueue hq => cases hq <;> exact hn
  -- a join that failed, or was made to look failed, is counted
  | releaseLock caller index event result allJoined hfree hinit =>
    have hfailed : (n.record (C := C) (.failure .join)).Kept { sh with
        worker := recordJoin (sh.lockWorker .controller).worker .nativeFailed }.books := by
      refine hn.failure (C := C) .join rfl rfl rfl fun j hj => ?_
      cases j with
      | join => exact absurd rfl hj
      | _ => rfl
    cases event with
    | nativeFailed => exact hfailed
    | injected => exact hfailed
    | joined => exact hn
  | fold caller result worker hfree hinit hfold =>
    refine hn.release hfold ?_
    intro hsome
    exact (hphase.started_eq hsome).symm
  | shutdownQueue hq => cases hq <;> exact hn
  | _ => exact hn

end Steps

end SchedulingEngine
