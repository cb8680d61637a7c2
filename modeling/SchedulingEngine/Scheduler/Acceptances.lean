import Mathlib.Algebra.Order.BigOperators.Group.Finset
import Mathlib.Data.Multiset.Count
import SchedulingEngine.Observability.Validation
import SchedulingEngine.Scheduler.Slots

/-!
# Tasks accepted and dequeued (scheduler.c)

`scheduler_capture_snapshot` copies the lifecycle domain, then loads the slots of the
workers one counter at a time, while submitters and workers go on. A Task may therefore be
counted as dequeued in a snapshot that does not count its submission as accepted, of a
healthy scheduler (`snapshot_dequeues_ahead`).

`CountsInOrder` says of a run that acceptance is counted first: before the dequeue, and
before the copy of every capture that will load the dequeue. In a run that counts in order
every snapshot counts as accepted what it counts as dequeued (`captured_dequeued_le`), by an
invariant (`CountedInv`) that says which Tasks each capture under way has seen accepted.
-/

namespace SchedulingEngine

open Concurrency

variable {W : ℕ} {C P : Type}

/-! ## What a capture has yet to load -/

/-- A capture at `field` of slot `index` has yet to load `dequeued_count` of slot `i`. -/
def SlotField.unread (field : SlotField) (index : ℕ) (i : Fin W) : Bool :=
  index < (i : ℕ) || (index = (i : ℕ) && field = .dequeued)

/-- A capture that has copied the lifecycle domain and not the slot of worker `i`. -/
def CallPc.awaitsSlot (i : Fin W) : CallPc P → Bool
  | .captureLifecycleUnlock _ workerSyncAvailable => workerSyncAvailable
  | .captureWorkerLock _ => true
  | .captureLoad _ index field => field.unread index i
  | _ => false

/-! ## The order in which Tasks are counted -/

/-- What counts a Task, and when a capture reads how many are accepted: a deregistration
counts it as accepted, a worker as dequeued, while the captures `awaiting` have yet to load
its slot. -/
inductive TaskEvent (W : ℕ) (C P : Type) where
  | accepted (task : P)
  | dequeued (task : P) (awaiting : Thread W C → Bool)
  | copies (u : Thread W C)

/-- The Task whose submission a deregistration counts as accepted. -/
def CallPc.acceptedTask : CallPc P → Multiset P
  | .deregisterLock task .ok => {task}
  | _ => 0

def CallPc.taskEvents (u : Thread W C) : CallPc P → List (TaskEvent W C P)
  | .deregisterLock task .ok => [.accepted task]
  | .captureLifecycleLock => [.copies u]
  | _ => []

/-- The events of a step of thread `t`. -/
def taskEvents (s : SchedulerPool W C P) (t : Thread W C) (_ : SchedulerPool W C P) :
    List (TaskEvent W C P) :=
  match s.pc t with
  | .worker i (.accountDequeued task) => [.dequeued task fun u => (s.pc u).toCall.awaitsSlot i]
  | pc => pc.toCall.taskEvents t

/-- The Tasks counted so far, and those that were counted as accepted when the capture of
each thread copied the lifecycle domain. -/
structure CountedTasks (W : ℕ) (C P : Type) where
  accepted : Multiset P := 0
  dequeued : Multiset P := 0
  copied : Thread W C → Multiset P := fun _ => 0

section Order

variable [DecidableEq C]

def CountedTasks.record (b : CountedTasks W C P) : TaskEvent W C P → CountedTasks W C P
  | .accepted task => { b with accepted := task ::ₘ b.accepted }
  | .dequeued task _ => { b with dequeued := task ::ₘ b.dequeued }
  | .copies u => { b with copied := Function.update b.copied u b.accepted }

variable [DecidableEq P]

/-- **Acceptance first**: a Task is counted as dequeued only after its submission was
counted as accepted, and while a capture has yet to load the count only if that was before
the capture copied the lifecycle domain. Submissions of one Task are told apart by their
order. -/
def CountedTasks.Permits (b : CountedTasks W C P) : TaskEvent W C P → Prop
  | .dequeued task awaiting => b.dequeued.count task < b.accepted.count task ∧
      ∀ u, awaiting u = true → b.dequeued.count task < (b.copied u).count task
  | _ => True

/-- Every event comes after those that it presupposes. -/
def CountsInOrder : CountedTasks W C P → List (TaskEvent W C P) → Prop
  | _, [] => True
  | b, e :: es => b.Permits e ∧ CountsInOrder (b.record e) es

theorem countsInOrder_append (b : CountedTasks W C P) (es es' : List (TaskEvent W C P)) :
    CountsInOrder b (es ++ es') ↔
      CountsInOrder b es ∧ CountsInOrder (es.foldl CountedTasks.record b) es' := by
  induction es generalizing b with
  | nil => exact ⟨fun h => ⟨trivial, h⟩, And.right⟩
  | cons e es ih =>
    show _ ∧ CountsInOrder (b.record e) (es ++ es') ↔ (_ ∧ CountsInOrder (b.record e) es) ∧ _
    rw [ih, and_assoc]
    rfl

instance [Fintype C] (b : CountedTasks W C P) : ∀ e, Decidable (b.Permits e)
  | .accepted _ => inferInstanceAs (Decidable True)
  | .dequeued _ _ => inferInstanceAs (Decidable (_ ∧ _))
  | .copies _ => inferInstanceAs (Decidable True)

instance decidableCountsInOrder [Fintype C] :
    ∀ (b : CountedTasks W C P) (es : List (TaskEvent W C P)), Decidable (CountsInOrder b es)
  | _, [] => inferInstanceAs (Decidable True)
  | b, e :: es =>
    have := decidableCountsInOrder (b.record e) es
    inferInstanceAs (Decidable (b.Permits e ∧ CountsInOrder (b.record e) es))

end Order

/-! ## Dequeued and accepted -/

/-- What worker slots a capture at `field` of slot `index` has yet to add up. -/
def Scheduler.unread (sh : Scheduler W C P) (index : ℕ) (field : SlotField) : ℕ :=
  ∑ i : Fin W, if field.unread index i then sh.slotCount i .dequeued else 0

/-- A capture that has `copied` the Tasks accepted, when those in `dequeued` are counted: what
it has added up and has yet to add up are Tasks that it has `seen` accepted. -/
def CallPc.Covered (sh : Scheduler W C P) (copied dequeued : Multiset P) : CallPc P → Prop
  | .captureLifecycleUnlock temporary workerSyncAvailable => temporary.dequeuedCount = 0 ∧
      copied.card = temporary.acceptedCount ∧ (workerSyncAvailable = true → dequeued ≤ copied)
  | .captureWorkerLock temporary => copied.card = temporary.acceptedCount ∧ dequeued ≤ copied
  | .captureLoad temporary index field => copied.card = temporary.acceptedCount ∧
      ∃ seen ≤ dequeued, seen ≤ copied ∧
        temporary.dequeuedCount + sh.unread index field ≤ seen.card
  | .captureWorkerUnlock temporary | .captureQueue temporary _ | .captured (some temporary) =>
    temporary.dequeuedCount ≤ temporary.acceptedCount
  | _ => True

theorem CallPc.covered_wake (sh : Scheduler W C P) (copied dequeued : Multiset P) (pc : CallPc P) :
    pc.wake.Covered sh copied dequeued ↔ pc.Covered sh copied dequeued := by
  cases pc <;> exact Iff.rfl

section Covered

variable {sh sh' : Scheduler W C P} {copied dequeued dequeued' : Multiset P}

theorem addSaturating_le_add {target value : ℕ} {overflow : Bool} :
    (addSaturating target value overflow).1 ≤ target + value := by
  unfold addSaturating
  split
  · rename_i hfull
    show uint64Max ≤ target + value
    omega
  · exact Nat.le_refl _

/-- At the first slot nothing is read. -/
theorem Scheduler.unread_all (sh : Scheduler W C P) :
    sh.unread 0 .dequeued = ∑ i, sh.slotCount i .dequeued := by
  refine Finset.sum_congr rfl fun i _ => if_pos ?_
  rcases Nat.eq_zero_or_pos (i : ℕ) with hi | hi <;> simp [SlotField.unread, hi]

/-- One slot and the others. -/
theorem Scheduler.unread_split (sh : Scheduler W C P) (index : ℕ) (field : SlotField) (i : Fin W) :
    sh.unread index field = (if field.unread index i then sh.slotCount i .dequeued else 0) +
      ∑ j ∈ Finset.univ.erase i, if field.unread index j then sh.slotCount j .dequeued else 0 :=
  (Finset.add_sum_erase _ _ (Finset.mem_univ i)).symm

/-- The load of `dequeued_count`. -/
theorem Scheduler.unread_load (sh : Scheduler W C P) (i : Fin W) :
    sh.unread i .dequeued = sh.slotCount i .dequeued + sh.unread i .callbackStarted := by
  rw [sh.unread_split i .dequeued i, sh.unread_split i .callbackStarted i]
  have hself : SlotField.dequeued.unread (i : ℕ) i = true := by simp [SlotField.unread]
  have hread : SlotField.callbackStarted.unread (i : ℕ) i = false := by simp [SlotField.unread]
  rw [if_pos hself, hread, if_neg Bool.false_ne_true, Nat.zero_add]
  refine congrArg (_ + ·) (Finset.sum_congr rfl fun j hj => ?_)
  have hne : (i : ℕ) ≠ (j : ℕ) := fun h => Finset.ne_of_mem_erase hj (Fin.ext h.symm)
  simp [SlotField.unread, hne]

/-- The other loads of a slot. -/
theorem Scheduler.unread_same (sh : Scheduler W C P) (index : ℕ) {field field' : SlotField}
    (h : field ≠ .dequeued) (h' : field' ≠ .dequeued) :
    sh.unread index field = sh.unread index field' := by
  simp [unread, SlotField.unread, h, h']

/-- On to the next slot. -/
theorem Scheduler.unread_next (sh : Scheduler W C P) (index : ℕ) {field : SlotField}
    (h : field ≠ .dequeued) : sh.unread index field = sh.unread (index + 1) .dequeued := by
  refine Finset.sum_congr rfl fun i _ => ?_
  have hiff : field.unread index i = SlotField.dequeued.unread (index + 1) i := by
    rw [Bool.eq_iff_iff]
    simp [SlotField.unread, h]
    omega
  rw [hiff]

/-- A worker that counts one Task more raises what is unread by at most one. -/
theorem Scheduler.unread_succ {i : Fin W} (index : ℕ) (field : SlotField)
    (hself : sh'.slotCount i .dequeued ≤ sh.slotCount i .dequeued + 1)
    (hother : ∀ j ≠ i, sh'.slotCount j .dequeued ≤ sh.slotCount j .dequeued) :
    sh'.unread index field ≤ sh.unread index field + 1 := by
  rw [sh'.unread_split index field i, sh.unread_split index field i]
  have hrest := Finset.sum_le_sum (s := Finset.univ.erase i)
    (f := fun j => if field.unread index j then sh'.slotCount j .dequeued else 0)
    (g := fun j => if field.unread index j then sh.slotCount j .dequeued else 0) fun j hj => by
    split
    · exact hother j (Finset.ne_of_mem_erase hj)
    · exact Nat.le_refl _
  split <;> omega

/-- A Task more among the dequeued ones, where the copy has one more of it too. -/
theorem cons_le_of_count_lt [DecidableEq P] {task : P} {seen : Multiset P}
    (hseen : seen ≤ dequeued) (hcopied : seen ≤ copied)
    (hcount : dequeued.count task < copied.count task) : task ::ₘ seen ≤ copied := by
  refine Multiset.le_iff_count.mpr fun other => ?_
  by_cases hother : other = task
  · subst hother
    rw [Multiset.count_cons_self]
    exact Nat.lt_of_le_of_lt (Multiset.count_le_of_le other hseen) hcount
  · rw [Multiset.count_cons_of_ne hother]
    exact Multiset.count_le_of_le other hcopied

variable [DecidableEq C] {cfg : SchedulerConfig W} {t : Thread W C}
  {choice : SchedulerChoice W C P}

/-- The capture itself. -/
theorem CallStepSpec.covered {pc : CallPc P} {out : SchedulerStep W C P (CallPc P)}
    (h : CallStepSpec cfg t choice sh pc out)
    (hcopy : pc = .captureLifecycleLock →
      copied.card = sh.lifecycle.acceptedCount ∧ dequeued ≤ copied)
    (hcounted : dequeued.card = sh.worker.counted .dequeued)
    (hcovered : pc.Covered sh copied dequeued) : out.2.1.Covered out.1 copied dequeued := by
  cases h with
  | captureLifecycle hfree => exact ⟨rfl, (hcopy rfl).1, fun _ => (hcopy rfl).2⟩
  | captureNoWorkers temporary hheld => exact hcovered.1.trans_le (Nat.zero_le _)
  | captureLifecycleDone temporary hheld => exact ⟨hcovered.2.1, hcovered.2.2 rfl⟩
  | captureWorker temporary hfree hinit hstarted =>
    -- everything counted so far is in the totals, which are copied, or in the slots
    refine ⟨hcovered.1, dequeued, le_rfl, hcovered.2, ?_⟩
    show sh.worker.dequeuedCount + sh.unread 0 .dequeued ≤ _
    rw [sh.unread_all, hcounted]
    exact Nat.le_of_eq (sh.counted_eq .dequeued).symm
  | captureNoSlots temporary hfree hinit hstarted =>
    obtain ⟨hcard, hle⟩ := hcovered
    refine Nat.le_trans ?_ (Nat.le_trans (Multiset.card_le_card hle) (Nat.le_of_eq hcard))
    rw [hcounted, sh.counted_eq]
    exact Nat.le_add_right _ _
  | captureLoad temporary index field next contexts hcontexts hnext =>
    obtain ⟨hcard, seen, hseen, hcopied, hbound⟩ := hcovered
    cases field with
    | dequeued =>
      cases hnext
      refine ⟨hcard, seen, hseen, hcopied, ?_⟩
      show (addSaturating _ _ _).1 + sh.unread index .callbackStarted ≤ seen.card
      rw [sh.unread_load, Scheduler.slotCount_some hcontexts] at hbound
      exact Nat.le_trans (Nat.add_le_add_right addSaturating_le_add _)
        (Nat.le_trans (Nat.le_of_eq (Nat.add_assoc _ _ _)) hbound)
    | accountingOverflow => cases hnext
    | _ =>
      cases hnext
      refine ⟨hcard, seen, hseen, hcopied, Nat.le_trans (Nat.le_of_eq ?_) hbound⟩
      exact congrArg (temporary.dequeuedCount + ·) (sh.unread_same index nofun nofun)
  | captureNextSlot temporary index contexts hcontexts hindex =>
    obtain ⟨hcard, seen, hseen, hcopied, hbound⟩ := hcovered
    have hlast : SlotField.accountingOverflow ≠ .dequeued := nofun
    refine ⟨hcard, seen, hseen, hcopied, Nat.le_trans (Nat.le_of_eq ?_) hbound⟩
    exact congrArg (temporary.dequeuedCount + ·) (sh.unread_next index hlast).symm
  | captureLastSlot temporary index contexts hcontexts hindex =>
    obtain ⟨hcard, seen, -, hcopied, hbound⟩ := hcovered
    refine Nat.le_trans (Nat.le_trans (Nat.le_add_right _ _) hbound) ?_
    exact Nat.le_trans (Multiset.card_le_card hcopied) (Nat.le_of_eq hcard)
  | captureWorkerDone temporary hheld => exact hcovered
  | captureQueue temporary hq =>
    cases hq with
    | run hact hleave => exact hcovered
    | leave op r =>
      cases r with
      | snapshot value =>
        cases value with
        | none => trivial
        | some value => exact hcovered
      | _ => trivial
  | enqueue kind task hq => cases hq <;> trivial
  | _ => trivial

omit [DecidableEq C] in
/-- The steps of others, which count nothing that the capture has yet to load. -/
theorem CallPc.Covered.frame {pc : CallPc P} (hcovered : pc.Covered sh copied dequeued)
    (hle : dequeued ≤ dequeued')
    (hsame : (∀ i : Fin W, pc.awaitsSlot i = true) → dequeued' = dequeued)
    (hslots : ∀ i : Fin W, pc.awaitsSlot i = true →
      sh'.slotCount i .dequeued ≤ sh.slotCount i .dequeued) :
    pc.Covered sh' copied dequeued' := by
  cases pc with
  | captureLifecycleUnlock temporary workerSyncAvailable =>
    refine ⟨hcovered.1, hcovered.2.1, fun hsync => ?_⟩
    rw [hsame fun _ => hsync]
    exact hcovered.2.2 hsync
  | captureWorkerLock temporary =>
    rw [hsame fun _ => rfl]
    exact hcovered
  | captureLoad temporary index field =>
    obtain ⟨hcard, seen, hseen, hcopied, hbound⟩ := hcovered
    refine ⟨hcard, seen, hseen.trans hle, hcopied, Nat.le_trans (Nat.add_le_add_left ?_ _) hbound⟩
    refine Finset.sum_le_sum fun i _ => ?_
    split
    · rename_i hunread
      exact hslots i hunread
    · exact Nat.le_refl _
  | captured snapshot => cases snapshot <;> exact hcovered
  | _ => exact hcovered

omit [DecidableEq C] in
/-- Worker `i` counts a Task that the capture has yet to load, accepted before its copy. -/
theorem CallPc.Covered.dequeue [DecidableEq P] {pc : CallPc P} {i : Fin W} {task : P}
    (hcovered : pc.Covered sh copied dequeued)
    (hcount : dequeued.count task < copied.count task)
    (hself : sh'.slotCount i .dequeued ≤ sh.slotCount i .dequeued + 1)
    (hother : ∀ j ≠ i, sh'.slotCount j .dequeued ≤ sh.slotCount j .dequeued) :
    pc.Covered sh' copied (task ::ₘ dequeued) := by
  cases pc with
  | captureLifecycleUnlock temporary workerSyncAvailable =>
    refine ⟨hcovered.1, hcovered.2.1, fun hsync => ?_⟩
    exact cons_le_of_count_lt le_rfl (hcovered.2.2 hsync) hcount
  | captureWorkerLock temporary =>
    exact ⟨hcovered.1, cons_le_of_count_lt le_rfl hcovered.2 hcount⟩
  | captureLoad temporary index field =>
    obtain ⟨hcard, seen, hseen, hcopied, hbound⟩ := hcovered
    refine ⟨hcard, task ::ₘ seen, Multiset.cons_le_cons task hseen,
      cons_le_of_count_lt hseen hcopied hcount, ?_⟩
    have hunread := Scheduler.unread_succ index field hself hother
    rw [Multiset.card_cons]
    omega
  | captured snapshot => cases snapshot <;> exact hcovered
  | _ => exact hcovered

end Covered

/-- Workers count in the slots. -/
theorem Thread.Runs.stores {t : Thread W C} {pc : SchedulerPc W P} (hrun : t.Runs pc)
    {k : WorkerCount} (h : pc.stores k ≠ 0) : ∃ i, t = .worker i := by
  cases pc with
  | worker i pc =>
    cases t with
    | worker j => exact ⟨j, rfl⟩
    | _ => exact hrun.elim
  | _ => exact absurd rfl h

section Accepts

/-- The counts of submissions and their flag. -/
structure SubmissionCounts where
  submitted : ℕ
  accepted : ℕ
  rejected : ℕ
  active : ℕ
  overflow : Bool

def LifecycleDomain.submissionCounts {T : Type} (l : LifecycleDomain T) : SubmissionCounts where
  submitted := l.submittedCount
  accepted := l.acceptedCount
  rejected := l.rejectedCount
  active := l.activeSubmitterCount
  overflow := l.accountingOverflow

variable [DecidableEq C] {cfg : SchedulerConfig W} {t : Thread W C}
  {choice : SchedulerChoice W C P} {sh : Scheduler W C P}

/-- A call of thread `t` at `pc` registers, deregisters, or leaves the counts alone. -/
def CallPc.Counts (t : Thread W C) (sh sh' : Scheduler W C P) (pc : CallPc P) : Prop :=
  let before := (sh.lockLifecycle t).lifecycle
  let after := sh'.lifecycle.submissionCounts
  (after = before.submissionCounts ∧ pc.acceptedTask = 0) ∨
    (after = (registerSubmitter before).1.submissionCounts ∧ pc.acceptedTask = 0) ∨
    ∃ task r, pc = .deregisterLock task r ∧
      after = (deregisterSubmitter before r).1.submissionCounts

theorem CallStepSpec.submissionCounts {pc : CallPc P} {out : SchedulerStep W C P (CallPc P)}
    (h : CallStepSpec cfg t choice sh pc out) : pc.Counts t sh out.1 := by
  cases h with
  | register kind task hfree => exact .inr (.inl ⟨rfl, rfl⟩)
  | deregister task r hfree => exact .inr (.inr ⟨task, r, rfl, rfl⟩)
  | enqueue kind task hq =>
    rw [hq.frame]
    exact .inl ⟨rfl, rfl⟩
  | captureQueue temporary hq =>
    rw [hq.frame]
    exact .inl ⟨rfl, rfl⟩
  | _ => exact .inl ⟨rfl, rfl⟩

/-- **What a step does to the counts of submissions.** -/
theorem SchedulerStepSpec.submissionCounts {pc : SchedulerPc W P}
    {out : SchedulerStep W C P (SchedulerPc W P)} (h : SchedulerStepSpec cfg choice sh t pc out) :
    pc.toCall.Counts t sh out.1 := by
  cases h with
  | call c h => exact h.submissionCounts
  | worker i h =>
    cases h with
    | dequeue hq => cases hq <;> exact .inl ⟨rfl, rfl⟩
    | call task runningAccounted hcall => exact hcall.submissionCounts
    | queueShutdown r hq => cases hq <;> exact .inl ⟨rfl, rfl⟩
    | _ => exact .inl ⟨rfl, rfl⟩
  | controller h =>
    cases h with
    | allocationFailed sh' hsh hfail => subst hsh; exact .inl ⟨rfl, rfl⟩
    | allocated sh' hsh hthreads hcontexts => subst hsh; exact .inl ⟨rfl, rfl⟩
    | abortQueue hq => cases hq <;> exact .inl ⟨rfl, rfl⟩
    | shutdownQueue hq => cases hq <;> exact .inl ⟨rfl, rfl⟩
    | _ => exact .inl ⟨rfl, rfl⟩

/-- `accepted_count` moves at the deregistrations of accepted Tasks. -/
theorem SchedulerStepSpec.acceptedCount {pc : SchedulerPc W P}
    {out : SchedulerStep W C P (SchedulerPc W P)} (h : SchedulerStepSpec cfg choice sh t pc out)
    (hactive : pc.registered ≤ sh.lifecycle.activeSubmitterCount)
    (hflag : out.1.lifecycle.accountingOverflow = false) :
    out.1.lifecycle.acceptedCount = sh.lifecycle.acceptedCount + pc.toCall.acceptedTask.card := by
  rcases h.submissionCounts with ⟨hcounts, hnone⟩ | ⟨hcounts, hnone⟩ | ⟨task, r, hcall, hcounts⟩
  · rw [hnone]
    exact congrArg SubmissionCounts.accepted hcounts
  · have hafter := (congrArg SubmissionCounts.overflow hcounts).symm.trans hflag
    rw [hnone]
    refine (congrArg SubmissionCounts.accepted hcounts).trans ?_
    exact (registerSubmitter_counts (l := (sh.lockLifecycle t).lifecycle) hafter).2.1
  · have hafter := (congrArg SubmissionCounts.overflow hcounts).symm.trans hflag
    rw [SchedulerPc.registered, hcall] at hactive
    obtain ⟨-, haccepted, -⟩ :=
      deregisterSubmitter_counts (l := (sh.lockLifecycle t).lifecycle) hactive hafter
    rw [hcall]
    refine ((congrArg SubmissionCounts.accepted hcounts).trans haccepted).trans ?_
    refine congrArg (sh.lifecycle.acceptedCount + ·) ?_
    cases r <;> rfl

end Accepts

section Runs

variable [DecidableEq C] [Fintype C] {cfg : SchedulerConfig W} {t : Thread W C}
  {choice : SchedulerChoice W C P} {s s' : SchedulerPool W C P}

/-- No counter has overflowed. -/
def Scheduler.Exact (sh : Scheduler W C P) : Prop :=
  sh.lifecycle.accountingOverflow = false ∧ sh.worker.Exact

instance (sh : Scheduler W C P) : Decidable sh.Exact := inferInstanceAs (Decidable (_ ∧ _))

/-- Overflow flags are not lowered. -/
theorem SchedulerReachable.exact_before (h : SchedulerReachable cfg s)
    (hstep : (schedulerProgram cfg).step t choice s = some s') (hexact : s'.shared.Exact) :
    s.shared.Exact := by
  obtain ⟨pc, fx, hspec, -⟩ := h.threads.step_spec hstep
  exact ⟨(hspec.submits (h.accounts.registered_le t) hexact.1).1,
    (hspec.tallies (h.lifecycle.threads t) h.spareSlots hexact.2).1⟩

omit [DecidableEq C] [Fintype C] in
/-- A worker counts a Task as dequeued, or the step counts what its call does. -/
theorem taskEvents_cases (hruns : t.Runs (s.pc t)) (s' : SchedulerPool W C P) :
    (∃ i task, t = .worker i ∧ s.pc t = .worker i (.accountDequeued task) ∧
      taskEvents s t s' = [.dequeued task fun u => (s.pc u).toCall.awaitsSlot i]) ∨
    (s.pc t).stores .dequeued = 0 ∧ taskEvents s t s' = (s.pc t).toCall.taskEvents t := by
  unfold taskEvents
  split
  · rename_i i task hpc
    have hne : (s.pc t).stores .dequeued ≠ 0 := by
      rw [hpc]
      exact Nat.one_ne_zero
    obtain ⟨j, rfl⟩ := hruns.stores hne
    rw [hpc] at hruns
    cases hruns
    exact .inl ⟨i, task, rfl, hpc, rfl⟩
  · rename_i hnot
    refine .inr ⟨?_, rfl⟩
    generalize s.pc t = pc at hnot
    cases pc with
    | worker i pc =>
      cases pc with
      | accountDequeued task => exact absurd rfl (hnot i task)
      | accountResult task succeeded => cases succeeded <;> rfl
      | _ => rfl
    | _ => rfl

variable {b : CountedTasks W C P}

omit [Fintype C] in
/-- What the call of thread `t` counts. -/
theorem CountedTasks.record_call (b : CountedTasks W C P) (t : Thread W C) (pc : CallPc P) :
    ((pc.taskEvents t).foldl record b).accepted = pc.acceptedTask + b.accepted ∧
    ((pc.taskEvents t).foldl record b).dequeued = b.dequeued ∧
    (∀ u, u ≠ t → ((pc.taskEvents t).foldl record b).copied u = b.copied u) ∧
    (pc = .captureLifecycleLock → ((pc.taskEvents t).foldl record b).copied t = b.accepted) ∧
    (pc ≠ .captureLifecycleLock →
      ((pc.taskEvents t).foldl record b).copied t = b.copied t) := by
  cases pc with
  | deregisterLock task r =>
    cases r with
    | ok => exact ⟨(Multiset.singleton_add _ _).symm, rfl, fun _ _ => rfl, nofun, fun _ => rfl⟩
    | _ => exact ⟨(zero_add _).symm, rfl, fun _ _ => rfl, nofun, fun _ => rfl⟩
  | captureLifecycleLock =>
    exact ⟨(zero_add _).symm, rfl, fun u hu => Function.update_of_ne hu _ _,
      fun _ => Function.update_self _ _ _, fun hne => absurd rfl hne⟩
  | _ => exact ⟨(zero_add _).symm, rfl, fun _ _ => rfl, nofun, fun _ => rfl⟩

/-- What the Tasks counted so far say of the counters and of the captures. -/
structure CountedInv (b : CountedTasks W C P) (s : SchedulerPool W C P) : Prop where
  accepted : b.accepted.card = s.shared.lifecycle.acceptedCount
  dequeued : b.dequeued.card = s.shared.worker.counted .dequeued
  order : b.dequeued ≤ b.accepted
  covered : ∀ u, (s.pc u).toCall.Covered s.shared (b.copied u) b.dequeued

section Step

variable [DecidableEq P]

/-- A worker counts a Task as dequeued. -/
theorem countedInv_dequeue {i : Fin W} {task : P} (hreach : SchedulerReachable cfg s)
    (h : CountedInv b s) (hpc : s.pc (.worker i) = .worker i (.accountDequeued task))
    (hpermits : b.Permits (.dequeued task fun u => (s.pc u).toCall.awaitsSlot i))
    (hstep : (schedulerProgram cfg).step (.worker i) choice s = some s')
    (hexact' : s'.shared.Exact) :
    CountedInv { b with dequeued := task ::ₘ b.dequeued } s' := by
  obtain ⟨pc, fx, hspec, -⟩ := hreach.threads.step_spec hstep
  obtain ⟨f, habs, -⟩ := hreach.threads.abstracts
  have hself := hreach.lifecycle.threads (.worker i)
  obtain ⟨hbefore, hawaited⟩ := hpermits
  -- the step counts one Task more in the worker's own slot, or folds the slots away
  have hslot : ∀ j, s'.shared.slotCount j .dequeued
      ≤ s.shared.slotCount j .dequeued + if j = i then 1 else 0 := by
    intro j
    rcases hspec.slotCount habs hself hexact'.2 j with hcount | ⟨hzero, -⟩
    · rw [hcount .dequeued, hpc]
      by_cases hj : j = i
      · subst hj
        rw [if_pos rfl, if_pos rfl]
        exact Nat.le_refl _
      · rw [if_neg fun ht => hj (Thread.worker.inj ht).symm]
        exact Nat.le_add_right _ _
    · rw [hzero]
      exact Nat.zero_le _
  have hothers : ∀ j ≠ i, s'.shared.slotCount j .dequeued ≤ s.shared.slotCount j .dequeued := by
    intro j hj
    have hle := hslot j
    rwa [if_neg hj] at hle
  refine ⟨?_, ?_, cons_le_of_count_lt le_rfl h.order hbefore, fun u => ?_⟩
  · -- the copy of a capture in progress is compared slot by slot below
    have haccepted := hspec.acceptedCount (hreach.accounts.registered_le _) hexact'.1
    rw [hpc] at haccepted
    exact h.accepted.trans haccepted.symm
  · rw [(hspec.tallies hself hreach.spareSlots hexact'.2).2 .dequeued, hpc, Multiset.card_cons,
      h.dequeued]
    rfl
  · refine hreach.call_step u (A := fun pc => pc.Covered s.shared (b.copied u) b.dequeued ∧
        pc = (s.pc u).toCall) (fun pc => pc.covered_wake _ _ _) hstep (fun _ => trivial) ?_ ?_
      ⟨h.covered u, rfl⟩
    · rintro - pc ⟨hcovered, rfl⟩
      by_cases hawaits : (s.pc u).toCall.awaitsSlot i = true
      · -- the capture will load the Task, which was accepted before its copy
        have hself' := hslot i
        rw [if_pos rfl] at hself'
        exact hcovered.dequeue (hawaited u hawaits) hself' hothers
      · -- the capture has passed the slot, or has not begun
        refine hcovered.frame (Multiset.le_cons_self _ _) (fun hall => absurd (hall i) hawaits) ?_
        intro j hj
        exact hothers j fun hji => hawaits (hji ▸ hj)
    · rintro out rfl hcall -
      rw [hpc] at hcall
      cases hcall <;> trivial

/-- Any other step. -/
theorem countedInv_call (hreach : SchedulerReachable cfg s) (h : CountedInv b s)
    (hstores : (s.pc t).stores .dequeued = 0)
    (hstep : (schedulerProgram cfg).step t choice s = some s') (hexact' : s'.shared.Exact) :
    CountedInv (((s.pc t).toCall.taskEvents t).foldl CountedTasks.record b) s' := by
  obtain ⟨pc, fx, hspec, -⟩ := hreach.threads.step_spec hstep
  obtain ⟨f, habs, -⟩ := hreach.threads.abstracts
  have hself := hreach.lifecycle.threads t
  obtain ⟨haccepted, hdequeued, hothers, hcopies, hkeeps⟩ := b.record_call t (s.pc t).toCall
  have hslots : ∀ i, s'.shared.slotCount i .dequeued ≤ s.shared.slotCount i .dequeued := by
    intro i
    rcases hspec.slotCount habs hself hexact'.2 i with hcount | ⟨hzero, -⟩
    · rw [hcount .dequeued, hstores, ite_self]
      exact Nat.le_refl _
    · rw [hzero]
      exact Nat.zero_le _
  refine ⟨?_, ?_, ?_, fun u => ?_⟩
  · rw [haccepted, Multiset.card_add, h.accepted, Nat.add_comm]
    exact (hspec.acceptedCount (hreach.accounts.registered_le t) hexact'.1).symm
  · rw [hdequeued, (hspec.tallies hself hreach.spareSlots hexact'.2).2 .dequeued, hstores]
    exact h.dequeued
  · rw [hdequeued, haccepted]
    exact h.order.trans (Multiset.le_add_left _ _)
  · rw [hdequeued]
    refine hreach.call_step u (A := fun pc => pc.Covered s.shared (b.copied u) b.dequeued)
      (fun pc => pc.covered_wake _ _ _) hstep (fun _ => trivial) ?_ ?_ (h.covered u)
    · intro ht pc hcovered
      rw [hothers u (Ne.symm ht)]
      exact hcovered.frame le_rfl (fun _ => rfl) fun i _ => hslots i
    · rintro out rfl hcall hout
      rw [← hout]
      refine hcall.covered (fun hcopy => ?_) h.dequeued ?_
      · -- the copy takes over what is counted as accepted now
        rw [hcopies hcopy]
        exact ⟨h.accepted, h.order⟩
      · by_cases hcopy : (s.pc t).toCall = .captureLifecycleLock
        · rw [hcopy]
          trivial
        · rw [hkeeps hcopy]
          exact h.covered t

/-- **One step keeps the counts true**, if it counts in order. -/
theorem countedInv_step (hreach : SchedulerReachable cfg s) (h : CountedInv b s)
    (horder : CountsInOrder b (taskEvents s t s'))
    (hstep : (schedulerProgram cfg).step t choice s = some s') (hexact' : s'.shared.Exact) :
    CountedInv ((taskEvents s t s').foldl CountedTasks.record b) s' := by
  rcases taskEvents_cases (hreach.threads.runs t) s' with
    ⟨i, task, rfl, hpc, hevents⟩ | ⟨hstores, hevents⟩
  · rw [hevents] at horder ⊢
    exact countedInv_dequeue hreach h hpc horder.1 hstep hexact'
  · rw [hevents]
    exact countedInv_call hreach h hstores hstep hexact'

omit [DecidableEq C] [Fintype C] [DecidableEq P] in
theorem countedInv_initial (queue : TaskQueue P) :
    CountedInv ({} : CountedTasks W C P) (schedulerInitial queue : SchedulerPool W C P) := by
  refine ⟨rfl, rfl, le_rfl, ?_⟩
  rintro (_ | i | c) <;> trivial

/-- The counts are true after every run that counts in order. -/
theorem countedInv_of_run {queue : TaskQueue P} (hW : 0 < W)
    (hinit : taskQueueInit cfg.capacity true = (.ok, some queue))
    {ls : List (Thread W C × SchedulerChoice W C P)}
    (hrun : (schedulerProgram cfg).run ls (schedulerInitial queue) = some s)
    (horder : CountsInOrder {} ((schedulerProgram cfg).log taskEvents ls (schedulerInitial queue)))
    (hexact : s.shared.Exact) :
    CountedInv (((schedulerProgram cfg).log taskEvents ls (schedulerInitial queue)).foldl
      CountedTasks.record {}) s := by
  refine (Program.log_of_steps taskEvents (J := fun noted s => SchedulerReachable cfg s ∧
    (CountsInOrder {} noted → s.shared.Exact → CountedInv (noted.foldl CountedTasks.record {}) s))
    (fun hJ hstep => ⟨hJ.1.tail (.single ⟨_, _, hstep⟩), fun horder hexact' => ?_⟩)
    ⟨⟨hW, queue, hinit, .refl⟩, fun _ _ => countedInv_initial queue⟩ hrun).2 horder hexact
  obtain ⟨hreach, hbefore⟩ := hJ
  obtain ⟨hearlier, hlast⟩ := (countsInOrder_append _ _ _).mp horder
  rw [List.foldl_append]
  exact countedInv_step hreach (hbefore hearlier (hreach.exact_before hstep hexact')) hlast hstep
    hexact'

/-- **A snapshot counts as dequeued what it counts as accepted**, in every run without
overflow that counts in order; then the live validation is silent about it. -/
theorem captured_dequeued_le {queue : TaskQueue P} (hW : 0 < W)
    (hinit : taskQueueInit cfg.capacity true = (.ok, some queue))
    {ls : List (Thread W C × SchedulerChoice W C P)}
    (hrun : (schedulerProgram cfg).run ls (schedulerInitial queue) = some s)
    (horder : CountsInOrder {} ((schedulerProgram cfg).log taskEvents ls (schedulerInitial queue)))
    (hexact : s.shared.Exact) {u : Thread W C} {snapshot : SchedulerSnapshot}
    (hcaptured : (s.pc u).toCall = .captured (some snapshot)) :
    snapshot.dequeuedCount ≤ snapshot.acceptedCount ∧
      ¬(schedulerSnapshotValidate snapshot .live).Records .dequeuedExceedsAccepted := by
  have hbound := (countedInv_of_run hW hinit hrun horder hexact).covered u
  rw [hcaptured] at hbound
  exact ⟨hbound, live_silent rfl (Nat.not_lt.mpr hbound)⟩

end Step

end Runs

/-- One Task is submitted and executed before a capture begins. -/
def captureSchedule : SmallSchedule :=
  startSchedule ++ makes firstClient (.submit .submit (some 7)) 8 ++ executeSchedule
    ++ makes secondClient .capture 13

theorem captured_dequeued_le_after_task :
    ∃ (s : SchedulerPool 1 (Fin 2) ℕ) (snapshot : SchedulerSnapshot),
      (s.pc (.client 1)).toCall = .captured (some snapshot) ∧ snapshot.dequeuedCount = 1 ∧
      snapshot.dequeuedCount ≤ snapshot.acceptedCount := by
  have hobs : ((schedulerProgram reliableConfig).run captureSchedule
      (schedulerInitial smallQueue)).map (fun s =>
        ((s.pc (.client 1)).toCall, decide s.shared.Exact))
      = some (.captured (some
          { version := 1, consistency := 1, state := .running, submissionsOpen := true,
            configuredWorkerCount := 1, submittedCount := 1, acceptedCount := 1,
            createdWorkerCount := 1, readyWorkerCount := 1, activeWorkerCount := 1,
            dequeuedCount := 1, callbackStartedCount := 1, callbackSucceededCount := 1,
            queueCapacity := 1, queueHighWaterMark := 1 }), true) := by decide +kernel
  obtain ⟨s, hrun, hobs⟩ := Option.map_eq_some_iff.mp hobs
  obtain ⟨hcaptured, hexact⟩ := Prod.mk.inj hobs
  have horder : CountsInOrder {} ((schedulerProgram reliableConfig).log taskEvents captureSchedule
      (schedulerInitial smallQueue)) := by decide +kernel
  refine ⟨s, _, hcaptured, rfl, ?_⟩
  exact (captured_dequeued_le Nat.one_pos (by decide) hrun horder (of_decide_eq_true hexact)
    hcaptured).1

/-- The worker counts a Task as dequeued before its submitter deregisters, and a capture
copies the lifecycle domain in between. -/
def aheadSchedule : SmallSchedule :=
  startSchedule ++ makes firstClient (.submit .submit (some 7)) 5 ++ advance soleWorker 4
    ++ makes secondClient .capture 13

example : ¬CountsInOrder {} ((schedulerProgram reliableConfig).log taskEvents aheadSchedule
    (schedulerInitial smallQueue)) := by decide +kernel

/-- The scheduler runs, nothing has failed and no counter has overflowed, and a snapshot
counts more Tasks as dequeued than as accepted. -/
theorem snapshot_dequeues_ahead :
    ∃ (s : SchedulerPool 1 (Fin 2) ℕ) (snapshot : SchedulerSnapshot),
      SchedulerReachable reliableConfig s ∧ s.shared.Exact ∧
      s.shared.lifecycle.state = .running ∧
      (s.pc (.client 1)).toCall = .captured (some snapshot) ∧
      snapshot.acceptedCount < snapshot.dequeuedCount ∧
      (schedulerSnapshotValidate snapshot .live).Records .dequeuedExceedsAccepted ∧
      schedulerSnapshotDeriveHealth snapshot (schedulerSnapshotValidate snapshot .live)
        = some .failed := by
  obtain ⟨s, hreach, hobs⟩ := reachable_of_run aheadSchedule
    (fun s => ((s.pc (.client 1)).toCall, s.shared.lifecycle.state, decide s.shared.Exact))
    (v := (.captured (some
          { version := 1, consistency := 1, state := .running, submissionsOpen := true,
            configuredWorkerCount := 1, submittedCount := 1, createdWorkerCount := 1,
            readyWorkerCount := 1, activeWorkerCount := 1, dequeuedCount := 1,
            queueCapacity := 1, queueHighWaterMark := 1 }), .running, true)) (by decide +kernel)
  obtain ⟨hcaptured, hobs⟩ := Prod.mk.inj hobs
  obtain ⟨hstate, hexact⟩ := Prod.mk.inj hobs
  refine ⟨s, _, hreach, of_decide_eq_true hexact, hstate, hcaptured, by decide,
    ⟨⟨.dequeuedExceedsAccepted, .violation, 1, 0⟩, by decide, rfl⟩, by decide⟩

end SchedulingEngine
