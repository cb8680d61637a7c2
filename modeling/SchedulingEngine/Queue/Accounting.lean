import Mathlib.Algebra.Order.Group.Multiset
import SchedulingEngine.Queue.Invariants

/-!
# Accounting for the queue's callers

A caller of the queue knows from its answer what its call did: `QueuePc.inserted` is
the pointer that a call has put in, `QueuePc.removed` the one that it took out, both
from the moment of the critical section until the call is left. What the queue's
history gains is exactly what its callers' accounts gain.

A caller also learns what the queue will be from then on (`QueuePc.Answered`): after a
shutdown it stays closed, and after a dequeue refused with `ERROR_SHUTDOWN` it stays
closed and empty.
-/

namespace SchedulingEngine

open Concurrency

variable {T P : Type}

/-- The call that the thread is in. -/
def QueuePc.operation : QueuePc P → Option (QueueOperation P)
  | .idle => none
  | .lock op | .unlock op _ | .returned op _ => some op
  | .wait w | .asleep w | .woken w => some w.operation

/-- The pointer that a call answered with `r` has inserted. -/
def QueueOperation.inserted : QueueOperation P → QueueReturn P → Multiset P
  | .enqueue task, .status .ok _ | .tryEnqueue task, .status .ok _ => {task}
  | _, _ => 0

/-- The pointer that a call answered with `r` has removed. -/
def QueueOperation.removed : QueueOperation P → QueueReturn P → Multiset P
  | .dequeue, .status .ok (some task) | .tryDequeue, .status .ok (some task) => {task}
  | _, _ => 0

/-- The pointer that the call has inserted so far. -/
def QueuePc.inserted : QueuePc P → Multiset P
  | .unlock op r | .returned op r => op.inserted r
  | _ => 0

/-- The pointer that the call has removed so far. -/
def QueuePc.removed : QueuePc P → Multiset P
  | .unlock op r | .returned op r => op.removed r
  | _ => 0

theorem QueuePc.operation_wake (q : QueuePc P) : q.wake.operation = q.operation := by
  cases q <;> rfl

theorem QueuePc.inserted_wake (q : QueuePc P) : q.wake.inserted = q.inserted := by
  cases q <;> rfl

theorem QueuePc.removed_wake (q : QueuePc P) : q.wake.removed = q.removed := by
  cases q <;> rfl

theorem QueuePc.inserted_eq_zero {q : QueuePc P} {op : QueueOperation P}
    (hq : q.operation = some op) (hop : ∀ r, op.inserted r = 0) : q.inserted = 0 := by
  cases q with
  | unlock op' r =>
    cases hq
    exact hop r
  | returned op' r =>
    cases hq
    exact hop r
  | _ => rfl

theorem QueuePc.removed_eq_zero {q : QueuePc P} {op : QueueOperation P}
    (hq : q.operation = some op) (hop : ∀ r, op.removed r = 0) : q.removed = 0 := by
  cases q with
  | unlock op' r =>
    cases hq
    exact hop r
  | returned op' r =>
    cases hq
    exact hop r
  | _ => rfl

section Step

variable {cfg : QueueConfig} {t : T} {choice : QueueChoice T P} {q : ConcurrentTaskQueue T P}
  {f : ClosableFifo P} {pc : QueuePc P} {out : QueueSection T P}

theorem Enters.accounts {op : QueueOperation P} {q₀ : ConcurrentTaskQueue T P}
    (h : Enters t q pc op q₀) :
    pc.operation = some op ∧ pc.inserted = 0 ∧ pc.removed = 0 ∧ q₀.inserted = q.inserted ∧
      q₀.removed = q.removed := by
  cases h <;> simp [QueuePc.operation, QueuePc.inserted, QueuePc.removed]

/-- An operation that reports success without touching the FIFO is no insertion and no
removal. -/
theorem observe_accounts {op : QueueOperation P} {r : QueueReturn P}
    (h : fifoStep op f = some (r, f)) : op.inserted r = 0 ∧ op.removed r = 0 := by
  -- an insertion or a removal would have changed the length
  have hgrow : ∀ task f', f.insert task = some f' → f' ≠ f := by
    rintro task f' hins rfl
    have hlen := congrArg List.length (ClosableFifo.insert_eq_some.mp hins).2.2.1
    simp at hlen
  have hshrink : ∀ task f', f.remove = some (task, f') → f' ≠ f := by
    rintro task f' hrem rfl
    have hlen := congrArg List.length (ClosableFifo.remove_eq_some.mp hrem).1
    simp at hlen
  cases op with
  | enqueue task =>
    simp only [fifoStep] at h
    cases hins : f.insert task with
    | some f' =>
      simp only [hins, Option.some.injEq, Prod.mk.injEq] at h
      exact absurd h.2 (hgrow task f' hins)
    -- refused, so the fifo answers and stays
    | none =>
      simp only [hins, Option.ite_none_right_eq_some, Option.some.injEq, Prod.mk.injEq] at h
      rw [← h.2.1]
      exact ⟨rfl, rfl⟩
  | tryEnqueue task =>
    simp only [fifoStep] at h
    cases hins : f.insert task with
    | some f' =>
      simp only [hins, Option.some.injEq, Prod.mk.injEq] at h
      exact absurd h.2 (hgrow task f' hins)
    | none =>
      simp only [hins, Option.some.injEq, Prod.mk.injEq] at h
      rw [← h.1]
      split <;> exact ⟨rfl, rfl⟩
  | dequeue =>
    simp only [fifoStep] at h
    cases hrem : f.remove with
    | some taken =>
      simp only [hrem, Option.some.injEq, Prod.mk.injEq] at h
      exact absurd h.2 (hshrink taken.1 taken.2 hrem)
    | none =>
      simp only [hrem, Option.ite_none_right_eq_some, Option.some.injEq, Prod.mk.injEq] at h
      rw [← h.2.1]
      exact ⟨rfl, rfl⟩
  | tryDequeue =>
    simp only [fifoStep] at h
    cases hrem : f.remove with
    | some taken =>
      simp only [hrem, Option.some.injEq, Prod.mk.injEq] at h
      exact absurd h.2 (hshrink taken.1 taken.2 hrem)
    | none =>
      simp only [hrem, Option.some.injEq, Prod.mk.injEq] at h
      rw [← h.1]
      split <;> exact ⟨rfl, rfl⟩
  | _ => exact ⟨rfl, rfl⟩

/-- **A step of a call accounts for what it does to the queue.** -/
theorem QueueStepSpec.accounts (h : QueueStepSpec cfg t choice q f pc out)
    (hcall : pc ≠ .idle) (hleave : ∀ op r, pc ≠ .returned op r) :
    out.2.1.operation = pc.operation ∧
    (out.1.inserted : Multiset P) + pc.inserted = (q.inserted : Multiset P) + out.2.1.inserted ∧
    (out.1.removed : Multiset P) + pc.removed = (q.removed : Multiset P) + out.2.1.removed := by
  cases h with
  | call op => exact absurd rfl hcall
  | callInvalid op => exact absurd rfl hcall
  | enter hmutex henter hsec =>
    obtain ⟨hop, hins, hrem, hq₁, hq₂⟩ := henter.accounts
    rw [hop, hins, hrem, ← hq₁, ← hq₂]
    cases hsec with
    | wait w => simp [QueuePc.operation, QueuePc.inserted, QueuePc.removed]
    | insert task f' ring hop' hinsert habs =>
      refine ⟨rfl, ?_, ?_⟩
      · rcases hop' with rfl | rfl <;>
          simp [QueuePc.inserted, QueueOperation.inserted, ← Multiset.coe_add]
      · rcases hop' with rfl | rfl <;> simp [QueuePc.removed, QueueOperation.removed]
    | remove task f' ring hop' hremove habs =>
      refine ⟨rfl, ?_, ?_⟩
      · rcases hop' with rfl | rfl <;> simp [QueuePc.inserted, QueueOperation.inserted]
      · rcases hop' with rfl | rfl <;>
          simp [QueuePc.removed, QueueOperation.removed, ← Multiset.coe_add]
    | close => simp [QueuePc.operation, QueuePc.inserted, QueuePc.removed,
        QueueOperation.inserted, QueueOperation.removed]
    | observe r hstep =>
      obtain ⟨h₁, h₂⟩ := observe_accounts hstep
      simp [QueuePc.operation, QueuePc.inserted, QueuePc.removed, h₁, h₂]
  | waitFailed w hfail hmutex =>
    cases w <;> simp [QueuePc.operation, QueuePc.inserted, QueuePc.removed, Waiter.operation,
      QueueOperation.inserted, QueueOperation.removed]
  | leave op r => exact absurd rfl (hleave op r)
  | _ => exact ⟨rfl, rfl, rfl⟩

/-! ## Answers -/

/-- Closed and empty: nothing is inserted or removed any more. -/
def Drained (q : ConcurrentTaskQueue T P) : Prop :=
  q.shutdownRequested = true ∧ taskQueueSize q.queue = 0

/-- What the answer `r` says about the queue from then on. -/
def QueueOperation.Answered (q : ConcurrentTaskQueue T P) : QueueOperation P → QueueReturn P → Prop
  | .shutdown, _ => q.shutdownRequested = true
  | .dequeue, .status .errorShutdown _ => Drained q
  | _, .status .errorShutdown _ => q.shutdownRequested = true
  | _, _ => True

def QueuePc.Answered (q : ConcurrentTaskQueue T P) : QueuePc P → Prop
  | .unlock op r | .returned op r => op.Answered q r
  | _ => True

theorem QueuePc.answered_wake (q : ConcurrentTaskQueue T P) (pc : QueuePc P) :
    pc.wake.Answered q = pc.Answered q := by
  cases pc <;> rfl

theorem Enters.closed {op : QueueOperation P} {q₀ : ConcurrentTaskQueue T P}
    (h : Enters t q pc op q₀) : q₀.shutdownRequested = q.shutdownRequested := by
  cases h <;> simp

theorem SectionSpec.closed_stays {woken : Option T} {op : QueueOperation P}
    {q₀ : ConcurrentTaskQueue T P} (h : SectionSpec cfg woken q₀ f op out)
    (hclosed : q₀.shutdownRequested = true) : out.1.shutdownRequested = true := by
  cases h with
  | wait w => simpa using hclosed
  | close => rfl
  | _ => exact hclosed

/-- A closed queue stays closed. -/
theorem QueueStepSpec.closed_stays (h : QueueStepSpec cfg t choice q f pc out)
    (hclosed : q.shutdownRequested = true) : out.1.shutdownRequested = true := by
  cases h with
  | enter hmutex henter hsec =>
    exact hsec.closed_stays (henter.closed.trans hclosed)
  | waitFailed w hfail hmutex => simpa using hclosed
  | _ => exact hclosed

/-- Only a shutdown closes the queue. -/
theorem QueueStepSpec.opened (h : QueueStepSpec cfg t choice q f pc out)
    (hop : pc.operation ≠ some .shutdown) (hclosed : out.1.shutdownRequested = true) :
    q.shutdownRequested = true := by
  cases h with
  | enter hmutex henter hsec =>
    rw [henter.accounts.1] at hop
    have hq₀ := henter.closed
    cases hsec with
    | close => exact absurd rfl hop
    | wait w => rw [← hq₀]; simpa using hclosed
    | _ => rw [← hq₀]; exact hclosed
  | waitFailed w hfail hmutex => simpa using hclosed
  | _ => exact hclosed

theorem SectionSpec.drained_stays {woken : Option T} {op : QueueOperation P}
    {q₀ : ConcurrentTaskQueue T P} (h : SectionSpec cfg woken q₀ f op out) (habs : Abstracts q₀ f)
    (hdrained : Drained q₀) : Drained out.1 := by
  have hclosed : f.closed = true := habs.closed ▸ hdrained.1
  have hempty : f.contents.length = 0 := habs.size_eq ▸ hdrained.2
  cases h with
  | wait w => exact ⟨by simpa using hdrained.1, by simpa using hdrained.2⟩
  | insert task f' ring hop hinsert =>
    have hopen := (ClosableFifo.insert_eq_some.mp hinsert).1
    rw [hclosed] at hopen
    cases hopen
  | remove task f' ring hop hremove =>
    have hlen := congrArg List.length (ClosableFifo.remove_eq_some.mp hremove).1
    rw [hempty] at hlen
    cases hlen
  | close => exact ⟨rfl, hdrained.2⟩
  | observe r => exact hdrained

/-- A queue that is closed and empty stays so. -/
theorem QueueStepSpec.drained_stays (h : QueueStepSpec cfg t choice q f pc out)
    (habs : Abstracts q f) (hdrained : Drained q) : Drained out.1 := by
  cases h with
  | enter hmutex henter hsec =>
    refine hsec.drained_stays (henter.abstracts habs) ?_
    cases henter with
    | lock op => exact hdrained
    | resume w => exact ⟨by simpa using hdrained.1, by simpa using hdrained.2⟩
  | waitFailed w hfail hmutex => exact ⟨by simpa using hdrained.1, by simpa using hdrained.2⟩
  | _ => exact hdrained

/-- What a caller was told stays true. -/
theorem QueueStepSpec.answered_stays (h : QueueStepSpec cfg t choice q f pc out)
    (habs : Abstracts q f) {pc' : QueuePc P} (hpc : pc'.Answered q) : pc'.Answered out.1 := by
  have hop : ∀ (op : QueueOperation P) (r : QueueReturn P), op.Answered q r →
      op.Answered out.1 r := by
    intro op r hr
    unfold QueueOperation.Answered at hr ⊢
    split at hr
    · exact h.closed_stays hr
    · exact h.drained_stays habs hr
    · exact h.closed_stays hr
    · trivial
  cases pc' with
  | unlock op r => exact hop op r hpc
  | returned op r => exact hop op r hpc
  | _ => trivial

/-- An operation refused with `ERROR_SHUTDOWN` found the queue closed; a dequeue found
it empty as well. -/
theorem observe_answered {op : QueueOperation P} {r : QueueReturn P} (habs : Abstracts q f)
    (hshutdown : op ≠ .shutdown) (h : fifoStep op f = some (r, f)) : op.Answered q r := by
  have hclosed : f.closed = true → q.shutdownRequested = true := fun hf => habs.closed.trans hf
  cases op with
  | shutdown => exact absurd rfl hshutdown
  -- a blocking operation answers for want of room, or of a Task, only in a closed queue
  | enqueue task =>
    simp only [fifoStep] at h
    split at h
    · cases h
      trivial
    · simp only [Option.ite_none_right_eq_some, Option.some.injEq, Prod.mk.injEq] at h
      obtain ⟨hf, rfl, -⟩ := h
      exact hclosed hf
  | tryEnqueue task =>
    simp only [fifoStep] at h
    split at h
    · cases h
      trivial
    · cases hf : f.closed with
      | true =>
        simp only [hf, Option.some.injEq, Prod.mk.injEq] at h
        rw [← h.1]
        exact hclosed hf
      | false =>
        simp only [hf, Option.some.injEq, Prod.mk.injEq] at h
        rw [← h.1]
        trivial
  | dequeue =>
    simp only [fifoStep] at h
    split at h
    · cases h
      trivial
    · rename_i hremove
      simp only [Option.ite_none_right_eq_some, Option.some.injEq, Prod.mk.injEq] at h
      obtain ⟨hf, rfl, -⟩ := h
      refine ⟨hclosed hf, ?_⟩
      -- a closed queue turns consumers away once it is empty
      rw [habs.size_eq, ClosableFifo.remove_eq_none.mp hremove]
      rfl
  -- the others distinguish a closed queue from an empty or a full one
  | tryDequeue =>
    simp only [fifoStep] at h
    split at h
    · cases h
      trivial
    · cases hf : f.closed with
      | true =>
        simp only [hf, Option.some.injEq, Prod.mk.injEq] at h
        rw [← h.1]
        exact hclosed hf
      | false =>
        simp only [hf, Option.some.injEq, Prod.mk.injEq] at h
        rw [← h.1]
        trivial
  | tryPeek =>
    simp only [fifoStep] at h
    split at h
    · cases h
      trivial
    · cases hf : f.closed with
      | true =>
        simp only [hf, Option.some.injEq, Prod.mk.injEq] at h
        rw [← h.1]
        exact hclosed hf
      | false =>
        simp only [hf, Option.some.injEq, Prod.mk.injEq] at h
        rw [← h.1]
        trivial
  | _ =>
    cases h
    trivial

/-- **The answer of a call is true when it is given.** -/
theorem QueueStepSpec.answered (h : QueueStepSpec cfg t choice q f pc out) (habs : Abstracts q f)
    (hcall : pc ≠ .idle) (hpc : pc.Answered q) : out.2.1.Answered out.1 := by
  have hstays := h.answered_stays habs hpc
  cases h with
  | call op => exact absurd rfl hcall
  | callInvalid op => exact absurd rfl hcall
  | enter hmutex henter hsec =>
    cases hsec with
    | wait w => trivial
    | insert task f' ring hop =>
      rcases hop with rfl | rfl <;> trivial
    | remove task f' ring hop =>
      rcases hop with rfl | rfl <;> trivial
    | close => exact rfl
    | observe r hstep hshutdown => exact observe_answered (henter.abstracts habs) hshutdown hstep
  | waitFailed w hfail hmutex => cases w <;> trivial
  | unlock op r hmutex => exact hstays
  | _ => trivial

end Step

end SchedulingEngine
