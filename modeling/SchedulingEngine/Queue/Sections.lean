import SchedulingEngine.Concurrency.ClosableFifo
import SchedulingEngine.Queue.ConcurrentTaskQueue

/-!
# What a critical section of the queue can do

`fifoStep` is the purpose of each queue call, stated on the abstract bounded
closable FIFO: the value it returns and the FIFO it leaves, or `none` while it has
to wait. `Abstracts q f` relates the concrete queue to it.

`runOperation_spec` is the single case analysis of the critical sections: on a
queue that abstracts `f`, a section either goes to wait, inserts, removes, closes
the queue, or only observes it, and in the last four cases it is the abstract step.
Every invariant of the queue is derived from it.
-/

namespace SchedulingEngine

open Concurrency

variable {T P : Type}

/-- The abstract atomic step of an operation (`none`: it waits). -/
def fifoStep (op : QueueOperation P) (f : ClosableFifo P) :
    Option (QueueReturn P × ClosableFifo P) :=
  match op with
  | .shutdown => some (.status .ok none, f.close)
  | .tryEnqueue task =>
    match f.insert task with
    | some f' => some (.status .ok none, f')
    | none => some (.status (if f.closed then .errorShutdown else .errorFull) none, f)
  | .enqueue task =>
    match f.insert task with
    | some f' => some (.status .ok none, f')
    | none => if f.closed then some (.status .errorShutdown none, f) else none
  | .tryDequeue =>
    match f.remove with
    | some (task, f') => some (.status .ok (some task), f')
    | none => some (.status (if f.closed then .errorShutdown else .errorEmpty) none, f)
  | .dequeue =>
    match f.remove with
    | some (task, f') => some (.status .ok (some task), f')
    | none => if f.closed then some (.status .errorShutdown none, f) else none
  | .tryPeek =>
    match f.peek with
    | some task => some (.status .ok (some task), f)
    | none => some (.status (if f.closed then .errorShutdown else .errorEmpty) none, f)
  | .isEmpty => some (.flag (f.contents.length = 0), f)
  | .isFull => some (.flag (f.contents.length = f.capacity), f)
  | .size => some (.count f.contents.length, f)
  | .capacity => some (.count f.capacity, f)
  | .captureRuntimeSnapshot =>
    some (.snapshot (some
      { capacity := f.capacity
        currentSize := f.contents.length
        highWaterMark := f.highWater }), f)

/-- The concrete queue holds what the abstract FIFO says, and its history adds up. -/
structure Abstracts (q : ConcurrentTaskQueue T P) (f : ClosableFifo P) : Prop where
  ring : q.queue.Represents f.contents
  capacity : q.queue.capacity = f.capacity
  closed : q.shutdownRequested = f.closed
  highWater : q.highWaterMark = f.highWater
  history : q.inserted = q.removed ++ f.contents

/-- The waiter counter incremented before `sched_condition_wait`. -/
def beginWait (w : Waiter P) (q : ConcurrentTaskQueue T P) : ConcurrentTaskQueue T P :=
  match w with
  | .producer _ => { q with waitingProducers := q.waitingProducers + 1 }
  | .consumer => { q with waitingConsumers := q.waitingConsumers + 1 }

/-- The loop condition of the waiting call, on the abstract FIFO. -/
def Waiter.Blocked (f : ClosableFifo P) : Waiter P → Prop
  | .producer _ => f.contents.length = f.capacity
  | .consumer => f.contents = []

/-- The signal sent after an insertion. -/
def insertSignals (cfg : QueueConfig) (woken : Option T) (q : ConcurrentTaskQueue T P) :
    List (QueueEffect T) :=
  if !cfg.transitionSignaling || (taskQueueIsEmpty q.queue || q.waitingConsumers > 0) then
    [.signal .notEmpty woken]
  else []

/-- The signal sent after a removal. -/
def removeSignals (cfg : QueueConfig) (woken : Option T) (q : ConcurrentTaskQueue T P) :
    List (QueueEffect T) :=
  if !cfg.transitionSignaling || (taskQueueIsFull q.queue || q.waitingProducers > 0) then
    [.signal .notFull woken]
  else []

/-- The outcomes of a critical section entered on a queue that abstracts `f`. -/
inductive SectionSpec (cfg : QueueConfig) (woken : Option T) (q : ConcurrentTaskQueue T P)
    (f : ClosableFifo P) : QueueOperation P → QueueSection T P → Prop where
  | wait (w : Waiter P) (hopen : f.closed = false) (hblocked : w.Blocked f) :
      SectionSpec cfg woken q f w.operation (beginWait w q, .wait w, [])
  | insert {op : QueueOperation P} (task : P) (f' : ClosableFifo P) (ring : TaskQueue P)
      (hop : op = .enqueue task ∨ op = .tryEnqueue task) (hinsert : f.insert task = some f')
      (habs : Abstracts { q with
        queue := ring, highWaterMark := f'.highWater, inserted := q.inserted ++ [task] } f') :
      SectionSpec cfg woken q f op
        ({ q with queue := ring, highWaterMark := f'.highWater, inserted := q.inserted ++ [task] },
          .unlock op (.status .ok none), insertSignals cfg woken q)
  | remove {op : QueueOperation P} (task : P) (f' : ClosableFifo P) (ring : TaskQueue P)
      (hop : op = .dequeue ∨ op = .tryDequeue) (hremove : f.remove = some (task, f'))
      (habs : Abstracts { q with queue := ring, removed := q.removed ++ [task] } f') :
      SectionSpec cfg woken q f op
        ({ q with queue := ring, removed := q.removed ++ [task] },
          .unlock op (.status .ok (some task)), removeSignals cfg woken q)
  | close : SectionSpec cfg woken q f .shutdown
      ({ q with shutdownRequested := true }, .unlock .shutdown (.status .ok none),
        [.broadcast .notEmpty, .broadcast .notFull])
  | observe {op : QueueOperation P} (r : QueueReturn P) (hstep : fifoStep op f = some (r, f))
      (hshutdown : op ≠ .shutdown) :
      SectionSpec cfg woken q f op (q, .unlock op r, [])

/-- An `enqueue` that leaves the FIFO alone was answered `SHUTDOWN`. -/
theorem observe_enqueue {f : ClosableFifo P} {task : P} {r : QueueReturn P}
    (h : fifoStep (.enqueue task) f = some (r, f)) : r = .status .errorShutdown none := by
  simp only [fifoStep] at h
  cases hinsert : f.insert task with
  | some f' =>
    -- an insertion makes the FIFO longer, so it is no observation
    simp only [hinsert, Option.some.injEq, Prod.mk.injEq] at h
    have hlength := congrArg List.length (ClosableFifo.insert_eq_some.mp hinsert).2.2.1
    rw [h.2] at hlength
    simp at hlength
  | none =>
    simp only [hinsert, Option.ite_none_right_eq_some, Option.some.injEq, Prod.mk.injEq] at h
    exact h.2.1.symm

/-- The same for `dequeue`. -/
theorem observe_dequeue {f : ClosableFifo P} {r : QueueReturn P}
    (h : fifoStep .dequeue f = some (r, f)) : r = .status .errorShutdown none := by
  simp only [fifoStep] at h
  cases hremove : f.remove with
  | some taken =>
    simp only [hremove, Option.some.injEq, Prod.mk.injEq] at h
    have hlength := congrArg List.length (ClosableFifo.remove_eq_some.mp hremove).1
    rw [h.2] at hlength
    simp at hlength
  | none =>
    simp only [hremove, Option.ite_none_right_eq_some, Option.some.injEq, Prod.mk.injEq] at h
    exact h.2.1.symm

section Specification

variable (cfg : QueueConfig) (woken : Option T) {q : ConcurrentTaskQueue T P} {f : ClosableFifo P}

theorem Abstracts.isEmpty_eq (h : Abstracts q f) :
    taskQueueIsEmpty q.queue = decide (f.contents.length = 0) := by
  rw [Bool.eq_iff_iff, h.ring.isEmpty_iff, decide_eq_true_iff, List.length_eq_zero_iff]

theorem Abstracts.isFull_eq (h : Abstracts q f) :
    taskQueueIsFull q.queue = decide (f.contents.length = f.capacity) := by
  rw [Bool.eq_iff_iff, h.ring.isFull_iff, decide_eq_true_iff, h.capacity]

theorem Abstracts.size_eq (h : Abstracts q f) : taskQueueSize q.queue = f.contents.length :=
  h.ring.length_eq.symm

/-- Changing the waiter counters or the mutex owner does not change what is abstracted. -/
theorem Abstracts.congr {q' : ConcurrentTaskQueue T P} (h : Abstracts q f)
    (h₁ : q'.queue = q.queue) (h₂ : q'.shutdownRequested = q.shutdownRequested)
    (h₃ : q'.highWaterMark = q.highWaterMark) (h₄ : q'.inserted = q.inserted)
    (h₅ : q'.removed = q.removed) : Abstracts q' f :=
  ⟨h₁ ▸ h.ring, h₁ ▸ h.capacity, h₂ ▸ h.closed, h₃ ▸ h.highWater, by rw [h₄, h₅, h.history]⟩

/-- What the shared insertion code does on an open queue with room. -/
theorem insertTask_ok (h : Abstracts q f) {task : P} {f' : ClosableFifo P}
    (hinsert : f.insert task = some f') (onFull : ConcurrentTaskQueueResult) :
    ∃ ring,
      insertTask cfg onFull task woken q =
        ({ q with queue := ring, highWaterMark := f'.highWater, inserted := q.inserted ++ [task] },
          .ok, insertSignals cfg woken q) ∧
      Abstracts { q with
        queue := ring, highWaterMark := f'.highWater, inserted := q.inserted ++ [task] } f' := by
  obtain ⟨hopen, hroom, hcontents, hcap, hclosed, hhigh⟩ := ClosableFifo.insert_eq_some.mp hinsert
  obtain ⟨ring, henq, hring, hringcap⟩ := h.ring.enqueue_ok (h.capacity ▸ hroom) task
  have hopen' : q.shutdownRequested = false := h.closed.trans hopen
  have hsize : taskQueueSize ring = f.contents.length + 1 := by
    have hlen := hring.length_eq
    simp only [List.length_append, List.length_singleton] at hlen
    exact hlen.symm
  have hmark : (if taskQueueSize ring > q.highWaterMark then taskQueueSize ring
      else q.highWaterMark) = f'.highWater := by
    rw [hsize, h.highWater, hhigh]
    split <;> omega
  refine ⟨ring, ?_, ?_⟩
  · simp only [insertTask, hopen', henq, hmark, insertSignals]
    rfl
  · exact ⟨hcontents ▸ hring, hringcap.trans (h.capacity.trans hcap.symm),
      h.closed.trans hclosed.symm, rfl, by rw [hcontents, ← List.append_assoc, ← h.history]⟩

theorem insertTask_closed (hclosed : q.shutdownRequested = true) (task : P)
    (onFull : ConcurrentTaskQueueResult) :
    insertTask cfg onFull task woken q = (q, .errorShutdown, []) := by
  simp [insertTask, hclosed]

theorem insertTask_full (h : Abstracts q f) (hopen : f.closed = false)
    (hfull : f.contents.length = f.capacity) (task : P) (onFull : ConcurrentTaskQueueResult) :
    insertTask cfg onFull task woken q = (q, onFull, []) := by
  have henq := h.ring.enqueue_full (hfull.trans h.capacity.symm) task
  unfold insertTask
  rw [if_neg (by simp [h.closed, hopen])]
  simp only [henq]

/-- What the shared removal code does on a non-empty queue. -/
theorem removeTask_ok (h : Abstracts q f) {task : P} {f' : ClosableFifo P}
    (hremove : f.remove = some (task, f')) (onEmpty : ConcurrentTaskQueueResult) :
    ∃ ring,
      removeTask cfg onEmpty woken q =
        ({ q with queue := ring, removed := q.removed ++ [task] }, .status .ok (some task),
          removeSignals cfg woken q) ∧
      Abstracts { q with queue := ring, removed := q.removed ++ [task] } f' := by
  obtain ⟨hcontents, hcap, hclosed, hhigh⟩ := ClosableFifo.remove_eq_some.mp hremove
  obtain ⟨ring, hdeq, hring, hringcap⟩ := (hcontents ▸ h.ring).dequeue_ok
  have hne : taskQueueIsEmpty q.queue = false := by simp [h.isEmpty_eq, hcontents]
  refine ⟨ring, ?_, ?_⟩
  · simp only [removeTask, hne, hdeq, removeSignals]
    rfl
  · exact ⟨hring, hringcap.trans (h.capacity.trans hcap.symm), h.closed.trans hclosed.symm,
      h.highWater.trans hhigh.symm, by rw [List.append_assoc, List.singleton_append, ← hcontents,
        ← h.history]⟩

theorem removeTask_empty (h : Abstracts q f) (hempty : f.contents = [])
    (onEmpty : ConcurrentTaskQueueResult) :
    removeTask cfg onEmpty woken q = (q, .status onEmpty none, []) := by
  simp [removeTask, h.isEmpty_eq, hempty]

/-- The abstract FIFO is either able to take `task`, closed, or open and full. -/
theorem ClosableFifo.insert_cases (f : ClosableFifo P) (task : P) :
    (∃ f', f.insert task = some f') ∨ (f.insert task = none ∧ f.closed = true) ∨
      (f.insert task = none ∧ f.closed = false ∧ f.contents.length = f.capacity) := by
  have hbound := f.length_le.trans f.highWater_le
  cases hins : f.insert task with
  | some f' => exact .inl ⟨f', rfl⟩
  | none =>
    rcases ClosableFifo.insert_eq_none.mp hins with hc | hl
    · exact .inr (.inl ⟨rfl, hc⟩)
    · cases hc : f.closed with
      | true => exact .inr (.inl ⟨rfl, rfl⟩)
      | false => exact .inr (.inr ⟨rfl, rfl, by omega⟩)

/-- **Every critical section is one of five cases**, and all but going to wait are
the abstract step of the operation. -/
theorem runOperation_spec (h : Abstracts q f) (op : QueueOperation P) :
    SectionSpec cfg woken q f op (runOperation cfg woken op q) := by
  cases op with
  | shutdown => exact .close
  -- room in an open queue, a closed queue, or no room
  | tryEnqueue task =>
    simp only [runOperation, concurrentTaskQueueTryEnqueue]
    rcases ClosableFifo.insert_cases f task with ⟨f', hins⟩ | ⟨hins, hc⟩ | ⟨hins, hc, hfull⟩
    · obtain ⟨ring, hrun, habs⟩ := insertTask_ok cfg woken h hins .errorFull
      rw [hrun]
      exact .insert task f' ring (.inr rfl) hins habs
    · rw [insertTask_closed cfg woken (h.closed.trans hc)]
      exact .observe _ (by simp [fifoStep, hins, hc]) (by simp)
    · rw [insertTask_full cfg woken h hc hfull]
      exact .observe _ (by simp [fifoStep, hins, hc]) (by simp)
  | enqueue task =>
    simp only [runOperation, concurrentTaskQueueEnqueue]
    rcases ClosableFifo.insert_cases f task with ⟨f', hins⟩ | ⟨hins, hc⟩ | ⟨hins, hc, hfull⟩
    · -- the loop of the source is left at once
      have hroom := (ClosableFifo.insert_eq_some.mp hins).2.1
      rw [if_neg (by simp [h.isFull_eq, Nat.ne_of_lt hroom])]
      obtain ⟨ring, hrun, habs⟩ := insertTask_ok cfg woken h hins .errorSystem
      rw [hrun]
      exact .insert task f' ring (.inl rfl) hins habs
    · rw [if_neg (by simp [h.closed, hc]), insertTask_closed cfg woken (h.closed.trans hc)]
      exact .observe _ (by simp [fifoStep, hins, hc]) (by simp)
    · rw [if_pos (by simp [h.closed, hc, h.isFull_eq, hfull])]
      -- or its first turn ends in the wait
      exact .wait (.producer task) hc hfull
  | tryDequeue =>
    simp only [runOperation, concurrentTaskQueueTryDequeue]
    cases hrem : f.remove with
    | some taken =>
      obtain ⟨task, f'⟩ := taken
      obtain ⟨ring, hrun, habs⟩ := removeTask_ok cfg woken h hrem
        (if q.shutdownRequested then .errorShutdown else .errorEmpty)
      rw [hrun]
      exact .remove task f' ring (.inr rfl) hrem habs
    | none =>
      rw [removeTask_empty cfg woken h (ClosableFifo.remove_eq_none.mp hrem)]
      exact .observe _ (by simp [fifoStep, hrem, h.closed]) (by simp)
  | dequeue =>
    simp only [runOperation, concurrentTaskQueueDequeue]
    cases hrem : f.remove with
    | some taken =>
      obtain ⟨task, f'⟩ := taken
      have hcontents := (ClosableFifo.remove_eq_some.mp hrem).1
      rw [if_neg (by simp [h.isEmpty_eq, hcontents])]
      obtain ⟨ring, hrun, habs⟩ :=
        removeTask_ok cfg woken h hrem .errorShutdown
      rw [hrun]
      exact .remove task f' ring (.inl rfl) hrem habs
    | none =>
      have hempty := ClosableFifo.remove_eq_none.mp hrem
      cases hc : f.closed with
      | true =>
        rw [if_neg (by simp [h.closed, hc]), removeTask_empty cfg woken h hempty]
        exact .observe _ (by simp [fifoStep, hrem, hc]) (by simp)
      | false =>
        rw [if_pos (by simp [h.closed, hc, h.isEmpty_eq, hempty])]
        exact .wait .consumer hc hempty
  | tryPeek =>
    simp only [runOperation, concurrentTaskQueueTryPeek]
    cases hcontents : f.contents with
    | nil =>
      have hpeek : f.peek = none := congrArg List.head? hcontents
      rw [if_pos (by simp [h.isEmpty_eq, hcontents]), h.closed]
      exact .observe _ (by simp only [fifoStep, hpeek]) (by simp)
    | cons task rest =>
      have hpeek : f.peek = some task := congrArg List.head? hcontents
      have hring : q.queue.Represents (task :: rest) := hcontents ▸ h.ring
      rw [if_neg (by simp [h.isEmpty_eq, hcontents]), hring.peek_ok]
      exact .observe _ (by simp only [fifoStep, hpeek]) (by simp)
  | isEmpty => exact .observe _ (by rw [h.isEmpty_eq]; rfl) (by simp)
  | isFull => exact .observe _ (by rw [h.isFull_eq]; rfl) (by simp)
  | size => exact .observe _ (by rw [h.size_eq]; rfl) (by simp)
  | capacity => exact .observe _ (by rw [taskQueueCapacity, h.capacity]; rfl) (by simp)
  | captureRuntimeSnapshot =>
    exact .observe _ (by rw [taskQueueCapacity, h.capacity, h.size_eq, h.highWater]; rfl) (by simp)

end Specification

end SchedulingEngine
