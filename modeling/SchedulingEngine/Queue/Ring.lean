import SchedulingEngine.Queue.TaskQueue

/-!
# The ring on the machine (task_queue.c)

The operations of `TaskQueue` once more, as the machine runs them: a slot outside the
buffer cannot be touched (`none`), and `size_t` arithmetic wraps.

- `enqueueOnMachine_eq`, `dequeueOnMachine_eq`, `peekOnMachine_eq`: on every queue value
  whose buffer has `capacity` slots, consistent or not, no slot outside is touched and
  nothing wraps.
- `taskQueueRun`: any sequence of calls, compared with `listRun` on a bounded list.
-/

namespace SchedulingEngine

variable {P : Type}

/-- `++counter` on a `size_t`. -/
def sizeIncrement (counter : ℕ) : ℕ := (counter + 1) % 2 ^ 64

/-- `items[index]`, inside the buffer. -/
def readSlot (items : List (Option P)) (index : ℕ) : Option (Option P) := items[index]?

/-- `items[index] = task`, inside the buffer. -/
def writeSlot (items : List (Option P)) (index : ℕ) (task : Option P) : Option (List (Option P)) :=
  if index < items.length then some (items.set index task) else none

/-- `nextIndex` on `size_t` values. -/
def nextIndexOnMachine (index capacity : ℕ) : ℕ :=
  if index = sizeDecrement capacity then 0 else sizeIncrement index

/-- `task_queue_enqueue`. -/
def enqueueOnMachine (queue : TaskQueue P) (task : Option P) :
    Option (TaskQueueResult × TaskQueue P) :=
  match queue.items with
  | none => some (.errorInvalidArgument, queue)
  | some items =>
    if task.isNone || queue.fieldsInvalid then some (.errorInvalidArgument, queue)
    else if queue.size = queue.capacity then some (.errorFull, queue)
    else do
      let items ← writeSlot items queue.tail task
      return (.ok, { queue with
        items := some items
        tail := nextIndexOnMachine queue.tail queue.capacity
        size := sizeIncrement queue.size })

/-- `task_queue_dequeue`; `output` says whether the output pointer is set. -/
def dequeueOnMachine (queue : TaskQueue P) (output : Bool) :
    Option (TaskQueueResult × TaskQueue P × Option P) :=
  match queue.items with
  | none => some (.errorInvalidArgument, queue, none)
  | some items =>
    if output = false || queue.fieldsInvalid then some (.errorInvalidArgument, queue, none)
    else if queue.size = 0 then some (.errorEmpty, queue, none)
    else do
      match ← readSlot items queue.head with
      | none => return (.errorInvalidArgument, queue, none)
      | some oldest =>
        let items ← writeSlot items queue.head none
        return (.ok, { queue with
          items := some items
          head := nextIndexOnMachine queue.head queue.capacity
          size := sizeDecrement queue.size }, some oldest)

/-- `task_queue_peek`. -/
def peekOnMachine (queue : TaskQueue P) (output : Bool) : Option (TaskQueueResult × Option P) :=
  match queue.items with
  | none => some (.errorInvalidArgument, none)
  | some items =>
    if output = false || queue.fieldsInvalid then some (.errorInvalidArgument, none)
    else if queue.size = 0 then some (.errorEmpty, none)
    else do
      match ← readSlot items queue.head with
      | none => return (.errorInvalidArgument, none)
      | some oldest => return (.ok, some oldest)

/-! ## Any queue value -/

/-- A value that `TaskQueue` can have in memory: the buffer, if there is one, has
`capacity` slots. Nothing is said about `size`, `head`, `tail` and the slots. -/
structure TaskQueue.Allocated (q : TaskQueue P) : Prop where
  capacity_le : q.capacity ≤ sizeMax
  length_eq : ∀ items, q.items = some items → items.length = q.capacity

/-- What the field checks let through. -/
theorem TaskQueue.fieldsInvalid_eq_false {q : TaskQueue P} (h : q.fieldsInvalid = false) :
    0 < q.capacity ∧ q.size ≤ q.capacity ∧ q.head < q.capacity ∧ q.tail < q.capacity := by
  simp [TaskQueue.fieldsInvalid] at h
  omega

theorem nextIndexOnMachine_eq {index capacity : ℕ} (hindex : index < capacity)
    (hcapacity : capacity ≤ sizeMax) :
    nextIndexOnMachine index capacity = nextIndex index capacity := by
  unfold nextIndexOnMachine nextIndex sizeDecrement sizeIncrement
  unfold sizeMax at hcapacity
  rw [if_neg (show capacity ≠ 0 by omega), Nat.mod_eq_of_lt (by omega)]

theorem nextIndex_lt {index capacity : ℕ} (hindex : index < capacity) :
    nextIndex index capacity < capacity := by
  rw [nextIndex_eq_mod hindex]
  exact Nat.mod_lt _ (by omega)

section Machine

variable {q : TaskQueue P}

/-- **An enqueue stays inside the buffer and does not wrap.** -/
theorem enqueueOnMachine_eq (h : q.Allocated) (task : Option P) :
    enqueueOnMachine q task = some (taskQueueEnqueue q task) := by
  unfold enqueueOnMachine taskQueueEnqueue
  cases hitems : q.items with
  | none => rfl
  | some items =>
    dsimp only
    split
    · rfl
    · rename_i hguard
      split
      · rfl
      · rename_i hroom
        obtain ⟨-, hvalid⟩ := Bool.or_eq_false_iff.mp (Bool.not_eq_true _ ▸ hguard)
        obtain ⟨-, hsize, -, htail⟩ := TaskQueue.fieldsInvalid_eq_false hvalid
        have hcapacity := h.capacity_le
        have hwrite : writeSlot items q.tail task = some (items.set q.tail task) :=
          if_pos (h.length_eq items hitems ▸ htail)
        have hcount : sizeIncrement q.size = q.size + 1 := by
          unfold sizeMax at hcapacity
          exact Nat.mod_eq_of_lt (by omega)
        rw [hwrite, nextIndexOnMachine_eq htail hcapacity, hcount]
        rfl

/-- **A dequeue stays inside the buffer and does not wrap.** -/
theorem dequeueOnMachine_eq (h : q.Allocated) (output : Bool) :
    dequeueOnMachine q output
      = some (if output then taskQueueDequeue q else (.errorInvalidArgument, q, none)) := by
  unfold dequeueOnMachine taskQueueDequeue
  cases output with
  | false => cases q.items <;> rfl
  | true =>
    cases hitems : q.items with
    | none => rfl
    | some items =>
      simp only [Bool.true_eq_false, decide_false, Bool.false_or, if_true]
      cases hvalid : q.fieldsInvalid with
      | true => rfl
      | false =>
        obtain ⟨-, hsize, hhead, -⟩ := TaskQueue.fieldsInvalid_eq_false hvalid
        have hcapacity := h.capacity_le
        have hlength : q.head < items.length := h.length_eq items hitems ▸ hhead
        simp only [Bool.false_eq_true, if_false]
        split
        · rfl
        · rename_i hsize
          have hwrite : writeSlot items q.head none = some (items.set q.head none) :=
            if_pos hlength
          have hcount : sizeDecrement q.size = q.size - 1 := if_neg hsize
          rw [readSlot, List.getElem?_eq_getElem hlength, Option.join_some]
          cases items[q.head] with
          | none => rfl
          | some oldest =>
            rw [nextIndexOnMachine_eq hhead hcapacity, hcount]
            simp only [Option.bind_eq_bind, Option.bind_some, hwrite]
            rfl

/-- **A peek stays inside the buffer.** -/
theorem peekOnMachine_eq (h : q.Allocated) (output : Bool) :
    peekOnMachine q output
      = some (if output then taskQueuePeek q else (.errorInvalidArgument, none)) := by
  unfold peekOnMachine taskQueuePeek
  cases output with
  | false => cases q.items <;> rfl
  | true =>
    cases hitems : q.items with
    | none => rfl
    | some items =>
      simp only [Bool.true_eq_false, decide_false, Bool.false_or, if_true]
      cases hvalid : q.fieldsInvalid with
      | true => rfl
      | false =>
        obtain ⟨-, -, hhead, -⟩ := TaskQueue.fieldsInvalid_eq_false hvalid
        have hlength : q.head < items.length := h.length_eq items hitems ▸ hhead
        simp only [Bool.false_eq_true, if_false]
        split
        · rfl
        · rw [readSlot, List.getElem?_eq_getElem hlength, Option.join_some]
          cases items[q.head] <;> rfl

end Machine

/-- The indices and the size lie inside the ring. -/
def TaskQueue.InRange (q : TaskQueue P) : Prop :=
  q.head < q.capacity ∧ q.tail < q.capacity ∧ q.size ≤ q.capacity

section Results

variable {q : TaskQueue P}

/-- An enqueue changes nothing, or writes the slot at `tail`. -/
theorem taskQueueEnqueue_cases (q : TaskQueue P) (task : Option P) :
    (∃ r, taskQueueEnqueue q task = (r, q) ∧ r ≠ .ok) ∨
      ∃ items, q.items = some items ∧ q.InRange ∧ q.size < q.capacity ∧
        taskQueueEnqueue q task = (.ok, { q with
          items := some (items.set q.tail task)
          tail := nextIndex q.tail q.capacity
          size := q.size + 1 }) := by
  unfold taskQueueEnqueue
  cases hitems : q.items with
  | none => exact .inl ⟨_, rfl, nofun⟩
  | some items =>
    dsimp only
    split
    · exact .inl ⟨_, rfl, nofun⟩
    · rename_i hguard
      obtain ⟨-, hvalid⟩ := Bool.or_eq_false_iff.mp (Bool.not_eq_true _ ▸ hguard)
      obtain ⟨-, hsize, hhead, htail⟩ := TaskQueue.fieldsInvalid_eq_false hvalid
      split
      · exact .inl ⟨_, rfl, nofun⟩
      · rename_i hroom
        exact .inr ⟨items, rfl, ⟨hhead, htail, hsize⟩, by omega, rfl⟩

/-- A dequeue changes nothing, or takes the pointer at `head`. -/
theorem taskQueueDequeue_cases (q : TaskQueue P) :
    (∃ r, taskQueueDequeue q = (r, q, none) ∧ r ≠ .ok) ∨
      ∃ items oldest, q.items = some items ∧ items[q.head]? = some (some oldest) ∧ q.InRange ∧
        taskQueueDequeue q = (.ok, { q with
          items := some (items.set q.head none)
          head := nextIndex q.head q.capacity
          size := q.size - 1 }, some oldest) := by
  unfold taskQueueDequeue
  cases hitems : q.items with
  | none => exact .inl ⟨_, rfl, nofun⟩
  | some items =>
    dsimp only
    split
    · exact .inl ⟨_, rfl, nofun⟩
    · rename_i hvalid
      obtain ⟨-, hsize, hhead, htail⟩ :=
        TaskQueue.fieldsInvalid_eq_false (Bool.not_eq_true _ ▸ hvalid)
      split
      · exact .inl ⟨_, rfl, nofun⟩
      · split
        · exact .inl ⟨_, rfl, nofun⟩
        · rename_i oldest hslot
          exact .inr ⟨items, oldest, rfl, Option.join_eq_some_iff.mp hslot,
            ⟨hhead, htail, hsize⟩, rfl⟩

/-- A peek reads the pointer at `head`, or nothing. -/
theorem taskQueuePeek_cases (q : TaskQueue P) :
    (∃ r, taskQueuePeek q = (r, none) ∧ r ≠ .ok) ∨
      ∃ items oldest, q.items = some items ∧ items[q.head]? = some (some oldest) ∧
        taskQueuePeek q = (.ok, some oldest) := by
  unfold taskQueuePeek
  cases hitems : q.items with
  | none => exact .inl ⟨_, rfl, nofun⟩
  | some items =>
    dsimp only
    split
    · exact .inl ⟨_, rfl, nofun⟩
    · split
      · exact .inl ⟨_, rfl, nofun⟩
      · split
        · exact .inl ⟨_, rfl, nofun⟩
        · rename_i oldest hslot
          exact .inr ⟨items, oldest, rfl, Option.join_eq_some_iff.mp hslot, rfl⟩

end Results

/-- **The operations are safe and failure-atomic on every queue value**, consistent or
not: no slot outside the buffer is touched, a refused call changes nothing, and an
accepted one changes its slot, its index and the size only. -/
theorem task_queue_failure_atomic {q : TaskQueue P} (h : q.Allocated) :
    (∀ task, ∃ r q', enqueueOnMachine q task = some (r, q') ∧ (r ≠ .ok → q' = q) ∧
      (r = .ok → q'.InRange ∧ ∃ items, q.items = some items ∧ q' = { q with
        items := some (items.set q.tail task)
        tail := nextIndex q.tail q.capacity
        size := q.size + 1 })) ∧
    (∀ output, ∃ r q' out, dequeueOnMachine q output = some (r, q', out) ∧
      (r ≠ .ok → q' = q ∧ out = none) ∧
      (r = .ok → q'.InRange ∧ ∃ items oldest, q.items = some items ∧
        items[q.head]? = some (some oldest) ∧ out = some oldest ∧ q' = { q with
          items := some (items.set q.head none)
          head := nextIndex q.head q.capacity
          size := q.size - 1 })) ∧
    ∀ output, ∃ r out, peekOnMachine q output = some (r, out) ∧ (r ≠ .ok → out = none) ∧
      (r = .ok → ∃ items oldest, q.items = some items ∧ items[q.head]? = some (some oldest) ∧
        out = some oldest) := by
  refine ⟨?_, ?_, ?_⟩
  · -- refused, or inserted at the tail
    intro task
    rcases taskQueueEnqueue_cases q task with
      ⟨r, hrun, hr⟩ | ⟨items, hitems, ⟨hhead, htail, -⟩, hroom, hrun⟩
    · exact ⟨r, q, hrun ▸ enqueueOnMachine_eq h task, fun _ => rfl, fun hok => absurd hok hr⟩
    · refine ⟨.ok, _, hrun ▸ enqueueOnMachine_eq h task, fun hok => absurd rfl hok, fun _ => ?_⟩
      exact ⟨⟨hhead, nextIndex_lt htail, hroom⟩, items, hitems, rfl⟩
  · intro output
    have hmachine := dequeueOnMachine_eq h output
    cases output with
    -- without an output nothing is looked at
    | false => exact ⟨_, _, _, hmachine, fun _ => ⟨rfl, rfl⟩, nofun⟩
    | true =>
      rcases taskQueueDequeue_cases q with
        ⟨r, hrun, hr⟩ | ⟨items, oldest, hitems, hslot, ⟨hhead, htail, hsize⟩, hrun⟩
      · exact ⟨r, q, none, hrun ▸ hmachine, fun _ => ⟨rfl, rfl⟩, fun hok => absurd hok hr⟩
      · refine ⟨.ok, _, _, hrun ▸ hmachine, fun hok => absurd rfl hok, fun _ => ?_⟩
        refine ⟨⟨nextIndex_lt hhead, htail, ?_⟩, items, oldest, hitems, hslot, rfl, rfl⟩
        exact Nat.le_trans (Nat.sub_le _ _) hsize
  · intro output
    have hmachine := peekOnMachine_eq h output
    cases output with
    | false => exact ⟨_, _, hmachine, fun _ => rfl, nofun⟩
    | true =>
      rcases taskQueuePeek_cases q with ⟨r, hrun, hr⟩ | ⟨items, oldest, hitems, hslot, hrun⟩
      · exact ⟨r, none, hrun ▸ hmachine, fun _ => rfl, fun hok => absurd hok hr⟩
      · exact ⟨.ok, _, hrun ▸ hmachine, fun hok => absurd rfl hok,
          fun _ => ⟨items, oldest, hitems, hslot, rfl⟩⟩

/-- A queue whose `size` does not fit its slots: the head slot is `NULL`. -/
def corruptedQueue : TaskQueue ℕ := ⟨some [none, some 7], 2, 1, 0, 0⟩

theorem task_queue_failure_atomic_corrupted :
    corruptedQueue.Allocated ∧
      ∃ r q' out, dequeueOnMachine corruptedQueue true = some (r, q', out) ∧
        q' = corruptedQueue := by
  have halloc : corruptedQueue.Allocated := by
    refine ⟨by decide, ?_⟩
    rintro items hitems
    cases hitems
    rfl
  obtain ⟨r, q', out, hrun, hfail, -⟩ := (task_queue_failure_atomic halloc).2.1 true
  have hr : dequeueOnMachine corruptedQueue true
      = some (.errorInvalidArgument, corruptedQueue, none) := by decide
  cases hr.symm.trans hrun
  exact ⟨halloc, _, _, _, hrun, (hfail nofun).1⟩

/-! ## Sequences of calls -/

/-- A call on an initialised queue. `none` and `output = false` are `NULL` arguments. -/
inductive TaskQueueCall (P : Type) where
  | enqueue (task : Option P)
  | dequeue (output : Bool)
  | peek (output : Bool)
  | isEmpty
  | isFull
  | size
  | capacity
  deriving DecidableEq, Repr

/-- What a call returns, with what it stores through its output pointer. -/
inductive TaskQueueAnswer (P : Type) where
  | status (result : TaskQueueResult) (output : Option P)
  | flag (value : Bool)
  | count (value : ℕ)
  deriving DecidableEq, Repr

/-- One call on the machine. -/
def taskQueueCall (queue : TaskQueue P) :
    TaskQueueCall P → Option (TaskQueueAnswer P × TaskQueue P)
  | .enqueue task => (enqueueOnMachine queue task).map fun (r, queue) => (.status r none, queue)
  | .dequeue output =>
    (dequeueOnMachine queue output).map fun (r, queue, out) => (.status r out, queue)
  | .peek output => (peekOnMachine queue output).map fun (r, out) => (.status r out, queue)
  | .isEmpty => some (.flag (taskQueueIsEmpty queue), queue)
  | .isFull => some (.flag (taskQueueIsFull queue), queue)
  | .size => some (.count (taskQueueSize queue), queue)
  | .capacity => some (.count (taskQueueCapacity queue), queue)

/-- What the call should do: to a list of at most `c` pointers, oldest first. -/
def listCall (c : ℕ) (l : List P) : TaskQueueCall P → TaskQueueAnswer P × List P
  | .enqueue none => (.status .errorInvalidArgument none, l)
  | .enqueue (some task) =>
    if l.length = c then (.status .errorFull none, l) else (.status .ok none, l ++ [task])
  | .dequeue false | .peek false => (.status .errorInvalidArgument none, l)
  | .dequeue true =>
    match l with
    | [] => (.status .errorEmpty none, [])
    | oldest :: rest => (.status .ok (some oldest), rest)
  | .peek true =>
    match l with
    | [] => (.status .errorEmpty none, [])
    | oldest :: rest => (.status .ok (some oldest), oldest :: rest)
  | .isEmpty => (.flag (l.length = 0), l)
  | .isFull => (.flag (l.length = c), l)
  | .size => (.count l.length, l)
  | .capacity => (.count c, l)

/-- The answers to a sequence of calls, and the queue they leave. -/
def taskQueueRun : List (TaskQueueCall P) → TaskQueue P →
    Option (List (TaskQueueAnswer P) × TaskQueue P)
  | [], queue => some ([], queue)
  | call :: calls, queue => do
    let (answer, queue) ← taskQueueCall queue call
    let (answers, queue) ← taskQueueRun calls queue
    return (answer :: answers, queue)

def listRun (c : ℕ) : List (TaskQueueCall P) → List P → List (TaskQueueAnswer P) × List P
  | [], l => ([], l)
  | call :: calls, l =>
    ((listCall c l call).1 :: (listRun c calls (listCall c l call).2).1,
      (listRun c calls (listCall c l call).2).2)

section Runs

variable {q : TaskQueue P} {l : List P}

theorem TaskQueue.Represents.allocated (h : q.Represents l) (hcapacity : q.capacity ≤ sizeMax) :
    q.Allocated := by
  obtain ⟨items, hitems, hlength, -⟩ := h.slots
  refine ⟨hcapacity, fun items' hitems' => ?_⟩
  obtain rfl : items = items' := Option.some.inj (hitems.symm.trans hitems')
  exact hlength

/-- **One call on the ring is the call on the list.** -/
theorem taskQueueCall_refines (h : q.Represents l) (hcapacity : q.capacity ≤ sizeMax)
    (call : TaskQueueCall P) :
    ∃ q', taskQueueCall q call = some ((listCall q.capacity l call).1, q') ∧
      q'.Represents (listCall q.capacity l call).2 ∧ q'.capacity = q.capacity := by
  have halloc := h.allocated hcapacity
  cases call with
  -- a `NULL` Task is refused before the room is looked at
  | enqueue task =>
    simp only [taskQueueCall, enqueueOnMachine_eq halloc, Option.map_some]
    cases task with
    | none =>
      obtain ⟨items, hitems, -⟩ := h.slots
      exact ⟨q, by simp [taskQueueEnqueue, hitems, listCall], h, rfl⟩
    | some p =>
      by_cases hfull : l.length = q.capacity
      · rw [h.enqueue_full hfull]
        exact ⟨q, by simp [listCall, hfull], by simpa [listCall, hfull] using h, rfl⟩
      · obtain ⟨q', hrun, hq', hcap⟩ := h.enqueue_ok (Nat.lt_of_le_of_ne h.length_le hfull) p
        rw [hrun]
        exact ⟨q', by simp [listCall, hfull], by simpa [listCall, hfull] using hq', hcap⟩
  -- so is a `NULL` output
  | dequeue output =>
    simp only [taskQueueCall, dequeueOnMachine_eq halloc, Option.map_some]
    cases output with
    | false => exact ⟨q, rfl, h, rfl⟩
    | true =>
      cases l with
      | nil =>
        rw [if_pos rfl, h.dequeue_empty]
        exact ⟨q, rfl, h, rfl⟩
      | cons oldest rest =>
        obtain ⟨q', hrun, hq', hcap⟩ := h.dequeue_ok
        rw [if_pos rfl, hrun]
        exact ⟨q', rfl, hq', hcap⟩
  | peek output =>
    simp only [taskQueueCall, peekOnMachine_eq halloc, Option.map_some]
    cases output with
    | false => exact ⟨q, rfl, h, rfl⟩
    | true =>
      cases l with
      | nil =>
        rw [if_pos rfl, h.peek_empty]
        exact ⟨q, rfl, h, rfl⟩
      | cons oldest rest =>
        rw [if_pos rfl, h.peek_ok]
        exact ⟨q, rfl, h, rfl⟩
  -- the rest only looks
  | isEmpty =>
    refine ⟨q, ?_, h, rfl⟩
    have hiff : taskQueueIsEmpty q = decide (l.length = 0) := by
      rw [Bool.eq_iff_iff, h.isEmpty_iff, decide_eq_true_iff, List.length_eq_zero_iff]
    simp only [taskQueueCall, listCall, hiff]
  | isFull =>
    refine ⟨q, ?_, h, rfl⟩
    have hiff : taskQueueIsFull q = decide (l.length = q.capacity) := by
      rw [Bool.eq_iff_iff, h.isFull_iff, decide_eq_true_iff]
    simp only [taskQueueCall, listCall, hiff]
  | size => exact ⟨q, by simp only [taskQueueCall, listCall, taskQueueSize, h.length_eq], h, rfl⟩
  | capacity => exact ⟨q, rfl, h, rfl⟩

/-- **Any sequence of calls on the ring is the sequence on the list.** -/
theorem taskQueueRun_refines (h : q.Represents l) (hcapacity : q.capacity ≤ sizeMax)
    (calls : List (TaskQueueCall P)) :
    ∃ q', taskQueueRun calls q = some ((listRun q.capacity calls l).1, q') ∧
      q'.Represents (listRun q.capacity calls l).2 ∧ q'.capacity = q.capacity := by
  induction calls generalizing q l with
  | nil => exact ⟨q, rfl, h, rfl⟩
  | cons call calls ih =>
    obtain ⟨q₁, hcall, hq₁, hcap₁⟩ := taskQueueCall_refines h hcapacity call
    obtain ⟨q₂, hrun, hq₂, hcap₂⟩ := ih hq₁ (hcap₁.trans_le hcapacity)
    rw [hcap₁] at hrun hq₂ hcap₂
    refine ⟨q₂, ?_, hq₂, hcap₂⟩
    simp only [taskQueueRun, hcall, hrun, Option.bind_eq_bind, Option.bind_some]
    rfl

end Runs

/-- **The ring is a bounded FIFO**: after any sequence of calls on a queue of capacity
`c`, the answers are those of a list of at most `c` pointers, the slots from `head` on
hold that list and all others are `NULL`. A queue that is not empty has a pointer at its
head, and no index or count is near the end of `size_t`. -/
theorem task_queue_bounded_fifo {c : ℕ} (hpos : 1 ≤ c) (hmax : c ≤ sizeMax / taskPointerSize) :
    ∃ q₀ : TaskQueue P, taskQueueInit c true = (.ok, some q₀) ∧
      ∀ calls : List (TaskQueueCall P), ∃ q items,
        taskQueueRun calls q₀ = some ((listRun c calls []).1, q) ∧
        q.capacity = c ∧ q.head < c ∧ q.tail < c ∧ q.size ≤ c ∧
        q.tail = (q.head + q.size) % c ∧ (listRun c calls []).2.length = q.size ∧
        q.items = some items ∧ items.length = c ∧
        (∀ k < c, items[(q.head + k) % c]? = some (listRun c calls []).2[k]?) ∧
        (q.size ≠ 0 → ∃ task, items[q.head]? = some (some task)) ∧
        q.head + 1 ≤ sizeMax ∧ q.tail + 1 ≤ sizeMax ∧ q.size + 1 ≤ sizeMax := by
  have hinit : taskQueueInit c true =
      (.ok, some { items := some (List.replicate c (none : Option P)), capacity := c,
                   size := 0, head := 0, tail := 0 }) := by
    unfold taskQueueInit
    rw [if_neg (by omega), if_pos rfl]
  refine ⟨_, hinit, fun calls => ?_⟩
  obtain ⟨hempty, -⟩ := taskQueueInit_represents hinit
  have hsmall : c + 1 ≤ sizeMax := by
    unfold sizeMax taskPointerSize at *
    omega
  obtain ⟨q, hrun, hq, hcap⟩ :=
    taskQueueRun_refines hempty (Nat.le_trans (Nat.le_succ c) hsmall) calls
  dsimp only at hrun hq hcap
  obtain ⟨items, hitems, hlength, hslots⟩ := hq.slots
  have hhead := hq.head_lt
  have htail := hq.tail_lt
  have hsize := hq.size_le
  refine ⟨q, items, hrun, hcap, hcap ▸ hhead, hcap ▸ htail, hcap ▸ hsize, hcap ▸ hq.tail_eq,
    hq.length_eq, hitems, hlength.trans hcap, hcap ▸ hslots, ?_, by omega, by omega, by omega⟩
  intro hne
  rw [hq.head_slot hitems]
  cases hl : (listRun c calls []).2 with
  | nil =>
    rw [← hq.length_eq, hl] at hne
    exact absurd rfl hne
  | cons task rest => exact ⟨task, rfl⟩

theorem task_queue_bounded_fifo_one :
    ∃ q₀ : TaskQueue ℕ, taskQueueInit 1 true = (.ok, some q₀) ∧
      ∃ q, taskQueueRun [.enqueue (some 7), .enqueue (some 8), .dequeue true, .peek true] q₀
        = some ([.status .ok none, .status .errorFull none, .status .ok (some 7),
          .status .errorEmpty none], q) := by
  obtain ⟨q₀, hinit, hall⟩ := task_queue_bounded_fifo (P := ℕ) (c := 1) (by decide) (by decide)
  obtain ⟨q, -, hrun, -⟩ := hall [.enqueue (some 7), .enqueue (some 8), .dequeue true, .peek true]
  exact ⟨q₀, hinit, q, hrun⟩

end SchedulingEngine
