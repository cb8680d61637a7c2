import Mathlib.Data.List.Basic
import Mathlib.Data.Nat.ModEq

/-!
# The circular task buffer (task_queue.c)

`TaskQueue` is the fixed-capacity ring of borrowed `Task` pointers that the
concurrent queue protects with its mutex. Pointers are values of an arbitrary
type `P`; a slot or an argument of type `Option P` may be `NULL` (`none`).

- `taskQueueInit`, `taskQueueEnqueue`, `taskQueueDequeue`, `taskQueuePeek` and the
  queries follow the source guard by guard. The mutators return the queue they
  leave behind; an output pointer that the source does not write is `none`.
- `Represents q l`: the ring `q` holds the list `l`, oldest first. The slots are
  read off cyclically from `head`, and every slot past the last element is `NULL`.
- One lemma per operation says what it does to a represented list.
-/

namespace SchedulingEngine

/-- `SIZE_MAX` of the 64-bit target. -/
def sizeMax : ℕ := 2 ^ 64 - 1

/-- `--counter` on a `size_t`. -/
def sizeDecrement (counter : ℕ) : ℕ := if counter = 0 then sizeMax else counter - 1

/-- `sizeof(Task *)`. -/
def taskPointerSize : ℕ := 8

inductive TaskQueueResult where
  | ok
  | errorInvalidArgument
  | errorAllocation
  | errorFull
  | errorEmpty
  deriving DecidableEq, Repr

/-- `TaskQueue` (task_queue.h): `items` is `NULL` or the owned pointer buffer. -/
structure TaskQueue (P : Type) where
  items : Option (List (Option P))
  capacity : ℕ
  size : ℕ
  head : ℕ
  tail : ℕ
  deriving DecidableEq, Repr

variable {P : Type}

/-- `task_queue_init`; `allocated` is whether `calloc` returned a buffer. -/
def taskQueueInit (capacity : ℕ) (allocated : Bool) : TaskQueueResult × Option (TaskQueue P) :=
  if capacity = 0 ∨ capacity > sizeMax / taskPointerSize then (.errorInvalidArgument, none)
  else if allocated then
    (.ok, some { items := some (List.replicate capacity none), capacity := capacity,
                 size := 0, head := 0, tail := 0 })
  else (.errorAllocation, none)

/-- The field checks that `enqueue`, `dequeue` and `peek` make before touching a slot. -/
def TaskQueue.fieldsInvalid (queue : TaskQueue P) : Bool :=
  queue.capacity = 0 || queue.size > queue.capacity || queue.head ≥ queue.capacity
    || queue.tail ≥ queue.capacity

/-- The index after `index`, wrapping at `capacity - 1`. -/
def nextIndex (index capacity : ℕ) : ℕ :=
  if index = capacity - 1 then 0 else index + 1

/-- `task_queue_enqueue`. -/
def taskQueueEnqueue (queue : TaskQueue P) (task : Option P) : TaskQueueResult × TaskQueue P :=
  match queue.items with
  | none => (.errorInvalidArgument, queue)
  | some items =>
    if task.isNone || queue.fieldsInvalid then (.errorInvalidArgument, queue)
    else if queue.size = queue.capacity then (.errorFull, queue)
    else (.ok, { queue with
      items := some (items.set queue.tail task)
      tail := nextIndex queue.tail queue.capacity
      size := queue.size + 1 })

/-- `task_queue_dequeue`; the last component is what is stored through the output
pointer, if anything. -/
def taskQueueDequeue (queue : TaskQueue P) : TaskQueueResult × TaskQueue P × Option P :=
  match queue.items with
  | none => (.errorInvalidArgument, queue, none)
  | some items =>
    if queue.fieldsInvalid then (.errorInvalidArgument, queue, none)
    else if queue.size = 0 then (.errorEmpty, queue, none)
    else match items[queue.head]?.join with
      | none => (.errorInvalidArgument, queue, none)
      | some oldest => (.ok, { queue with
          items := some (items.set queue.head none)
          head := nextIndex queue.head queue.capacity
          size := queue.size - 1 }, some oldest)

/-- `task_queue_peek`. -/
def taskQueuePeek (queue : TaskQueue P) : TaskQueueResult × Option P :=
  match queue.items with
  | none => (.errorInvalidArgument, none)
  | some items =>
    if queue.fieldsInvalid then (.errorInvalidArgument, none)
    else if queue.size = 0 then (.errorEmpty, none)
    else match items[queue.head]?.join with
      | none => (.errorInvalidArgument, none)
      | some oldest => (.ok, some oldest)

/-- `task_queue_is_empty`. -/
def taskQueueIsEmpty (queue : TaskQueue P) : Bool := queue.size = 0

/-- `task_queue_is_full`. -/
def taskQueueIsFull (queue : TaskQueue P) : Bool :=
  queue.capacity ≠ 0 && queue.size ≤ queue.capacity && queue.size = queue.capacity

/-- `task_queue_size`. -/
def taskQueueSize (queue : TaskQueue P) : ℕ := queue.size

/-- `task_queue_capacity`. -/
def taskQueueCapacity (queue : TaskQueue P) : ℕ := queue.capacity

/-! ## Ring positions -/

theorem nextIndex_eq_mod {index capacity : ℕ} (h : index < capacity) :
    nextIndex index capacity = (index + 1) % capacity := by
  unfold nextIndex
  split
  · rw [show index + 1 = capacity by omega, Nat.mod_self]
  · rw [Nat.mod_eq_of_lt (by omega)]

/-- Distinct offsets of one revolution are distinct slots. -/
theorem slot_inj {capacity head j k : ℕ} (hj : j < capacity) (hk : k < capacity)
    (h : (head + j) % capacity = (head + k) % capacity) : j = k := by
  have hmod : j ≡ k [MOD capacity] := Nat.ModEq.add_left_cancel' head h
  rwa [Nat.ModEq, Nat.mod_eq_of_lt hj, Nat.mod_eq_of_lt hk] at hmod

/-! ## What a ring holds -/

/-- The pointers in the ring, oldest first. -/
def TaskQueue.contents (q : TaskQueue P) : List P :=
  (List.range q.size).filterMap fun k =>
    ((q.items.getD [])[(q.head + k) % q.capacity]?).join

/-- The ring `q` holds the pointers `l`, oldest first. -/
structure TaskQueue.Represents (q : TaskQueue P) (l : List P) : Prop where
  capacity_pos : 0 < q.capacity
  head_lt : q.head < q.capacity
  length_eq : l.length = q.size
  size_le : q.size ≤ q.capacity
  tail_eq : q.tail = (q.head + q.size) % q.capacity
  slots : ∃ items, q.items = some items ∧ items.length = q.capacity ∧
    ∀ k < q.capacity, items[(q.head + k) % q.capacity]? = some l[k]?

namespace TaskQueue.Represents

variable {q : TaskQueue P} {l : List P}

theorem tail_lt (h : q.Represents l) : q.tail < q.capacity := by
  rw [h.tail_eq]
  exact Nat.mod_lt _ h.capacity_pos

theorem fieldsInvalid_eq (h : q.Represents l) : q.fieldsInvalid = false := by
  have h₁ := h.capacity_pos
  have h₂ := h.size_le
  have h₃ := h.head_lt
  have h₄ := h.tail_lt
  simp [fieldsInvalid]
  omega

theorem isEmpty_iff (h : q.Represents l) : taskQueueIsEmpty q = true ↔ l = [] := by
  rw [← List.length_eq_zero_iff, h.length_eq]
  simp [taskQueueIsEmpty]

theorem isFull_iff (h : q.Represents l) : taskQueueIsFull q = true ↔ l.length = q.capacity := by
  have h₁ := h.capacity_pos
  have h₂ := h.size_le
  have h₃ := h.length_eq
  simp [taskQueueIsFull]
  omega

theorem contents_eq (h : q.Represents l) : q.contents = l := by
  obtain ⟨items, hitems, -, hslots⟩ := h.slots
  have hread : ∀ n ≤ q.size, (List.range n).filterMap (fun k =>
      ((q.items.getD [])[(q.head + k) % q.capacity]?).join) = l.take n := by
    intro n
    induction n with
    | zero => simp
    | succ n ih =>
      intro hn
      have hle := h.size_le
      rw [List.range_succ, List.filterMap_append, ih (by omega), List.take_add_one]
      congr 1
      rw [List.filterMap_cons, List.filterMap_nil, hitems, Option.getD_some,
        hslots n (by omega), Option.join_some]
      cases l[n]? <;> rfl
  rw [TaskQueue.contents, hread q.size (Nat.le_refl _), ← h.length_eq, List.take_length]

theorem length_le (h : q.Represents l) : l.length ≤ q.capacity := h.length_eq ▸ h.size_le

theorem enqueue_full (h : q.Represents l) (hfull : l.length = q.capacity) (p : P) :
    taskQueueEnqueue q (some p) = (.errorFull, q) := by
  obtain ⟨items, hitems, -, -⟩ := h.slots
  simp [taskQueueEnqueue, hitems, h.fieldsInvalid_eq, ← h.length_eq, hfull]

/-- Appending writes the slot at `tail`, which lies `size` slots after `head`. -/
theorem enqueue_ok (h : q.Represents l) (hroom : l.length < q.capacity) (p : P) :
    ∃ q', taskQueueEnqueue q (some p) = (.ok, q') ∧ q'.Represents (l ++ [p]) ∧
      q'.capacity = q.capacity := by
  obtain ⟨items, hitems, hlen, hslots⟩ := h.slots
  have hsize := h.length_eq
  have hne : q.size ≠ q.capacity := by omega
  refine ⟨{ q with
    items := some (items.set q.tail (some p))
    tail := nextIndex q.tail q.capacity
    size := q.size + 1 }, ?_, ?_, rfl⟩
  · simp [taskQueueEnqueue, hitems, h.fieldsInvalid_eq, hne]
  · refine ⟨h.capacity_pos, h.head_lt, by simp [hsize], by simp only; omega, ?_, ?_⟩
    · show nextIndex q.tail q.capacity = (q.head + (q.size + 1)) % q.capacity
      rw [nextIndex_eq_mod h.tail_lt, h.tail_eq, Nat.mod_add_mod, Nat.add_assoc]
    · refine ⟨_, rfl, by simpa using hlen, fun k (hk : k < q.capacity) => ?_⟩
      by_cases hks : k = q.size
      · subst hks
        have htail : q.tail < items.length := hlen ▸ h.tail_lt
        simp only [← h.tail_eq]
        simp [htail, ← hsize]
      · have htail : q.tail ≠ (q.head + k) % q.capacity := by
          rw [h.tail_eq]
          exact fun heq => hks (slot_inj (by omega) hk heq).symm
        simp only [List.getElem?_set_ne htail, hslots k hk]
        by_cases hlt : k < l.length
        · simp [List.getElem?_append_left hlt]
        · simp [List.getElem?_eq_none (show l.length ≤ k by omega),
            List.getElem?_eq_none (show (l ++ [p]).length ≤ k by simp; omega)]

theorem head_slot (h : q.Represents l) {items : List (Option P)} (hitems : q.items = some items) :
    items[q.head]? = some l.head? := by
  obtain ⟨items', hitems', -, hslots⟩ := h.slots
  obtain rfl : items = items' := Option.some.inj (hitems.symm.trans hitems')
  have hhead := hslots 0 h.capacity_pos
  rwa [Nat.add_zero, Nat.mod_eq_of_lt h.head_lt, ← List.head?_eq_getElem?] at hhead

theorem dequeue_empty (h : q.Represents []) : taskQueueDequeue q = (.errorEmpty, q, none) := by
  obtain ⟨items, hitems, -, -⟩ := h.slots
  have hsize : q.size = 0 := h.length_eq.symm
  simp [taskQueueDequeue, hitems, h.fieldsInvalid_eq, hsize]

/-- Removing clears the slot at `head`, which becomes the last slot of the new
revolution. -/
theorem dequeue_ok {p : P} (h : q.Represents (p :: l)) :
    ∃ q', taskQueueDequeue q = (.ok, q', some p) ∧ q'.Represents l ∧
      q'.capacity = q.capacity := by
  obtain ⟨items, hitems, hlen, hslots⟩ := h.slots
  have hsize : l.length + 1 = q.size := h.length_eq
  have hle := h.size_le
  have hpos := h.capacity_pos
  have hhead := h.head_slot hitems
  have hnext : ∀ k, (nextIndex q.head q.capacity + k) % q.capacity
      = (q.head + (k + 1)) % q.capacity := by
    intro k
    rw [nextIndex_eq_mod h.head_lt, Nat.mod_add_mod, Nat.add_assoc, Nat.add_comm 1 k]
  refine ⟨{ q with
    items := some (items.set q.head none)
    head := nextIndex q.head q.capacity
    size := q.size - 1 }, ?_, ?_, rfl⟩
  · simp [taskQueueDequeue, hitems, h.fieldsInvalid_eq, hhead, show q.size ≠ 0 by omega]
  · refine ⟨hpos, ?_, by simp only; omega, by simp only; omega, ?_, ?_⟩
    · show nextIndex q.head q.capacity < q.capacity
      rw [nextIndex_eq_mod h.head_lt]
      exact Nat.mod_lt _ hpos
    · show q.tail = (nextIndex q.head q.capacity + (q.size - 1)) % q.capacity
      rw [hnext, h.tail_eq, show q.size - 1 + 1 = q.size by omega]
    · refine ⟨_, rfl, by simpa using hlen, fun k (hk : k < q.capacity) => ?_⟩
      show (items.set q.head none)[(nextIndex q.head q.capacity + k) % q.capacity]? = some l[k]?
      rw [hnext]
      -- the slot that was emptied is the last one now
      by_cases hlast : k + 1 = q.capacity
      · rw [hlast, Nat.add_mod_right, Nat.mod_eq_of_lt h.head_lt,
          List.getElem?_set_self (hlen ▸ h.head_lt),
          List.getElem?_eq_none (show l.length ≤ k by omega)]
      · have hne : q.head ≠ (q.head + (k + 1)) % q.capacity := by
          intro heq
          have hzero : (q.head + 0) % q.capacity = (q.head + (k + 1)) % q.capacity := by
            rw [Nat.add_zero, Nat.mod_eq_of_lt h.head_lt]
            exact heq
          exact absurd (slot_inj hpos (by omega) hzero) (by omega)
        rw [List.getElem?_set_ne hne, hslots (k + 1) (by omega), List.getElem?_cons_succ]

theorem peek_empty (h : q.Represents []) : taskQueuePeek q = (.errorEmpty, none) := by
  obtain ⟨items, hitems, -, -⟩ := h.slots
  have hsize : q.size = 0 := h.length_eq.symm
  simp [taskQueuePeek, hitems, h.fieldsInvalid_eq, hsize]

theorem peek_ok {p : P} (h : q.Represents (p :: l)) : taskQueuePeek q = (.ok, some p) := by
  obtain ⟨items, hitems, -, -⟩ := h.slots
  have hsize : l.length + 1 = q.size := h.length_eq
  simp [taskQueuePeek, hitems, h.fieldsInvalid_eq, h.head_slot hitems, show q.size ≠ 0 by omega]

end TaskQueue.Represents

/-- A freshly initialised ring holds nothing. -/
theorem taskQueueInit_represents {capacity : ℕ} {q : TaskQueue P}
    (h : taskQueueInit capacity true = (.ok, some q)) :
    q.Represents [] ∧ q.capacity = capacity := by
  unfold taskQueueInit at h
  split at h
  · cases h
  · rename_i hcap
    have hpos : 0 < capacity := by omega
    simp only [if_true, Prod.mk.injEq, Option.some.injEq, true_and] at h
    subst h
    refine ⟨⟨hpos, hpos, rfl, Nat.zero_le _, ?_, _, rfl, by simp, fun k hk => ?_⟩, rfl⟩
    · simp
    · simp [Nat.mod_lt _ hpos]

end SchedulingEngine
