import SchedulingEngine.Queue.Accounting

/-!
# Blocking and non-blocking calls (concurrent_task_queue.c)

The source writes each critical section out twice: once for the call that waits and once for
its `try_` sibling. Here the four bodies stand as the source has them, with their own locals
(`inserted`, `was_empty`, `removed`, `was_full`) and their own switches.

- `tryEnqueueBody_eq`, `enqueueBody_eq`, `tryDequeueBody_eq`, `dequeueBody_eq`: each body is
  the section that the threads of a queue run.
- `enqueueBody_agrees`, `dequeueBody_agrees`: past the wait loop, two siblings agree.
- `QueuePc.AnswersBlocking`: what a call that waits can be answered.
-/

namespace SchedulingEngine

open Concurrency

variable {T P : Type}

/-! ## The four bodies -/

section Bodies

variable (cfg : QueueConfig) (woken : Option T) (q : ConcurrentTaskQueue T P)

/-- The outcome of a switch on a ring operation: the queue, the result, and what the code
after it looks at: whether the ring changed and what it was before. -/
abbrev SwitchOutcome (T P ρ : Type) := ConcurrentTaskQueue T P × ρ × Bool × Bool

/-- `concurrent_task_queue_try_enqueue` between its lock and its unlock. -/
def tryEnqueueBody (task : P) :
    ConcurrentTaskQueue T P × ConcurrentTaskQueueResult × List (QueueEffect T) :=
  let (q, result, inserted, wasEmpty) : SwitchOutcome T P ConcurrentTaskQueueResult :=
    if q.shutdownRequested then (q, .errorShutdown, false, false)
    else
      let wasEmpty := taskQueueIsEmpty q.queue
      match taskQueueEnqueue q.queue (some task) with
      | (.ok, ring) =>
        let highWaterMark :=
          if taskQueueSize ring > q.highWaterMark then taskQueueSize ring else q.highWaterMark
        ({ q with queue := ring, highWaterMark, inserted := q.inserted ++ [task] }, .ok, true,
          wasEmpty)
      | (.errorInvalidArgument, ring) =>
        ({ q with queue := ring }, .errorInvalidArgument, false, wasEmpty)
      | (.errorFull, ring) => ({ q with queue := ring }, .errorFull, false, wasEmpty)
      | (_, ring) => ({ q with queue := ring }, .errorSystem, false, wasEmpty)
  let signals : List (QueueEffect T) :=
    if inserted && (!cfg.transitionSignaling || (wasEmpty || q.waitingConsumers > 0)) then
      [.signal .notEmpty woken]
    else []
  (q, result, signals)

/-- `concurrent_task_queue_enqueue` between the end of its wait loop and its unlock. -/
def enqueueBody (task : P) :
    ConcurrentTaskQueue T P × ConcurrentTaskQueueResult × List (QueueEffect T) :=
  let (q, result, inserted, wasEmpty) : SwitchOutcome T P ConcurrentTaskQueueResult :=
    if q.shutdownRequested then (q, .errorShutdown, false, false)
    else
      let wasEmpty := taskQueueIsEmpty q.queue
      match taskQueueEnqueue q.queue (some task) with
      | (.ok, ring) =>
        let highWaterMark :=
          if taskQueueSize ring > q.highWaterMark then taskQueueSize ring else q.highWaterMark
        ({ q with queue := ring, highWaterMark, inserted := q.inserted ++ [task] }, .ok, true,
          wasEmpty)
      | (.errorInvalidArgument, ring) =>
        ({ q with queue := ring }, .errorInvalidArgument, false, wasEmpty)
      -- a full ring falls through to the default
      | (_, ring) => ({ q with queue := ring }, .errorSystem, false, wasEmpty)
  let signals : List (QueueEffect T) :=
    if inserted && (!cfg.transitionSignaling || (wasEmpty || q.waitingConsumers > 0)) then
      [.signal .notEmpty woken]
    else []
  (q, result, signals)

/-- `concurrent_task_queue_try_dequeue` between its lock and its unlock; the output pointer
is stored through if a Task was removed. -/
def tryDequeueBody :
    ConcurrentTaskQueue T P × (ConcurrentTaskQueueResult × Option P) × List (QueueEffect T) :=
  let (q, (result, removedTask), removed, wasFull) :
      SwitchOutcome T P (ConcurrentTaskQueueResult × Option P) :=
    if taskQueueIsEmpty q.queue then
      (q, (if q.shutdownRequested then .errorShutdown else .errorEmpty, none), false, false)
    else
      let wasFull := taskQueueIsFull q.queue
      match taskQueueDequeue q.queue with
      | (.ok, ring, removedTask) =>
        ({ q with queue := ring, removed := q.removed ++ removedTask.toList }, (.ok, removedTask),
          true, wasFull)
      | (.errorInvalidArgument, ring, removedTask) =>
        ({ q with queue := ring }, (.errorInvalidArgument, removedTask), false, wasFull)
      -- an empty ring falls through to the default
      | (_, ring, removedTask) =>
        ({ q with queue := ring }, (.errorSystem, removedTask), false, wasFull)
  let signals : List (QueueEffect T) :=
    if removed && (!cfg.transitionSignaling || (wasFull || q.waitingProducers > 0)) then
      [.signal .notFull woken]
    else []
  (q, (result, if removed then removedTask else none), signals)

/-- `concurrent_task_queue_dequeue` between the end of its wait loop and its unlock. -/
def dequeueBody :
    ConcurrentTaskQueue T P × (ConcurrentTaskQueueResult × Option P) × List (QueueEffect T) :=
  let (q, (result, removedTask), removed, wasFull) :
      SwitchOutcome T P (ConcurrentTaskQueueResult × Option P) :=
    if taskQueueIsEmpty q.queue then (q, (.errorShutdown, none), false, false)
    else
      let wasFull := taskQueueIsFull q.queue
      match taskQueueDequeue q.queue with
      | (.ok, ring, removedTask) =>
        ({ q with queue := ring, removed := q.removed ++ removedTask.toList }, (.ok, removedTask),
          true, wasFull)
      | (.errorInvalidArgument, ring, removedTask) =>
        ({ q with queue := ring }, (.errorInvalidArgument, removedTask), false, wasFull)
      | (_, ring, removedTask) =>
        ({ q with queue := ring }, (.errorSystem, removedTask), false, wasFull)
  let signals : List (QueueEffect T) :=
    if removed && (!cfg.transitionSignaling || (wasFull || q.waitingProducers > 0)) then
      [.signal .notFull woken]
    else []
  (q, (result, if removed then removedTask else none), signals)

/-! ## The sections that the threads run -/

theorem tryEnqueueBody_eq (task : P) :
    concurrentTaskQueueTryEnqueue cfg task woken q =
      let (q', result, signals) := tryEnqueueBody cfg woken q task
      (q', .unlock (.tryEnqueue task) (.status result none), signals) := by
  unfold concurrentTaskQueueTryEnqueue insertTask tryEnqueueBody
  by_cases hclosed : q.shutdownRequested = true
  · simp only [hclosed, if_true]
    rfl
  · simp only [hclosed]
    obtain ⟨result, ring⟩ := taskQueueEnqueue q.queue (some task)
    cases result <;> rfl

theorem enqueueBody_eq (task : P) :
    concurrentTaskQueueEnqueue cfg task woken q =
      if !q.shutdownRequested && taskQueueIsFull q.queue then
        ({ q with waitingProducers := q.waitingProducers + 1 }, .wait (.producer task), [])
      else
        let (q', result, signals) := enqueueBody cfg woken q task
        (q', .unlock (.enqueue task) (.status result none), signals) := by
  unfold concurrentTaskQueueEnqueue insertTask enqueueBody
  split
  · rfl
  · by_cases hclosed : q.shutdownRequested = true
    · simp only [hclosed, if_true]
      rfl
    · simp only [hclosed]
      obtain ⟨result, ring⟩ := taskQueueEnqueue q.queue (some task)
      cases result <;> rfl

theorem tryDequeueBody_eq :
    concurrentTaskQueueTryDequeue cfg woken q =
      let (q', (result, output), signals) := tryDequeueBody cfg woken q
      (q', .unlock .tryDequeue (.status result output), signals) := by
  unfold concurrentTaskQueueTryDequeue removeTask tryDequeueBody
  by_cases hempty : taskQueueIsEmpty q.queue = true
  · simp only [hempty, if_true]
    rfl
  · simp only [hempty]
    obtain ⟨result, ring, removedTask⟩ := taskQueueDequeue q.queue
    cases result <;> rfl

theorem dequeueBody_eq :
    concurrentTaskQueueDequeue cfg woken q =
      if !q.shutdownRequested && taskQueueIsEmpty q.queue then
        ({ q with waitingConsumers := q.waitingConsumers + 1 }, .wait .consumer, [])
      else
        let (q', (result, output), signals) := dequeueBody cfg woken q
        (q', .unlock .dequeue (.status result output), signals) := by
  unfold concurrentTaskQueueDequeue removeTask dequeueBody
  split
  · rfl
  · by_cases hempty : taskQueueIsEmpty q.queue = true
    · simp only [hempty, if_true]
      rfl
    · simp only [hempty]
      obtain ⟨result, ring, removedTask⟩ := taskQueueDequeue q.queue
      cases result <;> rfl

end Bodies

/-! ## Past the wait loop -/

section Agreement

variable {q : ConcurrentTaskQueue T P} {contents : List P}

/-- The impossible `FULL`: an open ring that is not full takes the Task. -/
theorem enqueue_not_full (hring : q.queue.Represents contents)
    (hroom : taskQueueIsFull q.queue = false) (task : P) :
    ∃ ring, taskQueueEnqueue q.queue (some task) = (.ok, ring) := by
  have hlt : contents.length < q.queue.capacity := by
    refine Nat.lt_of_le_of_ne hring.length_le fun hfull => ?_
    rw [hring.isFull_iff.mpr hfull] at hroom
    cases hroom
  obtain ⟨ring, henqueue, -⟩ := hring.enqueue_ok hlt task
  exact ⟨ring, henqueue⟩

/-- The impossible `EMPTY`: a ring that is not empty gives a Task. -/
theorem dequeue_not_empty (hring : q.queue.Represents contents)
    (hsome : taskQueueIsEmpty q.queue = false) :
    ∃ ring task, taskQueueDequeue q.queue = (.ok, ring, some task) := by
  cases contents with
  | nil =>
    rw [hring.isEmpty_iff.mpr rfl] at hsome
    cases hsome
  | cons task rest =>
    obtain ⟨ring, hdequeue, -⟩ := hring.dequeue_ok
    exact ⟨ring, task, hdequeue⟩

/-- **The two insertions agree** on a closed queue and on one with room. -/
theorem enqueueBody_agrees (cfg : QueueConfig) (woken : Option T)
    (hring : q.queue.Represents contents)
    (h : q.shutdownRequested = true ∨ taskQueueIsFull q.queue = false) (task : P) :
    enqueueBody cfg woken q task = tryEnqueueBody cfg woken q task := by
  unfold enqueueBody tryEnqueueBody
  by_cases hclosed : q.shutdownRequested = true
  · simp only [hclosed, if_true]
  · obtain ⟨ring, henqueue⟩ := enqueue_not_full hring (h.resolve_left hclosed) task
    simp only [hclosed, henqueue]

/-- **The two removals agree** on a closed queue and on one that holds a Task. -/
theorem dequeueBody_agrees (cfg : QueueConfig) (woken : Option T)
    (h : q.shutdownRequested = true ∨ taskQueueIsEmpty q.queue = false) :
    dequeueBody cfg woken q = tryDequeueBody cfg woken q := by
  unfold dequeueBody tryDequeueBody
  by_cases hempty : taskQueueIsEmpty q.queue = true
  · have hclosed : q.shutdownRequested = true := by
      refine h.resolve_right fun hsome => ?_
      rw [hempty] at hsome
      cases hsome
    simp only [hempty, hclosed, if_true]
  · simp only [hempty]
    rfl

end Agreement

/-! ## The answers of the calls that wait -/

/-- The answers of `enqueue` and `dequeue` once their arguments were checked. -/
def QueueOperation.AnswersBlocking : QueueOperation P → QueueReturn P → Prop
  | .enqueue _, r => r = .status .ok none ∨ r = .status .errorShutdown none
  | .dequeue, r => (∃ task, r = .status .ok (some task)) ∨ r = .status .errorShutdown none
  | _, _ => True

def QueuePc.AnswersBlocking : QueuePc P → Prop
  | .unlock op r => op.AnswersBlocking r
  | .returned op r => op.AnswersBlocking r ∨ r = op.invalidArgument
  | _ => True

theorem observe_blocking {op : QueueOperation P} {f : ClosableFifo P} {r : QueueReturn P}
    (h : fifoStep op f = some (r, f)) : op.AnswersBlocking r := by
  cases op with
  | enqueue task => exact .inr (observe_enqueue h)
  | dequeue => exact .inr (observe_dequeue h)
  | _ => trivial

/-- **Step lemma**: with waits that succeed, a call that waits is answered so. -/
theorem QueueStepSpec.answersBlocking {cfg : QueueConfig} {t : T} {choice : QueueChoice T P}
    {q : ConcurrentTaskQueue T P} {f : ClosableFifo P} {pc : QueuePc P} {out : QueueSection T P}
    (h : QueueStepSpec cfg t choice q f pc out) (hwait : cfg.waitMayFail = false)
    (hpc : pc.AnswersBlocking) : out.2.1.AnswersBlocking := by
  cases h with
  | enter hmutex henter hsec =>
    cases hsec with
    | insert task f' ring hop hinsert habs =>
      rcases hop with rfl | rfl
      · exact .inl rfl
      · trivial
    | remove task f' ring hop hremove habs =>
      rcases hop with rfl | rfl
      · exact .inl ⟨task, rfl⟩
      · trivial
    | observe r hstep hshutdown => exact observe_blocking hstep
    | _ => trivial
  | callInvalid op => exact .inr rfl
  | waitFailed w hfail hmutex => cases hwait.symm.trans hfail
  | unlock op r hmutex => exact .inl hpc
  | _ => trivial

/-- **Run lemma**: in every reachable state. -/
theorem QueueReachable.answersBlocking [DecidableEq T] [Fintype T] {cfg : QueueConfig}
    {capacity : ℕ} {s : QueuePool T P} (h : QueueReachable cfg capacity s)
    (hwait : cfg.waitMayFail = false) (u : T) : (s.pc u).AnswersBlocking := by
  obtain ⟨ring, hring, hsteps⟩ := h
  refine hsteps.invariant (I := fun s => ∀ u, (s.pc u).AnswersBlocking) (fun _ => trivial) ?_ u
  rintro v v' hv hanswers ⟨t, choice, hstep⟩
  have hreach : QueueReachable cfg capacity v := ⟨ring, hring, hv⟩
  obtain ⟨f, habs, -⟩ := hreach.inv.abstracts
  obtain ⟨pc, fx, hact, hf⟩ := Program.step_eq_some.mp hstep
  have hspec := queueAct_spec habs hact
  exact Program.forall_step (fun _ _ pc => QueuePc.AnswersBlocking pc)
    (fun _ _ => queueProgram_blind fun _ => rfl) hf (hspec.answersBlocking hwait (hanswers t))
    (fun _ _ hu => hu) hanswers

/-- **Blocking and non-blocking calls agree** on the ring of every reachable state, whatever
the flag, the counters and the mark say; and with waits that succeed no call that waits is
answered `FULL`, `EMPTY` or `SYSTEM`. -/
theorem blocking_calls_agree [DecidableEq T] [Fintype T] {cfg : QueueConfig} {capacity : ℕ}
    {s : QueuePool T P} (h : QueueReachable cfg capacity s) :
    (∀ q : ConcurrentTaskQueue T P, q.queue = s.shared.queue → ∀ woken,
      (∀ task, q.shutdownRequested = true ∨ taskQueueIsFull q.queue = false →
        ∃ q' result signals,
          enqueueBody cfg woken q task = (q', result, signals) ∧
          tryEnqueueBody cfg woken q task = (q', result, signals) ∧
          runOperation cfg woken (.enqueue task) q
            = (q', .unlock (.enqueue task) (.status result none), signals) ∧
          runOperation cfg woken (.tryEnqueue task) q
            = (q', .unlock (.tryEnqueue task) (.status result none), signals)) ∧
      (q.shutdownRequested = true ∨ taskQueueIsEmpty q.queue = false →
        ∃ q' result output signals,
          dequeueBody cfg woken q = (q', (result, output), signals) ∧
          tryDequeueBody cfg woken q = (q', (result, output), signals) ∧
          runOperation cfg woken .dequeue q
            = (q', .unlock .dequeue (.status result output), signals) ∧
          runOperation cfg woken .tryDequeue q
            = (q', .unlock .tryDequeue (.status result output), signals)) ∧
      (∀ task, taskQueueIsFull q.queue = false →
        (taskQueueEnqueue q.queue (some task)).1 = .ok) ∧
      (taskQueueIsEmpty q.queue = false → (taskQueueDequeue q.queue).1 = .ok)) ∧
    (cfg.waitMayFail = false → ∀ u, (s.pc u).AnswersBlocking) := by
  refine ⟨?_, fun hwait u => h.answersBlocking hwait u⟩
  intro q hq woken
  obtain ⟨f, habs, -⟩ := h.inv.abstracts
  have hring : q.queue.Represents f.contents := hq ▸ habs.ring
  refine ⟨?_, ?_, ?_, ?_⟩
  · intro task hopen
    have hloop : ¬((!q.shutdownRequested && taskQueueIsFull q.queue) = true) := by
      rcases hopen with hclosed | hroom
      · simp [hclosed]
      · simp [hroom]
    have hagrees := enqueueBody_agrees cfg woken hring hopen task
    rcases htry : tryEnqueueBody cfg woken q task with ⟨q', result, signals⟩
    rw [htry] at hagrees
    refine ⟨q', result, signals, hagrees, rfl, ?_, ?_⟩
    · rw [runOperation, enqueueBody_eq, if_neg hloop, hagrees]
    · rw [runOperation, tryEnqueueBody_eq, htry]
  · intro hopen
    have hloop : ¬((!q.shutdownRequested && taskQueueIsEmpty q.queue) = true) := by
      rcases hopen with hclosed | hsome
      · simp [hclosed]
      · simp [hsome]
    have hagrees := dequeueBody_agrees cfg woken hopen
    rcases htry : tryDequeueBody cfg woken q with ⟨q', ⟨result, output⟩, signals⟩
    rw [htry] at hagrees
    refine ⟨q', result, output, signals, hagrees, rfl, ?_, ?_⟩
    · rw [runOperation, dequeueBody_eq, if_neg hloop, hagrees]
    · rw [runOperation, tryDequeueBody_eq, htry]
  · intro task hroom
    obtain ⟨ring, henqueue⟩ := enqueue_not_full hring hroom task
    rw [henqueue]
  · intro hsome
    obtain ⟨ring, task, hdequeue⟩ := dequeue_not_empty hring hsome
    rw [hdequeue]

/-- One thread has inserted into a queue of capacity one, and a dequeue finds the Task. -/
theorem blocking_calls_agree_full :
    ∃ s : QueuePool (Fin 2) ℕ, QueueReachable ⟨true, false⟩ 1 s ∧
      taskQueueIsFull s.shared.queue = true ∧
      ∃ q' signals, dequeueBody ⟨true, false⟩ none s.shared = (q', (.ok, some 7), signals) ∧
        tryDequeueBody ⟨true, false⟩ none s.shared = (q', (.ok, some 7), signals) := by
  let cfg : QueueConfig := ⟨true, false⟩
  let schedule : List (Fin 2 × QueueChoice (Fin 2) ℕ) :=
    [(0, { call := some (.enqueue 7, true) }), (0, {}), (0, {})]
  have hinit : taskQueueInit (P := ℕ) 1 true = (.ok, some ⟨some [none], 1, 0, 0, 0⟩) := by decide
  have hobs : ((queueProgram cfg).run schedule (queueInitial ⟨some [none], 1, 0, 0, 0⟩)).map
      (fun s => (taskQueueIsFull s.shared.queue, taskQueueIsEmpty s.shared.queue,
        (dequeueBody cfg none s.shared).2.1)) = some (true, false, (.ok, some 7)) := by
    decide
  obtain ⟨s, hrun, hseen⟩ := Option.map_eq_some_iff.mp hobs
  simp only [Prod.mk.injEq] at hseen
  obtain ⟨hfull, hsome, hresult⟩ := hseen
  have hreach : QueueReachable cfg 1 s := ⟨_, hinit, Program.steps_of_run hrun⟩
  obtain ⟨-, hdequeue, -⟩ := (blocking_calls_agree hreach).1 s.shared rfl none
  obtain ⟨q', result, output, signals, hbody, htry, -⟩ := hdequeue (.inr hsome)
  rw [hbody] at hresult
  obtain ⟨rfl, rfl⟩ : result = .ok ∧ output = some 7 := by simpa using hresult
  exact ⟨s, hreach, hfull, q', signals, hbody, htry⟩

end SchedulingEngine
