import SchedulingEngine.Concurrency.ThreadPool
import SchedulingEngine.Queue.TaskQueue

/-!
# The synchronized queue (concurrent_task_queue.c)

A `ConcurrentTaskQueue` is a `TaskQueue` behind one mutex and two conditions.
Any number of threads call its operations; each is modelled at the granularity of
its synchronization calls:

- `lock op`: about to take the mutex. The step takes it and runs the critical
  section up to the next `sched_condition_wait` or `sched_mutex_unlock`, signals and
  broadcasts included: nobody can observe the queue while the mutex is held.
- `wait w`: inside the critical section, about to wait; the step releases the
  mutex and puts the thread to sleep (`asleep w`).
- `woken w`: a signal, a broadcast or a spurious wakeup ended the sleep. The step
  retakes the mutex and resumes after `sched_condition_wait`, whose result the
  scheduler chooses when the configuration lets waits fail.
- `unlock op r`: the critical section is done; the step releases the mutex.
- `returned op r`: the call is over and its caller reads `r`.

The waiter counters count calls in progress and are unbounded naturals; their
decrement wraps below zero as `size_t` does (`sizeDecrement`). `inserted` and
`removed` record the pointers that ever entered and left the ring; no operation
reads them.
-/

namespace SchedulingEngine

open Concurrency

inductive ConcurrentTaskQueueResult where
  | ok
  | errorInvalidArgument
  | errorAllocation
  | errorSystem
  | errorFull
  | errorEmpty
  | errorShutdown
  deriving DecidableEq, Repr

inductive QueueCondition where
  | notEmpty
  | notFull
  deriving DecidableEq, Repr

/-- `ConcurrentTaskQueueRuntimeSnapshot` (scheduler_observability.h). -/
structure ConcurrentTaskQueueRuntimeSnapshot where
  capacity : ℕ
  currentSize : ℕ
  highWaterMark : ℕ
  deriving DecidableEq, Repr

/-- The calls of concurrent_task_queue.h on an initialised queue. -/
inductive QueueOperation (P : Type) where
  | shutdown
  | tryEnqueue (task : P)
  | enqueue (task : P)
  | tryDequeue
  | dequeue
  | tryPeek
  | isEmpty
  | isFull
  | size
  | capacity
  | captureRuntimeSnapshot
  deriving DecidableEq, Repr

/-- What a call hands back. `output` is what it stored through `Task **task`, if
anything. -/
inductive QueueReturn (P : Type) where
  | status (result : ConcurrentTaskQueueResult) (output : Option P)
  | flag (value : Bool)
  | count (value : ℕ)
  | snapshot (value : Option ConcurrentTaskQueueRuntimeSnapshot)
  deriving DecidableEq, Repr

/-- The two calls with a wait loop. -/
inductive Waiter (P : Type) where
  | producer (task : P)
  | consumer
  deriving DecidableEq, Repr

/-- The call that waits. -/
def Waiter.operation {P : Type} : Waiter P → QueueOperation P
  | .producer task => .enqueue task
  | .consumer => .dequeue

/-- The condition it waits on. -/
def Waiter.condition {P : Type} : Waiter P → QueueCondition
  | .producer _ => .notFull
  | .consumer => .notEmpty

inductive QueuePc (P : Type) where
  | idle
  | lock (op : QueueOperation P)
  | wait (w : Waiter P)
  | asleep (w : Waiter P)
  | woken (w : Waiter P)
  | unlock (op : QueueOperation P) (r : QueueReturn P)
  | returned (op : QueueOperation P) (r : QueueReturn P)
  deriving DecidableEq, Repr

/-- `transitionSignaling` is the build switch
`CONCURRENT_SCHEDULER_USE_TRANSITION_SIGNALING`; `waitMayFail` says whether the
backend's condition waits may fail. -/
structure QueueConfig where
  transitionSignaling : Bool
  waitMayFail : Bool
  deriving DecidableEq, Repr

/-- The wrapper and its private implementation. -/
structure ConcurrentTaskQueue (T P : Type) where
  queue : TaskQueue P
  mutex : Option T
  shutdownRequested : Bool
  waitingConsumers : ℕ
  waitingProducers : ℕ
  highWaterMark : ℕ
  inserted : List P
  removed : List P
  deriving DecidableEq, Repr

/-- The scheduler's choices at one step: the sleeper that a signal wakes, whether a
condition wait succeeded, and the call an idle thread makes (`none` as operation:
with a `NULL` argument). -/
structure QueueChoice (T P : Type) where
  woken : Option T := none
  waitSucceeds : Bool := true
  call : Option (QueueOperation P × Bool) := none

abbrev QueueEffect (T : Type) := Effect T QueueCondition Empty

/-- The outcome of a critical section: the queue, where the thread stands, the
signals it sent. -/
abbrev QueueSection (T P : Type) := ConcurrentTaskQueue T P × QueuePc P × List (QueueEffect T)

variable {T P : Type}

/-- `concurrent_task_queue_init` once every allocation and sync object succeeded. -/
def concurrentTaskQueueInit (queue : TaskQueue P) : ConcurrentTaskQueue T P where
  queue := queue
  mutex := none
  shutdownRequested := false
  waitingConsumers := 0
  waitingProducers := 0
  highWaterMark := 0
  inserted := []
  removed := []

/-- What a call returns when its queue or an argument is `NULL`. -/
def QueueOperation.invalidArgument : QueueOperation P → QueueReturn P
  | .isEmpty => .flag true
  | .isFull => .flag false
  | .size | .capacity => .count 0
  | .captureRuntimeSnapshot => .snapshot none
  | _ => .status .errorInvalidArgument none

/-! ## Critical sections -/

/-- The insertion shared by `try_enqueue` and `enqueue` after its wait loop; the two
differ in the result they report for a full ring. -/
def insertTask (cfg : QueueConfig) (onFull : ConcurrentTaskQueueResult) (task : P)
    (woken : Option T) (q : ConcurrentTaskQueue T P) :
    ConcurrentTaskQueue T P × ConcurrentTaskQueueResult × List (QueueEffect T) :=
  if q.shutdownRequested then (q, .errorShutdown, [])
  else
    let wasEmpty := taskQueueIsEmpty q.queue
    match taskQueueEnqueue q.queue (some task) with
    | (.ok, ring) =>
      ({ q with
          queue := ring
          highWaterMark :=
            if taskQueueSize ring > q.highWaterMark then taskQueueSize ring else q.highWaterMark
          inserted := q.inserted ++ [task] },
        .ok,
        if !cfg.transitionSignaling || (wasEmpty || q.waitingConsumers > 0) then
          [.signal .notEmpty woken]
        else [])
    | (.errorInvalidArgument, ring) => ({ q with queue := ring }, .errorInvalidArgument, [])
    | (.errorFull, ring) => ({ q with queue := ring }, onFull, [])
    | (_, ring) => ({ q with queue := ring }, .errorSystem, [])

/-- The removal shared by `try_dequeue` and `dequeue` after its wait loop; the two
differ in the result they report for an empty ring. -/
def removeTask (cfg : QueueConfig) (onEmpty : ConcurrentTaskQueueResult) (woken : Option T)
    (q : ConcurrentTaskQueue T P) :
    ConcurrentTaskQueue T P × QueueReturn P × List (QueueEffect T) :=
  if taskQueueIsEmpty q.queue then (q, .status onEmpty none, [])
  else
    let wasFull := taskQueueIsFull q.queue
    match taskQueueDequeue q.queue with
    | (.ok, ring, output) =>
      ({ q with queue := ring, removed := q.removed ++ output.toList },
        .status .ok output,
        if !cfg.transitionSignaling || (wasFull || q.waitingProducers > 0) then
          [.signal .notFull woken]
        else [])
    | (.errorInvalidArgument, ring, _) =>
      ({ q with queue := ring }, .status .errorInvalidArgument none, [])
    | (_, ring, _) => ({ q with queue := ring }, .status .errorSystem none, [])

/-- `concurrent_task_queue_shutdown`. -/
def concurrentTaskQueueShutdown (q : ConcurrentTaskQueue T P) : QueueSection T P :=
  ({ q with shutdownRequested := true }, .unlock .shutdown (.status .ok none),
    [.broadcast .notEmpty, .broadcast .notFull])

/-- `concurrent_task_queue_try_enqueue`. -/
def concurrentTaskQueueTryEnqueue (cfg : QueueConfig) (task : P) (woken : Option T)
    (q : ConcurrentTaskQueue T P) : QueueSection T P :=
  let (q, result, signals) := insertTask cfg .errorFull task woken q
  (q, .unlock (.tryEnqueue task) (.status result none), signals)

/-- `concurrent_task_queue_enqueue`, from the test of its wait loop on. -/
def concurrentTaskQueueEnqueue (cfg : QueueConfig) (task : P) (woken : Option T)
    (q : ConcurrentTaskQueue T P) : QueueSection T P :=
  if !q.shutdownRequested && taskQueueIsFull q.queue then
    ({ q with waitingProducers := q.waitingProducers + 1 }, .wait (.producer task), [])
  else
    let (q, result, signals) := insertTask cfg .errorSystem task woken q
    (q, .unlock (.enqueue task) (.status result none), signals)

/-- `concurrent_task_queue_try_dequeue`. -/
def concurrentTaskQueueTryDequeue (cfg : QueueConfig) (woken : Option T)
    (q : ConcurrentTaskQueue T P) : QueueSection T P :=
  let onEmpty := if q.shutdownRequested then .errorShutdown else .errorEmpty
  let (q, r, signals) := removeTask cfg onEmpty woken q
  (q, .unlock .tryDequeue r, signals)

/-- `concurrent_task_queue_dequeue`, from the test of its wait loop on. -/
def concurrentTaskQueueDequeue (cfg : QueueConfig) (woken : Option T)
    (q : ConcurrentTaskQueue T P) : QueueSection T P :=
  if !q.shutdownRequested && taskQueueIsEmpty q.queue then
    ({ q with waitingConsumers := q.waitingConsumers + 1 }, .wait .consumer, [])
  else
    let (q, r, signals) := removeTask cfg .errorShutdown woken q
    (q, .unlock .dequeue r, signals)

/-- `concurrent_task_queue_try_peek`. -/
def concurrentTaskQueueTryPeek (q : ConcurrentTaskQueue T P) : QueueSection T P :=
  let r : QueueReturn P :=
    if taskQueueIsEmpty q.queue then
      .status (if q.shutdownRequested then .errorShutdown else .errorEmpty) none
    else match taskQueuePeek q.queue with
      | (.ok, output) => .status .ok output
      | (.errorInvalidArgument, _) => .status .errorInvalidArgument none
      | _ => .status .errorSystem none
  (q, .unlock .tryPeek r, [])

/-- The critical section of `op` up to its next wait or unlock. -/
def runOperation (cfg : QueueConfig) (woken : Option T) (op : QueueOperation P)
    (q : ConcurrentTaskQueue T P) : QueueSection T P :=
  match op with
  | .shutdown => concurrentTaskQueueShutdown q
  | .tryEnqueue task => concurrentTaskQueueTryEnqueue cfg task woken q
  | .enqueue task => concurrentTaskQueueEnqueue cfg task woken q
  | .tryDequeue => concurrentTaskQueueTryDequeue cfg woken q
  | .dequeue => concurrentTaskQueueDequeue cfg woken q
  | .tryPeek => concurrentTaskQueueTryPeek q
  | .isEmpty => (q, .unlock .isEmpty (.flag (taskQueueIsEmpty q.queue)), [])
  | .isFull => (q, .unlock .isFull (.flag (taskQueueIsFull q.queue)), [])
  | .size => (q, .unlock .size (.count (taskQueueSize q.queue)), [])
  | .capacity => (q, .unlock .capacity (.count (taskQueueCapacity q.queue)), [])
  | .captureRuntimeSnapshot =>
    (q, .unlock .captureRuntimeSnapshot (.snapshot (some
      { capacity := taskQueueCapacity q.queue
        currentSize := taskQueueSize q.queue
        highWaterMark := q.highWaterMark })), [])

/-- The waiter counter decremented when `sched_condition_wait` returns. -/
def endWait (w : Waiter P) (q : ConcurrentTaskQueue T P) : ConcurrentTaskQueue T P :=
  match w with
  | .producer _ => { q with waitingProducers := sizeDecrement q.waitingProducers }
  | .consumer => { q with waitingConsumers := sizeDecrement q.waitingConsumers }

/-- The code after `sched_condition_wait`: test the loop condition again, or give up
on a failed wait. -/
def resumeWait (cfg : QueueConfig) (w : Waiter P) (succeeded : Bool) (woken : Option T)
    (q : ConcurrentTaskQueue T P) : QueueSection T P :=
  if succeeded then runOperation cfg woken w.operation (endWait w q)
  else (endWait w q, .unlock w.operation (.status .errorSystem none), [])

/-! ## Threads -/

/-- One step of thread `t` inside the queue. -/
def queueAct [DecidableEq T] (cfg : QueueConfig) (t : T) (choice : QueueChoice T P)
    (q : ConcurrentTaskQueue T P) : QueuePc P → Option (QueueSection T P)
  | .idle => choice.call.map fun (op, nonNull) =>
    (q, if nonNull then .lock op else .returned op op.invalidArgument, [])
  | .lock op =>
    if q.mutex = none then
      some (runOperation cfg choice.woken op { q with mutex := some t })
    else none
  | .wait w => if q.mutex = some t then some ({ q with mutex := none }, .asleep w, []) else none
  | .asleep w => some (q, .woken w, [])
  | .woken w =>
    if q.mutex = none ∧ (choice.waitSucceeds = true ∨ cfg.waitMayFail = true) then
      some (resumeWait cfg w choice.waitSucceeds choice.woken { q with mutex := some t })
    else none
  | .unlock op r =>
    if q.mutex = some t then some ({ q with mutex := none }, .returned op r, []) else none
  | .returned _ _ => some (q, .idle, [])

def QueuePc.asleepOn : QueuePc P → Option QueueCondition
  | .asleep w => some w.condition
  | _ => none

def QueuePc.wake : QueuePc P → QueuePc P
  | .asleep w => .woken w
  | pc => pc

/-- Any number of threads using one queue. -/
def queueProgram [DecidableEq T] (cfg : QueueConfig) :
    Program T (ConcurrentTaskQueue T P) (QueuePc P) (QueueChoice T P) QueueCondition Empty where
  act := queueAct cfg
  asleepOn := QueuePc.asleepOn
  wake := QueuePc.wake
  dormant _ := false
  start pc := pc
  finished _ := none

abbrev QueuePool (T P : Type) := Pool T (ConcurrentTaskQueue T P) (QueuePc P)

/-- All threads outside the queue, the ring as `task_queue_init` left it. -/
def queueInitial (queue : TaskQueue P) : QueuePool T P where
  shared := concurrentTaskQueueInit queue
  pc _ := .idle

/-- The states that threads using a queue of the given capacity can reach. -/
def QueueReachable [DecidableEq T] [Fintype T] (cfg : QueueConfig) (capacity : ℕ)
    (s : QueuePool T P) : Prop :=
  ∃ queue, taskQueueInit capacity true = (.ok, some queue) ∧
    (queueProgram cfg).Steps (queueInitial queue) s

end SchedulingEngine
