import SchedulingEngine.Observability.Snapshot
import SchedulingEngine.Queue.Invariants

/-!
# The queue of a profiling build

With `CONCURRENT_SCHEDULER_ENABLE_PROFILING` the implementation carries a
`SchedulerProfilingSnapshot`, and `enqueue`, `dequeue` and `shutdown` update it under the
mutex. The helpers of concurrent_task_queue.c that update it are given the address of a
counter; a `ProfilingCounter` is such an address.

The code in between is the code of the other builds, so a profiled section runs the sections of
`ConcurrentTaskQueue` and notes down what it saw. The locals of a profiled call
(`lock_start`, `wait_start`, `waited`, `worker_index`) stand beside its program counter.
-/

namespace SchedulingEngine

open Concurrency

/-- `SCHEDULER_PROFILING_MAX_WORKERS`. -/
def schedulerProfilingMaxWorkers : ℕ := 64

/-- The two calls with profiling code around a wait loop. -/
inductive QueueSide where
  | enqueue
  | dequeue
  deriving DecidableEq, Repr

/-- The counters that both of them have: `enqueue_attempts`, `dequeue_attempts` and so on.
`blockedObservations` stands for `queue_full_observations` and `queue_empty_observations`,
`signals` and `avoidedSignals` for the signals on the other call's condition. -/
inductive SideCounter where
  | attempts
  | immediateSuccesses
  | lockAttempts
  | lockWaitTicks
  | inferredContended
  | waitCount
  | waitTicks
  | waitReturns
  | predicateFalseWakeups
  | successesAfterWait
  | blockedObservations
  | signals
  | avoidedSignals
  deriving DecidableEq, Repr

/-- The counters kept for each worker. -/
inductive WorkerCounter where
  | tasks
  | dequeueWaitCount
  | dequeueWaitTicks
  | dequeueLockTicks
  deriving DecidableEq, Repr

inductive ProfilingCounter where
  | side (side : QueueSide) (counter : SideCounter)
  | shutdownBroadcasts
  | occupancySampleCount
  | occupancySampleSum
  | occupancyZeroObservations
  | occupancyFullObservations
  | worker (counter : WorkerCounter) (index : Fin schedulerProfilingMaxWorkers)
  deriving DecidableEq, Repr

/-- `*_lock_max_wait_ticks` and `*_wait_max_ticks`. -/
inductive ProfilingMaximum where
  | lockMaxWaitTicks (side : QueueSide)
  | waitMaxTicks (side : QueueSide)
  deriving DecidableEq, Repr

/-- `SchedulerProfilingSnapshot` (scheduler_profiling.h) as the implementation carries it. -/
structure SchedulerProfilingSnapshot where
  counter : ProfilingCounter → ℕ
  maximum : ProfilingMaximum → ℕ
  occupancyMin : ℕ
  occupancyMax : ℕ
  timerFrequency : ℕ
  timingFailed : Bool
  counterOverflow : Bool

/-- Code that updates the profile. -/
abbrev ProfilingM := StateM SchedulerProfilingSnapshot

/-! ## The helpers -/

/-- `profiling_now`; `timer` is what `QueryPerformanceCounter` answers. -/
def profilingNow (timer : Option ℕ) : ProfilingM ℕ :=
  match timer with
  | some value => pure value
  | none => do
    modify fun p => { p with timingFailed := true }
    return 0

/-- `profiling_add`. -/
def profilingAdd (target : ProfilingCounter) (value : ℕ) : ProfilingM Unit :=
  modify fun p =>
    if uint64Max - p.counter target < value then { p with counterOverflow := true }
    else { p with counter := Function.update p.counter target (p.counter target + value) }

/-- `profiling_increment`. -/
def profilingIncrement (target : ProfilingCounter) : ProfilingM Unit := profilingAdd target 1

/-- `profiling_elapsed`. -/
def profilingElapsed (start finish : ℕ) : ProfilingM ℕ := do
  if finish < start then
    modify fun p => { p with timingFailed := true }
    return 0
  else
    return finish - start

/-- `profiling_inferred_contended`. -/
def profilingInferredContended (start finish : ℕ) : ProfilingM Bool := do
  let frequency := (← get).timerFrequency
  let threshold := if frequency / 1000000 = 0 then 1 else frequency / 1000000
  let elapsed ← profilingElapsed start finish
  return elapsed > threshold

/-- `profiling_record_duration`. -/
def profilingRecordDuration (start finish : ℕ) (total : ProfilingCounter)
    (maximum : ProfilingMaximum) : ProfilingM Unit := do
  let duration ← profilingElapsed start finish
  profilingAdd total duration
  modify fun p =>
    if duration > p.maximum maximum then
      { p with maximum := Function.update p.maximum maximum duration }
    else p

variable {T P : Type}

/-- `profiling_record_occupancy`. -/
def profilingRecordOccupancy (queue : TaskQueue P) : ProfilingM Unit := do
  let occupancy := taskQueueSize queue
  let capacity := taskQueueCapacity queue
  profilingIncrement .occupancySampleCount
  profilingAdd .occupancySampleSum occupancy
  modify fun p =>
    { p with
      occupancyMin :=
        if p.counter .occupancySampleCount = 1 || occupancy < p.occupancyMin then occupancy
        else p.occupancyMin
      occupancyMax := if occupancy > p.occupancyMax then occupancy else p.occupancyMax }
  if occupancy = 0 then
    profilingIncrement .occupancyZeroObservations
  if occupancy = capacity then
    profilingIncrement .occupancyFullObservations

/-- The counter of a worker, for the threads that have one. -/
def profilingAddWorker (counter : WorkerCounter) (workerIndex : ℕ) (value : ProfilingM ℕ) :
    ProfilingM Unit := do
  if h : workerIndex < schedulerProfilingMaxWorkers then
    profilingAdd (.worker counter ⟨workerIndex, h⟩) (← value)

/-! ## Profiled sections -/

/-- The locals of a profiled call. -/
structure ProfilingLocals where
  lockStart : ℕ := 0
  waitStart : ℕ := 0
  waited : Bool := false
  workerIndex : ℕ := schedulerProfilingMaxWorkers
  deriving DecidableEq, Repr

/-- The scheduler's choices at one step of a profiling build. `timer` is the answer to the first
reading of the timer in the step, `timerBeforeWait` the answer to the one before a wait;
`workerIndex` is the calling thread's `profiling_worker_index`. -/
structure ProfilingChoice (T P : Type) where
  queue : QueueChoice T P := {}
  timer : Option ℕ := some 0
  timerBeforeWait : Option ℕ := some 0
  workerIndex : ℕ := schedulerProfilingMaxWorkers

/-- The outcome of a critical section, and the locals the call goes on with. -/
abbrev ProfiledSection (T P : Type) := QueueSection T P × ProfilingLocals

/-- What both calls do before they take the mutex. -/
def profiledCall (op : QueueOperation P) (choice : ProfilingChoice T P) :
    ProfilingM ProfilingLocals :=
  match op with
  | .enqueue _ => do
    let lockStart ← profilingNow choice.timer
    return { lockStart }
  | .dequeue => do
    let lockStart ← profilingNow choice.timer
    return { lockStart, workerIndex := choice.workerIndex }
  | _ => return {}

/-- What both calls do once they have the mutex. -/
def profilingLocked (side : QueueSide) (locals : ProfilingLocals) (timer : Option ℕ) :
    ProfilingM ℕ := do
  let lockEnd ← profilingNow timer
  profilingIncrement (.side side .attempts)
  profilingIncrement (.side side .lockAttempts)
  profilingRecordDuration locals.lockStart lockEnd (.side side .lockWaitTicks)
    (.lockMaxWaitTicks side)
  if ← profilingInferredContended locals.lockStart lockEnd then
    profilingIncrement (.side side .inferredContended)
  return lockEnd

/-- What both calls do when `sched_condition_wait` has returned. -/
def profilingResumed (side : QueueSide) (locals : ProfilingLocals) (timer : Option ℕ) :
    ProfilingM ℕ := do
  let waitEnd ← profilingNow timer
  profilingIncrement (.side side .waitReturns)
  profilingRecordDuration locals.waitStart waitEnd (.side side .waitTicks) (.waitMaxTicks side)
  return waitEnd

/-- A success, at once or after waiting. -/
def profilingSucceeded (side : QueueSide) (waited : Bool) : ProfilingM Unit :=
  if waited then profilingIncrement (.side side .successesAfterWait)
  else profilingIncrement (.side side .immediateSuccesses)

/-- A success that signalled the other side, or saved the signal. -/
def profilingSignalled (side : QueueSide) (signalled : Bool) : ProfilingM Unit :=
  if signalled then profilingIncrement (.side side .signals)
  else profilingIncrement (.side side .avoidedSignals)

/-- `concurrent_task_queue_enqueue`, from the test of its wait loop on. -/
def profiledEnqueue (cfg : QueueConfig) (task : P) (choice : ProfilingChoice T P)
    (locals : ProfilingLocals) (q : ConcurrentTaskQueue T P) :
    ProfilingM (ProfiledSection T P) := do
  if !q.shutdownRequested && taskQueueIsFull q.queue then
    profilingIncrement (.side .enqueue .blockedObservations)
    profilingIncrement (.side .enqueue .waitCount)
    let waitStart ← profilingNow choice.timerBeforeWait
    return (({ q with waitingProducers := q.waitingProducers + 1 }, .wait (.producer task), []),
      { locals with waited := true, waitStart })
  else
    let wasEmpty := taskQueueIsEmpty q.queue
    let (q, result, signals) := insertTask cfg .errorSystem task choice.queue.woken q
    if result = .ok then
      profilingSucceeded .enqueue locals.waited
      profilingRecordOccupancy q.queue
      profilingSignalled .enqueue
        (!cfg.transitionSignaling || (wasEmpty || q.waitingConsumers > 0))
    return ((q, .unlock (.enqueue task) (.status result none), signals), locals)

/-- `concurrent_task_queue_dequeue`, from the test of its wait loop on. -/
def profiledDequeue (cfg : QueueConfig) (choice : ProfilingChoice T P)
    (locals : ProfilingLocals) (q : ConcurrentTaskQueue T P) :
    ProfilingM (ProfiledSection T P) := do
  if !q.shutdownRequested && taskQueueIsEmpty q.queue then
    profilingIncrement (.side .dequeue .blockedObservations)
    profilingIncrement (.side .dequeue .waitCount)
    profilingAddWorker .dequeueWaitCount locals.workerIndex (pure 1)
    let waitStart ← profilingNow choice.timerBeforeWait
    return (({ q with waitingConsumers := q.waitingConsumers + 1 }, .wait .consumer, []),
      { locals with waited := true, waitStart })
  else
    let wasFull := taskQueueIsFull q.queue
    let (q, r, signals) := removeTask cfg .errorShutdown choice.queue.woken q
    if let .status .ok _ := r then
      profilingSucceeded .dequeue locals.waited
      profilingAddWorker .tasks locals.workerIndex (pure 1)
      profilingRecordOccupancy q.queue
      profilingSignalled .dequeue
        (!cfg.transitionSignaling || (wasFull || q.waitingProducers > 0))
    return ((q, .unlock .dequeue r, signals), locals)

/-- The critical section of `op` from `sched_mutex_lock` on. The other operations have no
profiling code. -/
def profiledOperation (cfg : QueueConfig) (op : QueueOperation P) (choice : ProfilingChoice T P)
    (locals : ProfilingLocals) (q : ConcurrentTaskQueue T P) :
    ProfilingM (ProfiledSection T P) :=
  match op with
  | .enqueue task => do
    let _ ← profilingLocked .enqueue locals choice.timer
    profiledEnqueue cfg task choice locals q
  | .dequeue => do
    let lockEnd ← profilingLocked .dequeue locals choice.timer
    profilingAddWorker .dequeueLockTicks locals.workerIndex
      (profilingElapsed locals.lockStart lockEnd)
    profiledDequeue cfg choice locals q
  | .shutdown => do
    profilingAdd .shutdownBroadcasts 2
    return (concurrentTaskQueueShutdown q, locals)
  | op => return (runOperation cfg choice.queue.woken op q, locals)

/-- The code after `sched_condition_wait`. -/
def profiledResumeWait (cfg : QueueConfig) (w : Waiter P) (choice : ProfilingChoice T P)
    (locals : ProfilingLocals) (q : ConcurrentTaskQueue T P) :
    ProfilingM (ProfiledSection T P) :=
  if choice.queue.waitSucceeds then
    let q := endWait w q
    match w with
    | .producer task => do
      let _ ← profilingResumed .enqueue locals choice.timer
      if !q.shutdownRequested && taskQueueIsFull q.queue then
        profilingIncrement (.side .enqueue .predicateFalseWakeups)
      profiledEnqueue cfg task choice locals q
    | .consumer => do
      let waitEnd ← profilingResumed .dequeue locals choice.timer
      profilingAddWorker .dequeueWaitTicks locals.workerIndex
        (profilingElapsed locals.waitStart waitEnd)
      if !q.shutdownRequested && taskQueueIsEmpty q.queue then
        profilingIncrement (.side .dequeue .predicateFalseWakeups)
      profiledDequeue cfg choice locals q
  else return ((endWait w q, .unlock w.operation (.status .errorSystem none), []), locals)

/-! ## Threads -/

/-- The queue and its profile. -/
structure ProfiledQueue (T P : Type) where
  queue : ConcurrentTaskQueue T P
  profiling : SchedulerProfilingSnapshot

structure ProfiledPc (P : Type) where
  pc : QueuePc P
  locals : ProfilingLocals
  deriving DecidableEq, Repr

/-- A profiled section, run on the profile of the queue. -/
def ProfiledQueue.runSection (sh : ProfiledQueue T P) (m : ProfilingM (ProfiledSection T P)) :
    ProfiledQueue T P × ProfiledPc P × List (QueueEffect T) :=
  let (((queue, pc, fx), locals), profiling) := m sh.profiling
  (⟨queue, profiling⟩, ⟨pc, locals⟩, fx)

/-- One step of thread `t` inside the queue of a profiling build. Only a call and the two ways
into the critical section have profiling code. -/
def profiledAct [DecidableEq T] (cfg : QueueConfig) (t : T) (choice : ProfilingChoice T P)
    (sh : ProfiledQueue T P) (pc : ProfiledPc P) :
    Option (ProfiledQueue T P × ProfiledPc P × List (QueueEffect T)) :=
  match pc.pc with
  | .idle => choice.queue.call.map fun (op, nonNull) =>
    if nonNull then
      sh.runSection do
        let locals ← profiledCall op choice
        return ((sh.queue, .lock op, []), locals)
    else (sh, ⟨.returned op op.invalidArgument, pc.locals⟩, [])
  | .lock op =>
    if sh.queue.mutex = none then
      some (sh.runSection
        (profiledOperation cfg op choice pc.locals { sh.queue with mutex := some t }))
    else none
  | .woken w =>
    if sh.queue.mutex = none ∧ (choice.queue.waitSucceeds = true ∨ cfg.waitMayFail = true) then
      some (sh.runSection
        (profiledResumeWait cfg w choice pc.locals { sh.queue with mutex := some t }))
    else none
  | .wait _ | .asleep _ | .unlock _ _ | .returned _ _ =>
    (queueAct cfg t choice.queue sh.queue pc.pc).map fun (queue, next, fx) =>
      ({ sh with queue }, { pc with pc := next }, fx)

/-- Any number of threads using one queue of a profiling build. -/
def profiledProgram [DecidableEq T] (cfg : QueueConfig) :
    Program T (ProfiledQueue T P) (ProfiledPc P) (ProfilingChoice T P) QueueCondition Empty where
  act := profiledAct cfg
  asleepOn pc := pc.pc.asleepOn
  wake pc := { pc with pc := pc.pc.wake }
  dormant _ := false
  start pc := pc
  finished _ := none

abbrev ProfiledPool (T P : Type) := Pool T (ProfiledQueue T P) (ProfiledPc P)

/-- `concurrent_task_queue_init` of a profiling build: the profile is zeroed but for the
frequency that `QueryPerformanceFrequency` answered. -/
def profiledInitial (queue : TaskQueue P) (timerFrequency : ℕ) : ProfiledPool T P where
  shared :=
    { queue := concurrentTaskQueueInit queue
      profiling :=
        { counter _ := 0
          maximum _ := 0
          occupancyMin := 0
          occupancyMax := 0
          timerFrequency
          timingFailed := false
          counterOverflow := false } }
  pc _ := ⟨.idle, {}⟩

end SchedulingEngine
