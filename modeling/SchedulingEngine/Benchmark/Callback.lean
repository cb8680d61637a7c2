import Mathlib.Data.Fintype.Option
import SchedulingEngine.Benchmark.Config
import SchedulingEngine.Concurrency.ThreadPool
import SchedulingEngine.Observability.Snapshot
import SchedulingEngine.Queue.Ring

/-!
# The callback of the benchmark (benchmark_scheduler.c)

One iteration of the benchmark runs `benchmark_callback` on the workers of a scheduler. The
callback finds its Task's place in the array by address arithmetic and accounts for it: in one
section under the benchmark mutex, or, in a profiling build with partitioned accounting, by
single atomic operations and in slots of the worker's own.

A worker's program counter stands at its next operation that other threads can observe:

- `called`, `computing`: the timer readings of a profiling build, around the computation;
- `partitioned stage`: the atomic operations of partitioned accounting, one after the other;
- `lock`, `wait`, `asleep`, `woken`, `unlock`: the section under the mutex, with the wait of
  the controlled profile inside it;
- `leaving`, `returned`: the result of the callback.

The controller is one more thread, which runs `release_controlled_callback`. Timer, mutex and
condition calls succeed and the timer is monotone: a reading is not before an earlier reading
of the same callback nor before the submission of its Task, and not after the last reading of
the iteration.
-/

namespace SchedulingEngine

open Concurrency

/-! ## Timer and Task array -/

/-- `BenchmarkTimer`. `fractionalNs` is the `long double` quotient of
`benchmark_timer_duration_ns`. -/
structure BenchmarkTimer where
  frequency : ℕ
  fractionalNs : ℕ → ℕ

/-- `benchmark_timer_duration_ns`. -/
def benchmarkTimerDurationNs (timer : BenchmarkTimer) (start finish : ℕ) : Option ℕ :=
  if timer.frequency = 0 ∨ finish < start then none
  else
    let ticks := finish - start
    let seconds := ticks / timer.frequency
    let remainder := ticks % timer.frequency
    if seconds > uint64Max / 1000000000 then none
    else
      let wholeNs := seconds * 1000000000
      let fractionalNs := timer.fractionalNs remainder
      if uint64Max - wholeNs < fractionalNs then none else some (wholeNs + fractionalNs)

/-- `sizeof(Task)`. -/
def taskSize : ℕ := 32

/-- What stays fixed through an iteration: the build, the configuration, the Task array at
address `base` with the ids in it, the ticks noted before each submission, and the timer. The
array lies in the address space, and the timer can convert the time between any two readings up
to the last one. -/
structure Benchmark where
  profiling : Bool
  config : BenchmarkConfig
  base : ℕ
  taskId : ℕ → UInt64
  submissionTicks : ℕ → ℕ
  timer : BenchmarkTimer
  lastReading : ℕ
  accepted : config.Accepted
  base_pos : 0 < base
  array_fits : base + config.tasks * taskSize ≤ sizeMax
  durations : ∀ start finish, start ≤ finish → finish ≤ lastReading →
    (benchmarkTimerDurationNs timer start finish).isSome = true

/-- The address of `tasks[index]`. -/
def Benchmark.taskAddress (b : Benchmark) (index : ℕ) : ℕ := b.base + index * taskSize

/-- `task_index_for_pointer`, for the address of a Task. -/
def taskIndexForPointer (b : Benchmark) (address : ℕ) : Option ℕ :=
  if b.base = 0 ∨ address = 0 ∨ b.config.tasks > sizeMax / taskSize then none
  else
    let span := b.config.tasks * taskSize
    if sizeMax - b.base < span ∨ address < b.base ∨ address ≥ b.base + span then none
    else
      let offset := address - b.base
      if offset % taskSize ≠ 0 then none else some (offset / taskSize)

/-- `deterministic_work`. -/
def deterministicWork (value : UInt64) : ℕ → UInt64
  | 0 => value
  | operations + 1 =>
    let value := value ^^^ (value >>> 12)
    let value := value ^^^ (value <<< 25)
    let value := value ^^^ (value >>> 27)
    deterministicWork (value * 2685821657736338717) operations

/-- What a Task contributes to the checksum. -/
def contribution (b : Benchmark) (address : ℕ) : UInt64 :=
  let value := b.taskId address ^^^ 0x9e3779b97f4a7c15
  match b.config.profile with
  | .lightCpu => deterministicWork value 128
  | .mediumCpu => deterministicWork value 4096
  | .heavyCpu => deterministicWork value 65536
  | .noop | .controlledBlocking => value

/-- `SCHEDULER_PROFILING_MAX_WORKERS`, the length of the arrays indexed by worker. -/
def benchmarkMaxWorkers : ℕ := 64

/-- The callback's own condition for partitioned accounting. -/
def Benchmark.partitions (b : Benchmark) : Bool :=
  b.profiling && (b.config.accounting = .partitioned && b.config.profile ≠ .controlledBlocking)

/-! ## Counters -/

/-- The counters of `CallbackContext`, with the arrays it points to. -/
structure CallbackCounters where
  executionCounts : ℕ → ℕ
  completionTicks : ℕ → ℕ
  executionCount : ℕ
  duplicateCount : ℕ
  unknownCount : ℕ
  checksum : UInt64
  failure : Bool
  partitionedExecutionCount : ℕ
  partitionedDuplicateCount : ℕ
  partitionedUnknownCount : ℕ
  partitionedFailure : Bool
  workerTasks : ℕ → ℕ
  workerComputeNs : ℕ → ℕ
  workerAccountingNs : ℕ → ℕ
  workerCombinedNs : ℕ → ℕ
  workerChecksums : ℕ → UInt64

/-- `callback_context_init`. -/
def callbackContextInit : CallbackCounters where
  executionCounts _ := 0
  completionTicks _ := 0
  executionCount := 0
  duplicateCount := 0
  unknownCount := 0
  checksum := 0
  failure := false
  partitionedExecutionCount := 0
  partitionedDuplicateCount := 0
  partitionedUnknownCount := 0
  partitionedFailure := false
  workerTasks _ := 0
  workerComputeNs _ := 0
  workerAccountingNs _ := 0
  workerCombinedNs _ := 0
  workerChecksums _ := 0

/-- An atomic increment of an `unsigned int`. -/
def unsignedIncrement (counter : ℕ) : ℕ := (counter + 1) % 2 ^ 32

/-- The locals of a callback: its Task and the readings `combined_start` and `compute_end`. -/
structure CallbackCall where
  task : ℕ
  combinedStart : ℕ
  computeEnd : ℕ
  deriving DecidableEq, Repr

/-- The worker's slot: `worker_tasks[worker_slot]++` and the checksum of the slot. -/
def CallbackCounters.addWorker (k : CallbackCounters) (slot : ℕ) (value : UInt64) :
    CallbackCounters :=
  { k with
    workerTasks := Function.update k.workerTasks slot ((k.workerTasks slot + 1) % 2 ^ 64)
    workerChecksums := Function.update k.workerChecksums slot (k.workerChecksums slot ^^^ value) }

/-- The three durations of a callback (`none`: the timer refused one of them). -/
def callbackDurations (b : Benchmark) (call : CallbackCall) (accountingEnd : ℕ) :
    Option (ℕ × ℕ × ℕ) := do
  let compute ← benchmarkTimerDurationNs b.timer call.combinedStart call.computeEnd
  let accounting ← benchmarkTimerDurationNs b.timer call.computeEnd accountingEnd
  let combined ← benchmarkTimerDurationNs b.timer call.combinedStart accountingEnd
  return (compute, accounting, combined)

def CallbackCounters.addDurations (k : CallbackCounters) (slot : ℕ) (durations : ℕ × ℕ × ℕ) :
    CallbackCounters :=
  { k with
    workerComputeNs := Function.update k.workerComputeNs slot
      ((k.workerComputeNs slot + durations.1) % 2 ^ 64)
    workerAccountingNs := Function.update k.workerAccountingNs slot
      ((k.workerAccountingNs slot + durations.2.1) % 2 ^ 64)
    workerCombinedNs := Function.update k.workerCombinedNs slot
      ((k.workerCombinedNs slot + durations.2.2) % 2 ^ 64) }

/-- What the callback found out about its Task: a pointer outside the array, a duplicate, or a
first execution. -/
def CallbackCounters.recognize (b : Benchmark) (task completion : ℕ) (k : CallbackCounters) :
    CallbackCounters :=
  match taskIndexForPointer b task with
  | none => { k with unknownCount := sizeIncrement k.unknownCount, failure := true }
  | some index =>
    if b.config.mode = .validated then
      let k := if k.executionCounts index ≠ 0 then
          { k with duplicateCount := sizeIncrement k.duplicateCount, failure := true }
        else k
      { k with
        executionCounts :=
          Function.update k.executionCounts index (unsignedIncrement (k.executionCounts index))
        completionTicks := Function.update k.completionTicks index completion }
    else k

/-- The totals under the mutex. -/
def CallbackCounters.addExecution (value : UInt64) (k : CallbackCounters) : CallbackCounters :=
  let k := if k.executionCount = sizeMax then { k with failure := true }
    else { k with executionCount := k.executionCount + 1 }
  { k with checksum := k.checksum ^^^ value }

/-- The worker's slot and the durations, in profiling builds. -/
def CallbackCounters.profile (b : Benchmark) (slot : ℕ) (call : CallbackCall) (accountingEnd : ℕ)
    (k : CallbackCounters) : CallbackCounters :=
  if b.profiling then
    let k := k.addWorker slot (contribution b call.task)
    match callbackDurations b call accountingEnd with
    | none => { k with failure := true }
    | some durations => k.addDurations slot durations
  else k

/-- The accounting under the mutex. -/
def CallbackCounters.account (b : Benchmark) (slot : ℕ) (call : CallbackCall)
    (completion accountingEnd : ℕ) (k : CallbackCounters) : CallbackCounters :=
  ((k.recognize b call.task completion).addExecution (contribution b call.task)).profile b slot
    call accountingEnd

/-! ## Threads -/

/-- The operations of partitioned accounting. -/
inductive PartitionedStage where
  | tally
  | flagUnknown
  | duplicate
  | flagDuplicate
  | complete
  | count
  | sum
  | time
  deriving DecidableEq, Repr

inductive CallbackPc where
  | idle
  | called (task : ℕ)
  | computing (task combinedStart : ℕ)
  | partitioned (stage : PartitionedStage) (call : CallbackCall)
  | lock (call : CallbackCall)
  | wait (call : CallbackCall)
  | asleep (call : CallbackCall)
  | woken (call : CallbackCall)
  | unlock
  | leaving
  | returned (result : ℕ)
  | releaseLock
  | releaseWait
  | releaseAsleep
  | releaseWoken
  | releaseUnlock
  | released
  deriving DecidableEq, Repr

/-- The workers and the controller (`none`). -/
abbrev BenchmarkThread (b : Benchmark) := Option (Fin b.config.workers)

structure CallbackContext (T : Type) where
  counters : CallbackCounters
  mutex : Option T
  blockingEntered : Bool
  blockingReleased : Bool

/-- The scheduler's choices at one step: the Task it passes to the callback, and the answers of
the timer. -/
structure CallbackChoice where
  task : ℕ := 0
  time : ℕ := 0
  accountingEnd : ℕ := 0

/-- `worker_slot`. -/
def workerSlot {b : Benchmark} (t : BenchmarkThread b) : ℕ :=
  match t with
  | some worker => if worker.val ≥ benchmarkMaxWorkers then 0 else worker.val
  | none => 0

/-- A reading that follows the one `previous`. -/
def Benchmark.Reads (b : Benchmark) (previous time : ℕ) : Prop :=
  previous ≤ time ∧ time ≤ b.lastReading

instance (b : Benchmark) (previous time : ℕ) : Decidable (b.Reads previous time) :=
  inferInstanceAs (Decidable (_ ∧ _))

/-- When the submission of the Task began. -/
def Benchmark.submitted (b : Benchmark) (task : ℕ) : ℕ :=
  ((taskIndexForPointer b task).map b.submissionTicks).getD 0

abbrev CallbackEffect (T : Type) := Effect T Unit Empty

abbrev CallbackSection (T : Type) := CallbackContext T × CallbackPc × List (CallbackEffect T)

section Sections

variable (b : Benchmark) (t : BenchmarkThread b) (choice : CallbackChoice)

/-- One operation of partitioned accounting. -/
def partitionedStep (call : CallbackCall) (k : CallbackCounters) :
    PartitionedStage → Option (CallbackCounters × CallbackPc)
  | .tally =>
    match taskIndexForPointer b call.task with
    | none => some
      ({ k with partitionedUnknownCount := sizeIncrement k.partitionedUnknownCount },
        .partitioned .flagUnknown call)
    | some index =>
      if b.config.mode = .validated then
        let prior := k.executionCounts index
        some
          ({ k with executionCounts :=
              Function.update k.executionCounts index (unsignedIncrement prior) },
            .partitioned (if prior ≠ 0 then .duplicate else .complete) call)
      else some (k, .partitioned .count call)
  | .flagUnknown => some ({ k with partitionedFailure := true }, .partitioned .count call)
  | .duplicate => some
      ({ k with partitionedDuplicateCount := sizeIncrement k.partitionedDuplicateCount },
        .partitioned .flagDuplicate call)
  | .flagDuplicate => some ({ k with partitionedFailure := true }, .partitioned .count call)
  | .complete =>
    some ((taskIndexForPointer b call.task).elim k fun index =>
        { k with completionTicks := Function.update k.completionTicks index call.computeEnd },
      .partitioned .count call)
  | .count => some
      ({ k with partitionedExecutionCount := sizeIncrement k.partitionedExecutionCount },
        .partitioned .sum call)
  | .sum =>
    some (k.addWorker (workerSlot t) (contribution b call.task), .partitioned .time call)
  | .time =>
    if b.Reads call.computeEnd choice.time then
      match callbackDurations b call choice.time with
      | none => some ({ k with partitionedFailure := true }, .returned 1)
      | some durations =>
        some (k.addDurations (workerSlot t) durations,
          .returned (if k.partitionedFailure then 4 else 0))
    else none

/-- The section under the mutex, from the test of the wait loop on. -/
def accountSection (call : CallbackCall) (ctx : CallbackContext (BenchmarkThread b)) :
    Option (CallbackContext (BenchmarkThread b) × CallbackPc) :=
  if !ctx.blockingReleased && !ctx.counters.failure && b.config.profile = .controlledBlocking then
    some (ctx, .wait call)
  else if b.Reads (max (b.submitted call.task) call.computeEnd) choice.time ∧
      b.Reads choice.time choice.accountingEnd then
    some ({ ctx with
      counters := ctx.counters.account b (workerSlot t) call choice.time choice.accountingEnd },
      .unlock)
  else none

/-- The wait loop of `release_controlled_callback`, and the release. -/
def releaseSection (ctx : CallbackContext (BenchmarkThread b)) :
    CallbackSection (BenchmarkThread b) :=
  if !ctx.blockingEntered && !ctx.counters.failure then (ctx, .releaseWait, [])
  else ({ ctx with blockingReleased := true }, .releaseUnlock, [.broadcast ()])

/-- One step of thread `t`. -/
def callbackAct (ctx : CallbackContext (BenchmarkThread b)) :
    CallbackPc → Option (CallbackSection (BenchmarkThread b))
  | .idle => if choice.task ≠ 0 then some (ctx, .called choice.task, []) else none
  | .called task =>
    if b.profiling then
      if b.Reads (b.submitted task) choice.time then
        some (ctx, .computing task choice.time, [])
      else none
    else some (ctx, .lock ⟨task, 0, 0⟩, [])
  | .computing task combinedStart =>
    if b.Reads combinedStart choice.time then
      let call := ⟨task, combinedStart, choice.time⟩
      some (ctx, if b.partitions then .partitioned .tally call else .lock call, [])
    else none
  | .partitioned stage call =>
    (partitionedStep b t choice call ctx.counters stage).map fun (counters, pc) =>
      ({ ctx with counters }, pc, [])
  | .lock call =>
    if ctx.mutex = none then
      if b.config.profile = .controlledBlocking ∧ ctx.blockingReleased = false then
        (accountSection b t choice call { ctx with mutex := some t, blockingEntered := true }).map
          fun (ctx, pc) => (ctx, pc, [.broadcast ()])
      else
        (accountSection b t choice call { ctx with mutex := some t }).map
          fun (ctx, pc) => (ctx, pc, [])
    else none
  | .wait call =>
    if ctx.mutex = some t then some ({ ctx with mutex := none }, .asleep call, []) else none
  | .asleep call => some (ctx, .woken call, [])
  | .woken call =>
    if ctx.mutex = none then
      (accountSection b t choice call { ctx with mutex := some t }).map fun (ctx, pc) =>
        (ctx, pc, [])
    else none
  | .unlock => if ctx.mutex = some t then some ({ ctx with mutex := none }, .leaving, []) else none
  | .leaving => some (ctx, .returned (if ctx.counters.failure then 4 else 0), [])
  | .returned _ => some (ctx, .idle, [])
  | .releaseLock =>
    if ctx.mutex = none then some (releaseSection b { ctx with mutex := some t }) else none
  | .releaseWait =>
    if ctx.mutex = some t then some ({ ctx with mutex := none }, .releaseAsleep, []) else none
  | .releaseAsleep => some (ctx, .releaseWoken, [])
  | .releaseWoken =>
    if ctx.mutex = none then some (releaseSection b { ctx with mutex := some t }) else none
  | .releaseUnlock =>
    if ctx.mutex = some t then some ({ ctx with mutex := none }, .released, []) else none
  | .released => none

end Sections

def CallbackPc.asleepOn : CallbackPc → Option Unit
  | .asleep _ | .releaseAsleep => some ()
  | _ => none

def CallbackPc.wake : CallbackPc → CallbackPc
  | .asleep call => .woken call
  | .releaseAsleep => .releaseWoken
  | pc => pc

/-- The workers of one iteration and the controller. -/
def benchmarkProgram (b : Benchmark) :
    Program (BenchmarkThread b) (CallbackContext (BenchmarkThread b)) CallbackPc CallbackChoice
      Unit Empty where
  act := callbackAct b
  asleepOn := CallbackPc.asleepOn
  wake := CallbackPc.wake
  dormant _ := false
  start pc := pc
  finished _ := none

abbrev BenchmarkPool (b : Benchmark) :=
  Pool (BenchmarkThread b) (CallbackContext (BenchmarkThread b)) CallbackPc

/-- The workers outside the callback, and the controller about to release it if the profile
blocks. -/
def benchmarkInitial (b : Benchmark) : BenchmarkPool b where
  shared :=
    { counters := callbackContextInit
      mutex := none
      blockingEntered := false
      blockingReleased := false }
  pc
    | some _ => .idle
    | none => if b.config.profile = .controlledBlocking then .releaseLock else .released

/-- The Task passed to the callback by a move from `pc` to `pc'`. -/
def passedBy (pc pc' : CallbackPc) : List ℕ :=
  match pc, pc' with
  | .idle, .called task => [task]
  | _, _ => []

/-- The Tasks passed to the callback in a step. -/
def passedTasks {b : Benchmark} (s : BenchmarkPool b) (t : BenchmarkThread b)
    (s' : BenchmarkPool b) : List ℕ :=
  passedBy (s.pc t) (s'.pc t)

end SchedulingEngine
