import SchedulingEngine.Benchmark.Callback
import SchedulingEngine.Benchmark.Ranges
import SchedulingEngine.Benchmark.Statistics
import SchedulingEngine.Scheduler.State
import SchedulingEngine.Tracing.Traced

/-!
# The gate of an iteration (benchmark_scheduler.c)

After the scheduler was joined, `run_iteration` copies the workers' slots and compares their sum
with the number of executions (profiling builds), and `validate_execution` decides whether the
iteration counts. Both index arrays of `SCHEDULER_PROFILING_MAX_WORKERS` entries; every such
access is an event of the computation, in the order of the source.
-/

namespace SchedulingEngine

open Tracing Tracing.Traced

/-- The arrays of `SCHEDULER_PROFILING_MAX_WORKERS` entries: of `CallbackContext`, of
`IterationResult` (by worker and by producer) and of `SchedulerProfilingSnapshot`. -/
inductive ProfilingArray where
  | callbackTasks
  | callbackComputeNs
  | callbackAccountingNs
  | callbackCombinedNs
  | callbackChecksums
  | workerTasks
  | workerComputeNs
  | workerAccountingNs
  | workerCombinedNs
  | workerChecksums
  | producerAttempted
  | producerAccepted
  | producerRejected
  | producerSubmitTotalNs
  | producerSubmitMinNs
  | producerSubmitMaxNs
  | producerSubmitP50Ns
  | producerSubmitP95Ns
  | profilingTasks
  | profilingDequeueWaitCount
  | profilingDequeueWaitTicks
  | profilingDequeueLockTicks
  deriving DecidableEq, Repr

/-- One array element that is read or written. -/
structure Access where
  array : ProfilingArray
  index : ℕ
  deriving DecidableEq, Repr

/-- One element of each of several arrays. -/
def accesses (arrays : List ProfilingArray) (index : ℕ) : List Access :=
  arrays.map fun array => ⟨array, index⟩

/-- What the gate writes of `IterationResult`, with the `end_to_end` array. -/
structure IterationResult where
  attempted : ℕ
  accepted : ℕ
  executed : ℕ
  rejected : ℕ
  callbackComputeTotalNs : ℕ
  callbackAccountingTotalNs : ℕ
  callbackCombinedTotalNs : ℕ
  zeroTaskWorkers : ℕ
  arrays : ProfilingArray → ℕ → ℕ
  endToEnd : ℕ → ℕ

/-- `memset(result, 0, sizeof(*result))`. -/
def emptyResult : IterationResult where
  attempted := 0
  accepted := 0
  executed := 0
  rejected := 0
  callbackComputeTotalNs := 0
  callbackAccountingTotalNs := 0
  callbackCombinedTotalNs := 0
  zeroTaskWorkers := 0
  arrays _ _ := 0
  endToEnd _ := 0

/-- `result->array[index] = value`. -/
def IterationResult.store (array : ProfilingArray) (index value : ℕ) (result : IterationResult) :
    Traced Access IterationResult := do
  note [⟨array, index⟩]
  return { result with
    arrays := Function.update result.arrays array
      (Function.update (result.arrays array) index value) }

/-! ## The workers' slots -/

/-- One round of the loop over the workers; the second component is `total_tasks`. -/
def copyWorker (k : CallbackCounters) (index : ℕ) (state : IterationResult × ℕ) :
    Traced Access (IterationResult × ℕ) := do
  let (result, totalTasks) := state
  note (accesses [.callbackTasks, .callbackComputeNs, .callbackAccountingNs, .callbackCombinedNs,
    .callbackChecksums] index)
  let result ← result.store .workerTasks index (k.workerTasks index)
  let result ← result.store .workerComputeNs index (k.workerComputeNs index)
  let result ← result.store .workerAccountingNs index (k.workerAccountingNs index)
  let result ← result.store .workerCombinedNs index (k.workerCombinedNs index)
  let result ← result.store .workerChecksums index (k.workerChecksums index).toNat
  return ({ result with
      callbackComputeTotalNs := sizeAdd result.callbackComputeTotalNs (k.workerComputeNs index)
      callbackAccountingTotalNs :=
        sizeAdd result.callbackAccountingTotalNs (k.workerAccountingNs index)
      callbackCombinedTotalNs := sizeAdd result.callbackCombinedTotalNs (k.workerCombinedNs index)
      zeroTaskWorkers :=
        if k.workerTasks index = 0 then sizeIncrement result.zeroTaskWorkers
        else result.zeroTaskWorkers },
    sizeAdd totalTasks (k.workerTasks index))

/-- The block of `run_iteration` for profiling builds, with the `total_tasks` check. Its second
loop computes `worker_task_cv`, which is floating point. -/
def profileWorkers (b : Benchmark) (k : CallbackCounters) (result : IterationResult) :
    Traced Access IterationResult := do
  let (result, totalTasks) ← forRange (copyWorker k) b.config.workers (result, 0)
  demand (totalTasks = if b.config.accounting = .partitioned then k.partitionedExecutionCount
    else k.executionCount)
  forRange (fun index _ => note [⟨.workerTasks, index⟩]) b.config.workers ()
  return result

/-! ## validate_execution -/

/-- What `validate_execution` reads of `ProducerContext`. -/
structure ProducerContext where
  start : ℕ
  finish : ℕ
  accepted : ℕ
  rejected : ℕ
  firstError : SchedulerResult
  threadSucceeded : Bool

/-- `checked_add_size`. -/
def checkedAddSize (left right : ℕ) : Option ℕ :=
  if sizeMax - left < right then none else some (left + right)

/-- What a producer leaves behind in the iteration. `allocated` tells for which producers
`calculate_statistics` gets its buffer. -/
structure ProducerOutcomes where
  context : ℕ → ProducerContext
  submissionLatencies : ℕ → ℕ
  allocated : ℕ → Bool

/-- The latencies of one producer's submissions. -/
def ProducerOutcomes.latencies (p : ProducerOutcomes) (producer : ℕ) : List ℕ :=
  (List.range' (p.context producer).start
    ((p.context producer).finish - (p.context producer).start)).map p.submissionLatencies

/-- The part of a round that only profiling builds have. -/
def profileProducer (p : ProducerOutcomes) (producer : ℕ) (result : IterationResult) :
    Traced Access IterationResult := do
  let context := p.context producer
  let latencies := p.latencies producer
  let statistics ← ofOption (calculateStatistics latencies (p.allocated producer))
  let result ← result.store .producerAttempted producer (context.finish - context.start)
  let result ← result.store .producerAccepted producer context.accepted
  let result ← result.store .producerRejected producer context.rejected
  let result ← result.store .producerSubmitTotalNs producer
    (latencies.foldl sizeAdd (result.arrays .producerSubmitTotalNs producer))
  let result ← result.store .producerSubmitMinNs producer statistics.minimum
  let result ← result.store .producerSubmitMaxNs producer statistics.maximum
  let result ← result.store .producerSubmitP50Ns producer statistics.p50
  result.store .producerSubmitP95Ns producer statistics.p95

/-- One round of the loop over the producers. -/
def validateProducer (profiling : Bool) (p : ProducerOutcomes) (producer : ℕ)
    (result : IterationResult) : Traced Access IterationResult := do
  let context := p.context producer
  let accepted ← ofOption (checkedAddSize result.accepted context.accepted)
  let rejected ← ofOption (checkedAddSize result.rejected context.rejected)
  demand (context.threadSucceeded = true ∧ context.firstError = .ok)
  if profiling = true then profileProducer p producer { result with accepted, rejected }
  else return { result with accepted, rejected }

/-- One round of the loop over the Tasks in validated mode. -/
def validateTask (b : Benchmark) (k : CallbackCounters) (index : ℕ) (result : IterationResult) :
    Traced Access IterationResult := do
  demand (k.executionCounts index = 1 ∧ ¬k.completionTicks index < b.submissionTicks index)
  let duration ← ofOption
    (benchmarkTimerDurationNs b.timer (b.submissionTicks index) (k.completionTicks index))
  return { result with endToEnd := Function.update result.endToEnd index duration }

/-- The loop over the Tasks. -/
def validateTasks (b : Benchmark) (k : CallbackCounters) (result : IterationResult) :
    Traced Access IterationResult :=
  if b.config.mode = .validated then forRange (validateTask b k) b.config.tasks result
  else return result

/-- `expected_checksum`. -/
def expectedChecksum (b : Benchmark) : UInt64 :=
  (List.range b.config.tasks).foldl
    (fun checksum index => checksum ^^^ contribution b (b.taskAddress index)) 0

/-- The gate's own condition for partitioned accounting. -/
def Benchmark.partitioned (b : Benchmark) : Bool :=
  b.profiling && b.config.accounting = .partitioned

/-- `observed_checksum`. -/
def observedChecksum (b : Benchmark) (k : CallbackCounters) : Traced Access UInt64 :=
  if b.partitioned = true then
    forRange (fun index checksum => do
      note [⟨.callbackChecksums, index⟩]
      return checksum ^^^ k.workerChecksums index) b.config.workers 0
  else return k.checksum

/-- What `validate_execution` does with the counters of the callback. -/
def validateCounters (b : Benchmark) (k : CallbackCounters) (result : IterationResult) :
    Traced Access IterationResult := do
  let executed := if b.partitioned = true then k.partitionedExecutionCount else k.executionCount
  demand ((if b.partitioned = true then k.partitionedFailure else k.failure) = false
    ∧ (if b.partitioned = true then k.partitionedUnknownCount else k.unknownCount) = 0
    ∧ (if b.partitioned = true then k.partitionedDuplicateCount else k.duplicateCount) = 0
    ∧ result.accepted = executed
    ∧ result.attempted = sizeAdd result.accepted result.rejected)
  let result ← validateTasks b k { result with executed }
  let observed ← observedChecksum b k
  demand (expectedChecksum b = observed)
  return result

/-- `validate_execution`; no value means that it returns `false`. -/
def validateExecution (b : Benchmark) (p : ProducerOutcomes) (k : CallbackCounters)
    (result : IterationResult) : Traced Access IterationResult := do
  let result ← forRange (validateProducer b.profiling p) b.config.producers
    { result with attempted := b.config.tasks }
  validateCounters b k result

end SchedulingEngine
