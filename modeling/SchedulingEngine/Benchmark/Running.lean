import SchedulingEngine.Benchmark.Books
import SchedulingEngine.Benchmark.Iteration

/-!
# From main to the iterations (benchmark_scheduler.c)

`main` prints the help, runs the self-test or runs the benchmark; `run_benchmark` runs the
warm-up and the measured iterations and writes the tables by worker and by producer. Here they
are computations over the answers of everything they call: allocation, threads, timer, files and
the schedule of the workers. As before, each element of a profiling array that is read or
written is an event.
-/

namespace SchedulingEngine

open Concurrency Concurrency.Program Tracing Tracing.Traced

/-! ## The workers of an iteration -/

/-- What a callback touches on its way from `pc` to `pc'`. The timer converts all readings, so
the section under the mutex gets to the durations. -/
def slotsTouched (slot : ℕ) : CallbackPc → CallbackPc → List Access
  | .partitioned .sum _, _ => accesses [.callbackTasks, .callbackChecksums] slot
  | .partitioned .time _, _ =>
    accesses [.callbackComputeNs, .callbackAccountingNs, .callbackCombinedNs] slot
  | .lock _, .unlock | .woken _, .unlock =>
    accesses [.callbackTasks, .callbackChecksums, .callbackComputeNs, .callbackAccountingNs,
      .callbackCombinedNs] slot
  | _, _ => []

/-- A run of the workers from `start`. -/
structure CallbackRun (b : Benchmark) (start : BenchmarkPool b) where
  schedule : List (BenchmarkThread b × CallbackChoice)
  state : BenchmarkPool b
  reached : (benchmarkProgram b).run schedule start = some state

section Runs

variable {b : Benchmark} {start : BenchmarkPool b}

/-- The array elements that the callbacks touch. -/
def CallbackRun.touched (run : CallbackRun b start) : List Access :=
  (benchmarkProgram b).log (fun s t s' => slotsTouched (workerSlot t) (s.pc t) (s'.pc t))
    run.schedule start

/-- The Tasks passed to the callbacks. -/
def CallbackRun.passed (run : CallbackRun b start) : List ℕ :=
  (benchmarkProgram b).log passedTasks run.schedule start

/-- The part of `abort_producers` under the mutex of the callbacks; the controller does not
release them any more. -/
def abortCallbacks (s : BenchmarkPool b) : BenchmarkPool b where
  shared :=
    { s.shared with
      counters := { s.shared.counters with failure := true }
      blockingReleased := true }
  pc
    | some worker => (s.pc (some worker)).wake
    | none => .released

end Runs

/-- The workers of an iteration, in a profiling build. -/
structure IterationWorkers (config : BenchmarkConfig) where
  benchmark : Benchmark
  profiling : benchmark.profiling = true
  config_eq : benchmark.config = config
  run : CallbackRun benchmark (benchmarkInitial benchmark)

/-- The readings of the timer in `run_iteration`. -/
structure IterationReadings where
  totalStart : ℕ
  submitEnd : ℕ
  shutdownStart : ℕ
  shutdownEnd : ℕ
  joinStart : ℕ
  totalEnd : ℕ

/-- The four durations can be converted. -/
def IterationReadings.Convert (readings : IterationReadings) (timer : BenchmarkTimer) : Prop :=
  (benchmarkTimerDurationNs timer readings.totalStart readings.submitEnd).isSome = true
    ∧ (benchmarkTimerDurationNs timer readings.shutdownStart readings.shutdownEnd).isSome = true
    ∧ (benchmarkTimerDurationNs timer readings.joinStart readings.totalEnd).isSome = true
    ∧ (benchmarkTimerDurationNs timer readings.totalStart readings.totalEnd).isSome = true

instance (readings : IterationReadings) (timer : BenchmarkTimer) :
    Decidable (readings.Convert timer) := inferInstanceAs (Decidable (_ ∧ _))

/-- What `run_iteration` is answered once the scheduler was joined. -/
structure IterationAnswers where
  /-- The runtime snapshot is taken, its other counters are as expected, and it validates. -/
  runtimeSnapshot : Bool
  /-- The profiling snapshot is taken, and its timing did not fail nor its counters overflow. -/
  profilingSnapshot : Bool
  readings : IterationReadings
  producers : ProducerOutcomes
  submitBuffer : Bool
  endToEndBuffer : Bool
  destroyed : Bool

/-- How far an iteration gets. -/
inductive Iteration (config : BenchmarkConfig) where
  /-- Something failed before the workers were started. -/
  | refused
  /-- Shutting down or joining the scheduler failed, or the timer did. -/
  | unfinished (workers : IterationWorkers config)
  /-- It was left through `abort_producers`; the workers go on until they are joined. -/
  | aborted (workers : IterationWorkers config)
    (rest : CallbackRun workers.benchmark (abortCallbacks workers.run.state))
  | joined (workers : IterationWorkers config) (finished : IterationOver workers.run.state)
    (answers : IterationAnswers)

/-! ## run_iteration -/

/-- The sizes that `run_iteration` checks before it allocates, and `concurrent_task_queue_init`
after it. -/
def SizesFit (config : BenchmarkConfig) : Prop :=
  config.tasks ≤ sizeMax / taskSize ∧ config.tasks ≤ sizeMax / 4 ∧ config.tasks ≤ sizeMax / 8
    ∧ config.producers ≤ sizeMax / 88 ∧ config.producers ≤ sizeMax / 8
    ∧ config.capacity ≤ sizeMax / 8

instance (config : BenchmarkConfig) : Decidable (SizesFit config) :=
  inferInstanceAs (Decidable (_ ∧ _))

/-- The ranges that `run_iteration` gives its producers. -/
def assignRanges (config : BenchmarkConfig) (p : ProducerOutcomes) : ProducerOutcomes :=
  { p with
    context := fun producer =>
      { p.context producer with
        start := producerBegin config.tasks config.producers producer
        finish := producerEnd config.tasks config.producers producer } }

/-- `run_iteration` from the snapshots on. `scheduler_profiling_snapshot` refuses more workers
than its arrays have entries. -/
def finishIteration (config : BenchmarkConfig) (workers : IterationWorkers config)
    (answers : IterationAnswers) : Traced Access IterationResult := do
  let counters := workers.run.state.shared.counters
  let producers := assignRanges config answers.producers
  demand (workers.run.passed.length = config.tasks ∧ answers.runtimeSnapshot = true)
  demand (config.workers ≤ benchmarkMaxWorkers ∧ answers.profilingSnapshot = true)
  let result ← profileWorkers workers.benchmark counters emptyResult
  demand (answers.readings.Convert workers.benchmark.timer)
  let result ← validateExecution workers.benchmark producers counters result
  let _ ← ofOption (calculateStatistics
    ((List.range config.tasks).map producers.submissionLatencies) answers.submitBuffer)
  demand (config.mode = .validated → (calculateStatistics
    ((List.range config.tasks).map result.endToEnd) answers.endToEndBuffer).isSome = true)
  demand (answers.destroyed = true)
  return result

/-- `run_iteration`; no value means that it returns `false`. -/
def runIteration (config : BenchmarkConfig) (iteration : Iteration config) :
    Traced Access IterationResult := do
  demand (SizesFit config)
  match iteration with
  | .refused => ofOption none
  | .unfinished workers =>
    note workers.run.touched
    ofOption none
  | .aborted workers rest =>
    note (workers.run.touched ++ rest.touched)
    ofOption none
  | .joined workers _ answers =>
    note workers.run.touched
    finishIteration config workers answers

/-! ## run_benchmark -/

/-- What `run_benchmark` is answered. -/
structure BenchmarkAnswers (config : BenchmarkConfig) where
  allocated : Bool
  warmup : ℕ → Iteration config
  opened : Bool
  measured : ℕ → Iteration config
  row : ℕ → Bool
  workerRow : ℕ → ℕ → Bool
  producerRow : ℕ → ℕ → Bool
  summarized : Bool

/-- One line of the table by worker. -/
def writeWorkerRow (written : Bool) (item : ℕ) : Traced Access Unit := do
  note (accesses [.profilingDequeueWaitTicks, .profilingDequeueLockTicks, .workerTasks,
    .profilingTasks, .profilingDequeueWaitCount, .workerComputeNs, .workerAccountingNs,
    .workerCombinedNs] item)
  demand (written = true)

/-- One line of the table by producer. -/
def writeProducerRow (written : Bool) (item : ℕ) : Traced Access Unit := do
  note (accesses [.producerAttempted, .producerAccepted, .producerRejected,
    .producerSubmitTotalNs, .producerSubmitMinNs, .producerSubmitMaxNs, .producerSubmitP50Ns,
    .producerSubmitP95Ns] item)
  demand (written = true)

/-- One measured iteration. -/
def measuredIteration (config : BenchmarkConfig) (answers : BenchmarkAnswers config) (index : ℕ) :
    Traced Access Unit := do
  let _ ← runIteration config (answers.measured index)
  demand (answers.row index = true)
  forRange (fun item _ => writeWorkerRow (answers.workerRow index item) item) config.workers ()
  forRange (fun item _ => writeProducerRow (answers.producerRow index item) item)
    config.producers ()

/-- `run_benchmark`. The arrays by iteration are not allocated if their size overflows. -/
def runBenchmark (config : BenchmarkConfig) (answers : BenchmarkAnswers config) :
    Traced Access Unit := do
  demand (config.iterations ≤ sizeMax / 8 ∧ answers.allocated = true)
  forRange (fun index _ => do
    let _ ← runIteration config (answers.warmup index)
    return ()) config.warmup ()
  demand (answers.opened = true)
  forRange (fun index _ => measuredIteration config answers index) config.iterations ()
  demand (answers.summarized = true)

/-! ## main -/

/-- The configuration of the self-test's iteration. -/
def selfTestConfig : BenchmarkConfig where
  scenario := "throughput"
  profile := .noop
  mode := .validated
  accounting := .standard
  workers := 1
  producers := 1
  capacity := 2
  tasks := 8
  warmup := 1
  iterations := 1
  output := "self-test-unused.csv"

/-- What the self-test is answered. -/
structure SelfTestAnswers where
  /-- Everything before the callbacks succeeds. -/
  prepared : Bool
  /-- The callback's result is as expected. -/
  expected : ℕ → Bool
  counted : Bool
  iteration : Iteration selfTestConfig

/-- `self_test`: three callbacks outside any worker, which use slot 0, and an iteration. -/
def selfTest (answers : SelfTestAnswers) : Traced Access Unit := do
  demand (answers.prepared = true)
  forRange (fun call _ => do
    note (accesses [.callbackTasks, .callbackChecksums, .callbackComputeNs,
      .callbackAccountingNs, .callbackCombinedNs] 0)
    demand (answers.expected call = true)) 3 ()
  demand (answers.counted = true)
  let result ← runIteration selfTestConfig answers.iteration
  demand (result.accepted = selfTestConfig.tasks ∧ result.executed = selfTestConfig.tasks
    ∧ result.rejected = 0)

/-- What the program is answered after the command line. -/
structure ProgramAnswers (config : BenchmarkConfig) where
  selfTest : SelfTestAnswers
  benchmark : BenchmarkAnswers config

/-- `main` after `parse_arguments`; no value means `EXIT_FAILURE`. -/
def benchmarkMain (parsed : ParsedArguments) (answers : ProgramAnswers parsed.config) :
    Traced Access Unit :=
  if parsed.helpRequested = true then return ()
  else if parsed.selfTestRequested = true then selfTest answers.selfTest
  else runBenchmark parsed.config answers.benchmark

end SchedulingEngine
