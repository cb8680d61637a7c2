import SchedulingEngine.Benchmark.FullRun
import SchedulingEngine.Benchmark.Gate
import SchedulingEngine.Benchmark.Running

/-!
# The indices of the profiling arrays (benchmark_scheduler.c)

The arrays by worker and by producer have `SCHEDULER_PROFILING_MAX_WORKERS` entries, and the
command line bounds neither count. By worker, every index is in range: a callback clamps its
slot, and the other loops come after the profiling snapshot, which refuses more workers than
entries. By producer, the loop of `validate_execution` checks nothing. It is reached unless
something before it fails: the sizes, the profiling snapshot, or the `total_tasks` check with
partitioned accounting and the controlled profile.

`indices_guarded_iff`: the indices are in range, and larger counts fail first, exactly if the
command line does not get there with more producers than entries.
-/

namespace SchedulingEngine

open Concurrency Concurrency.Program Tracing Tracing.Traced

/-- The element is there. -/
def Access.InRange (e : Access) : Prop := e.index < benchmarkMaxWorkers

/-- One index, in whichever arrays. -/
theorem accesses_inRange {index : ℕ} (h : index < benchmarkMaxWorkers)
    (arrays : List ProfilingArray) : ∀ e ∈ accesses arrays index, e.InRange := by
  intro e he
  obtain ⟨array, -, rfl⟩ := List.mem_map.mp he
  exact h

/-! ## Guarded accesses -/

section Guarded

variable {b : Benchmark} {p : ProducerOutcomes} {k : CallbackCounters} {index : ℕ}

/-- A callback clamps its slot. -/
theorem workerSlot_inRange (t : BenchmarkThread b) : workerSlot t < benchmarkMaxWorkers := by
  unfold workerSlot
  cases t with
  | none => exact (by decide : 0 < benchmarkMaxWorkers)
  | some worker =>
    show (if worker.val ≥ benchmarkMaxWorkers then 0 else worker.val) < benchmarkMaxWorkers
    by_cases hlarge : worker.val ≥ benchmarkMaxWorkers
    · rw [if_pos hlarge]
      decide
    · rw [if_neg hlarge]
      exact Nat.lt_of_not_le hlarge

/-- The steps of a callback write in its own slot. -/
theorem slotsTouched_inRange {slot : ℕ} (h : slot < benchmarkMaxWorkers) (pc pc' : CallbackPc) :
    ∀ e ∈ slotsTouched slot pc pc', e.InRange := by
  unfold slotsTouched
  split
  · exact accesses_inRange h _
  · exact accesses_inRange h _
  · exact accesses_inRange h _
  · exact accesses_inRange h _
  · rintro e ⟨⟩

/-- So do all callbacks of a run. -/
theorem CallbackRun.touched_inRange {start : BenchmarkPool b} (run : CallbackRun b start) :
    ∀ e ∈ run.touched, e.InRange := by
  intro e he
  obtain ⟨s, t, s', hmem⟩ := mem_log he
  exact slotsTouched_inRange (workerSlot_inRange t) _ _ e hmem

theorem within_store {array : ProfilingArray} {value : ℕ} (h : index < benchmarkMaxWorkers)
    (result : IterationResult) : Within Access.InRange (result.store array index value) :=
  Within.bind (within_note (List.forall_mem_singleton.mpr h)) fun _ _ => within_pure _

theorem within_copyWorker (h : index < benchmarkMaxWorkers) (state : IterationResult × ℕ) :
    Within Access.InRange (copyWorker k index state) := by
  refine Within.bind (within_note (accesses_inRange h _)) fun _ _ => ?_
  refine (within_store h _).bind fun _ _ => ?_
  refine (within_store h _).bind fun _ _ => ?_
  refine (within_store h _).bind fun _ _ => ?_
  refine (within_store h _).bind fun _ _ => ?_
  exact (within_store h _).bind fun _ _ => within_pure _

/-- The copy of the workers' counters stays in range for every accepted worker count. -/
theorem within_profileWorkers (h : b.config.workers ≤ benchmarkMaxWorkers)
    (result : IterationResult) : Within Access.InRange (profileWorkers b k result) := by
  refine (within_forRange (fun index hindex => ?_) _).bind fun _ _ => ?_
  · exact within_copyWorker (hindex.trans_le h)
  refine (within_demand _).bind fun _ _ => ?_
  refine (within_forRange (fun index hindex _ => ?_) _).bind fun _ _ => within_pure _
  exact within_note (List.forall_mem_singleton.mpr (hindex.trans_le h))

theorem within_profileProducer (h : index < benchmarkMaxWorkers) (result : IterationResult) :
    Within Access.InRange (profileProducer p index result) := by
  refine (within_ofOption _).bind fun _ _ => ?_
  refine (within_store h _).bind fun _ _ => ?_
  refine (within_store h _).bind fun _ _ => ?_
  refine (within_store h _).bind fun _ _ => ?_
  refine (within_store h _).bind fun _ _ => ?_
  refine (within_store h _).bind fun _ _ => ?_
  refine (within_store h _).bind fun _ _ => ?_
  exact (within_store h _).bind fun _ _ => within_store h _

theorem within_validateProducer {profiling : Bool} (h : index < benchmarkMaxWorkers)
    (result : IterationResult) :
    Within Access.InRange (validateProducer profiling p index result) := by
  refine (within_ofOption _).bind fun _ _ => ?_
  refine (within_ofOption _).bind fun _ _ => ?_
  refine (within_demand _).bind fun _ _ => ?_
  exact .ite (fun _ => within_profileProducer h _) fun _ => within_pure _

/-- The loop over the Tasks touches no profiling array. -/
theorem within_validateTasks {P : Access → Prop} (result : IterationResult) :
    Within P (validateTasks b k result) := by
  refine .ite (fun _ => within_forRange (fun index _ result => ?_) _) fun _ => within_pure _
  refine (within_demand _).bind fun _ _ => ?_
  exact (within_ofOption _).bind fun _ _ => within_pure _

/-- The check of the workers' counters stays in range too. -/
theorem within_validateCounters (h : b.config.workers ≤ benchmarkMaxWorkers)
    (result : IterationResult) : Within Access.InRange (validateCounters b k result) := by
  refine (within_demand _).bind fun _ _ => ?_
  refine (within_validateTasks _).bind fun _ _ => ?_
  refine Within.bind ?_ fun _ _ => (within_demand _).bind fun _ _ => within_pure _
  refine .ite (fun _ => within_forRange (fun index hindex _ => ?_) _) fun _ => within_pure _
  exact Within.bind (within_note (List.forall_mem_singleton.mpr (hindex.trans_le h)))
    fun _ _ => within_pure _

/-- The checks after the run reach both kinds of arrays. -/
theorem within_validateExecution (hworkers : b.config.workers ≤ benchmarkMaxWorkers)
    (hproducers : b.config.producers ≤ benchmarkMaxWorkers) (result : IterationResult) :
    Within Access.InRange (validateExecution b p k result) := by
  refine (within_forRange (fun producer hproducer => ?_) _).bind fun _ _ => ?_
  · exact within_validateProducer (hproducer.trans_le hproducers)
  · exact within_validateCounters hworkers _

end Guarded

/-! ## What an iteration checks before its producers -/

/-- The configuration gets as far as the loop over the producers. -/
structure ReachesProducers (config : BenchmarkConfig) : Prop where
  sizes : SizesFit config
  workers : config.workers ≤ benchmarkMaxWorkers
  matched : ¬(config.accounting = .partitioned ∧ config.profile = .controlledBlocking)

section Iterations

variable {config : BenchmarkConfig} {workers : IterationWorkers config}

/-- What a check let through. -/
theorem demand_value {c : Prop} [Decidable c] {u : Unit}
    (h : (demand c : Traced Access Unit).value = some u) : c := by
  rw [value_demand, Option.ite_none_right_eq_some] at h
  exact h.1

/-- With partitioned accounting and the controlled profile, the sum of the slots is compared with
a counter that nobody wrote. -/
theorem profileWorkers_matched (hover : IterationOver workers.run.state)
    (hpassed : workers.run.passed.length = config.tasks) {result result' : IterationResult}
    (h : (profileWorkers workers.benchmark workers.run.state.shared.counters result).value
      = some result') :
    ¬(config.accounting = .partitioned ∧ config.profile = .controlledBlocking) := by
  obtain ⟨b, hprofiling, rfl, run⟩ := workers
  rintro ⟨haccounting, hprofile⟩
  have hbooks := (books_of_run run.reached).settled_standard hover
    (Mismatched.partitions ⟨hprofiling, haccounting, hprofile⟩)
  obtain ⟨_, -, -, hvalue⟩ := profileWorkers_value b run.state.shared.counters result
  rw [hvalue, if_pos haccounting, Option.ite_none_right_eq_some, hbooks.slots hprofiling,
    hbooks.unused, Multiset.coe_card] at h
  have hlength : run.passed.length % 2 ^ 64 = 0 := h.1
  have hpassed : run.passed.length = b.config.tasks := hpassed
  have htasks := b.tasks_lt
  have hpos := b.accepted.counts.tasks.1
  unfold sizeMax at htasks
  omega

/-- What follows the run of an iteration stays in range. -/
theorem within_finishIteration (hover : IterationOver workers.run.state)
    {answers : IterationAnswers} (hsizes : SizesFit config)
    (h : ReachesProducers config → config.producers ≤ benchmarkMaxWorkers) :
    Within Access.InRange (finishIteration config workers answers) := by
  have hworkers_eq := congrArg BenchmarkConfig.workers workers.config_eq
  have hproducers_eq := congrArg BenchmarkConfig.producers workers.config_eq
  refine (within_demand _).bind fun _ hruntime => ?_
  refine (within_demand _).bind fun _ hprofiling => ?_
  have hworkers := (demand_value hprofiling).1
  refine (within_profileWorkers (hworkers_eq.trans_le hworkers) _).bind fun result hresult => ?_
  have hmatched := profileWorkers_matched hover (demand_value hruntime).1 hresult
  have hproducers := h ⟨hsizes, hworkers, hmatched⟩
  refine (within_demand _).bind fun _ _ => ?_
  refine (within_validateExecution (hworkers_eq.trans_le hworkers)
    (hproducers_eq.trans_le hproducers) _).bind fun _ _ => ?_
  refine (within_ofOption _).bind fun _ _ => ?_
  refine (within_demand _).bind fun _ _ => ?_
  exact (within_demand _).bind fun _ _ => within_pure _

/-- **An iteration is in range** unless it gets to its producers with too many of them. -/
theorem within_runIteration (iteration : Iteration config)
    (h : ReachesProducers config → config.producers ≤ benchmarkMaxWorkers) :
    Within Access.InRange (runIteration config iteration) := by
  refine (within_demand _).bind fun _ hsizes => ?_
  cases iteration with
  | refused => exact within_ofOption _
  | unfinished workers =>
    exact Within.bind (within_note workers.run.touched_inRange) fun _ _ => within_ofOption _
  | aborted workers rest =>
    refine Within.bind (within_note fun e he => ?_) fun _ _ => within_ofOption _
    rcases List.mem_append.mp he with he | he
    · exact workers.run.touched_inRange e he
    · exact rest.touched_inRange e he
  | joined workers finished answers =>
    refine Within.bind (within_note workers.run.touched_inRange) fun _ _ => ?_
    exact within_finishIteration finished (demand_value hsizes) h

/-- An iteration that succeeds got to its producers. -/
theorem runIteration_reaches {iteration : Iteration config} {result : IterationResult}
    (h : (runIteration config iteration).value = some result) : ReachesProducers config := by
  obtain ⟨_, hsizes, h⟩ := Option.bind_eq_some_iff.mp h
  cases iteration with
  | refused => cases h
  | unfinished workers => cases h
  | aborted workers rest => cases h
  | joined workers finished answers =>
    simp only [value_bind, value_note, Option.bind_some, finishIteration,
      Option.bind_eq_some_iff] at h
    obtain ⟨_, hruntime, _, hprofiling, result', hresult, -⟩ := h
    exact ⟨demand_value hsizes, (demand_value hprofiling).1,
      profileWorkers_matched finished (demand_value hruntime).1 hresult⟩

end Iterations

/-! ## The benchmark and the self-test -/

section Benchmarks

variable {config : BenchmarkConfig} {answers : BenchmarkAnswers config}

/-- So does a whole iteration. -/
theorem within_measuredIteration
    (h : ReachesProducers config → config.producers ≤ benchmarkMaxWorkers) (index : ℕ) :
    Within Access.InRange (measuredIteration config answers index) := by
  refine (within_runIteration _ h).bind fun _ hresult => ?_
  have hreaches := runIteration_reaches hresult
  refine (within_demand _).bind fun _ _ => ?_
  refine (within_forRange (fun item hitem _ => ?_) _).bind fun _ _ => ?_
  · have hrange := accesses_inRange (hitem.trans_le hreaches.workers)
    exact Within.bind (within_note (hrange _)) fun _ _ => within_demand _
  · refine within_forRange (fun item hitem _ => ?_) _
    have hrange := accesses_inRange (hitem.trans_le (h hreaches))
    exact Within.bind (within_note (hrange _)) fun _ _ => within_demand _

/-- And all of them. -/
theorem within_runBenchmark (h : config.iterations ≤ sizeMax / 8 → ReachesProducers config →
      config.producers ≤ benchmarkMaxWorkers) :
    Within Access.InRange (runBenchmark config answers) := by
  refine (within_demand _).bind fun _ hallocated => ?_
  have h := h (demand_value hallocated).1
  refine (within_forRange (fun index _ _ => ?_) _).bind fun _ _ => ?_
  · exact (within_runIteration _ h).bind fun _ _ => within_pure _
  refine (within_demand _).bind fun _ _ => ?_
  refine (within_forRange (fun index _ _ => ?_) _).bind fun _ _ => within_demand _
  exact within_measuredIteration h index

/-- A benchmark that succeeds got to the producers of an iteration. -/
theorem runBenchmark_reaches (hwarmup : 0 < config.warmup) {u : Unit}
    (h : (runBenchmark config answers).value = some u) :
    config.iterations ≤ sizeMax / 8 ∧ ReachesProducers config := by
  simp only [runBenchmark, value_bind, Option.bind_eq_some_iff] at h
  obtain ⟨_, hallocated, _, hloop, -⟩ := h
  obtain ⟨index, _, hiteration⟩ := forRange_some hwarmup hloop
  obtain ⟨result, hresult, -⟩ := Option.bind_eq_some_iff.mp hiteration
  exact ⟨(demand_value hallocated).1, runIteration_reaches hresult⟩

/-- The self test has fixed counts. -/
theorem within_selfTest (answers : SelfTestAnswers) :
    Within Access.InRange (selfTest answers) := by
  refine (within_demand _).bind fun _ _ => ?_
  refine (within_forRange (fun call _ _ => ?_) _).bind fun _ _ => ?_
  · have hfirst : 0 < benchmarkMaxWorkers := by decide
    exact Within.bind (within_note (accesses_inRange hfirst _)) fun _ _ => within_demand _
  refine (within_demand _).bind fun _ _ => ?_
  refine (within_runIteration _ fun _ => ?_).bind fun _ _ => within_demand _
  decide

end Benchmarks

/-! ## More producers than entries -/

section Overrun

variable {config : BenchmarkConfig}

/-- Every submission of every producer is accepted, in no time. -/
def acceptingProducers (config : BenchmarkConfig) : ProducerOutcomes where
  context producer :=
    { start := 0
      finish := 0
      accepted := producerEnd config.tasks config.producers producer
        - producerBegin config.tasks config.producers producer
      rejected := 0
      firstError := .ok
      threadSucceeded := true }
  submissionLatencies _ := 0
  allocated _ := true

/-- Nothing fails after the workers were joined. -/
def quietAnswers (config : BenchmarkConfig) : IterationAnswers where
  runtimeSnapshot := true
  profilingSnapshot := true
  readings := ⟨0, 0, 0, 0, 0, 0⟩
  producers := acceptingProducers config
  submitBuffer := true
  endToEndBuffer := true
  destroyed := true

theorem acceptingProducers_accepted (b : Benchmark) :
    AllAccepted b (assignRanges b.config (acceptingProducers b.config)) :=
  ⟨fun _ _ => rfl, fun _ _ => rfl, fun _ _ => rfl, fun _ _ => rfl, fun _ _ => rfl, fun _ _ => rfl⟩

/-- With so many producers the shares are small enough for `nearest_rank`. -/
theorem AllAccepted.fits_of_producers {b : Benchmark} {p : ProducerOutcomes}
    (h : AllAccepted b p) (hproducers : benchmarkMaxWorkers < b.config.producers)
    (hsizes : SizesFit b.config) :
    ∀ producer < b.config.producers, 95 * (p.context producer).accepted + 99 ≤ sizeMax := by
  intro producer hproducer
  have hshare := (h.share hproducer).1
  have hsucc := rangeBegin_succ b.config.tasks b.config.producers producer
  have htasks := hsizes.1
  have hle : b.config.tasks / b.config.producers ≤ b.config.tasks :=
    Nat.div_le_self _ _
  have hone : (if producer < b.config.tasks % b.config.producers then 1 else 0) ≤ 1 := by
    split <;> omega
  have hquotient : b.config.tasks / b.config.producers ≤ b.config.tasks / benchmarkMaxWorkers :=
    Nat.div_le_div_left hproducers.le (by decide)
  unfold benchmarkMaxWorkers at hquotient
  unfold taskSize sizeMax at htasks
  unfold sizeMax
  omega

/-- In a profiling build, a round that ends has written its entry. -/
theorem validateProducer_writes {p : ProducerOutcomes} {producer : ℕ}
    {result result' : IterationResult}
    (h : (validateProducer true p producer result).value = some result') :
    (⟨.producerAttempted, producer⟩ : Access) ∈
    (validateProducer true p producer result).trace := by
  obtain ⟨accepted, haccepted, h⟩ := Option.bind_eq_some_iff.mp h
  obtain ⟨rejected, hrejected, h⟩ := Option.bind_eq_some_iff.mp h
  obtain ⟨_, hchecked, h⟩ := Option.bind_eq_some_iff.mp h
  refine mem_bind_right haccepted (mem_bind_right hrejected (mem_bind_right hchecked ?_))
  rw [if_pos rfl] at h ⊢
  obtain ⟨statistics, hstatistics, -⟩ := Option.bind_eq_some_iff.mp h
  exact mem_bind_right hstatistics (mem_bind_left (List.mem_singleton_self _))

/-- The loop over the producers writes behind the end of the arrays. -/
theorem validateExecution_overruns {b : Benchmark} {p : ProducerOutcomes} {k : CallbackCounters}
    (hprofiling : b.profiling = true) (hproducers : benchmarkMaxWorkers < b.config.producers)
    (hsizes : SizesFit b.config) (h : AllAccepted b p) (hallocated : p.Allocated)
    {result : IterationResult} (haccepted : result.accepted = 0) (hrejected : result.rejected = 0) :
    (⟨.producerAttempted, benchmarkMaxWorkers⟩ : Access)
      ∈ (validateExecution b p k result).trace := by
  have hfits := h.fits_of_producers hproducers hsizes
  let result₀ : IterationResult := { result with attempted := b.config.tasks }
  obtain ⟨arrays, hvalue⟩ := validateProducers_value h hallocated hfits
    (show result₀.accepted = 0 from haccepted) hrejected hproducers.le
  obtain ⟨_, hround⟩ := validateProducer_value h hallocated hproducers (hfits _ hproducers)
    { result₀ with
      accepted := rangeBegin b.config.tasks b.config.producers benchmarkMaxWorkers
      arrays } rfl hrejected
  refine mem_bind_left (mem_forRange hproducers (mem_bind_right hvalue ?_))
  rw [hprofiling] at hround ⊢
  exact validateProducer_writes hround

/-- An iteration in which every Task is passed to the callback once and nothing fails. -/
theorem exists_overrun (haccepted : config.Accepted)
    (hproducers : benchmarkMaxWorkers < config.producers) (h : ReachesProducers config) :
    ∃ iteration : Iteration config, (⟨.producerAttempted, benchmarkMaxWorkers⟩ : Access)
      ∈ (runIteration config iteration).trace := by
  let b := stillBenchmark config haccepted h.sizes.1
  obtain ⟨schedule, state, hrun, hover, hpassed⟩ :=
    exists_full_run (b := b) rfl stillBenchmark_submitted
  let workers : IterationWorkers config := ⟨b, rfl, rfl, ⟨schedule, state, hrun⟩⟩
  have hlength : workers.run.passed.length = config.tasks := by
    show ((benchmarkProgram b).log passedTasks schedule (benchmarkInitial b)).length = _
    rw [hpassed, List.length_map, List.length_range]
    rfl
  have hmatched : ¬Mismatched b := fun hmismatched => h.matched hmismatched.2
  -- The `total_tasks` check passes, so the loop is reached.
  obtain ⟨result, haccepted', hrejected, hvalue⟩ :=
    profileWorkers_value b state.shared.counters emptyResult
  have hslots := (books_of_run hrun).slotTasks_eq hover hmatched rfl (by
    rw [Multiset.coe_card]
    exact hlength.trans_le b.tasks_le)
  rw [if_pos hslots] at hvalue
  have hconvert : (quietAnswers config).readings.Convert b.timer := by
    have hzero := b.durations 0 0 (Nat.le_refl 0) (Nat.zero_le _)
    exact ⟨hzero, hzero, hzero, hzero⟩
  refine ⟨.joined workers hover (quietAnswers config), ?_⟩
  refine mem_bind_right (if_pos h.sizes) (mem_bind_right rfl ?_)
  refine mem_bind_right (if_pos ⟨hlength, rfl⟩) (mem_bind_right (if_pos ⟨h.workers, rfl⟩) ?_)
  refine mem_bind_right hvalue (mem_bind_right (if_pos hconvert) (mem_bind_left ?_))
  exact validateExecution_overruns rfl hproducers h.sizes (acceptingProducers_accepted b)
    (fun _ => rfl) haccepted' hrejected

end Overrun

/-! ## The command line -/

/-- The indices of the profiling arrays stay in range whatever the program is answered, and with
more workers or producers than entries the benchmark fails. -/
structure IndicesGuarded (parsed : ParsedArguments) : Prop where
  inRange : ∀ answers, Within Access.InRange (benchmarkMain parsed answers)
  failsFirst : parsed.helpRequested = false → parsed.selfTestRequested = false →
    benchmarkMaxWorkers < parsed.config.workers ∨ benchmarkMaxWorkers < parsed.config.producers →
    ∀ answers, (benchmarkMain parsed answers).value = none

/-- The benchmark is run, and gets to its producers with more of them than entries. -/
structure Overruns (parsed : ParsedArguments) : Prop where
  help : parsed.helpRequested = false
  selfTest : parsed.selfTestRequested = false
  iterations : parsed.config.iterations ≤ sizeMax / 8
  reaches : ReachesProducers parsed.config
  producers : benchmarkMaxWorkers < parsed.config.producers

section CommandLine

variable {parsed : ParsedArguments}

/-- Without help and self test the program runs the benchmark. -/
theorem benchmarkMain_runs (hhelp : parsed.helpRequested = false)
    (hself : parsed.selfTestRequested = false) (answers : ProgramAnswers parsed.config) :
    benchmarkMain parsed answers = runBenchmark parsed.config answers.benchmark := by
  rw [benchmarkMain, hhelp, hself]
  rfl

/-- Then the first warm-up iteration writes out of range. -/
theorem Overruns.not_guarded (h : Overruns parsed) (haccepted : parsed.config.Accepted) :
    ¬IndicesGuarded parsed := by
  intro hguarded
  obtain ⟨iteration, hmem⟩ := exists_overrun haccepted h.producers h.reaches
  let answers : ProgramAnswers parsed.config :=
    { selfTest := ⟨true, fun _ => true, true, .refused⟩
      benchmark :=
        { allocated := true
          warmup := fun _ => iteration
          opened := true
          measured := fun _ => iteration
          row := fun _ => true
          workerRow := fun _ _ => true
          producerRow := fun _ _ => true
          summarized := true } }
  have hwritten : (⟨.producerAttempted, benchmarkMaxWorkers⟩ : Access)
      ∈ (benchmarkMain parsed answers).trace := by
    rw [benchmarkMain_runs h.help h.selfTest]
    refine mem_bind_right (if_pos ⟨h.iterations, rfl⟩) (mem_bind_left ?_)
    exact mem_forRange (m := 1) haccepted.counts.warmup.1
      (mem_bind_right rfl (mem_bind_left hmem))
  exact Nat.lt_irrefl _ (hguarded.inRange answers _ hwritten)

/-- Otherwise a benchmark that succeeds has no more producers than entries, and one that fails
does so before it gets to them. -/
theorem guarded_of_not_overruns (hwarmup : 0 < parsed.config.warmup) (h : ¬Overruns parsed) :
    IndicesGuarded parsed := by
  constructor
  · intro answers
    refine .ite (fun _ => within_pure _) fun hhelp => ?_
    refine .ite (fun _ => within_selfTest _) fun hself => ?_
    refine within_runBenchmark fun hiterations hreaches => ?_
    by_contra hproducers
    exact h ⟨Bool.not_eq_true _ ▸ hhelp, Bool.not_eq_true _ ▸ hself, hiterations, hreaches,
      Nat.lt_of_not_le hproducers⟩
  · intro hhelp hself hlarge answers
    rw [benchmarkMain_runs hhelp hself]
    cases hvalue : (runBenchmark parsed.config answers.benchmark).value with
    | none => rfl
    | some u =>
      obtain ⟨hiterations, hreaches⟩ := runBenchmark_reaches hwarmup hvalue
      rcases hlarge with hlarge | hlarge
      · exact absurd hreaches.workers (Nat.not_le_of_lt hlarge)
      · exact absurd ⟨hhelp, hself, hiterations, hreaches, hlarge⟩ h

/-- **The profiling arrays**, for every command line that is accepted in a profiling build. -/
theorem indices_guarded_iff {arguments : List String}
    (h : parseArguments true arguments = .ok parsed) :
    IndicesGuarded parsed ↔ ¬Overruns parsed := by
  have haccepted := parseArguments_accepted h
  exact ⟨fun hguarded hoverruns => hoverruns.not_guarded haccepted hguarded,
    guarded_of_not_overruns haccepted.counts.warmup.1⟩

theorem indices_guarded_by_default : parseArguments true [] = .ok ⟨defaultConfig, false, false⟩ ∧
    IndicesGuarded ⟨defaultConfig, false, false⟩ := by
  have hparsed : parseArguments true [] = .ok ⟨defaultConfig, false, false⟩ := rfl
  refine ⟨hparsed, (indices_guarded_iff hparsed).mpr fun h => ?_⟩
  exact absurd h.producers (by decide)

/-- One producer more than entries, with the other counts as they are by default. -/
theorem indices_overrun : parseArguments true ["--producers", "65"]
      = .ok ⟨{ defaultConfig with producers := 65 }, false, false⟩ ∧
    ¬IndicesGuarded ⟨{ defaultConfig with producers := 65 }, false, false⟩ := by
  have hparsed : parseArguments true ["--producers", "65"]
      = .ok ⟨{ defaultConfig with producers := 65 }, false, false⟩ := by rfl
  refine ⟨hparsed, Overruns.not_guarded ?_ (parseArguments_accepted hparsed)⟩
  exact ⟨rfl, rfl, by decide, ⟨by decide, by decide, by decide⟩, by decide⟩

end CommandLine

end SchedulingEngine
