import SchedulingEngine.Benchmark.Books
import SchedulingEngine.Benchmark.Iteration

/-!
# The correctness gate (benchmark_scheduler.c)

The callback and the gate choose between the standard and the partitioned counters by conditions
of their own. Where they choose alike, the counters the gate reads are settled (`Settled`): they
tell whether the Tasks passed were exactly those of the array. Where they do not, in profiling
builds with partitioned accounting and the controlled profile, the gate reads counters that
nobody wrote and rejects every iteration.

`gate_correct_iff`: the gate does what it is for exactly if the choices agree or there is
something to reject.
-/

namespace SchedulingEngine

open Concurrency Concurrency.Program Tracing Tracing.Traced

/-! ## What the gate decides -/

/-- Each Task of the array was passed to the callback exactly once, and nothing else was. -/
structure ExactlyOnce (b : Benchmark) (passed : List ℕ) : Prop where
  once : ∀ index < b.config.tasks, passed.count (b.taskAddress index) = 1
  known : ∀ a ∈ passed, ∃ index < b.config.tasks, a = b.taskAddress index

/-- The callback writes the standard counters and the gate reads the partitioned ones. -/
def Mismatched (b : Benchmark) : Prop :=
  b.profiling = true ∧ b.config.accounting = .partitioned ∧ b.config.profile = .controlledBlocking

/-- What the gate reads, once nobody owes anything. -/
structure Settled (b : Benchmark) (P : Multiset ℕ) (k : CallbackCounters) : Prop where
  failure_iff : (if b.partitioned = true then k.partitionedFailure else k.failure) = false ↔
    Clean b P
  tallied : Clean b P → Tallied b P k
  stamped : Clean b P → ∀ index < b.config.tasks, b.taskAddress index ∈ P → Stamped b k index
  executed : P.card ≤ sizeMax →
    (if b.partitioned = true then k.partitionedExecutionCount else k.executionCount) = P.card
  checksum : (if b.partitioned = true then slotChecksums b k else k.checksum) = checksumOf b P

section Settled

variable {b : Benchmark} {P : Multiset ℕ} {s : BenchmarkPool b}

theorem partitioned_eq_of_not_mismatched (h : ¬Mismatched b) : b.partitioned = b.partitions := by
  unfold Mismatched at h
  unfold Benchmark.partitioned Benchmark.partitions
  cases hprofiling : b.profiling with
  | false => rfl
  | true =>
    by_cases haccounting : b.config.accounting = .partitioned
    · have hprofile : b.config.profile ≠ .controlledBlocking := fun hprofile =>
        h ⟨hprofiling, haccounting, hprofile⟩
      simp [haccounting, hprofile]
    · simp [haccounting]

/-- Where the choices agree, the gate reads the counters that the callback wrote. -/
theorem CallbackBooks.settled (hmode : b.config.mode = .validated) (h : CallbackBooks b P s)
    (hover : IterationOver s) (hmatched : ¬Mismatched b) : Settled b P s.shared.counters := by
  have hsame := partitioned_eq_of_not_mismatched hmatched
  cases hpartitions : b.partitions with
  | false =>
    have hbooks := h.settled_standard hover hpartitions
    have hfalse : ¬b.partitioned = true := by rw [hsame, hpartitions]; exact Bool.false_ne_true
    exact
      { failure_iff := by rw [if_neg hfalse]; exact hbooks.failure_iff hmode
        tallied := hbooks.tallied hmode
        stamped := hbooks.stamped hmode
        executed := by rw [if_neg hfalse]; exact hbooks.executed
        checksum := by rw [if_neg hfalse]; exact hbooks.checksum }
  | true =>
    obtain ⟨htally, hcount, hslots⟩ := h.settled_partitioned hover hpartitions
    have htally := htally hmode
    have htrue : b.partitioned = true := hsame.trans hpartitions
    refine
      { failure_iff := ?_
        tallied := htally.tallied
        stamped := fun hclean index hindex hmem =>
          (htally.stamped hclean index hindex hmem).resolve_left (Multiset.notMem_zero _)
        executed := fun hcard => ?_
        checksum := by rw [if_pos htrue]; exact hslots.checksums }
    · rw [if_pos htrue, ← htally.failure_iff]
      exact ⟨fun hfailure => ⟨hfailure, rfl⟩, fun hquiet => hquiet.1⟩
    · rw [if_pos htrue, hcount]
      unfold sizeMax at hcard
      exact Nat.mod_eq_of_lt (by omega)

/-- Where the choices agree, the sum of the slots is the number of executions, in either mode. -/
theorem CallbackBooks.slotTasks_eq (h : CallbackBooks b P s) (hover : IterationOver s)
    (hmatched : ¬Mismatched b)
    (hprofiling : b.profiling = true) (hcard : P.card ≤ sizeMax) :
    slotTasks b s.shared.counters = if b.config.accounting = .partitioned
      then s.shared.counters.partitionedExecutionCount else s.shared.counters.executionCount := by
  have hsame := partitioned_eq_of_not_mismatched hmatched
  have hpartitioned : b.partitioned = true ↔ b.config.accounting = .partitioned := by
    simp [Benchmark.partitioned, hprofiling]
  cases hpartitions : b.partitions with
  | false =>
    have hbooks := h.settled_standard hover hpartitions
    have hfalse : ¬b.config.accounting = .partitioned := by
      rw [← hpartitioned, hsame, hpartitions]
      exact Bool.false_ne_true
    rw [if_neg hfalse, hbooks.slots hprofiling, hbooks.executed hcard]
    unfold sizeMax at hcard
    exact Nat.mod_eq_of_lt (by omega)
  | true =>
    obtain ⟨-, hcount, hslots⟩ := h.settled_partitioned hover hpartitions
    rw [if_pos (hpartitioned.mp (hsame.trans hpartitions)), hslots.tasks, hcount]

/-- A clean bag that holds every Task once is exactly what was to be passed. -/
theorem exactlyOnce_iff {passed : List ℕ} :
    ExactlyOnce b passed ↔ Clean b passed ∧
      ∀ index < b.config.tasks, (passed : Multiset ℕ).count (b.taskAddress index) = 1 := by
  constructor
  · intro h
    refine ⟨⟨?_, h.known⟩, fun index hindex => (Multiset.coe_count _ _).trans (h.once index hindex)⟩
    rw [Multiset.coe_nodup, List.nodup_iff_count_le_one]
    intro a
    by_cases ha : a ∈ passed
    · obtain ⟨index, hindex, rfl⟩ := h.known a ha
      exact (h.once index hindex).le
    · rw [List.count_eq_zero.mpr ha]
      exact Nat.zero_le _
  · rintro ⟨hclean, honce⟩
    exact ⟨fun index hindex => (Multiset.coe_count _ _).symm.trans (honce index hindex),
      hclean.known⟩

/-- Then the bag is that of the array. -/
theorem ExactlyOnce.eq_tasks {passed : List ℕ} (h : ExactlyOnce b passed) :
    (passed : Multiset ℕ) = ((List.range b.config.tasks).map b.taskAddress : List ℕ) := by
  obtain ⟨hclean, honce⟩ := exactlyOnce_iff.mp h
  have hnodup : ((List.range b.config.tasks).map b.taskAddress).Nodup :=
    List.nodup_range.map b.taskAddress_injective
  refine (Multiset.Nodup.ext hclean.nodup (Multiset.coe_nodup.mpr hnodup)).mpr fun a => ?_
  rw [Multiset.mem_coe, Multiset.mem_coe, List.mem_map]
  constructor
  · intro ha
    obtain ⟨index, hindex, rfl⟩ := hclean.known a ha
    exact ⟨index, List.mem_range.mpr hindex, rfl⟩
  · rintro ⟨index, hindex, rfl⟩
    refine List.count_pos_iff.mp ?_
    rw [h.once index (List.mem_range.mp hindex)]
    exact Nat.one_pos

theorem ExactlyOnce.length {passed : List ℕ} (h : ExactlyOnce b passed) :
    passed.length = b.config.tasks := by
  rw [← Multiset.coe_card, h.eq_tasks, Multiset.coe_card, List.length_map, List.length_range]

theorem expectedChecksum_eq (b : Benchmark) :
    expectedChecksum b = checksumOf b ((List.range b.config.tasks).map b.taskAddress : List ℕ) :=
  Folding.foldl_range_eq b.config.tasks b.taskAddress (contribution b) 0

end Settled

/-! ## The loops of validate_execution -/

/-- Every submission was accepted: each producer got through its range. -/
structure AllAccepted (b : Benchmark) (p : ProducerOutcomes) : Prop where
  start : ∀ producer < b.config.producers, (p.context producer).start
    = producerBegin b.config.tasks b.config.producers producer
  finish : ∀ producer < b.config.producers, (p.context producer).finish
    = producerEnd b.config.tasks b.config.producers producer
  accepted : ∀ producer < b.config.producers, (p.context producer).accepted
    = (p.context producer).finish - (p.context producer).start
  rejected : ∀ producer < b.config.producers, (p.context producer).rejected = 0
  succeeded : ∀ producer < b.config.producers, (p.context producer).threadSucceeded = true
  noError : ∀ producer < b.config.producers, (p.context producer).firstError = .ok

section Producers

variable {b : Benchmark} {p : ProducerOutcomes} {producer : ℕ}

theorem Benchmark.tasks_le (b : Benchmark) : b.config.tasks ≤ sizeMax := b.tasks_lt.le

/-- A producer's share of the Tasks. -/
theorem AllAccepted.share (h : AllAccepted b p) (hproducer : producer < b.config.producers) :
    rangeBegin b.config.tasks b.config.producers producer + (p.context producer).accepted
        = rangeBegin b.config.tasks b.config.producers (producer + 1) ∧
      (p.latencies producer).length = (p.context producer).accepted ∧
      0 < (p.context producer).accepted := by
  have hstart := (producerBegin_eq b.tasks_le hproducer).1
  have hfinish := (producerEnd_eq b.tasks_le hproducer).1
  have hsucc := rangeBegin_succ b.config.tasks b.config.producers producer
  have hbase : 0 < b.config.tasks / b.config.producers :=
    Nat.div_pos b.accepted.producers_le b.accepted.counts.producers.1
  have hlatencies : (p.latencies producer).length = (p.context producer).accepted := by
    rw [ProducerOutcomes.latencies, List.length_map, List.length_range', h.accepted _ hproducer]
  rw [h.accepted _ hproducer, h.start _ hproducer, h.finish _ hproducer, hstart, hfinish] at *
  omega

/-- `calculate_statistics` gets a buffer for every producer. -/
def ProducerOutcomes.Allocated (p : ProducerOutcomes) : Prop :=
  ∀ producer, p.allocated producer = true

@[simp] theorem store_value (array : ProfilingArray) (index value : ℕ) (result : IterationResult) :
    (result.store array index value).value = some { result with
      arrays := Function.update result.arrays array
        (Function.update (result.arrays array) index value) } := rfl

/-- The profiling part of a round writes the arrays and nothing else. -/
theorem profileProducer_value {statistics : Statistics}
    (h : calculateStatistics (p.latencies producer) (p.allocated producer) = some statistics)
    (result : IterationResult) : ∃ arrays,
      (profileProducer p producer result).value = some { result with arrays } := by
  simp only [profileProducer, value_bind, value_ofOption, h, store_value, Option.bind_some]
  exact ⟨_, rfl⟩

theorem checkedAddSize_eq {left right : ℕ} (h : left + right ≤ sizeMax) :
    checkedAddSize left right = some (left + right) := by
  unfold checkedAddSize
  exact if_neg (by omega)

/-- A round of the loop over the producers goes through. -/
theorem validateProducer_value (h : AllAccepted b p) (hallocated : p.Allocated)
    (hproducer : producer < b.config.producers)
    (hfits : 95 * (p.context producer).accepted + 99 ≤ sizeMax) (result : IterationResult)
    (haccepted : result.accepted = rangeBegin b.config.tasks b.config.producers producer)
    (hrejected : result.rejected = 0) :
    ∃ arrays, (validateProducer b.profiling p producer result).value = some { result with
      accepted := rangeBegin b.config.tasks b.config.producers (producer + 1)
      arrays } := by
  obtain ⟨hshare, hlatencies, hpos⟩ := h.share hproducer
  have hbound : rangeBegin b.config.tasks b.config.producers (producer + 1) ≤ sizeMax :=
    (rangeBegin_le hproducer).trans b.tasks_le
  have hadd : checkedAddSize result.accepted (p.context producer).accepted
      = some (rangeBegin b.config.tasks b.config.producers (producer + 1)) := by
    rw [haccepted, checkedAddSize_eq (by omega), hshare]
  have hadd' : checkedAddSize result.rejected (p.context producer).rejected
      = some result.rejected := by
    rw [hrejected, h.rejected _ hproducer]
    rfl
  obtain ⟨statistics, -, -, -, -, hstatistics⟩ := calculateStatistics_eq (p.latencies producer)
    (List.length_pos_iff.mp (by omega)) (by omega)
  have hstatistics := hstatistics _ (.refl _)
  rw [← hallocated producer] at hstatistics
  simp only [validateProducer, value_bind, value_ofOption, hadd, hadd', value_demand,
    h.succeeded _ hproducer, h.noError _ hproducer, and_self, if_true, Option.bind_some]
  by_cases hprofiling : b.profiling = true
  · rw [if_pos hprofiling]
    exact profileProducer_value hstatistics _
  · rw [if_neg hprofiling]
    exact ⟨_, rfl⟩

/-- **The loop over the producers**: all Tasks accepted, none rejected. -/
theorem validateProducers_value (h : AllAccepted b p) (hallocated : p.Allocated)
    (hfits : ∀ producer < b.config.producers, 95 * (p.context producer).accepted + 99 ≤ sizeMax)
    {result : IterationResult} (haccepted : result.accepted = 0) (hrejected : result.rejected = 0)
    {count : ℕ} (hcount : count ≤ b.config.producers) :
    ∃ arrays, (forRange (validateProducer b.profiling p) count result).value = some { result with
      accepted := rangeBegin b.config.tasks b.config.producers count
      arrays } := by
  -- The invariant: only the sum and the arrays have changed.
  let I (producer : ℕ) (result' : IterationResult) : Prop := ∃ arrays, result' = { result with
    accepted := rangeBegin b.config.tasks b.config.producers producer
    arrays }
  have hstart : I 0 result := ⟨result.arrays, by rw [rangeBegin_zero, ← haccepted]⟩
  have hround : ∀ producer < count, ∀ x, I producer x →
      ∃ y, (validateProducer b.profiling p producer x).value = some y ∧ I (producer + 1) y := by
    rintro producer hproducer x ⟨arrays, hx⟩
    have hlt : producer < b.config.producers := by omega
    obtain ⟨arrays', hround⟩ := validateProducer_value h hallocated hlt (hfits producer hlt) x
      (by rw [hx]) (by rw [hx]; exact hrejected)
    exact ⟨_, hround, arrays', by rw [hx]⟩
  obtain ⟨result', hvalue, arrays, rfl⟩ := forRange_total hstart hround
  exact ⟨arrays, hvalue⟩

end Producers

section Tasks

variable {b : Benchmark} {k : CallbackCounters}

/-- What the loop over the Tasks asks of one Task: it was executed once, and its latency can be
converted. -/
def TaskPasses (b : Benchmark) (k : CallbackCounters) (index : ℕ) : Prop :=
  k.executionCounts index = 1 ∧ b.submissionTicks index ≤ k.completionTicks index ∧
    (benchmarkTimerDurationNs b.timer (b.submissionTicks index)
      (k.completionTicks index)).isSome = true

theorem validateTask_iff (index : ℕ) (result : IterationResult) :
    (validateTask b k index result).value.isSome = true ↔ TaskPasses b k index := by
  simp only [validateTask, value_bind, value_demand, value_ofOption, value_pure, not_lt, TaskPasses]
  split
  · rename_i hchecked
    cases benchmarkTimerDurationNs b.timer (b.submissionTicks index) (k.completionTicks index) with
    | none => simp
    | some duration => simp [hchecked]
  · rename_i hchecked
    simp only [Option.bind_none, Option.isSome_none, Bool.false_eq_true, false_iff]
    exact fun hpasses => hchecked ⟨hpasses.1, hpasses.2.1⟩

theorem validateTasks_iff (result : IterationResult) :
    (validateTasks b k result).value.isSome = true ↔
      (b.config.mode = .validated → ∀ index < b.config.tasks, TaskPasses b k index) := by
  unfold validateTasks
  split
  · rename_i hmode
    rw [forRange_isSome_iff validateTask_iff]
    exact ⟨fun hall _ => hall, fun hall => hall hmode⟩
  · rename_i hmode
    exact ⟨fun _ hmode' => absurd hmode' hmode, fun _ => rfl⟩

/-- `observed_checksum`. -/
theorem observedChecksum_value (b : Benchmark) (k : CallbackCounters) :
    (observedChecksum b k).value
      = some (if b.partitioned = true then slotChecksums b k else k.checksum) := by
  unfold observedChecksum
  split
  · refine forRange_value
      (F := fun n => (Finset.range n).fold (fun x y : UInt64 => x ^^^ y) 0 k.workerChecksums)
      (fun i => ?_) b.config.workers
    rw [Folding.fold_range_succ]
    rfl
  · rfl

/-- The loop over the workers computes the sum that the `total_tasks` check compares. -/
theorem copyWorkers_value (b : Benchmark) (k : CallbackCounters) (result : IterationResult) :
    ∃ result', (forRange (copyWorker k) b.config.workers (result, 0)).value
        = some (result', slotTasks b k) ∧
      result'.accepted = result.accepted ∧ result'.rejected = result.rejected := by
  let I (n : ℕ) (state : IterationResult × ℕ) : Prop :=
    state.2 = (Finset.range n).fold sizeAdd 0 k.workerTasks ∧
      state.1.accepted = result.accepted ∧ state.1.rejected = result.rejected
  have hround : ∀ index < b.config.workers, ∀ x, I index x →
      ∃ y, (copyWorker k index x).value = some y ∧ I (index + 1) y := by
    rintro index - ⟨result', total⟩ ⟨htotal, hkept⟩
    simp only [copyWorker, value_bind, value_note, store_value, Option.bind_some, value_pure]
    refine ⟨_, rfl, ?_, hkept⟩
    rw [Folding.fold_range_succ, ← htotal]
  have hstart : I 0 (result, 0) := ⟨rfl, rfl, rfl⟩
  obtain ⟨⟨result', total⟩, hvalue, rfl, hkept⟩ := forRange_total hstart hround
  exact ⟨result', hvalue, hkept⟩

/-- The `total_tasks` check compares the sum of the slots with the executions. -/
theorem profileWorkers_value (b : Benchmark) (k : CallbackCounters) (result : IterationResult) :
    ∃ result', result'.accepted = result.accepted ∧ result'.rejected = result.rejected ∧
      (profileWorkers b k result).value
        = if slotTasks b k = (if b.config.accounting = .partitioned
            then k.partitionedExecutionCount else k.executionCount)
          then some result' else none := by
  obtain ⟨result', hvalue, haccepted, hrejected⟩ := copyWorkers_value b k result
  refine ⟨result', haccepted, hrejected, ?_⟩
  have hloop : (forRange (fun index _ => note [(⟨.workerTasks, index⟩ : Access)])
      b.config.workers ()).value = some () := forRange_value (F := fun _ => ()) (fun _ => rfl) _
  simp only [profileWorkers, value_bind, hvalue, Option.bind_some, value_demand, hloop, value_pure]
  generalize (if b.config.accounting = AccountingMode.partitioned then k.partitionedExecutionCount
    else k.executionCount) = executed
  split <;> rfl

end Tasks

/-! ## The verdict -/

section Verdict

variable {b : Benchmark} {p : ProducerOutcomes} {k : CallbackCounters} {passed : List ℕ}

/-- What `validate_execution` asks of the counters once all Tasks were accepted. -/
structure CountersPass (b : Benchmark) (k : CallbackCounters) : Prop where
  failure : (if b.partitioned = true then k.partitionedFailure else k.failure) = false
  unknown : (if b.partitioned = true then k.partitionedUnknownCount else k.unknownCount) = 0
  duplicate : (if b.partitioned = true then k.partitionedDuplicateCount else k.duplicateCount) = 0
  executed : b.config.tasks
    = if b.partitioned = true then k.partitionedExecutionCount else k.executionCount
  tasks : b.config.mode = .validated → ∀ index < b.config.tasks, TaskPasses b k index
  checksum : expectedChecksum b = if b.partitioned = true then slotChecksums b k else k.checksum

theorem isSome_bind_demand {α : Type} (o : Option α) (c : Prop) [Decidable c] :
    (o.bind fun a => (if c then some () else none).bind fun _ => some a).isSome = true ↔
      o.isSome = true ∧ c := by
  cases o with
  | none => simp
  | some a => by_cases hc : c <;> simp [hc]

theorem validateCounters_iff {result : IterationResult}
    (hattempted : result.attempted = b.config.tasks) (haccepted : result.accepted = b.config.tasks)
    (hrejected : result.rejected = 0) :
    (validateCounters b k result).value.isSome = true ↔ CountersPass b k := by
  have htotal : sizeAdd b.config.tasks 0 = b.config.tasks := by
    have htasks := b.tasks_lt
    unfold sizeAdd
    unfold sizeMax at htasks
    omega
  simp only [validateCounters, value_bind, value_demand, observedChecksum_value, value_pure,
    haccepted, hattempted, hrejected, htotal, and_true, Option.bind_some]
  by_cases hchecked : (if b.partitioned = true then k.partitionedFailure else k.failure) = false
      ∧ (if b.partitioned = true then k.partitionedUnknownCount else k.unknownCount) = 0
      ∧ (if b.partitioned = true then k.partitionedDuplicateCount else k.duplicateCount) = 0
      ∧ b.config.tasks
        = if b.partitioned = true then k.partitionedExecutionCount else k.executionCount
  · rw [if_pos hchecked]
    obtain ⟨hfailure, hunknown, hduplicate, hexecuted⟩ := hchecked
    rw [Option.bind_some, isSome_bind_demand, validateTasks_iff]
    exact ⟨fun hpass => ⟨hfailure, hunknown, hduplicate, hexecuted, hpass.1, hpass.2⟩,
      fun hpass => ⟨hpass.tasks, hpass.checksum⟩⟩
  · rw [if_neg hchecked]
    simp only [Option.bind_none, Option.isSome_none, Bool.false_eq_true, false_iff]
    exact fun hpass => hchecked ⟨hpass.failure, hpass.unknown, hpass.duplicate, hpass.executed⟩

theorem validateExecution_iff (h : AllAccepted b p) (hallocated : p.Allocated)
    (hfits : ∀ producer < b.config.producers, 95 * (p.context producer).accepted + 99 ≤ sizeMax)
    {result : IterationResult} (haccepted : result.accepted = 0) (hrejected : result.rejected = 0) :
    (validateExecution b p k result).value.isSome = true ↔ CountersPass b k := by
  let attempted : IterationResult := { result with attempted := b.config.tasks }
  have haccepted' : attempted.accepted = 0 := haccepted
  obtain ⟨arrays, hproducers⟩ := validateProducers_value h hallocated hfits haccepted' hrejected
    (Nat.le_refl _)
  rw [validateExecution, value_bind, hproducers]
  exact validateCounters_iff rfl (rangeBegin_last b.accepted.counts.producers.1) hrejected

/-- **Where the choices agree**, the counters pass exactly if every Task was executed once. -/
theorem Settled.countersPass_iff (hmode : b.config.mode = .validated) (h : Settled b passed k) :
    CountersPass b k ↔ ExactlyOnce b passed := by
  constructor
  · intro hpass
    have hclean := h.failure_iff.mp hpass.failure
    refine exactlyOnce_iff.mpr ⟨hclean, fun index hindex => ?_⟩
    rw [← (h.tallied hclean).counts index hindex]
    exact (hpass.tasks hmode index hindex).1
  · intro hexactly
    obtain ⟨hclean, honce⟩ := exactlyOnce_iff.mp hexactly
    have htallied := h.tallied hclean
    have hcard : (passed : Multiset ℕ).card = b.config.tasks := by
      rw [Multiset.coe_card, hexactly.length]
    refine ⟨h.failure_iff.mpr hclean, ?_, ?_, ?_, fun _ index hindex => ?_, ?_⟩
    · split
      · exact htallied.partitionedUnknown
      · exact htallied.unknown
    · split
      · exact htallied.partitionedDuplicate
      · exact htallied.duplicate
    · rw [h.executed (hcard ▸ b.tasks_le), hcard]
    · have hmem : b.taskAddress index ∈ (passed : Multiset ℕ) := by
        rw [← Multiset.one_le_count_iff_mem, honce index hindex]
      obtain ⟨hsubmitted, hlast⟩ := h.stamped hclean index hindex hmem
      exact ⟨(htallied.counts index hindex).trans (honce index hindex), hsubmitted,
        b.durations _ _ hsubmitted hlast⟩
    · rw [h.checksum, hexactly.eq_tasks, expectedChecksum_eq]

/-- Where they do not, the gate sees no execution at all. -/
theorem Mismatched.not_countersPass (h : Mismatched b) (hunused : k.partitionedExecutionCount = 0) :
    ¬CountersPass b k := by
  intro hpass
  have hpartitioned : b.partitioned = true := by simp [Benchmark.partitioned, h.1, h.2.1]
  have hexecuted := hpass.executed
  rw [if_pos hpartitioned, hunused] at hexecuted
  exact Nat.pos_iff_ne_zero.mp b.accepted.counts.tasks.1 hexecuted

theorem Mismatched.partitions (h : Mismatched b) : b.partitions = false := by
  simp [Benchmark.partitions, h.2.2]

/-- What the gate is for: it lets an iteration through if each Task was executed exactly once and
nothing else was, together with the `total_tasks` check of profiling builds, and stops it
otherwise. -/
structure GateCorrect (b : Benchmark) (p : ProducerOutcomes) (k : CallbackCounters)
    (passed : List ℕ) : Prop where
  accepts : ExactlyOnce b passed →
    (∀ result, result.accepted = 0 → result.rejected = 0 →
      (validateExecution b p k result).value.isSome = true) ∧
    (b.profiling = true → (profileWorkers b k emptyResult).value.isSome = true)
  rejects : ¬ExactlyOnce b passed →
    ∀ result, result.accepted = 0 → result.rejected = 0 →
      (validateExecution b p k result).value = none

theorem AllAccepted.fits (h : AllAccepted b p) (hcounts : 95 * b.config.tasks + 99 ≤ sizeMax) :
    ∀ producer < b.config.producers, 95 * (p.context producer).accepted + 99 ≤ sizeMax := by
  intro producer hproducer
  have hshare := (h.share hproducer).1
  have hle : rangeBegin b.config.tasks b.config.producers (producer + 1) ≤ b.config.tasks :=
    rangeBegin_le hproducer
  omega

/-- **The correctness gate**, after every run of the workers in which every submission was
accepted: it does what it is for exactly if the callback and the gate use the same counters, or
the Tasks were not executed exactly once. -/
theorem gate_correct_iff (b : Benchmark) (hmode : b.config.mode = .validated)
    (hcounts : 95 * b.config.tasks + 99 ≤ sizeMax) (p : ProducerOutcomes)
    (haccepted : AllAccepted b p) (hallocated : p.Allocated)
    {ls : List (BenchmarkThread b × CallbackChoice)} {s : BenchmarkPool b}
    (hrun : (benchmarkProgram b).run ls (benchmarkInitial b) = some s) (hover : IterationOver s) :
    GateCorrect b p s.shared.counters ((benchmarkProgram b).log passedTasks ls (benchmarkInitial b))
      ↔ ¬(Mismatched b ∧
        ExactlyOnce b ((benchmarkProgram b).log passedTasks ls (benchmarkInitial b))) := by
  have hbooks := books_of_run hrun
  generalize (benchmarkProgram b).log passedTasks ls (benchmarkInitial b) = passed at *
  have hgate : ∀ result, result.accepted = 0 → result.rejected = 0 →
      ((validateExecution b p s.shared.counters result).value.isSome = true ↔
        CountersPass b s.shared.counters) := fun result hzero hzero' =>
    validateExecution_iff haccepted hallocated (haccepted.fits hcounts) hzero hzero'
  by_cases hmismatched : Mismatched b
  · -- The partitioned counters were never written.
    have hunused := (hbooks.settled_standard hover hmismatched.partitions).unused
    have hfails := hmismatched.not_countersPass hunused
    constructor
    · rintro hcorrect ⟨-, hexactly⟩
      have haccepts := (hcorrect.accepts hexactly).1 emptyResult rfl rfl
      exact hfails ((hgate emptyResult rfl rfl).mp haccepts)
    · intro hnot
      refine ⟨fun hexactly => absurd ⟨hmismatched, hexactly⟩ hnot, fun _ result hzero hzero' => ?_⟩
      rw [← Option.not_isSome_iff_eq_none, hgate result hzero hzero']
      exact hfails
  · have hsettled := hbooks.settled hmode hover hmismatched
    have hpass := hsettled.countersPass_iff hmode
    refine ⟨fun _ hboth => hmismatched hboth.1, fun _ => ⟨fun hexactly => ⟨?_, ?_⟩, ?_⟩⟩
    · intro result hzero hzero'
      exact (hgate result hzero hzero').mpr (hpass.mpr hexactly)
    · intro hprofiling
      obtain ⟨result', -, -, hvalue⟩ := profileWorkers_value b s.shared.counters emptyResult
      have hcard : (passed : Multiset ℕ).card ≤ sizeMax := by
        rw [Multiset.coe_card, hexactly.length]
        exact b.tasks_le
      rw [hvalue, if_pos (hbooks.slotTasks_eq hover hmismatched hprofiling hcard)]
      rfl
    · intro hnot result hzero hzero'
      rw [← Option.not_isSome_iff_eq_none, hgate result hzero hzero', hpass]
      exact hnot

end Verdict

/-! ## One Task -/

/-- One worker, one producer and one Task, in a profiling build. -/
def soloConfig (profile : CallbackProfile) (accounting : AccountingMode) : BenchmarkConfig :=
  { defaultConfig with profile, accounting, workers := 1, producers := 1, tasks := 1 }

theorem soloConfig_accepted (profile : CallbackProfile) (accounting : AccountingMode) :
    (soloConfig profile accounting).Accepted := by
  have hone : PositiveSize 1 := positiveSize_of_lt (by decide) (by decide)
  exact ⟨{ defaultConfig_counts with workers := hone, producers := hone, tasks := hone },
    Nat.le_refl 1⟩

/-- A timer that counts nanoseconds. -/
def nanosecondTimer : BenchmarkTimer := ⟨1000000000, id⟩

theorem nanosecondTimer_durations {start finish : ℕ} (hle : start ≤ finish) (hlast : finish ≤ 100) :
    (benchmarkTimerDurationNs nanosecondTimer start finish).isSome = true := by
  have hseconds : (finish - start) / 1000000000 = 0 := Nat.div_eq_of_lt (by omega)
  have hremainder : (finish - start) % 1000000000 = finish - start := Nat.mod_eq_of_lt (by omega)
  unfold benchmarkTimerDurationNs nanosecondTimer
  rw [if_neg (by simpa using hle)]
  simp only [hseconds, hremainder, id]
  rw [if_neg (by decide), if_neg (by unfold uint64Max; omega)]
  rfl

def soloBenchmark (profile : CallbackProfile) (accounting : AccountingMode) : Benchmark where
  profiling := true
  config := soloConfig profile accounting
  base := 4096
  taskId _ := 1
  submissionTicks _ := 1
  timer := nanosecondTimer
  lastReading := 100
  accepted := soloConfig_accepted profile accounting
  base_pos := by decide
  array_fits := by
    show 4096 + 1 * 32 ≤ sizeMax
    decide
  durations start finish := nanosecondTimer_durations

def soloProducer : ProducerOutcomes where
  context _ := ⟨0, 1, 1, 0, .ok, true⟩
  submissionLatencies _ := 5
  allocated _ := true

theorem soloProducer_accepted (profile : CallbackProfile) (accounting : AccountingMode) :
    AllAccepted (soloBenchmark profile accounting) soloProducer := by
  have hzero : ∀ producer < (soloBenchmark profile accounting).config.producers, producer = 0 := by
    intro producer hproducer
    exact Nat.lt_one_iff.mp hproducer
  have hstart : producerBegin 1 1 0 = 0 := by decide
  have hfinish : producerEnd 1 1 0 = 1 := by decide
  refine ⟨fun producer hproducer => ?_, fun producer hproducer => ?_, fun _ _ => rfl,
    fun _ _ => rfl, fun _ _ => rfl, fun _ _ => rfl⟩
  · rw [hzero producer hproducer]
    exact hstart.symm
  · rw [hzero producer hproducer]
    exact hfinish.symm

/-- The worker runs the callback of the noop profile. -/
def noopSchedule : List (BenchmarkThread (soloBenchmark .noop .standard) × CallbackChoice) :=
  let worker : BenchmarkThread (soloBenchmark .noop .standard) := some ⟨0, Nat.one_pos⟩
  [(worker, { task := 4096 }), (worker, { time := 2 }), (worker, { time := 3 }),
    (worker, { time := 4, accountingEnd := 5 }), (worker, {}), (worker, {}), (worker, {})]

theorem solo_over {profile : CallbackProfile} {accounting : AccountingMode}
    {s : BenchmarkPool (soloBenchmark profile accounting)}
    (hworker : s.pc (some ⟨0, Nat.one_pos⟩) = .idle) (hcontroller : s.pc none = .released) :
    IterationOver s := by
  refine ⟨fun worker => ?_, hcontroller⟩
  have hzero : worker = ⟨0, Nat.one_pos⟩ := Fin.ext (Nat.lt_one_iff.mp worker.isLt)
  rw [hzero, hworker]

theorem gate_correct_after_noop : ∃ s,
    (benchmarkProgram (soloBenchmark .noop .standard)).run noopSchedule (benchmarkInitial _)
      = some s ∧
    GateCorrect (soloBenchmark .noop .standard) soloProducer s.shared.counters [4096] := by
  have hmatched : ¬Mismatched (soloBenchmark .noop .standard) := fun h => (nomatch h.2.1)
  have hcounts : 95 * 1 + 99 ≤ sizeMax := by decide
  refine ⟨_, rfl, ?_⟩
  have hiff := gate_correct_iff (soloBenchmark .noop .standard) rfl hcounts soloProducer
    (soloProducer_accepted _ _) (fun _ => rfl)
    (show (benchmarkProgram _).run noopSchedule _ = some _ from rfl) (solo_over rfl rfl)
  exact hiff.mpr fun h => hmatched h.1

/-- The worker waits inside the callback until the controller releases it. -/
def blockingSchedule :
    List (BenchmarkThread (soloBenchmark .controlledBlocking .partitioned) × CallbackChoice) :=
  let worker : BenchmarkThread (soloBenchmark .controlledBlocking .partitioned) :=
    some ⟨0, Nat.one_pos⟩
  [(worker, { task := 4096 }), (worker, { time := 2 }), (worker, { time := 3 }), (worker, {}),
    (worker, {}), (none, {}), (none, {}), (worker, { time := 4, accountingEnd := 5 }),
    (worker, {}), (worker, {}), (worker, {})]

/-- Partitioned accounting with the controlled profile: the only Task was executed exactly once,
and the gate does not let the iteration through. -/
theorem gate_rejects_blocking : ∃ s,
    (benchmarkProgram (soloBenchmark .controlledBlocking .partitioned)).run blockingSchedule
      (benchmarkInitial _) = some s ∧
    IterationOver s ∧ AllAccepted (soloBenchmark .controlledBlocking .partitioned) soloProducer ∧
    ExactlyOnce (soloBenchmark .controlledBlocking .partitioned) [4096] ∧
    (benchmarkProgram (soloBenchmark .controlledBlocking .partitioned)).log passedTasks
      blockingSchedule (benchmarkInitial _) = [4096] ∧
    ¬GateCorrect (soloBenchmark .controlledBlocking .partitioned) soloProducer s.shared.counters
      [4096] := by
  have hexactly : ExactlyOnce (soloBenchmark .controlledBlocking .partitioned) [4096] := by
    refine ⟨fun index hindex => ?_, fun a ha => ⟨0, Nat.one_pos, List.mem_singleton.mp ha⟩⟩
    rw [Nat.lt_one_iff.mp hindex]
    rfl
  have hmismatched : Mismatched (soloBenchmark .controlledBlocking .partitioned) :=
    ⟨rfl, rfl, rfl⟩
  refine ⟨_, rfl, solo_over rfl rfl, soloProducer_accepted _ _, hexactly, rfl, fun hcorrect => ?_⟩
  have haccepts := (hcorrect.accepts hexactly).1 emptyResult rfl rfl
  have hfits : ∀ producer < 1, 95 * (soloProducer.context producer).accepted + 99 ≤ sizeMax :=
    fun _ _ => (by decide : 95 * 1 + 99 ≤ sizeMax)
  rw [validateExecution_iff (soloProducer_accepted _ _) (fun _ => rfl) hfits rfl rfl] at haccepts
  exact hmismatched.not_countersPass rfl haccepts

end SchedulingEngine
