import SchedulingEngine.Benchmark.Books
import SchedulingEngine.Concurrency.Alone

/-!
# An iteration that gets through

For every configuration whose Task array fits there is a run of the workers in which every Task
is passed to the callback exactly once: the first worker runs all callbacks, one after the
other, and with the controlled profile the controller releases the first one. It shows that what
the gate and the indices are asked to do is asked of real runs (`exists_full_run`).
-/

namespace SchedulingEngine

open Concurrency Concurrency.Program

/-- A benchmark whose timer stands still. -/
def stillBenchmark (config : BenchmarkConfig) (haccepted : config.Accepted)
    (hfits : config.tasks ≤ sizeMax / taskSize) : Benchmark where
  profiling := true
  config
  base := 16
  taskId address := UInt64.ofNat ((address - 16) / taskSize + 1)
  submissionTicks _ := 0
  timer := ⟨1000000000, id⟩
  lastReading := 0
  accepted := haccepted
  base_pos := by decide
  array_fits := by
    unfold taskSize sizeMax at *
    omega
  durations start finish hle hlast := by
    have hfinish : finish = 0 := by omega
    have hstart : start = 0 := by omega
    rw [hfinish, hstart]
    decide

theorem stillBenchmark_submitted {config : BenchmarkConfig} {haccepted : config.Accepted}
    {hfits : config.tasks ≤ sizeMax / taskSize} (address : ℕ) :
    (stillBenchmark config haccepted hfits).submitted address = 0 := by
  unfold Benchmark.submitted
  cases taskIndexForPointer (stillBenchmark config haccepted hfits) address <;> rfl

/-! ## One callback -/

section Callbacks

variable {b : Benchmark} (hprofiling : b.profiling = true)
  (hsubmitted : ∀ address, b.submitted address = 0) (t : BenchmarkThread b)
  {ctx ctx' : CallbackContext (BenchmarkThread b)} {address : ℕ}

theorem reads_zero (b : Benchmark) : b.Reads 0 0 := ⟨Nat.le_refl 0, Nat.zero_le _⟩

omit t in
/-- One more step at the front, without effects. -/
theorem alone_act {t : BenchmarkThread b} {choice : CallbackChoice} {is : List CallbackChoice}
    {ctx'' : CallbackContext (BenchmarkThread b)} {pc pc' pc'' : CallbackPc} {noted : List ℕ}
    (hact : callbackAct b t choice ctx pc = some (ctx', pc', []))
    (h : (benchmarkProgram b).alone passedBy t is ctx' pc' = some (ctx'', pc'', noted)) :
    (benchmarkProgram b).alone passedBy t (choice :: is) ctx pc
      = some (ctx'', pc'', passedBy pc pc' ++ noted) :=
  alone_cons hact (.inl rfl) h

include hprofiling hsubmitted in
/-- The way into the callback. -/
theorem alone_enter (haddress : address ≠ 0) {is : List CallbackChoice} {pc' : CallbackPc}
    {noted : List ℕ}
    (h : (benchmarkProgram b).alone passedBy t is ctx
      (if b.partitions = true then .partitioned .tally ⟨address, 0, 0⟩ else .lock ⟨address, 0, 0⟩)
      = some (ctx', pc', noted)) :
    (benchmarkProgram b).alone passedBy t ({ task := address } :: {} :: {} :: is) ctx .idle
      = some (ctx', pc', address :: noted) := by
  have hcalled : callbackAct b t { task := address } ctx .idle = some (ctx, .called address, []) :=
    if_pos haddress
  have hcomputing : callbackAct b t {} ctx (.called address)
      = some (ctx, .computing address 0, []) := by
    simp only [callbackAct, if_pos hprofiling, hsubmitted, if_pos (reads_zero b)]
  have htally : callbackAct b t {} ctx (.computing address 0) = some (ctx,
      if b.partitions = true then .partitioned .tally ⟨address, 0, 0⟩ else .lock ⟨address, 0, 0⟩,
      []) := by
    simp only [callbackAct, if_pos (reads_zero b)]
  exact alone_act hcalled (alone_act hcomputing (alone_act htally h))

include hsubmitted in
/-- The section under the mutex, when nothing blocks it. -/
theorem accountSection_open (ctx : CallbackContext (BenchmarkThread b))
    (hreleased : b.config.profile = .controlledBlocking → ctx.blockingReleased = true)
    (address : ℕ) :
    ∃ counters, accountSection b t {} ⟨address, 0, 0⟩ ctx
      = some ({ ctx with counters }, .unlock) := by
  have hopen : ¬((!ctx.blockingReleased && !ctx.counters.failure
      && decide (b.config.profile = .controlledBlocking)) = true) := by
    intro hblocked
    simp only [Bool.and_eq_true, Bool.not_eq_true', decide_eq_true_eq] at hblocked
    rw [hreleased hblocked.2] at hblocked
    cases hblocked.1.1
  unfold accountSection
  rw [if_neg hopen, if_pos]
  · exact ⟨_, rfl⟩
  · rw [hsubmitted]
    exact ⟨reads_zero b, reads_zero b⟩

/-- The way out of the section. -/
theorem alone_leave (hmutex : ctx.mutex = some t) :
    (benchmarkProgram b).alone passedBy t [{}, {}, {}] ctx .unlock
      = some ({ ctx with mutex := none }, .idle, []) := by
  have hunlock : callbackAct b t {} ctx .unlock
      = some ({ ctx with mutex := none }, .leaving, []) := if_pos hmutex
  exact alone_act hunlock (alone_act rfl (alone_act rfl rfl))

include hprofiling hsubmitted in
/-- A callback under the mutex, when nothing blocks it. -/
theorem alone_standard (hmutex : ctx.mutex = none)
    (hreleased : b.config.profile = .controlledBlocking → ctx.blockingReleased = true)
    (hstandard : b.partitions = false) (haddress : address ≠ 0) :
    ∃ is ctx', (benchmarkProgram b).alone passedBy t is ctx .idle = some (ctx', .idle, [address]) ∧
      ctx'.mutex = none ∧ ctx'.blockingReleased = ctx.blockingReleased := by
  have hblocked : ¬(b.config.profile = .controlledBlocking ∧ ctx.blockingReleased = false) := by
    rintro ⟨hprofile, hwaiting⟩
    rw [hreleased hprofile] at hwaiting
    cases hwaiting
  obtain ⟨counters, hsection⟩ := accountSection_open hsubmitted t { ctx with mutex := some t }
    hreleased address
  have hlock : callbackAct b t {} ctx (.lock ⟨address, 0, 0⟩)
      = some ({ ctx with mutex := some t, counters }, .unlock, []) := by
    simp only [callbackAct, if_pos hmutex, if_neg hblocked, hsection, Option.map_some]
  have hrest : (benchmarkProgram b).alone passedBy t [{}, {}, {}, {}] ctx
      (if b.partitions = true then .partitioned .tally ⟨address, 0, 0⟩ else .lock ⟨address, 0, 0⟩)
      = some ({ ctx with mutex := none, counters }, .idle, []) := by
    rw [hstandard, if_neg Bool.false_ne_true]
    exact alone_act hlock (alone_leave t rfl)
  exact ⟨_, { ctx with mutex := none, counters },
    alone_enter hprofiling hsubmitted t haddress hrest, rfl, rfl⟩

/-- From `pc` the thread gets out of the callback by itself, and touches only the counters. -/
def Returns (b : Benchmark) (t : BenchmarkThread b) (pc : CallbackPc) : Prop :=
  ∀ ctx : CallbackContext (BenchmarkThread b), ∃ is counters,
    (benchmarkProgram b).alone passedBy t is ctx pc = some ({ ctx with counters }, .idle, [])

theorem returns_returned (result : ℕ) : Returns b t (.returned result) := fun ctx =>
  ⟨[{}], ctx.counters, alone_act rfl rfl⟩

/-- An operation of partitioned accounting, followed by the rest. -/
theorem Returns.operation {stage : PartitionedStage} {call : CallbackCall}
    {ctx : CallbackContext (BenchmarkThread b)} {k' : CallbackCounters} {pc' : CallbackPc}
    (hstep : partitionedStep b t {} call ctx.counters stage = some (k', pc'))
    (h : Returns b t pc') : ∃ is counters, (benchmarkProgram b).alone passedBy t is ctx
      (.partitioned stage call) = some ({ ctx with counters }, .idle, []) := by
  obtain ⟨is, counters, hrest⟩ := h { ctx with counters := k' }
  refine ⟨{} :: is, counters, alone_act ?_ hrest⟩
  simp only [callbackAct, hstep, Option.map_some]

theorem returns_time (address : ℕ) : Returns b t (.partitioned .time ⟨address, 0, 0⟩) := by
  intro ctx
  obtain ⟨durations, hdurations⟩ := @callbackDurations_isSome b ⟨address, 0, 0⟩ 0 (Nat.le_refl 0)
    (Nat.le_refl 0) (Nat.zero_le _)
  have hstep : partitionedStep b t {} ⟨address, 0, 0⟩ ctx.counters .time
      = some (ctx.counters.addDurations (workerSlot t) durations,
        .returned (if ctx.counters.partitionedFailure then 4 else 0)) := by
    simp only [partitionedStep, if_pos (reads_zero b), hdurations]
  exact Returns.operation t hstep (returns_returned t _)

theorem returns_count (address : ℕ) : Returns b t (.partitioned .count ⟨address, 0, 0⟩) :=
  fun _ => Returns.operation t rfl fun _ => Returns.operation t rfl (returns_time t address)

include hprofiling hsubmitted in
/-- A callback with partitioned accounting, for a Task that was not executed before. -/
theorem alone_partitioned (hpartitions : b.partitions = true) {index : ℕ}
    (hindex : index < b.config.tasks)
    (hfirst : b.config.mode = .validated → ctx.counters.executionCounts index = 0) :
    ∃ is counters, (benchmarkProgram b).alone passedBy t is ctx .idle
        = some ({ ctx with counters }, .idle, [b.taskAddress index]) := by
  have htask := taskIndexForPointer_taskAddress (b := b) hindex
  have hne : b.taskAddress index ≠ 0 := by
    have hbase := b.base_pos
    unfold Benchmark.taskAddress
    omega
  have htally : ∃ is counters, (benchmarkProgram b).alone passedBy t is ctx
      (.partitioned .tally ⟨b.taskAddress index, 0, 0⟩)
      = some ({ ctx with counters }, .idle, []) := by
    by_cases hmode : b.config.mode = .validated
    · have hcomplete : Returns b t (.partitioned .complete ⟨b.taskAddress index, 0, 0⟩) :=
        fun _ => Returns.operation t rfl (returns_count t _)
      let counts := Function.update ctx.counters.executionCounts index (unsignedIncrement 0)
      have hstep : partitionedStep b t {} ⟨b.taskAddress index, 0, 0⟩ ctx.counters .tally
          = some ({ ctx.counters with executionCounts := counts },
            .partitioned .complete ⟨b.taskAddress index, 0, 0⟩) := by
        simp only [partitionedStep, htask, if_pos hmode, hfirst hmode, ne_eq, not_true_eq_false,
          if_false]
        rfl
      exact Returns.operation t hstep hcomplete
    · have hstep : partitionedStep b t {} ⟨b.taskAddress index, 0, 0⟩ ctx.counters .tally
          = some (ctx.counters, .partitioned .count ⟨b.taskAddress index, 0, 0⟩) := by
        simp only [partitionedStep, htask, if_neg hmode]
      exact Returns.operation t hstep (returns_count t _)
  obtain ⟨is, counters, hrest⟩ := htally
  rw [← if_pos hpartitions (t := CallbackPc.partitioned .tally ⟨b.taskAddress index, 0, 0⟩)
    (e := .lock ⟨b.taskAddress index, 0, 0⟩)] at hrest
  exact ⟨_, counters, alone_enter hprofiling hsubmitted t hne hrest⟩

end Callbacks

/-! ## All callbacks -/

section Runs

variable {b : Benchmark} (hprofiling : b.profiling = true)
  (hsubmitted : ∀ address, b.submitted address = 0)

/-- All workers outside the callback, the mutex free, and the controlled callback released. -/
structure Ready (s : BenchmarkPool b) : Prop where
  finished : IterationOver s
  mutex : s.shared.mutex = none
  released : b.config.profile = .controlledBlocking → s.shared.blockingReleased = true

/-- The first Tasks of the array were passed, in order. -/
structure Reached (b : Benchmark) (n : ℕ) (s : BenchmarkPool b) : Prop where
  ready : Ready s
  run : ∃ ls, (benchmarkProgram b).run ls (benchmarkInitial b) = some s ∧
    (benchmarkProgram b).log passedTasks ls (benchmarkInitial b)
      = (List.range n).map b.taskAddress

/-- The worker that runs all callbacks. -/
def firstWorker (b : Benchmark) : BenchmarkThread b := some ⟨0, b.accepted.counts.workers.1⟩

theorem taskAddress_ne_zero (index : ℕ) : b.taskAddress index ≠ 0 := by
  have hbase := b.base_pos
  unfold Benchmark.taskAddress
  omega

theorem clean_range {n : ℕ} (hn : n ≤ b.config.tasks) :
    Clean b ((List.range n).map b.taskAddress : List ℕ) := by
  refine ⟨Multiset.coe_nodup.mpr (List.nodup_range.map b.taskAddress_injective), fun a ha => ?_⟩
  obtain ⟨index, hindex, rfl⟩ := List.mem_map.mp (Multiset.mem_coe.mp ha)
  exact ⟨index, (List.mem_range.mp hindex).trans_le hn, rfl⟩

/-- A Task that was not passed was not tallied. -/
theorem Reached.not_tallied {n : ℕ} {s : BenchmarkPool b} (h : Reached b n s)
    (hn : n < b.config.tasks) (hpartitions : b.partitions = true)
    (hmode : b.config.mode = .validated) : s.shared.counters.executionCounts n = 0 := by
  obtain ⟨ls, hrun, hlog⟩ := h.run
  have hbooks := books_of_run hrun
  rw [hlog] at hbooks
  have htally := (hbooks.settled_partitioned h.ready.finished hpartitions).1 hmode
  rw [(htally.tallied (clean_range hn.le)).counts n hn, Multiset.coe_count, List.count_eq_zero]
  intro hmem
  obtain ⟨index, hindex, heq⟩ := List.mem_map.mp hmem
  rw [b.taskAddress_injective heq, List.mem_range] at hindex
  exact Nat.lt_irrefl n hindex

include hprofiling hsubmitted in
/-- One more callback. -/
theorem Reached.extend {n : ℕ} {s : BenchmarkPool b} (h : Reached b n s)
    (hn : n < b.config.tasks) : ∃ s', Reached b (n + 1) s' := by
  obtain ⟨is, ctx', halone, hmutex, hreleased⟩ : ∃ is ctx',
      (benchmarkProgram b).alone passedBy (firstWorker b) is s.shared .idle
        = some (ctx', .idle, [b.taskAddress n]) ∧
      ctx'.mutex = none ∧ ctx'.blockingReleased = s.shared.blockingReleased := by
    cases hpartitions : b.partitions with
    | false =>
      exact alone_standard hprofiling hsubmitted _ h.ready.mutex h.ready.released hpartitions
        (taskAddress_ne_zero n)
    | true =>
      obtain ⟨is, counters, halone⟩ := alone_partitioned hprofiling hsubmitted (firstWorker b)
        hpartitions hn (h.not_tallied hn hpartitions)
      exact ⟨is, _, halone, h.ready.mutex, rfl⟩
  have hidle : s.pc (firstWorker b) = .idle := h.ready.finished.workers _
  have hothers : ∀ u, u ≠ firstWorker b → (benchmarkProgram b).asleepOn (s.pc u) = none := by
    intro u _
    cases u with
    | some worker => rw [h.ready.finished.workers worker]; rfl
    | none => rw [h.ready.finished.controller]; rfl
  rw [← hidle] at halone
  obtain ⟨hrun, hlog⟩ := run_alone (f := passedTasks) (fun _ _ => rfl) hothers halone
  have hsame : Function.update s.pc (firstWorker b) .idle = s.pc := by
    rw [← hidle]
    exact Function.update_eq_self _ _
  rw [hidle, hsame] at hrun
  obtain ⟨ls, hbefore, hlogged⟩ := h.run
  refine ⟨⟨ctx', s.pc⟩,
    ⟨⟨h.ready.finished.workers, h.ready.finished.controller⟩, hmutex, fun hprofile => ?_⟩,
    _, run_append hbefore hrun, ?_⟩
  · exact hreleased.trans (h.ready.released hprofile)
  · rw [log_append passedTasks _ hbefore, hlogged, hlog, List.range_succ, List.map_append]
    rfl

/-- The start of an iteration whose callbacks are not blocked. -/
theorem reached_zero (hprofile : b.config.profile ≠ .controlledBlocking) :
    Reached b 0 (benchmarkInitial b) := by
  refine ⟨⟨⟨fun _ => rfl, ?_⟩, rfl, fun hblocking => absurd hblocking hprofile⟩, [], rfl, rfl⟩
  exact if_neg hprofile

section Blocking

variable (hprofile : b.config.profile = .controlledBlocking)

include hprofiling hsubmitted hprofile

/-- The first callback enters the section, falls asleep and wakes by itself. -/
theorem alone_blocked :
    ∃ is, (benchmarkProgram b).alone passedBy (firstWorker b) is (benchmarkInitial b).shared .idle
      = some ({ (benchmarkInitial b).shared with blockingEntered := true },
        .woken ⟨b.taskAddress 0, 0, 0⟩, [b.taskAddress 0]) := by
  have hpartitions : b.partitions = false := by simp [Benchmark.partitions, hprofile]
  let call : CallbackCall := ⟨b.taskAddress 0, 0, 0⟩
  let entered : CallbackContext (BenchmarkThread b) :=
    { (benchmarkInitial b).shared with blockingEntered := true, mutex := some (firstWorker b) }
  have hlock : callbackAct b (firstWorker b) {} (benchmarkInitial b).shared (.lock call)
      = some (entered, .wait call, [.broadcast ()]) := by
    have hblocked : accountSection b (firstWorker b) {} call entered
        = some (entered, .wait call) := by
      simp only [accountSection, hprofile]
      rfl
    have hfirst : b.config.profile = .controlledBlocking ∧
        (benchmarkInitial b).shared.blockingReleased = false := ⟨hprofile, rfl⟩
    have hfree : (benchmarkInitial b).shared.mutex = none := rfl
    simp only [callbackAct, if_pos hfree, if_pos hfirst]
    exact congrArg _ hblocked
  have hwait : callbackAct b (firstWorker b) {} entered (.wait call)
      = some ({ entered with mutex := none }, .asleep call, []) := by
    have hmine : entered.mutex = some (firstWorker b) := rfl
    simp only [callbackAct, if_pos hmine]
  have hrest : (benchmarkProgram b).alone passedBy (firstWorker b) [{}, {}, {}]
      (benchmarkInitial b).shared (if b.partitions = true then .partitioned .tally call
        else .lock call) = some ({ entered with mutex := none }, .woken call, []) := by
    rw [hpartitions, if_neg Bool.false_ne_true]
    exact alone_cons hlock (.inr ⟨rfl, rfl⟩) (alone_act hwait (alone_act rfl rfl))
  exact ⟨_, alone_enter hprofiling hsubmitted _ (taskAddress_ne_zero 0) hrest⟩

/-- The start of an iteration with the controlled profile: the first callback waits until the
controller releases it. -/
theorem reached_one : ∃ s, Reached b 1 s := by
  obtain ⟨is, hblocked⟩ := alone_blocked hprofiling hsubmitted hprofile
  let worker := firstWorker b
  let ctx₁ : CallbackContext (BenchmarkThread b) :=
    { (benchmarkInitial b).shared with blockingEntered := true }
  let ctx₂ : CallbackContext (BenchmarkThread b) := { ctx₁ with blockingReleased := true }
  let s₁ : BenchmarkPool b :=
    ⟨ctx₁, Function.update (benchmarkInitial b).pc worker (.woken ⟨b.taskAddress 0, 0, 0⟩)⟩
  let s₂ : BenchmarkPool b := ⟨ctx₂, Function.update s₁.pc none .released⟩
  have hcontroller : (benchmarkInitial b).pc none = .releaseLock := if_pos hprofile
  -- The worker goes to sleep and wakes up.
  have hothers₀ : ∀ u, u ≠ worker →
      (benchmarkProgram b).asleepOn ((benchmarkInitial b).pc u) = none := by
    intro u _
    cases u with
    | some _ => rfl
    | none => rw [hcontroller]; rfl
  obtain ⟨hrun₁, hlog₁⟩ := run_alone (f := passedTasks) (fun _ _ => rfl) hothers₀ hblocked
  -- The controller finds it entered, and releases it.
  have hne : (none : BenchmarkThread b) ≠ worker := (Option.some_ne_none _).symm
  have hstill₁ : ∀ u, u ≠ worker → s₁.pc u = (benchmarkInitial b).pc u := fun u hu =>
    Function.update_of_ne hu (.woken ⟨b.taskAddress 0, 0, 0⟩) (benchmarkInitial b).pc
  have hpc₁ : s₁.pc none = .releaseLock := (hstill₁ none hne).trans hcontroller
  have hwoken₁ : s₁.pc worker = .woken ⟨b.taskAddress 0, 0, 0⟩ :=
    Function.update_self worker (.woken ⟨b.taskAddress 0, 0, 0⟩) (benchmarkInitial b).pc
  have hothers₁ : ∀ u, u ≠ none → (benchmarkProgram b).asleepOn (s₁.pc u) = none := by
    intro u hu
    by_cases hworker : u = worker
    · rw [hworker, hwoken₁]
      rfl
    · rw [hstill₁ u hworker]
      exact hothers₀ u hworker
  have hlock : callbackAct b none {} ctx₁ .releaseLock
      = some ({ ctx₂ with mutex := some none }, .releaseUnlock, [.broadcast ()]) := rfl
  have hunlock : callbackAct b none {} { ctx₂ with mutex := some none } .releaseUnlock
      = some (ctx₂, .released, []) := rfl
  have hrelease : (benchmarkProgram b).alone passedBy none [{}, {}] s₁.shared (s₁.pc none)
      = some (ctx₂, .released, []) := by
    rw [hpc₁]
    exact alone_cons hlock (.inr ⟨rfl, rfl⟩) (alone_act hunlock rfl)
  obtain ⟨hrun₂, hlog₂⟩ := run_alone (f := passedTasks) (fun _ _ => rfl) hothers₁ hrelease
  -- The worker goes on and returns.
  have hstill₂ : ∀ u, u ≠ none → s₂.pc u = s₁.pc u := fun u hu =>
    Function.update_of_ne hu .released s₁.pc
  have hreleased₂ : s₂.pc none = .released := Function.update_self none .released s₁.pc
  have hpc₂ : s₂.pc worker = .woken ⟨b.taskAddress 0, 0, 0⟩ :=
    (hstill₂ worker hne.symm).trans hwoken₁
  have hothers₂ : ∀ u, u ≠ worker → (benchmarkProgram b).asleepOn (s₂.pc u) = none := by
    intro u hu
    by_cases hnone : u = none
    · rw [hnone, hreleased₂]
      rfl
    · rw [hstill₂ u hnone]
      exact hothers₁ u hnone
  obtain ⟨counters, hsection⟩ := accountSection_open hsubmitted worker
    { ctx₂ with mutex := some worker } (fun _ => rfl) (b.taskAddress 0)
  have hwoken : callbackAct b worker {} ctx₂ (.woken ⟨b.taskAddress 0, 0, 0⟩)
      = some ({ ctx₂ with mutex := some worker, counters }, .unlock, []) := by
    have hfree : ctx₂.mutex = none := rfl
    simp only [callbackAct, if_pos hfree, hsection, Option.map_some]
  have hreturn : (benchmarkProgram b).alone passedBy worker [{}, {}, {}, {}] s₂.shared
      (s₂.pc worker) = some ({ ctx₂ with counters }, .idle, []) := by
    rw [hpc₂]
    exact alone_act hwoken (alone_leave worker rfl)
  obtain ⟨hrun₃, hlog₃⟩ := run_alone (f := passedTasks) (fun _ _ => rfl) hothers₂ hreturn
  refine ⟨_, ⟨⟨fun other => ?_, ?_⟩, rfl, fun _ => rfl⟩, _,
    run_append hrun₁ (run_append hrun₂ hrun₃), ?_⟩
  · by_cases hworker : some other = worker
    · rw [hworker]
      exact Function.update_self worker .idle s₂.pc
    · exact ((Function.update_of_ne hworker .idle s₂.pc).trans
        (hstill₂ _ (Option.some_ne_none other))).trans
        (hstill₁ _ hworker)
  · exact (Function.update_of_ne hne .idle s₂.pc).trans hreleased₂
  · rw [log_append passedTasks _ hrun₁, log_append passedTasks _ hrun₂, hlog₁, hlog₂, hlog₃]
    rfl

end Blocking

include hprofiling hsubmitted in
/-- **There is a full run**: every Task is passed to the callback exactly once. -/
theorem exists_full_run : ∃ ls s, (benchmarkProgram b).run ls (benchmarkInitial b) = some s ∧
    IterationOver s ∧ (benchmarkProgram b).log passedTasks ls (benchmarkInitial b)
      = (List.range b.config.tasks).map b.taskAddress := by
  have hpos : 1 ≤ b.config.tasks := b.accepted.counts.tasks.1
  obtain ⟨first, s₀, hfirst, hle⟩ : ∃ first s₀, Reached b first s₀ ∧ first ≤ b.config.tasks := by
    by_cases hprofile : b.config.profile = .controlledBlocking
    · obtain ⟨s₀, h⟩ := reached_one hprofiling hsubmitted hprofile
      exact ⟨1, s₀, h, hpos⟩
    · exact ⟨0, _, reached_zero hprofile, Nat.zero_le _⟩
  have hall : ∃ s, Reached b b.config.tasks s := by
    have hstep : ∀ n, first ≤ n → n ≤ b.config.tasks → ∃ s, Reached b n s := by
      intro n hn
      induction hn with
      | refl => exact fun _ => ⟨s₀, hfirst⟩
      | step _ ih =>
        intro hlt
        obtain ⟨s, hs⟩ := ih (Nat.le_of_succ_le hlt)
        exact hs.extend hprofiling hsubmitted hlt
    exact hstep _ hle (Nat.le_refl _)
  obtain ⟨s, hs⟩ := hall
  obtain ⟨ls, hrun, hlog⟩ := hs.run
  exact ⟨ls, s, hrun, hs.ready.finished, hlog⟩

end Runs

end SchedulingEngine
