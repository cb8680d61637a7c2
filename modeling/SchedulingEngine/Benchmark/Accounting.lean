import SchedulingEngine.Arithmetic.Folding
import SchedulingEngine.Benchmark.Callback
import SchedulingEngine.Benchmark.Ranges

/-!
# What the callbacks leave in the counters

The Tasks passed to the callback so far are a bag `P` of addresses. Each callback accounts for
its Task in one section (standard accounting) or in stages (partitioned accounting: it is tallied,
counted and summed), so `P` splits into the Tasks that reached a stage and those that the threads
still owe it. What was tallied is *clean* if it has no duplicates and no unknown pointers; the
failure flag, with the threads on their way to raise it, says exactly whether it is.

- `StandardBooks`, `StandardBooks.account`: the section under the mutex;
- `TallyBooks`, `TallyBooks.step`: the atomic operations of partitioned accounting;
- `CallbackBooks.step`: a step of any thread; `books_of_run`: a whole run.
-/

namespace SchedulingEngine

open Concurrency Concurrency.Program Folding

/-! ## Addresses -/

section Addresses

variable {b : Benchmark}

theorem Benchmark.taskAddress_injective : Function.Injective b.taskAddress := by
  intro i j h
  unfold Benchmark.taskAddress taskSize at h
  omega

/-- `task_index_for_pointer` finds exactly the elements of the array. -/
theorem taskIndexForPointer_eq_some {address index : ℕ} :
    taskIndexForPointer b address = some index ↔
      index < b.config.tasks ∧ address = b.taskAddress index := by
  have hbase := b.base_pos
  have hfits := b.array_fits
  have hmax : sizeMax = 2 ^ 64 - 1 := rfl
  unfold taskIndexForPointer Benchmark.taskAddress
  constructor
  · intro h
    dsimp only at h
    split_ifs at h with hnull hspan halign
    cases h
    unfold taskSize at *
    omega
  · rintro ⟨hindex, rfl⟩
    have hoffset : b.base + index * taskSize - b.base = index * taskSize := by omega
    have hbound : index * taskSize < b.config.tasks * taskSize :=
      Nat.mul_lt_mul_of_pos_right hindex (by decide)
    have hcount : ¬b.config.tasks > sizeMax / taskSize := by
      rw [not_lt, Nat.le_div_iff_mul_le (by decide)]
      omega
    rw [if_neg (by omega), if_neg (by omega), hoffset, if_neg (by simp),
      Nat.mul_div_cancel _ (by decide)]

theorem taskIndexForPointer_taskAddress {index : ℕ} (h : index < b.config.tasks) :
    taskIndexForPointer b (b.taskAddress index) = some index :=
  taskIndexForPointer_eq_some.mpr ⟨h, rfl⟩

end Addresses

/-! ## Clean bags -/

/-- No duplicates and no pointers outside the array. -/
structure Clean (b : Benchmark) (A : Multiset ℕ) : Prop where
  nodup : A.Nodup
  known : ∀ a ∈ A, ∃ index < b.config.tasks, a = b.taskAddress index

section Clean

variable {b : Benchmark} {A : Multiset ℕ} {a index : ℕ}

theorem Clean.of_add (h : Clean b (A + {a})) : Clean b A :=
  ⟨(Multiset.nodup_add.mp h.nodup).1,
    fun a' ha' => h.known a' (Multiset.mem_add.mpr (.inl ha'))⟩

theorem clean_zero : Clean b 0 := ⟨Multiset.nodup_zero, by simp⟩

theorem not_clean_of_unknown (h : taskIndexForPointer b a = none) : ¬Clean b (A + {a}) := by
  intro hclean
  obtain ⟨index, hindex, rfl⟩ := hclean.known a (by simp)
  rw [taskIndexForPointer_taskAddress hindex] at h
  cases h

/-- One more Task keeps a clean bag clean exactly if it is new. -/
theorem clean_add_iff (hindex : index < b.config.tasks) :
    Clean b (A + {b.taskAddress index}) ↔ Clean b A ∧ A.count (b.taskAddress index) = 0 := by
  rw [Multiset.count_eq_zero]
  constructor
  · intro h
    refine ⟨h.of_add, fun hmem => ?_⟩
    obtain ⟨-, -, hdisjoint⟩ := Multiset.nodup_add.mp h.nodup
    exact Multiset.disjoint_left.mp hdisjoint hmem (Multiset.mem_singleton_self _)
  · rintro ⟨h, hnew⟩
    refine ⟨Multiset.nodup_add.mpr ⟨h.nodup, Multiset.nodup_singleton _, ?_⟩, fun a ha => ?_⟩
    · exact Multiset.disjoint_singleton.mpr hnew
    · rcases Multiset.mem_add.mp ha with ha | ha
      · exact h.known a ha
      · exact ⟨index, hindex, Multiset.mem_singleton.mp ha⟩

/-- A clean bag is no larger than the array. -/
theorem Clean.card_le (h : Clean b A) : A.card ≤ b.config.tasks := by
  have hsub : A ≤ (Multiset.range b.config.tasks).map b.taskAddress := by
    refine (Multiset.le_iff_subset h.nodup).mpr fun a ha => ?_
    obtain ⟨index, hindex, rfl⟩ := h.known a ha
    exact Multiset.mem_map_of_mem _ (Multiset.mem_range.mpr hindex)
  simpa using Multiset.card_le_card hsub

theorem Benchmark.tasks_lt (b : Benchmark) : b.config.tasks < sizeMax := by
  have hfits := b.array_fits
  have hbase := b.base_pos
  unfold taskSize at hfits
  omega

end Clean

/-! ## Standard accounting -/

/-- The completion of a Task lies between its submission and the last reading. -/
def Stamped (b : Benchmark) (k : CallbackCounters) (index : ℕ) : Prop :=
  b.submissionTicks index ≤ k.completionTicks index ∧ k.completionTicks index ≤ b.lastReading

/-- What a bag of Tasks contributes to the checksum. -/
def checksumOf (b : Benchmark) (A : Multiset ℕ) : UInt64 :=
  foldMap (· ^^^ ·) 0 (contribution b) A

instance : Std.Commutative sizeAdd := ⟨fun a b => by unfold sizeAdd; rw [Nat.add_comm]⟩

instance : Std.Associative sizeAdd where
  assoc a b c := by
    unfold sizeAdd
    omega

/-- The sum of the workers' `worker_tasks`. -/
def slotTasks (b : Benchmark) (k : CallbackCounters) : ℕ :=
  (Finset.range b.config.workers).fold sizeAdd 0 k.workerTasks

/-- The exclusive or of the workers' `worker_checksums`. -/
def slotChecksums (b : Benchmark) (k : CallbackCounters) : UInt64 :=
  (Finset.range b.config.workers).fold (· ^^^ ·) 0 k.workerChecksums

/-- What the counters say about the Tasks of `A`, while `A` is clean. -/
structure Tallied (b : Benchmark) (A : Multiset ℕ) (k : CallbackCounters) : Prop where
  counts : ∀ index < b.config.tasks, k.executionCounts index = A.count (b.taskAddress index)
  unknown : k.unknownCount = 0
  duplicate : k.duplicateCount = 0
  partitionedUnknown : k.partitionedUnknownCount = 0
  partitionedDuplicate : k.partitionedDuplicateCount = 0

/-- The books of standard accounting: `A` are the Tasks accounted for. Single Tasks are tallied in
validated mode only. -/
structure StandardBooks (b : Benchmark) (A : Multiset ℕ) (k : CallbackCounters) : Prop where
  failure_iff : b.config.mode = .validated → (k.failure = false ↔ Clean b A)
  tallied : b.config.mode = .validated → Clean b A → Tallied b A k
  stamped : b.config.mode = .validated → Clean b A → ∀ index < b.config.tasks,
    b.taskAddress index ∈ A → Stamped b k index
  executed : A.card ≤ sizeMax → k.executionCount = A.card
  checksum : k.checksum = checksumOf b A
  slots : b.profiling = true → slotTasks b k = A.card % 2 ^ 64
  unused : k.partitionedExecutionCount = 0

section Standard

variable {b : Benchmark} {A : Multiset ℕ} {k : CallbackCounters}

/-- A first execution of `tasks[index]`, as far as the counts go. -/
theorem Tallied.first (h : Tallied b A k) {index : ℕ} (hnew : A.count (b.taskAddress index) = 0)
    {k' : CallbackCounters}
    (hcounts : k'.executionCounts = Function.update k.executionCounts index 1)
    (hunknown : k'.unknownCount = k.unknownCount)
    (hduplicate : k'.duplicateCount = k.duplicateCount)
    (hunknown' : k'.partitionedUnknownCount = k.partitionedUnknownCount)
    (hduplicate' : k'.partitionedDuplicateCount = k.partitionedDuplicateCount) :
    Tallied b (A + {b.taskAddress index}) k' := by
  refine ⟨fun other hother => ?_, hunknown.trans h.unknown, hduplicate.trans h.duplicate,
    hunknown'.trans h.partitionedUnknown, hduplicate'.trans h.partitionedDuplicate⟩
  rw [hcounts, Multiset.count_add, Multiset.count_singleton]
  by_cases hsame : other = index
  · subst hsame
    rw [Function.update_self, hnew, if_pos rfl]
  · rw [Function.update_of_ne hsame, h.counts other hother,
      if_neg (mt (fun heq => b.taskAddress_injective heq) hsame)]
    rfl

/-- What `recognize` does, in terms of the bag: the flag tells whether it is still clean. -/
theorem StandardBooks.recognize (hmode : b.config.mode = .validated) (h : StandardBooks b A k)
    (task completion : ℕ) :
    ((k.recognize b task completion).failure = false ↔ Clean b (A + {task})) ∧
      (Clean b (A + {task}) → Tallied b (A + {task}) (k.recognize b task completion)) := by
  unfold CallbackCounters.recognize
  cases htask : taskIndexForPointer b task with
  | none =>
    have hunclean := not_clean_of_unknown (A := A) htask
    exact ⟨⟨fun hfalse => (nomatch hfalse), fun hclean => absurd hclean hunclean⟩,
      fun hclean => absurd hclean hunclean⟩
  | some index =>
    obtain ⟨hindex, rfl⟩ := taskIndexForPointer_eq_some.mp htask
    simp only [if_pos hmode]
    by_cases hclean : Clean b A
    · have htallied := h.tallied hmode hclean
      have hcount := htallied.counts index hindex
      rw [clean_add_iff hindex, ← hcount]
      by_cases hprior : k.executionCounts index = 0
      · rw [if_neg (not_not.mpr hprior), hprior]
        refine ⟨⟨fun _ => ⟨hclean, rfl⟩, fun _ => (h.failure_iff hmode).mpr hclean⟩, fun _ => ?_⟩
        exact htallied.first (hcount ▸ hprior) rfl rfl rfl rfl rfl
      · rw [if_pos hprior]
        exact ⟨⟨fun hfalse => (nomatch hfalse), fun hnew => absurd hnew.2 hprior⟩,
          fun hnew => absurd hnew.2 hprior⟩
    · -- The flag was raised before and stays so.
      have hunclean : ¬Clean b (A + {b.taskAddress index}) := mt Clean.of_add hclean
      have hfailure : k.failure ≠ false := mt (h.failure_iff hmode).mp hclean
      refine ⟨⟨fun hfalse => absurd hfalse ?_, fun hnew => absurd hnew hunclean⟩,
        fun hnew => absurd hnew hunclean⟩
      split
      · exact Bool.true_eq_false_eq_False
      · exact hfailure

/-- Everything else `recognize` leaves alone, but for the stamp of the Task. -/
theorem recognize_frame (b : Benchmark) (k : CallbackCounters) (task completion : ℕ) :
    (k.recognize b task completion).executionCount = k.executionCount ∧
      (k.recognize b task completion).checksum = k.checksum ∧
      (k.recognize b task completion).workerTasks = k.workerTasks ∧
      (k.recognize b task completion).partitionedExecutionCount = k.partitionedExecutionCount := by
  unfold CallbackCounters.recognize
  split
  · exact ⟨rfl, rfl, rfl, rfl⟩
  · split
    · dsimp only
      split <;> exact ⟨rfl, rfl, rfl, rfl⟩
    · exact ⟨rfl, rfl, rfl, rfl⟩

/-- The order of the readings that a callback takes. -/
structure CallbackCall.Times (b : Benchmark) (call : CallbackCall) (completion accountingEnd : ℕ) :
    Prop where
  start : call.combinedStart ≤ call.computeEnd
  compute : call.computeEnd ≤ completion
  submitted : b.submitted call.task ≤ completion
  finish : completion ≤ accountingEnd
  last : accountingEnd ≤ b.lastReading

/-- The timer converts the durations of a callback. -/
theorem callbackDurations_isSome {call : CallbackCall} {accountingEnd : ℕ}
    (hstart : call.combinedStart ≤ call.computeEnd) (hcompute : call.computeEnd ≤ accountingEnd)
    (hlast : accountingEnd ≤ b.lastReading) :
    ∃ durations, callbackDurations b call accountingEnd = some durations := by
  obtain ⟨compute, h₁⟩ := Option.isSome_iff_exists.mp
    (b.durations _ _ hstart (hcompute.trans hlast))
  obtain ⟨accounting, h₂⟩ := Option.isSome_iff_exists.mp (b.durations _ _ hcompute hlast)
  obtain ⟨combined, h₃⟩ := Option.isSome_iff_exists.mp
    (b.durations _ _ (hstart.trans hcompute) hlast)
  exact ⟨(compute, accounting, combined), by simp [callbackDurations, h₁, h₂, h₃]⟩

theorem recognize_stamped (hmode : b.config.mode = .validated) {task completion : ℕ}
    (hsubmitted : b.submitted task ≤ completion) (hlast : completion ≤ b.lastReading) {index : ℕ}
    (hindex : index < b.config.tasks) (h : task ≠ b.taskAddress index → Stamped b k index) :
    Stamped b (k.recognize b task completion) index := by
  unfold CallbackCounters.recognize
  cases htask : taskIndexForPointer b task with
  | none =>
    refine h ?_
    rintro rfl
    rw [taskIndexForPointer_taskAddress hindex] at htask
    cases htask
  | some other =>
    obtain ⟨hother, rfl⟩ := taskIndexForPointer_eq_some.mp htask
    rw [Benchmark.submitted, htask] at hsubmitted
    simp only [if_pos hmode]
    have hticks : ∀ k' : CallbackCounters, k'.completionTicks = k.completionTicks →
        Stamped b { k' with
          completionTicks := Function.update k'.completionTicks other completion } index := by
      intro k' hk'
      unfold Stamped
      dsimp only
      rw [hk']
      by_cases hsame : index = other
      · subst hsame
        rw [Function.update_self]
        exact ⟨hsubmitted, hlast⟩
      · rw [Function.update_of_ne hsame]
        exact h (mt (fun heq => (b.taskAddress_injective heq).symm) hsame)
    split
    · exact hticks { k with executionCounts := _, duplicateCount := _, failure := true } rfl
    · exact hticks { k with executionCounts := _ } rfl

theorem sizeAdd_mod_one (n : ℕ) : sizeAdd (n % 2 ^ 64) 1 = (n + 1) % 2 ^ 64 := by
  unfold sizeAdd
  omega

/-- A slot of the array belongs to every worker, so each callback is counted in some slot. -/
theorem slotTasks_addWorker {slot : ℕ} (hslot : slot < b.config.workers) (value : UInt64) :
    slotTasks b (k.addWorker slot value) = sizeAdd (slotTasks b k) 1 :=
  fold_update (Finset.mem_range.mpr hslot) k.workerTasks 0 1

theorem slotChecksums_addWorker {slot : ℕ} (hslot : slot < b.config.workers) (value : UInt64) :
    slotChecksums b (k.addWorker slot value) = slotChecksums b k ^^^ value :=
  fold_update (Finset.mem_range.mpr hslot) k.workerChecksums 0 value

/-- The profiling part of the section writes the worker's slots and nothing else. -/
theorem profile_eq {slot : ℕ} (hslot : slot < b.config.workers) {call : CallbackCall}
    {accountingEnd : ℕ} {durations : ℕ × ℕ × ℕ}
    (hdurations : callbackDurations b call accountingEnd = some durations) :
    ∃ tasks compute accounting combined checksums,
      k.profile b slot call accountingEnd = { k with
        workerTasks := tasks
        workerComputeNs := compute
        workerAccountingNs := accounting
        workerCombinedNs := combined
        workerChecksums := checksums } ∧
      (b.profiling = true →
        (Finset.range b.config.workers).fold sizeAdd 0 tasks = sizeAdd (slotTasks b k) 1) := by
  unfold CallbackCounters.profile
  by_cases hprofiling : b.profiling = true
  · simp only [hprofiling, if_true, hdurations]
    exact ⟨_, _, _, _, _, rfl, fun _ => slotTasks_addWorker hslot (contribution b call.task)⟩
  · rw [if_neg hprofiling]
    exact ⟨_, _, _, _, _, rfl, fun h => absurd h hprofiling⟩

/-- The section under the mutex keeps the books. -/
theorem StandardBooks.account (h : StandardBooks b A k)
    {slot : ℕ} (hslot : slot < b.config.workers) {call : CallbackCall}
    {completion accountingEnd : ℕ} (htimes : call.Times b completion accountingEnd) :
    StandardBooks b (A + {call.task}) (k.account b slot call completion accountingEnd) := by
  obtain ⟨hexecution, hchecksum, hslots, hunused⟩ := recognize_frame b k call.task completion
  have hrecognized := fun hmode => h.recognize hmode call.task completion
  obtain ⟨durations, hdurations⟩ := callbackDurations_isSome (b := b) htimes.start
    (htimes.compute.trans htimes.finish) htimes.last
  have hstamped : b.config.mode = .validated → Clean b (A + {call.task}) →
      ∀ index < b.config.tasks, b.taskAddress index ∈ A + {call.task} →
      Stamped b (k.recognize b call.task completion) index := by
    intro hmode hclean index hindex hmem
    refine recognize_stamped hmode htimes.submitted (htimes.finish.trans htimes.last) hindex
      fun hne => ?_
    rw [Multiset.mem_add, Multiset.mem_singleton] at hmem
    exact h.stamped hmode hclean.of_add index hindex (hmem.resolve_right hne.symm)
  generalize hr : k.recognize b call.task completion = r at *
  -- The counter of executions is full only after more callbacks than the array has Tasks.
  have hroom : Clean b (A + {call.task}) → r.executionCount ≠ sizeMax := by
    intro hclean
    have hcard := hclean.of_add.card_le
    have htasks := b.tasks_lt
    rw [hexecution, h.executed (by omega)]
    omega
  have hexecuted : (A + {call.task}).card ≤ sizeMax →
      r.executionCount ≠ sizeMax ∧ r.executionCount + 1 = (A + {call.task}).card := by
    intro hcard
    rw [Multiset.card_add, Multiset.card_singleton] at hcard ⊢
    rw [hexecution, h.executed (by omega)]
    omega
  have hslots' : b.profiling = true → sizeAdd (slotTasks b r) 1 =
      (A + {call.task}).card % 2 ^ 64 := by
    intro hprofiling
    have hsame : slotTasks b r = slotTasks b k := by rw [slotTasks, slotTasks, hslots]
    rw [hsame, h.slots hprofiling, sizeAdd_mod_one, Multiset.card_add, Multiset.card_singleton]
  have hsum : r.checksum ^^^ contribution b call.task = checksumOf b (A + {call.task}) := by
    rw [hchecksum, h.checksum]
    exact (foldMap_add_singleton 0 (contribution b) A call.task).symm
  unfold CallbackCounters.account
  rw [hr]
  obtain ⟨tasks, compute, accounting, combined, checksums, hprofile, hprofiled⟩ :=
    profile_eq (k := r.addExecution (contribution b call.task)) hslot hdurations
  rw [hprofile]
  unfold CallbackCounters.addExecution at hprofiled ⊢
  by_cases hfull : r.executionCount = sizeMax
  · have hunclean : ¬Clean b (A + {call.task}) := fun hclean => hroom hclean hfull
    simp only [if_pos hfull] at hprofiled ⊢
    exact
      { failure_iff := fun _ =>
          ⟨fun hfalse => (nomatch hfalse), fun hclean => absurd hclean hunclean⟩
        tallied := fun _ hclean => absurd hclean hunclean
        stamped := fun _ hclean => absurd hclean hunclean
        executed := fun hcard => absurd hfull (hexecuted hcard).1
        checksum := hsum
        slots := fun hprofiling => (hprofiled hprofiling).trans (hslots' hprofiling)
        unused := hunused.trans h.unused }
  · simp only [if_neg hfull] at hprofiled ⊢
    exact
      { failure_iff := fun hmode => (hrecognized hmode).1
        tallied := fun hmode hclean => { (hrecognized hmode).2 hclean with }
        stamped := hstamped
        executed := fun hcard => (hexecuted hcard).2
        checksum := hsum
        slots := fun hprofiling => (hprofiled hprofiling).trans (hslots' hprofiling)
        unused := hunused.trans h.unused }

end Standard

/-! ## Partitioned accounting -/

/-- The books of the first stage: `T` are the Tasks tallied, `flagging` the number of threads on
their way to raise the flag, and `stamping` the Tasks about to be stamped. -/
structure TallyBooks (b : Benchmark) (T : Multiset ℕ) (k : CallbackCounters) (flagging : ℕ)
    (stamping : Multiset ℕ) : Prop where
  failure_iff : k.partitionedFailure = false ∧ flagging = 0 ↔ Clean b T
  tallied : Clean b T → Tallied b T k
  stamped : Clean b T → ∀ index < b.config.tasks, b.taskAddress index ∈ T →
    b.taskAddress index ∈ stamping ∨ Stamped b k index

/-- Where a callback stands: the stage it is about to take and its Task. In the section under
the mutex, and before it, nothing has been tallied. -/
def CallbackPc.place : CallbackPc → Option (PartitionedStage × ℕ)
  | .called task | .computing task _ => some (.tally, task)
  | .partitioned stage call => some (stage, call.task)
  | .lock call | .wait call | .asleep call | .woken call => some (.tally, call.task)
  | _ => none

/-- The Task of a callback that has not tallied it. -/
def CallbackPc.untallied (pc : CallbackPc) : Multiset ℕ :=
  match pc.place with
  | some (.tally, task) => {task}
  | _ => 0

/-- The Task of a callback that has not counted its execution. -/
def CallbackPc.uncounted (pc : CallbackPc) : Multiset ℕ :=
  match pc.place with
  | some (.sum, _) | some (.time, _) | none => 0
  | some (_, task) => {task}

/-- The Task of a callback that has not used its worker's slot. -/
def CallbackPc.unsummed (pc : CallbackPc) : Multiset ℕ :=
  match pc.place with
  | some (.time, _) | none => 0
  | some (_, task) => {task}

/-- One for a callback that is about to raise the flag. -/
def CallbackPc.flagging (pc : CallbackPc) : ℕ :=
  match pc.place with
  | some (.flagUnknown, _) | some (.duplicate, _) | some (.flagDuplicate, _) => 1
  | _ => 0

/-- The Task of a callback that is about to stamp it. -/
def CallbackPc.stamping (pc : CallbackPc) : Multiset ℕ :=
  match pc.place with
  | some (.complete, task) => {task}
  | _ => 0

section Partitioned

variable {b : Benchmark} {t : BenchmarkThread b} {choice : CallbackChoice} {T : Multiset ℕ}
  {k k' : CallbackCounters} {call : CallbackCall} {stage : PartitionedStage} {pc' : CallbackPc}
  {flagging : ℕ} {stamping : Multiset ℕ}

theorem flagging_pos_of_one (f : ℕ) : 1 + f ≠ 0 := by omega

/-- While a thread is on its way to raise the flag, the bag is not clean. -/
theorem TallyBooks.not_clean (h : TallyBooks b T k (1 + flagging) stamping) : ¬Clean b T :=
  fun hclean => flagging_pos_of_one flagging (h.failure_iff.mpr hclean).2

/-- CallbackBooks about a bag that is not clean say only that the flag is raised or about to be. -/
theorem TallyBooks.of_not_clean (hunclean : ¬Clean b T)
    (h : ¬(k.partitionedFailure = false ∧ flagging = 0)) : TallyBooks b T k flagging stamping :=
  ⟨⟨fun hquiet => absurd hquiet h, fun hclean => absurd hclean hunclean⟩,
    fun hclean => absurd hclean hunclean, fun hclean => absurd hclean hunclean⟩

theorem TallyBooks.raise (h : TallyBooks b T k (1 + flagging) stamping) {flagging' : ℕ} :
    TallyBooks b T { k with partitionedFailure := true } flagging' stamping :=
  .of_not_clean h.not_clean fun hquiet => (nomatch hquiet.1)

/-- The tally of a pointer outside the array. -/
theorem TallyBooks.tally_unknown (htask : taskIndexForPointer b call.task = none) :
    TallyBooks b (T + {call.task}) k' (1 + flagging) stamping :=
  .of_not_clean (not_clean_of_unknown htask) fun hquiet => flagging_pos_of_one flagging hquiet.2

/-- The tally of a Task that was tallied before. -/
theorem TallyBooks.tally_again (h : TallyBooks b T k flagging stamping) {index : ℕ}
    (hindex : index < b.config.tasks) (hprior : k.executionCounts index ≠ 0) :
    TallyBooks b (T + {b.taskAddress index}) k' (1 + flagging) stamping := by
  refine .of_not_clean (fun hclean => hprior ?_) fun hquiet =>
    flagging_pos_of_one flagging hquiet.2
  obtain ⟨hbefore, hnew⟩ := (clean_add_iff hindex).mp hclean
  rw [(h.tallied hbefore).counts index hindex, hnew]

/-- The first tally of a Task. -/
theorem TallyBooks.tally_first (h : TallyBooks b T k flagging stamping) {index : ℕ}
    (hindex : index < b.config.tasks) (hprior : k.executionCounts index = 0) :
    TallyBooks b (T + {b.taskAddress index})
      { k with executionCounts := Function.update k.executionCounts index (unsignedIncrement 0) }
      flagging ({b.taskAddress index} + stamping) := by
  have hnew : Clean b T → T.count (b.taskAddress index) = 0 := by
    intro hclean
    rw [← (h.tallied hclean).counts index hindex, hprior]
  refine ⟨?_, fun hclean => ?_, fun hclean other hother hmem => ?_⟩
  · rw [clean_add_iff hindex, ← h.failure_iff]
    exact ⟨fun hquiet => ⟨hquiet, hnew (h.failure_iff.mp hquiet)⟩, fun hboth => hboth.1⟩
  · exact (h.tallied hclean.of_add).first (hnew hclean.of_add) rfl rfl rfl rfl rfl
  · rw [Multiset.mem_add, Multiset.mem_singleton] at hmem
    rcases hmem with hmem | hmem
    · exact (h.stamped hclean.of_add other hother hmem).imp (fun hlater => by simp [hlater]) id
    · exact .inl (by simp [hmem])

/-- The stamp of a Task. -/
theorem TallyBooks.stamp (hsubmitted : b.submitted call.task ≤ call.computeEnd)
    (hlast : call.computeEnd ≤ b.lastReading)
    (h : TallyBooks b T k flagging ({call.task} + stamping)) :
    TallyBooks b T ((taskIndexForPointer b call.task).elim k fun index =>
      { k with completionTicks := Function.update k.completionTicks index call.computeEnd })
      flagging stamping := by
  cases htask : taskIndexForPointer b call.task with
  | none =>
    refine ⟨h.failure_iff, h.tallied, fun hclean index hindex hmem => ?_⟩
    refine (h.stamped hclean index hindex hmem).imp (fun hlater => ?_) id
    rw [Multiset.mem_add, Multiset.mem_singleton] at hlater
    refine hlater.resolve_left fun hsame => ?_
    rw [← hsame, taskIndexForPointer_taskAddress hindex] at htask
    cases htask
  | some index =>
    obtain ⟨hindex, htask'⟩ := taskIndexForPointer_eq_some.mp htask
    rw [Benchmark.submitted, htask] at hsubmitted
    refine ⟨h.failure_iff, fun hclean => { h.tallied hclean with },
      fun hclean other hother hmem => ?_⟩
    show _ ∨ (b.submissionTicks other ≤ Function.update k.completionTicks index _ other ∧
      Function.update k.completionTicks index _ other ≤ b.lastReading)
    by_cases hsame : other = index
    · subst hsame
      rw [Function.update_self]
      exact .inr ⟨hsubmitted, hlast⟩
    · rw [Function.update_of_ne hsame]
      refine (h.stamped hclean other hother hmem).imp (fun hlater => ?_) id
      rw [Multiset.mem_add, Multiset.mem_singleton, htask'] at hlater
      exact hlater.resolve_left fun heq => hsame (b.taskAddress_injective heq)

/-- Changes to other counters do not concern the tally. -/
theorem TallyBooks.frame (h : TallyBooks b T k flagging stamping)
    (hfailure : k'.partitionedFailure = k.partitionedFailure)
    (hcounts : k'.executionCounts = k.executionCounts) (hunknown : k'.unknownCount = k.unknownCount)
    (hduplicate : k'.duplicateCount = k.duplicateCount)
    (hunknown' : k'.partitionedUnknownCount = k.partitionedUnknownCount)
    (hduplicate' : k'.partitionedDuplicateCount = k.partitionedDuplicateCount)
    (hticks : k'.completionTicks = k.completionTicks) : TallyBooks b T k' flagging stamping := by
  refine ⟨by rw [hfailure]; exact h.failure_iff, fun hclean => ?_,
    fun hclean index hindex hmem => ?_⟩
  · have htallied := h.tallied hclean
    exact ⟨hcounts ▸ htallied.counts, hunknown.trans htallied.unknown,
      hduplicate.trans htallied.duplicate, hunknown'.trans htallied.partitionedUnknown,
      hduplicate'.trans htallied.partitionedDuplicate⟩
  · unfold Stamped
    rw [hticks]
    exact h.stamped hclean index hindex hmem

/-- One operation of partitioned accounting keeps the tally. `flagging` and `stamping` are those
of the other threads. -/
theorem TallyBooks.step (hmode : b.config.mode = .validated)
    (hstep : partitionedStep b t choice call k stage = some (k', pc'))
    (hsubmitted : b.submitted call.task ≤ call.computeEnd)
    (hstart : call.combinedStart ≤ call.computeEnd) (hlast : call.computeEnd ≤ b.lastReading)
    (h : TallyBooks b T k ((CallbackPc.partitioned stage call).flagging + flagging)
      ((CallbackPc.partitioned stage call).stamping + stamping)) :
    ∃ done, (CallbackPc.partitioned stage call).untallied = done + pc'.untallied ∧
      TallyBooks b (T + done) k' (pc'.flagging + flagging) (pc'.stamping + stamping) := by
  have hzero : ∀ {f : ℕ} {st : Multiset ℕ}, TallyBooks b T k' f st →
      TallyBooks b (T + 0) k' f st := by
    intro f st hbooks
    rwa [add_zero]
  cases stage with
  | tally =>
    refine ⟨{call.task}, ?_⟩
    change TallyBooks b T k (0 + flagging) (0 + stamping) at h
    rw [zero_add, zero_add] at h
    cases htask : taskIndexForPointer b call.task with
    | none =>
      simp only [partitionedStep, htask, Option.some.injEq, Prod.mk.injEq] at hstep
      obtain ⟨rfl, rfl⟩ := hstep
      exact ⟨rfl, .tally_unknown htask⟩
    | some index =>
      obtain ⟨hindex, htask'⟩ := taskIndexForPointer_eq_some.mp htask
      simp only [partitionedStep, htask, if_pos hmode, Option.some.injEq, Prod.mk.injEq] at hstep
      obtain ⟨rfl, rfl⟩ := hstep
      -- the first execution of a Task is clean, any later one raises the flag
      by_cases hprior : k.executionCounts index = 0
      · rw [if_neg (not_not.mpr hprior), hprior]
        refine ⟨rfl, ?_⟩
        show TallyBooks b (T + {call.task}) _ (0 + flagging) ({call.task} + stamping)
        rw [zero_add, htask']
        exact h.tally_first hindex hprior
      · rw [if_pos hprior]
        refine ⟨rfl, ?_⟩
        show TallyBooks b (T + {call.task}) _ (1 + flagging) (0 + stamping)
        rw [zero_add, htask']
        exact h.tally_again hindex hprior
  -- from here on the Task has its tally: what it still owes is the flag or the stamp
  | flagUnknown =>
    cases hstep
    exact ⟨0, rfl, hzero h.raise⟩
  | duplicate =>
    cases hstep
    exact ⟨0, rfl, hzero (.of_not_clean h.not_clean fun hquiet =>
      flagging_pos_of_one flagging hquiet.2)⟩
  | flagDuplicate =>
    cases hstep
    exact ⟨0, rfl, hzero h.raise⟩
  | complete =>
    cases hstep
    refine ⟨0, rfl, hzero ?_⟩
    show TallyBooks b T _ _ (0 + stamping)
    rw [zero_add]
    exact h.stamp hsubmitted hlast
  -- the partitioned counters are none of the tallies
  | count =>
    cases hstep
    exact ⟨0, rfl, hzero (h.frame rfl rfl rfl rfl rfl rfl rfl)⟩
  | sum =>
    cases hstep
    exact ⟨0, rfl, hzero (h.frame rfl rfl rfl rfl rfl rfl rfl)⟩
  | time =>
    simp only [partitionedStep] at hstep
    split at hstep
    · rename_i hreads
      obtain ⟨durations, hdurations⟩ := callbackDurations_isSome hstart hreads.1 hreads.2
      rw [hdurations] at hstep
      cases hstep
      exact ⟨0, rfl, hzero (h.frame rfl rfl rfl rfl rfl rfl rfl)⟩
    · cases hstep

/-- What an operation does to the number of executions and to the slots. -/
inductive CountMove (b : Benchmark) (slot task : ℕ) (k k' : CallbackCounters)
    (pc pc' : CallbackPc) : Prop where
  | same (huncounted : pc'.uncounted = pc.uncounted) (hunsummed : pc'.unsummed = pc.unsummed)
      (hcount : k'.partitionedExecutionCount = k.partitionedExecutionCount)
      (htasks : k'.workerTasks = k.workerTasks) (hsums : k'.workerChecksums = k.workerChecksums)
  | count (huncounted : pc.uncounted = {task} + pc'.uncounted)
      (hunsummed : pc'.unsummed = pc.unsummed)
      (hk : k' = { k with
        partitionedExecutionCount := sizeIncrement k.partitionedExecutionCount })
  | sum (huncounted : pc'.uncounted = pc.uncounted)
      (hunsummed : pc.unsummed = {task} + pc'.unsummed)
      (hk : k' = k.addWorker slot (contribution b task))

theorem partitionedStep_countMove
    (hstep : partitionedStep b t choice call k stage = some (k', pc')) :
    CountMove b (workerSlot t) call.task k k' (.partitioned stage call) pc' := by
  cases stage with
  | tally =>
    simp only [partitionedStep] at hstep
    split at hstep
    · cases hstep
      exact .same rfl rfl rfl rfl rfl
    · split at hstep
      · cases hstep
        split <;> exact .same rfl rfl rfl rfl rfl
      · cases hstep
        exact .same rfl rfl rfl rfl rfl
  | flagUnknown | duplicate | flagDuplicate =>
    cases hstep
    exact .same rfl rfl rfl rfl rfl
  | complete =>
    cases hstep
    cases taskIndexForPointer b call.task <;> exact .same rfl rfl rfl rfl rfl
  | count =>
    cases hstep
    exact .count rfl rfl rfl
  | sum =>
    cases hstep
    exact .sum rfl rfl rfl
  | time =>
    simp only [partitionedStep] at hstep
    split at hstep
    · split at hstep <;> cases hstep <;> exact .same rfl rfl rfl rfl rfl
    · cases hstep

/-- The number of executions: `C` are the Tasks counted. -/
theorem CountMove.counted {slot task : ℕ} {pc : CallbackPc} (h : CountMove b slot task k k' pc pc')
    {C : Multiset ℕ} (hC : k.partitionedExecutionCount = C.card % 2 ^ 64) :
    ∃ done, pc.uncounted = done + pc'.uncounted ∧
      k'.partitionedExecutionCount = (C + done).card % 2 ^ 64 := by
  cases h with
  | same huncounted _ hcount _ _ =>
    exact ⟨0, by rw [huncounted, zero_add], by rw [hcount, add_zero, hC]⟩
  | count huncounted _ hk =>
    refine ⟨{task}, huncounted, ?_⟩
    rw [hk, Multiset.card_add, Multiset.card_singleton, ← sizeAdd_mod_one, ← hC]
    rfl
  | sum huncounted _ hk =>
    refine ⟨0, by rw [huncounted, zero_add], ?_⟩
    rw [hk, add_zero]
    exact hC

/-- The books of the workers' slots: `S` are the Tasks summed. -/
structure SlotBooks (b : Benchmark) (S : Multiset ℕ) (k : CallbackCounters) : Prop where
  tasks : slotTasks b k = S.card % 2 ^ 64
  checksums : slotChecksums b k = checksumOf b S

theorem CountMove.slots {slot task : ℕ} {pc : CallbackPc} (h : CountMove b slot task k k' pc pc')
    (hslot : slot < b.config.workers) {S : Multiset ℕ} (hS : SlotBooks b S k) :
    ∃ done, pc.unsummed = done + pc'.unsummed ∧ SlotBooks b (S + done) k' := by
  cases h with
  | same _ hunsummed _ htasks hsums =>
    refine ⟨0, by rw [hunsummed, zero_add], ?_⟩
    rw [add_zero]
    refine ⟨?_, ?_⟩
    · rw [slotTasks, htasks]
      exact hS.tasks
    · rw [slotChecksums, hsums]
      exact hS.checksums
  | count _ hunsummed hk =>
    refine ⟨0, by rw [hunsummed, zero_add], ?_⟩
    rw [hk, add_zero]
    exact ⟨hS.tasks, hS.checksums⟩
  | sum _ hunsummed hk =>
    refine ⟨{task}, hunsummed, ?_, ?_⟩
    · rw [hk, slotTasks_addWorker hslot, hS.tasks, sizeAdd_mod_one, Multiset.card_add,
        Multiset.card_singleton]
    · rw [hk, slotChecksums_addWorker hslot, hS.checksums]
      exact (foldMap_add_singleton 0 (contribution b) S task).symm

end Partitioned

end SchedulingEngine
