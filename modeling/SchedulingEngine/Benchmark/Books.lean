import SchedulingEngine.Benchmark.Accounting

/-!
# The books over a run

Every step of a thread is one of four moves: a Task is passed to the callback, nothing is accounted
for, the section under the mutex accounts for a Task, or partitioned accounting takes one operation
(`callbackAct_move`). Each keeps the books (`CallbackBooks.step`), so they hold after every run;
when all workers are outside the callback nobody owes anything, and the counters speak of all Tasks
passed (`settled_of_run`).
-/

namespace SchedulingEngine

open Concurrency Concurrency.Program

/-! ## Moves -/

/-- The readings a callback has taken are in order, and it is on the path of its build. -/
def CallbackPc.Timed (b : Benchmark) : CallbackPc → Prop
  | .computing task combinedStart => b.submitted task ≤ combinedStart
  | .partitioned _ call => b.partitions = true ∧ b.submitted call.task ≤ call.computeEnd ∧
      call.combinedStart ≤ call.computeEnd ∧ call.computeEnd ≤ b.lastReading
  | .lock call | .wait call | .asleep call | .woken call =>
    b.partitions = false ∧ call.combinedStart ≤ call.computeEnd
  | _ => True

/-- The steps of a callback, with what they do to the counters. -/
inductive CallbackMove (b : Benchmark) (t : BenchmarkThread b) (k : CallbackCounters) :
    CallbackPc → CallbackCounters → CallbackPc → Prop where
  | pass (task : ℕ) : CallbackMove b t k .idle k (.called task)
  | quiet {pc pc' : CallbackPc} (hplace : pc'.place = pc.place) (hpassed : passedBy pc pc' = []) :
    CallbackMove b t k pc k pc'
  | account {pc : CallbackPc} {call : CallbackCall} {completion accountingEnd : ℕ}
    (hplace : pc.place = some (.tally, call.task)) (hstandard : b.partitions = false)
    (htimes : call.Times b completion accountingEnd) :
    CallbackMove b t k pc (k.account b (workerSlot t) call completion accountingEnd) .unlock
  | partitioned {stage : PartitionedStage} {call : CallbackCall} {choice : CallbackChoice}
    {k' : CallbackCounters} {pc' : CallbackPc}
    (hstep : partitionedStep b t choice call k stage = some (k', pc')) :
    CallbackMove b t k (.partitioned stage call) k' pc'

section Moves

variable {b : Benchmark} {t : BenchmarkThread b} {choice : CallbackChoice}
  {ctx ctx' : CallbackContext (BenchmarkThread b)} {pc pc' : CallbackPc} {call : CallbackCall}
  {fx : List (CallbackEffect (BenchmarkThread b))}

/-- The section under the mutex waits or accounts. -/
theorem accountSection_move (hpc : pc = .lock call ∨ pc = .woken call) (htimed : pc.Timed b)
    (h : accountSection b t choice call ctx = some (ctx', pc')) :
    CallbackMove b t ctx.counters pc ctx'.counters pc' ∧ pc'.Timed b := by
  have hplace : pc.place = some (.tally, call.task) := by rcases hpc with rfl | rfl <;> rfl
  have htimed' : b.partitions = false ∧ call.combinedStart ≤ call.computeEnd := by
    rcases hpc with rfl | rfl <;> exact htimed
  have hpassed : ∀ pc', passedBy pc pc' = [] := by rcases hpc with rfl | rfl <;> exact fun _ => rfl
  unfold accountSection at h
  split at h
  · cases h
    exact ⟨.quiet hplace.symm (hpassed _), htimed'⟩
  · split at h
    · rename_i hreads
      obtain ⟨⟨hmax, -⟩, hfinish, hlast⟩ := hreads
      cases h
      refine ⟨.account hplace htimed'.1 ⟨htimed'.2, ?_, ?_, hfinish, hlast⟩, trivial⟩
      · exact (Nat.le_max_right _ _).trans hmax
      · exact (Nat.le_max_left _ _).trans hmax
    · cases h

/-- Only a profiling build partitions its counters. -/
theorem partitions_profiling (h : b.profiling = false) : b.partitions = false := by
  unfold Benchmark.partitions
  rw [h, Bool.false_and]

/-- An operation of partitioned accounting stays on its path or leaves the callback. -/
theorem partitionedStep_timed {k k' : CallbackCounters} {stage : PartitionedStage}
    (htimed : (CallbackPc.partitioned stage call).Timed b)
    (h : partitionedStep b t choice call k stage = some (k', pc')) : pc'.Timed b := by
  cases stage with
  | tally =>
    simp only [partitionedStep] at h
    split at h
    · cases h
      exact htimed
    · split at h <;> cases h <;> exact htimed
  | flagUnknown | duplicate | flagDuplicate | complete | count | sum =>
    cases h
    exact htimed
  | time =>
    simp only [partitionedStep] at h
    split at h
    · split at h <;> cases h <;> exact trivial
    · cases h

/-- **What a step does**: every step of a thread is one of the four moves. -/
theorem callbackAct_move (hact : callbackAct b t choice ctx pc = some (ctx', pc', fx))
    (htimed : pc.Timed b) : CallbackMove b t ctx.counters pc ctx'.counters pc' ∧ pc'.Timed b := by
  cases pc with
  | idle =>
    simp only [callbackAct, Option.ite_none_right_eq_some] at hact
    obtain ⟨-, hact⟩ := hact
    cases hact
    exact ⟨.pass _, trivial⟩
  -- only a profiling build reads the clock here
  | called task =>
    simp only [callbackAct] at hact
    split at hact
    · split at hact
      · rename_i hreads
        cases hact
        exact ⟨.quiet rfl rfl, hreads.1⟩
      · cases hact
    · rename_i hprofiling
      cases hact
      exact ⟨.quiet rfl rfl, partitions_profiling (Bool.not_eq_true _ ▸ hprofiling), le_refl 0⟩
  | computing task combinedStart =>
    simp only [callbackAct] at hact
    split at hact
    · rename_i hreads
      cases hact
      -- the two ways to count a call part here
      by_cases hpartitions : b.partitions = true
      · rw [if_pos hpartitions]
        exact ⟨.quiet rfl rfl, hpartitions, le_trans htimed hreads.1, hreads.1, hreads.2⟩
      · rw [if_neg hpartitions]
        exact ⟨.quiet rfl rfl, Bool.not_eq_true _ ▸ hpartitions, hreads.1⟩
    · cases hact
  | partitioned stage call =>
    simp only [callbackAct, Option.map_eq_some_iff] at hact
    obtain ⟨⟨k', pc''⟩, hstep, heq⟩ := hact
    cases heq
    exact ⟨.partitioned hstep, partitionedStep_timed htimed hstep⟩
  -- the section is the same for the first callback, which enters, and for later ones
  | lock call =>
    simp only [callbackAct] at hact
    split at hact
    · split at hact
      · obtain ⟨⟨ctx'', pc''⟩, hsection, heq⟩ := Option.map_eq_some_iff.mp hact
        cases heq
        have hmove := accountSection_move (.inl rfl) htimed hsection
        exact hmove
      · obtain ⟨⟨ctx'', pc''⟩, hsection, heq⟩ := Option.map_eq_some_iff.mp hact
        cases heq
        have hmove := accountSection_move (.inl rfl) htimed hsection
        exact hmove
    · cases hact
  | woken call =>
    simp only [callbackAct] at hact
    split at hact
    · obtain ⟨⟨ctx'', pc''⟩, hsection, heq⟩ := Option.map_eq_some_iff.mp hact
      cases heq
      have hmove := accountSection_move (.inr rfl) htimed hsection
      exact hmove
    · cases hact
  | wait call =>
    simp only [callbackAct, Option.ite_none_right_eq_some] at hact
    obtain ⟨-, hact⟩ := hact
    cases hact
    exact ⟨.quiet rfl rfl, htimed⟩
  | asleep call =>
    cases hact
    exact ⟨.quiet rfl rfl, htimed⟩
  -- the rest of the callback, and the controller, leave the counters alone
  | leaving | returned | releaseAsleep =>
    cases hact
    exact ⟨.quiet rfl rfl, trivial⟩
  | unlock | releaseWait | releaseUnlock =>
    simp only [callbackAct, Option.ite_none_right_eq_some] at hact
    obtain ⟨-, hact⟩ := hact
    cases hact
    exact ⟨.quiet rfl rfl, trivial⟩
  | releaseLock | releaseWoken =>
    simp only [callbackAct, Option.ite_none_right_eq_some, releaseSection] at hact
    obtain ⟨-, hact⟩ := hact
    split at hact <;> cases hact <;> exact ⟨.quiet rfl rfl, trivial⟩
  | released => cases hact

end Moves

/-! ## Books -/

/-- Splitting the Tasks passed into those that reached a stage and those the threads owe it. -/
def Splits {b : Benchmark} (P A : Multiset ℕ) (owed : CallbackPc → Multiset ℕ)
    (s : BenchmarkPool b) : Prop :=
  P = A + total owed s.pc

/-- The books after the Tasks `P` were passed to the callback. -/
structure CallbackBooks (b : Benchmark) (P : Multiset ℕ) (s : BenchmarkPool b) : Prop where
  timed : ∀ u, (s.pc u).Timed b
  standard : b.partitions = false →
    ∃ A, Splits P A CallbackPc.untallied s ∧ StandardBooks b A s.shared.counters
  tally : b.partitions = true → b.config.mode = .validated →
    ∃ T, Splits P T CallbackPc.untallied s ∧
    TallyBooks b T s.shared.counters (total CallbackPc.flagging s.pc)
      (total CallbackPc.stamping s.pc)
  counted : b.partitions = true → ∃ C, Splits P C CallbackPc.uncounted s ∧
    s.shared.counters.partitionedExecutionCount = C.card % 2 ^ 64
  slots : b.partitions = true → ∃ S, Splits P S CallbackPc.unsummed s ∧
    SlotBooks b S s.shared.counters

section Steps

variable {b : Benchmark} {P : Multiset ℕ} {s s' : BenchmarkPool b} {t : BenchmarkThread b}
  {choice : CallbackChoice}

/-- An observation of the place of a thread does not see wakeups. -/
theorem blind_of_place {M : Type*} {w : CallbackPc → M}
    (hw : ∀ pc pc' : CallbackPc, pc'.place = pc.place → w pc' = w pc) :
    (benchmarkProgram b).Blind w where
  wake pc c hasleep := by
    refine hw pc _ ?_
    cases pc <;> rfl
  start pc hdormant := by cases hdormant

/-- A wakeup changes no time that a callback has noted. -/
theorem timed_blind : (benchmarkProgram b).Blind (CallbackPc.Timed b) where
  wake pc c hasleep := by cases pc <;> rfl
  start pc hdormant := by cases hdormant

/-- What a callback owes is decided by its place in the code. -/
theorem untallied_place (pc pc' : CallbackPc) (h : pc'.place = pc.place) :
    pc'.untallied = pc.untallied := by
  unfold CallbackPc.untallied
  rw [h]

theorem uncounted_place (pc pc' : CallbackPc) (h : pc'.place = pc.place) :
    pc'.uncounted = pc.uncounted := by
  unfold CallbackPc.uncounted
  rw [h]

theorem unsummed_place (pc pc' : CallbackPc) (h : pc'.place = pc.place) :
    pc'.unsummed = pc.unsummed := by
  unfold CallbackPc.unsummed
  rw [h]

theorem flagging_place (pc pc' : CallbackPc) (h : pc'.place = pc.place) :
    pc'.flagging = pc.flagging := by
  unfold CallbackPc.flagging
  rw [h]

theorem stamping_place (pc pc' : CallbackPc) (h : pc'.place = pc.place) :
    pc'.stamping = pc.stamping := by
  unfold CallbackPc.stamping
  rw [h]

/-- The Tasks passed in a step are those of the acting thread's move. -/
theorem passedTasks_eq {pc : CallbackPc} {fx : List (CallbackEffect (BenchmarkThread b))}
    (hact : (benchmarkProgram b).act t choice s.shared (s.pc t) = some (s'.shared, pc, fx))
    (hf : (benchmarkProgram b).applyEffects (Function.update s.pc t pc) fx = some s'.pc) :
    passedTasks s t s' = passedBy (s.pc t) pc := by
  obtain ⟨ctx', f'⟩ := s'
  by_cases hidle : s.pc t = .idle
  · rw [hidle] at hact
    simp only [benchmarkProgram, callbackAct, Option.ite_none_right_eq_some] at hact
    obtain ⟨-, hact⟩ := hact
    cases hact
    cases hf
    simp [passedTasks, passedBy, hidle]
  · have hnone : ∀ pc', passedBy (s.pc t) pc' = [] := by
      intro pc'
      unfold passedBy
      split
      · contradiction
      · rfl
    rw [passedTasks, hnone, hnone]

/-- A move splits the Tasks anew: what the acting thread took off its debt has reached the
stage, and what was passed to it is owed. -/
theorem Splits.step {owed : CallbackPc → Multiset ℕ} (hblind : (benchmarkProgram b).Blind owed)
    {pc : CallbackPc} {fx : List (CallbackEffect (BenchmarkThread b))}
    (hf : (benchmarkProgram b).applyEffects (Function.update s.pc t pc) fx = some s'.pc)
    {A done passed : Multiset ℕ} (h : Splits P A owed s)
    (hmove : owed (s.pc t) + passed = done + owed pc) : Splits (P + passed) (A + done) owed s' := by
  obtain ⟨rest, hbefore, hafter⟩ := total_split hblind hf
  unfold Splits at h ⊢
  rw [h, hbefore, hafter]
  calc A + (owed (s.pc t) + rest) + passed
      = A + (owed (s.pc t) + passed) + rest := by abel
    _ = A + (done + owed pc) + rest := by rw [hmove]
    _ = A + done + (owed pc + rest) := by abel

/-- Every thread counts in a slot of the array. -/
theorem workerSlot_lt (t : BenchmarkThread b) : workerSlot t < b.config.workers := by
  have hpos : 0 < b.config.workers := b.accepted.counts.workers.1
  cases t with
  | none => exact hpos
  | some worker =>
    have hworker := worker.isLt
    unfold workerSlot
    dsimp only
    split <;> omega

/-- A step that accounts for nothing: the Tasks passed in it are owed. -/
theorem CallbackBooks.quiet {pc : CallbackPc} {fx : List (CallbackEffect (BenchmarkThread b))}
    (hf : (benchmarkProgram b).applyEffects (Function.update s.pc t pc) fx = some s'.pc)
    (hcounters : s'.shared.counters = s.shared.counters) {passed : Multiset ℕ}
    (htimed : ∀ u, (s'.pc u).Timed b)
    (huntallied : (s.pc t).untallied + passed = pc.untallied)
    (huncounted : (s.pc t).uncounted + passed = pc.uncounted)
    (hunsummed : (s.pc t).unsummed + passed = pc.unsummed)
    (hflagging : pc.flagging = (s.pc t).flagging) (hstamping : pc.stamping = (s.pc t).stamping)
    (h : CallbackBooks b P s) : CallbackBooks b (P + passed) s' := by
  have hsame : total CallbackPc.flagging s'.pc = total CallbackPc.flagging s.pc ∧
      total CallbackPc.stamping s'.pc = total CallbackPc.stamping s.pc := by
    obtain ⟨rest, hbefore, hafter⟩ := total_split (blind_of_place flagging_place) hf
    obtain ⟨rest', hbefore', hafter'⟩ := total_split (blind_of_place stamping_place) hf
    rw [hbefore, hafter, hbefore', hafter', hflagging, hstamping]
    exact ⟨rfl, rfl⟩
  have hsplit : ∀ {owed : CallbackPc → Multiset ℕ} {A : Multiset ℕ},
      (benchmarkProgram b).Blind owed → owed (s.pc t) + passed = owed pc → Splits P A owed s →
      Splits (P + passed) A owed s' := by
    intro owed A hblind howed hA
    rw [← add_zero A]
    exact hA.step hblind hf (by rw [howed, zero_add])
  refine ⟨htimed, fun hstandard => ?_, fun hpartitions hmode => ?_, fun hpartitions => ?_,
    fun hpartitions => ?_⟩
  · obtain ⟨A, hA, hbooks⟩ := h.standard hstandard
    exact ⟨A, hsplit (blind_of_place untallied_place) huntallied hA, hcounters ▸ hbooks⟩
  · obtain ⟨T, hT, hbooks⟩ := h.tally hpartitions hmode
    refine ⟨T, hsplit (blind_of_place untallied_place) huntallied hT, ?_⟩
    rw [hsame.1, hsame.2, hcounters]
    exact hbooks
  · obtain ⟨C, hC, hbooks⟩ := h.counted hpartitions
    exact ⟨C, hsplit (blind_of_place uncounted_place) huncounted hC, hcounters ▸ hbooks⟩
  · obtain ⟨S, hS, hbooks⟩ := h.slots hpartitions
    exact ⟨S, hsplit (blind_of_place unsummed_place) hunsummed hS, hcounters ▸ hbooks⟩

/-- The section under the mutex pays the acting thread's debt. -/
theorem CallbackBooks.account {fx : List (CallbackEffect (BenchmarkThread b))}
    (hf : (benchmarkProgram b).applyEffects (Function.update s.pc t .unlock) fx = some s'.pc)
    (htimed : ∀ u, (s'.pc u).Timed b) {call : CallbackCall} {completion accountingEnd : ℕ}
    (hplace : (s.pc t).place = some (.tally, call.task)) (hstandard : b.partitions = false)
    (htimes : call.Times b completion accountingEnd)
    (hcounters : s'.shared.counters
      = s.shared.counters.account b (workerSlot t) call completion accountingEnd)
    (h : CallbackBooks b P s) : CallbackBooks b (P + 0) s' := by
  have hnever : ∀ {p : Prop}, b.partitions = true → p := by
    intro p hpartitions
    rw [hstandard] at hpartitions
    cases hpartitions
  refine ⟨htimed, fun _ => ?_, hnever, hnever, hnever⟩
  obtain ⟨A, hA, hbooks⟩ := h.standard hstandard
  refine ⟨A + {call.task}, hA.step (blind_of_place untallied_place) hf ?_, ?_⟩
  · unfold CallbackPc.untallied
    rw [hplace]
    rfl
  · rw [hcounters]
    exact hbooks.account (workerSlot_lt t) htimes

/-- An operation of partitioned accounting pays the debt of its stage. -/
theorem CallbackBooks.partitioned {pc : CallbackPc} {fx : List (CallbackEffect (BenchmarkThread b))}
    (hf : (benchmarkProgram b).applyEffects (Function.update s.pc t pc) fx = some s'.pc)
    (htimed : ∀ u, (s'.pc u).Timed b) {stage : PartitionedStage} {call : CallbackCall}
    (hpc : s.pc t = .partitioned stage call)
    (hstep : partitionedStep b t choice call s.shared.counters stage
      = some (s'.shared.counters, pc))
    (h : CallbackBooks b P s) : CallbackBooks b (P + 0) s' := by
  have hcall := h.timed t
  rw [hpc] at hcall
  obtain ⟨hpartitions, hsubmitted, hstart, hlast⟩ := hcall
  have hmove := partitionedStep_countMove hstep
  refine ⟨htimed, fun hstandard => ?_, fun _ hmode => ?_, fun _ => ?_, fun _ => ?_⟩
  · rw [hpartitions] at hstandard
    cases hstandard
  · obtain ⟨T, hT, hbooks⟩ := h.tally hpartitions hmode
    obtain ⟨rest, hbefore, hafter⟩ := total_split (blind_of_place flagging_place) hf
    obtain ⟨rest', hbefore', hafter'⟩ := total_split (blind_of_place stamping_place) hf
    rw [hbefore, hbefore', hpc] at hbooks
    obtain ⟨done, hdone, hbooks⟩ := hbooks.step hmode hstep hsubmitted hstart hlast
    rw [hafter, hafter']
    exact ⟨T + done, hT.step (blind_of_place untallied_place) hf (by rw [hpc, add_zero, hdone]),
      hbooks⟩
  · obtain ⟨C, hC, hcount⟩ := h.counted hpartitions
    obtain ⟨done, hdone, hcount⟩ := hmove.counted hcount
    exact ⟨C + done, hC.step (blind_of_place uncounted_place) hf (by rw [hpc, add_zero, hdone]),
      hcount⟩
  · obtain ⟨S, hS, hbooks⟩ := h.slots hpartitions
    obtain ⟨done, hdone, hbooks⟩ := hmove.slots (workerSlot_lt t) hbooks
    exact ⟨S + done, hS.step (blind_of_place unsummed_place) hf (by rw [hpc, add_zero, hdone]),
      hbooks⟩

/-- **A step keeps the books.** -/
theorem CallbackBooks.step (h : CallbackBooks b P s)
    (hstep : (benchmarkProgram b).step t choice s = some s') :
    CallbackBooks b (P + (passedTasks s t s' : Multiset ℕ)) s' := by
  obtain ⟨pc, fx, hact, hf⟩ := step_eq_some.mp hstep
  obtain ⟨hmove, hpctimed⟩ := callbackAct_move hact (h.timed t)
  have htimed : ∀ u, (s'.pc u).Timed b :=
    forall_step (fun _ _ pc => CallbackPc.Timed b pc) (fun _ _ => timed_blind) hf hpctimed
      (fun _ _ hu => hu) h.timed
  rw [passedTasks_eq hact hf]
  generalize hcounters : s'.shared.counters = k' at hmove
  generalize hpc : s.pc t = pc₀ at hmove
  cases hmove with
  | pass task =>
    refine h.quiet hf hcounters htimed ?_ ?_ ?_ ?_ ?_
    all_goals rw [hpc]; rfl
  | quiet hplace hpassed =>
    rw [hpassed]
    refine h.quiet hf hcounters htimed ?_ ?_ ?_ ?_ ?_
    · rw [hpc, Multiset.coe_nil, add_zero, untallied_place _ _ hplace]
    · rw [hpc, Multiset.coe_nil, add_zero, uncounted_place _ _ hplace]
    · rw [hpc, Multiset.coe_nil, add_zero, unsummed_place _ _ hplace]
    · rw [hpc, flagging_place _ _ hplace]
    · rw [hpc, stamping_place _ _ hplace]
  | account hplace hstandard htimes =>
    have hpassed : passedBy pc₀ .unlock = [] := by cases pc₀ <;> rfl
    rw [hpassed]
    rw [← hpc] at hplace
    exact h.account hf htimed hplace hstandard htimes hcounters
  | partitioned hoperation =>
    rw [← hcounters] at hoperation
    exact h.partitioned hf htimed hpc hoperation

end Steps

/-! ## Runs -/

section Runs

variable {b : Benchmark} {s : BenchmarkPool b}

/-- Nobody owes anything while all threads are outside the callback. -/
theorem total_outside {M : Type*} [AddCommMonoid M] {w : CallbackPc → M}
    (hw : ∀ pc : CallbackPc, pc.place = none → w pc = 0) (h : ∀ u, (s.pc u).place = none) :
    total w s.pc = 0 :=
  Finset.sum_eq_zero fun u _ => hw _ (h u)

/-- Outside the callback nothing is owed. -/
theorem untallied_outside (pc : CallbackPc) (h : pc.place = none) : pc.untallied = 0 := by
  rw [CallbackPc.untallied, h]

theorem uncounted_outside (pc : CallbackPc) (h : pc.place = none) : pc.uncounted = 0 := by
  rw [CallbackPc.uncounted, h]

theorem unsummed_outside (pc : CallbackPc) (h : pc.place = none) : pc.unsummed = 0 := by
  rw [CallbackPc.unsummed, h]

theorem flagging_outside (pc : CallbackPc) (h : pc.place = none) : pc.flagging = 0 := by
  rw [CallbackPc.flagging, h]

theorem stamping_outside (pc : CallbackPc) (h : pc.place = none) : pc.stamping = 0 := by
  rw [CallbackPc.stamping, h]

/-- At first every thread is outside. -/
theorem initial_outside (b : Benchmark) (u : BenchmarkThread b) :
    ((benchmarkInitial b).pc u).place = none := by
  cases u with
  | some worker => rfl
  | none =>
    unfold benchmarkInitial
    dsimp only
    split <;> rfl

/-- A fold over zeros is zero. -/
theorem fold_zero {β : Type*} {op : β → β → β} [Std.Commutative op] [Std.Associative op] {z : β}
    (hz : op z z = z) (n : ℕ) : (Finset.range n).fold op z (fun _ => z) = z := by
  induction n with
  | zero => rfl
  | succ n ih => rw [Folding.fold_range_succ, ih, hz]

/-- `callback_context_init` leaves all counters at zero. -/
theorem tallied_initial (b : Benchmark) : Tallied b 0 callbackContextInit :=
  ⟨fun _ _ => (Multiset.count_zero _).symm, rfl, rfl, rfl, rfl⟩

theorem slotTasks_initial (b : Benchmark) : slotTasks b callbackContextInit = 0 :=
  fold_zero rfl b.config.workers

theorem standardBooks_initial (b : Benchmark) : StandardBooks b 0 callbackContextInit where
  failure_iff _ := ⟨fun _ => clean_zero, fun _ => rfl⟩
  tallied _ _ := tallied_initial b
  stamped _ _ _ _ hmem := absurd hmem (Multiset.notMem_zero _)
  executed _ := rfl
  checksum := rfl
  slots _ := slotTasks_initial b
  unused := rfl

/-- So the books hold at first, with no Task passed. -/
theorem CallbackBooks.initial (b : Benchmark) : CallbackBooks b 0 (benchmarkInitial b) := by
  have houtside := initial_outside b
  have hsplit : ∀ {owed : CallbackPc → Multiset ℕ},
      (∀ pc : CallbackPc, pc.place = none → owed pc = 0) →
      Splits 0 0 owed (benchmarkInitial b) := by
    intro owed howed
    rw [Splits, total_outside howed houtside, add_zero]
  refine ⟨fun u => ?_, fun _ => ⟨0, hsplit untallied_outside, standardBooks_initial b⟩,
    fun _ _ => ⟨0, hsplit untallied_outside, ?_⟩, fun _ => ⟨0, hsplit uncounted_outside, rfl⟩,
    fun _ => ⟨0, hsplit unsummed_outside, slotTasks_initial b, ?_⟩⟩
  · cases u with
    | some worker => trivial
    | none =>
      show CallbackPc.Timed b (if _ then _ else _)
      split <;> trivial
  · rw [total_outside flagging_outside houtside, total_outside stamping_outside houtside]
    exact ⟨⟨fun _ => clean_zero, fun _ => ⟨rfl, rfl⟩⟩, fun _ => tallied_initial b,
      fun _ _ _ hmem => absurd hmem (Multiset.notMem_zero _)⟩
  · exact fold_zero rfl b.config.workers

/-- The books hold after every run. -/
theorem books_of_run {ls : List (BenchmarkThread b × CallbackChoice)}
    (hrun : (benchmarkProgram b).run ls (benchmarkInitial b) = some s) :
    CallbackBooks b ((benchmarkProgram b).log passedTasks ls (benchmarkInitial b)) s := by
  refine log_of_steps (p := benchmarkProgram b) passedTasks
    (J := fun passed s => CallbackBooks b passed s) ?_ (CallbackBooks.initial b) hrun
  intro u u' t choice passed hbooks hstep
  rw [← Multiset.coe_add]
  exact hbooks.step hstep

/-- The iteration is over: the workers are outside the callback, and
`release_controlled_callback` has returned. -/
structure IterationOver (s : BenchmarkPool b) : Prop where
  workers : ∀ worker, s.pc (some worker) = .idle
  controller : s.pc none = .released

/-- When the iteration is over every thread is outside. -/
theorem IterationOver.outside (h : IterationOver s) (u : BenchmarkThread b) :
    (s.pc u).place = none := by
  cases u with
  | some worker => rw [h.workers worker]; rfl
  | none => rw [h.controller]; rfl

/-- And then nothing is owed, so the multisets agree. -/
theorem Splits.settled {P A : Multiset ℕ} {owed : CallbackPc → Multiset ℕ}
    (howed : ∀ pc : CallbackPc, pc.place = none → owed pc = 0) (h : Splits P A owed s)
    (hover : IterationOver s) : A = P := by
  rw [Splits, total_outside howed hover.outside, add_zero] at h
  exact h.symm

/-- **Standard accounting** once nobody owes anything. -/
theorem CallbackBooks.settled_standard {P : Multiset ℕ} (h : CallbackBooks b P s)
    (hover : IterationOver s)
    (hstandard : b.partitions = false) : StandardBooks b P s.shared.counters := by
  obtain ⟨A, hA, hbooks⟩ := h.standard hstandard
  rwa [hA.settled untallied_outside hover] at hbooks

/-- **Partitioned accounting** once nobody owes anything. -/
theorem CallbackBooks.settled_partitioned {P : Multiset ℕ} (h : CallbackBooks b P s)
    (hover : IterationOver s)
    (hpartitions : b.partitions = true) :
    (b.config.mode = .validated → TallyBooks b P s.shared.counters 0 0) ∧
      s.shared.counters.partitionedExecutionCount = P.card % 2 ^ 64 ∧
      SlotBooks b P s.shared.counters := by
  obtain ⟨C, hC, hcount⟩ := h.counted hpartitions
  obtain ⟨S, hS, hslots⟩ := h.slots hpartitions
  rw [hC.settled uncounted_outside hover] at hcount
  rw [hS.settled unsummed_outside hover] at hslots
  refine ⟨fun hmode => ?_, hcount, hslots⟩
  obtain ⟨T, hT, htally⟩ := h.tally hpartitions hmode
  rwa [hT.settled untallied_outside hover, total_outside flagging_outside hover.outside,
    total_outside stamping_outside hover.outside] at htally

end Runs

end SchedulingEngine
