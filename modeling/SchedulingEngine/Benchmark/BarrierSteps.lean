import SchedulingEngine.Benchmark.StartBarrier

/-!
# Steps at the start barrier

What `producer_entry` and `run_iteration` can do in one step (`ProducerStepSpec`,
`IterationStepSpec`), and what that means for the shared state:

- the mutex is taken while it is free and given back by its owner (`lock_move`);
- the arrivals, the release and the abort happen under the mutex and are broadcast
  (`BarrierStepSpec.stirs`).
-/

namespace SchedulingEngine

open Concurrency

variable {cfg : BarrierConfig}

/-! ## producer_entry -/

/-- The steps of a producer. -/
inductive ProducerStepSpec (cfg : BarrierConfig) (i : Fin cfg.producers) (choice : BarrierChoice)
    (m : Meeting (BarrierThread cfg)) : ProducerPc → BarrierStep cfg ProducerPc → Prop where
  | arrive (hfree : m.barrier.mutex = none) : ProducerStepSpec cfg i choice m .entry
      ({ m with barrier :=
          { m.barrier with mutex := some (some i), readyCount := m.barrier.readyCount + 1 } },
        producerTest m.barrier, [.broadcast ()])
  | sleep (hheld : m.barrier.mutex = some (some i)) :
      ProducerStepSpec cfg i choice m .wait (m.unlock, .asleep, [])
  | spurious : ProducerStepSpec cfg i choice m .asleep (m, .woken, [])
  | retest (hfree : m.barrier.mutex = none) :
      ProducerStepSpec cfg i choice m .woken (m.lock (some i), producerTest m.barrier, [])
  | waitFailed (hfree : m.barrier.mutex = none) (hfail : cfg.waitMayFail = true) :
      ProducerStepSpec cfg i choice m .woken (m.lock (some i), .unlock (some 3), [])
  | leave (r : ℕ) (hheld : m.barrier.mutex = some (some i)) :
      ProducerStepSpec cfg i choice m (.unlock (some r)) (m.unlock, .finished r, [])
  | pass (hheld : m.barrier.mutex = some (some i)) : ProducerStepSpec cfg i choice m (.unlock none)
      (m.unlock, .submit (producerBegin cfg.tasks cfg.producers i), [])
  | submit (index : ℕ) (hindex : index < producerEnd cfg.tasks cfg.producers i) :
      ProducerStepSpec cfg i choice m (.submit index)
        ((submitTask cfg m choice.outcome index).1, (submitTask cfg m choice.outcome index).2, [])
  | done (index : ℕ) (hindex : producerEnd cfg.tasks cfg.producers i ≤ index) :
      ProducerStepSpec cfg i choice m (.submit index) (m, .finished 0, [])

/-- A producer takes no other steps. -/
theorem producerAct_spec {i : Fin cfg.producers} {choice : BarrierChoice}
    {m : Meeting (BarrierThread cfg)} {pc : ProducerPc} {out : BarrierStep cfg ProducerPc}
    (h : producerAct cfg i choice m pc = some out) : ProducerStepSpec cfg i choice m pc out := by
  cases pc with
  | notCreated => cases h
  | entry =>
    obtain ⟨hfree, heq⟩ := Option.ite_none_right_eq_some.mp h
    cases heq
    exact .arrive hfree
  | wait =>
    obtain ⟨hheld, heq⟩ := Option.ite_none_right_eq_some.mp h
    cases heq
    exact .sleep hheld
  | asleep =>
    cases h
    exact .spurious
  | woken =>
    obtain ⟨⟨hfree, hchoice⟩, heq⟩ := Option.ite_none_right_eq_some.mp h
    cases heq
    cases hsucceeds : choice.succeeds with
    | true => exact .retest hfree
    | false => exact .waitFailed hfree (hchoice.resolve_left (by rw [hsucceeds]; nofun))
  | unlock failure =>
    obtain ⟨hheld, heq⟩ := Option.ite_none_right_eq_some.mp h
    cases heq
    cases failure with
    | none => exact .pass hheld
    | some r => exact .leave r hheld
  | submit index =>
    unfold producerAct at h
    dsimp only at h
    split at h
    · cases h
      exact .submit index ‹_›
    · cases h
      exact .done index (Nat.le_of_not_lt ‹_›)
  | finished r => cases h

/-! ## run_iteration -/

/-- About to take the mutex and test whether all producers are ready. -/
def IterationPc.tests : IterationPc → Bool
  | .barrierLock | .woken => true
  | _ => false

/-- The steps of `run_iteration` around the barrier. -/
inductive IterationStepSpec (cfg : BarrierConfig) (choice : BarrierChoice)
    (m : Meeting (BarrierThread cfg)) : IterationPc → BarrierStep cfg IterationPc → Prop where
  | created (index : Fin cfg.producers) : IterationStepSpec cfg choice m (.create index)
      ({ m with created := m.created + 1 }, .create (index + 1), [.spawn (some index)])
  | createFailed (index : ℕ) (hindex : index < cfg.producers) (hfail : cfg.createMayFail = true) :
      IterationStepSpec cfg choice m (.create index) (m, .abortLock, [])
  | allCreated (index : ℕ) (hindex : cfg.producers ≤ index) :
      IterationStepSpec cfg choice m (.create index) (m, .barrierLock, [])
  | unready (pc : IterationPc) (htests : pc.tests = true) (hfree : m.barrier.mutex = none)
      (hready : m.barrier.readyCount < cfg.producers) :
      IterationStepSpec cfg choice m pc (m.lock none, .wait, [])
  | release (pc : IterationPc) (htests : pc.tests = true) (hfree : m.barrier.mutex = none)
      (hready : cfg.producers ≤ m.barrier.readyCount) : IterationStepSpec cfg choice m pc
        ({ m with
            barrier := { m.barrier with mutex := some none, released := true }
            totalStart := true },
          .barrierUnlock true, [.broadcast ()])
  | giveUp (pc : IterationPc) (htests : pc.tests = true) (hfree : m.barrier.mutex = none)
      (hfail : cfg.timerMayFail = true ∨ cfg.waitMayFail = true) :
      IterationStepSpec cfg choice m pc (m.lock none, .barrierUnlock false, [])
  | sleep (hheld : m.barrier.mutex = some none) :
      IterationStepSpec cfg choice m .wait (m.unlock, .asleep, [])
  | spurious : IterationStepSpec cfg choice m .asleep (m, .woken, [])
  | proceed (hheld : m.barrier.mutex = some none) :
      IterationStepSpec cfg choice m (.barrierUnlock true) (m.unlock, .releaseCallback, [])
  | unlockToAbort (hheld : m.barrier.mutex = some none) :
      IterationStepSpec cfg choice m (.barrierUnlock false) (m.unlock, .abortLock, [])
  | callbackReleased : IterationStepSpec cfg choice m .releaseCallback (m, .join 0, [])
  | callbackFailed (hfail : cfg.callbackMayFail = true) :
      IterationStepSpec cfg choice m .releaseCallback (m, .abortLock, [])
  | joined (index : Fin cfg.producers) (hindex : (index : ℕ) < m.created) :
      IterationStepSpec cfg choice m (.join index)
        ({ m with joined := m.joined + 1 }, .join (index + 1), [.await (some index) 0])
  | joinedFailure (index : Fin cfg.producers) (r : ℕ) (hindex : (index : ℕ) < m.created)
      (hr : r ≠ 0) : IterationStepSpec cfg choice m (.join index)
        ({ m with joined := m.joined + 1 }, .abortLock, [.await (some index) r])
  | joinFailed (index : ℕ) (hindex : index < m.created) (hfail : cfg.joinMayFail = true) :
      IterationStepSpec cfg choice m (.join index) (m, .abortLock, [])
  | allJoined (index : ℕ) (hindex : m.created ≤ index) :
      IterationStepSpec cfg choice m (.join index) (m, .cleanupJoin m.joined true, [])
  | abort (hfree : m.barrier.mutex = none) : IterationStepSpec cfg choice m .abortLock
      ({ m with barrier :=
          { m.barrier with mutex := some none, aborted := true, released := true } },
        .abortUnlock, [.broadcast ()])
  | aborted (hheld : m.barrier.mutex = some none) :
      IterationStepSpec cfg choice m .abortUnlock (m.unlock, .cleanupJoin m.joined false, [])
  | cleanupJoined (index : Fin cfg.producers) (passed : Bool) (r : ℕ)
      (hindex : (index : ℕ) < m.created) : IterationStepSpec cfg choice m
        (.cleanupJoin index passed) (m, .cleanupJoin (index + 1) passed, [.await (some index) r])
  | cleanupFailed (index : ℕ) (passed : Bool) (hindex : index < m.created)
      (hfail : cfg.joinMayFail = true) : IterationStepSpec cfg choice m
        (.cleanupJoin index passed) (m, .cleanupJoin (index + 1) passed, [])
  | cleaned (index : ℕ) (passed : Bool) (hindex : m.created ≤ index) :
      IterationStepSpec cfg choice m (.cleanupJoin index passed) (m, .cleaned passed, [])

/-- Both ways into the test of the wait loop take the mutex first. -/
theorem barrierTest_spec {choice : BarrierChoice} {m : Meeting (BarrierThread cfg)}
    {pc : IterationPc} (htests : pc.tests = true) (hfree : m.barrier.mutex = none)
    (hclock : choice.alsoSucceeds = true ∨ cfg.timerMayFail = true) :
    IterationStepSpec cfg choice m pc (barrierTest cfg choice (m.lock none)) := by
  unfold barrierTest
  by_cases hready : (m.lock none).barrier.readyCount < cfg.producers
  · rw [if_pos hready]
    exact .unready pc htests hfree hready
  · rw [if_neg hready]
    cases hsucceeds : choice.alsoSucceeds with
    | true => exact .release pc htests hfree (Nat.le_of_not_lt hready)
    | false => exact .giveUp pc htests hfree (.inl (hclock.resolve_left (by rw [hsucceeds]; nofun)))

/-- A native join succeeds, or the backend lets it fail. -/
theorem joinProducer_cases {choice : BarrierChoice} {index : ℕ}
    {joined failed : Meeting (BarrierThread cfg) × IterationPc} {out : BarrierStep cfg IterationPc}
    (h : joinProducer cfg choice index joined failed = some out) :
    (∃ i : Fin cfg.producers, index = i ∧
        out = (joined.1, joined.2, [.await (some i) choice.result])) ∨
      cfg.joinMayFail = true ∧ out = (failed.1, failed.2, []) := by
  unfold joinProducer at h
  split at h
  · rename_i hindex
    split at h
    · cases h
      exact .inl ⟨⟨index, hindex⟩, rfl, rfl⟩
    · split at h
      · cases h
        exact .inr ⟨‹_›, rfl⟩
      · cases h
  · cases h

/-- `run_iteration` takes no other steps. -/
theorem iterationAct_spec {choice : BarrierChoice} {m : Meeting (BarrierThread cfg)}
    {pc : IterationPc} {out : BarrierStep cfg IterationPc}
    (h : iterationAct cfg choice m pc = some out) : IterationStepSpec cfg choice m pc out := by
  cases pc with
  | create index =>
    unfold iterationAct at h
    dsimp only at h
    split at h
    · rename_i hindex
      split at h
      · cases h
        exact .created ⟨index, hindex⟩
      · split at h
        · cases h
          exact .createFailed index hindex ‹_›
        · cases h
    · cases h
      exact .allCreated index (Nat.le_of_not_lt ‹_›)
  -- the test of the wait loop follows the lock, and follows a wait that succeeded
  | barrierLock =>
    obtain ⟨⟨hfree, hclock⟩, heq⟩ := Option.ite_none_right_eq_some.mp h
    rw [← Option.some.inj heq]
    exact barrierTest_spec rfl hfree hclock
  | wait =>
    obtain ⟨hheld, heq⟩ := Option.ite_none_right_eq_some.mp h
    cases heq
    exact .sleep hheld
  | asleep =>
    cases h
    exact .spurious
  | woken =>
    obtain ⟨⟨hfree, hwait, hclock⟩, heq⟩ := Option.ite_none_right_eq_some.mp h
    rw [← Option.some.inj heq]
    cases hsucceeds : choice.succeeds with
    | true => exact barrierTest_spec rfl hfree hclock
    | false =>
      exact .giveUp .woken rfl hfree (.inr (hwait.resolve_left (by rw [hsucceeds]; nofun)))
  | barrierUnlock released =>
    obtain ⟨hheld, heq⟩ := Option.ite_none_right_eq_some.mp h
    cases heq
    cases released with
    | true => exact .proceed hheld
    | false => exact .unlockToAbort hheld
  -- with a standard profile the call returns 0 at once
  | releaseCallback =>
    unfold iterationAct at h
    dsimp only at h
    split at h
    · cases h
      exact .callbackReleased
    · split at h
      · cases h
        exact .callbackFailed ‹_›
      · cases h
  -- a join that succeeds brings the producer's result with it
  | join index =>
    unfold iterationAct at h
    dsimp only at h
    split at h
    · rename_i hindex
      rcases joinProducer_cases h with ⟨i, rfl, rfl⟩ | ⟨hfail, rfl⟩
      · by_cases hr : choice.result = 0
        · rw [hr, if_pos rfl]
          exact .joined i hindex
        · rw [if_neg hr]
          exact .joinedFailure i choice.result hindex hr
      · exact .joinFailed index hindex hfail
    · cases h
      exact .allJoined index (Nat.le_of_not_lt ‹_›)
  | abortLock =>
    obtain ⟨hfree, heq⟩ := Option.ite_none_right_eq_some.mp h
    cases heq
    exact .abort hfree
  | abortUnlock =>
    obtain ⟨hheld, heq⟩ := Option.ite_none_right_eq_some.mp h
    cases heq
    exact .aborted hheld
  -- in the clean-up the results do not count any more
  | cleanupJoin index passed =>
    unfold iterationAct at h
    dsimp only at h
    split at h
    · rename_i hindex
      rcases joinProducer_cases h with ⟨i, rfl, rfl⟩ | ⟨hfail, rfl⟩
      · exact .cleanupJoined i passed choice.result hindex
      · exact .cleanupFailed index passed hindex hfail
    · cases h
      exact .cleaned index passed (Nat.le_of_not_lt ‹_›)
  | cleaned passed => cases h

/-! ## Any thread -/

/-- A step of any thread. -/
inductive BarrierStepSpec (cfg : BarrierConfig) (choice : BarrierChoice)
    (m : Meeting (BarrierThread cfg)) :
    BarrierThread cfg → BarrierPc → BarrierStep cfg BarrierPc → Prop where
  | producer (i : Fin cfg.producers) {pc : ProducerPc} {out : BarrierStep cfg ProducerPc}
      (h : ProducerStepSpec cfg i choice m pc out) :
      BarrierStepSpec cfg choice m (some i) (.producer pc) (out.1, .producer out.2.1, out.2.2)
  | iteration {pc : IterationPc} {out : BarrierStep cfg IterationPc}
      (h : IterationStepSpec cfg choice m pc out) :
      BarrierStepSpec cfg choice m none (.iteration pc) (out.1, .iteration out.2.1, out.2.2)

/-- No thread takes other steps. -/
theorem barrierAct_spec {t : BarrierThread cfg} {choice : BarrierChoice}
    {m : Meeting (BarrierThread cfg)} {pc : BarrierPc} {out : BarrierStep cfg BarrierPc}
    (h : barrierAct cfg t choice m pc = some out) : BarrierStepSpec cfg choice m t pc out := by
  cases t with
  | none =>
    cases pc with
    | producer pc => cases h
    | iteration pc =>
      obtain ⟨⟨m', pc', fx⟩, hact, rfl⟩ := Option.map_eq_some_iff.mp h
      exact .iteration (iterationAct_spec hact)
  | some i =>
    cases pc with
    | producer pc =>
      obtain ⟨⟨m', pc', fx⟩, hact, rfl⟩ := Option.map_eq_some_iff.mp h
      exact .producer i (producerAct_spec hact)
    | iteration pc => cases h

/-! ## The mutex -/

/-- Inside the critical section. -/
def BarrierPc.holds : BarrierPc → Bool
  | .producer .wait | .producer (.unlock _) => true
  | .iteration .wait | .iteration (.barrierUnlock _) | .iteration .abortUnlock => true
  | _ => false

/-- A producer tests the barrier with the mutex held. -/
theorem producerTest_holds {T : Type} (b : StartBarrier T) :
    (BarrierPc.producer (producerTest b)).holds = true := by
  unfold producerTest
  split <;> rfl

/-- A producer goes on to its next Task or returns an error of its own. -/
theorem submitTask_snd (m : Meeting (BarrierThread cfg)) (outcome : SubmissionOutcome) (index : ℕ) :
    (submitTask cfg m outcome index).2 = .submit (index + 1) ∨
      ∃ r, 6 ≤ r ∧ (submitTask cfg m outcome index).2 = .finished r := by
  cases outcome with
  | accepted => exact .inl rfl
  | rejected => exact .inl rfl
  | timerFailsBefore => exact .inr ⟨6, by decide, rfl⟩
  | timerFailsAfter => exact .inr ⟨7, by decide, rfl⟩
  | submitFails => exact .inr ⟨8, by decide, rfl⟩

/-- A submission changes nothing but the record of the submissions. -/
theorem submitTask_fst (m : Meeting (BarrierThread cfg)) (outcome : SubmissionOutcome) (index : ℕ) :
    ∃ passed, (submitTask cfg m outcome index).1 = { m with submitted := m.submitted ++ passed } ∧
      (passed = [index] ∨ passed = [] ∧ (submitTask cfg m outcome index).2 = .finished 6) := by
  cases outcome with
  | timerFailsBefore => exact ⟨[], by rw [List.append_nil]; rfl, .inr ⟨rfl, rfl⟩⟩
  | _ => exact ⟨[index], rfl, .inl rfl⟩

section Any

variable {t : BarrierThread cfg} {choice : BarrierChoice} {m : Meeting (BarrierThread cfg)}
  {pc : BarrierPc} {out : BarrierStep cfg BarrierPc}

/-- A step takes the barrier's mutex, keeps it or gives it back. -/
theorem BarrierStepSpec.lock_move (h : BarrierStepSpec cfg choice m t pc out) :
    Program.LockMove (fun m : Meeting (BarrierThread cfg) => m.barrier.mutex) BarrierPc.holds t m
      out.1 pc out.2.1 := by
  cases h with
  | producer i h =>
    cases h with
    | arrive hfree => exact .inr (.inl ⟨hfree, rfl, producerTest_holds _⟩)
    | sleep hheld => exact .inr (.inr ⟨hheld, rfl, rfl⟩)
    | spurious => exact .inl ⟨rfl, rfl⟩
    | retest hfree => exact .inr (.inl ⟨hfree, rfl, producerTest_holds _⟩)
    | waitFailed hfree hfail => exact .inr (.inl ⟨hfree, rfl, rfl⟩)
    | leave r hheld => exact .inr (.inr ⟨hheld, rfl, rfl⟩)
    | pass hheld => exact .inr (.inr ⟨hheld, rfl, rfl⟩)
    | submit index hindex =>
      obtain ⟨passed, hm, -⟩ := submitTask_fst m choice.outcome index
      refine .inl ⟨by rw [hm], ?_⟩
      rcases submitTask_snd m choice.outcome index with hpc | ⟨r, -, hpc⟩
      · rw [hpc]
        rfl
      · rw [hpc]
        rfl
    | done index hindex => exact .inl ⟨rfl, rfl⟩
  | iteration h =>
    cases h with
    | unready pc htests hfree hready => exact .inr (.inl ⟨hfree, rfl, rfl⟩)
    | release pc htests hfree hready => exact .inr (.inl ⟨hfree, rfl, rfl⟩)
    | giveUp pc htests hfree hfail => exact .inr (.inl ⟨hfree, rfl, rfl⟩)
    | sleep hheld => exact .inr (.inr ⟨hheld, rfl, rfl⟩)
    | proceed hheld => exact .inr (.inr ⟨hheld, rfl, rfl⟩)
    | unlockToAbort hheld => exact .inr (.inr ⟨hheld, rfl, rfl⟩)
    | abort hfree => exact .inr (.inl ⟨hfree, rfl, rfl⟩)
    | aborted hheld => exact .inr (.inr ⟨hheld, rfl, rfl⟩)
    | _ => exact .inl ⟨rfl, rfl⟩

/-- What the two wait loops test is not touched. -/
structure Calm (m m' : Meeting (BarrierThread cfg)) : Prop where
  readyCount : m'.barrier.readyCount = m.barrier.readyCount
  released : m'.barrier.released = m.barrier.released
  aborted : m'.barrier.aborted = m.barrier.aborted

/-- **No change goes unannounced**: what the wait loops test changes under the mutex only, with a
broadcast. -/
theorem BarrierStepSpec.stirs (h : BarrierStepSpec cfg choice m t pc out) :
    Calm m out.1 ∨ m.barrier.mutex = none ∧ .broadcast () ∈ out.2.2 := by
  cases h with
  | producer i h =>
    cases h with
    | arrive hfree => exact .inr ⟨hfree, List.mem_singleton_self _⟩
    | submit index hindex =>
      obtain ⟨passed, hm, -⟩ := submitTask_fst m choice.outcome index
      refine .inl ?_
      rw [hm]
      exact ⟨rfl, rfl, rfl⟩
    | _ => exact .inl ⟨rfl, rfl, rfl⟩
  | iteration h =>
    cases h with
    | release pc htests hfree hready => exact .inr ⟨hfree, List.mem_singleton_self _⟩
    | abort hfree => exact .inr ⟨hfree, List.mem_singleton_self _⟩
    | _ => exact .inl ⟨rfl, rfl, rfl⟩

end Any

end SchedulingEngine
