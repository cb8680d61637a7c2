import SchedulingEngine.Benchmark.Producers
import SchedulingEngine.Concurrency.Fairness

/-!
# Nobody is left at the start barrier

In a fair execution `run_iteration` comes to the end of its clean-up and every producer thread it
has created returns, whatever fails on the way and however often a wait ends by itself, provided
that its call of `release_controlled_callback` returns (`start_barrier_returns`). With the
controlled profile that call sleeps until a callback has entered, and none does if no Task is
submitted: fairness at the barrier cannot promise it (`ReleaseReturns`).

The rank counts the steps that lie before the threads. Only the steps inside the wait loops do not
lower it, so the question is where the threads can be while nothing else happens (`Still`).
-/

namespace SchedulingEngine

open Concurrency

variable {cfg : BarrierConfig} {t u : BarrierThread cfg} {choice : BarrierChoice}
  {m : Meeting (BarrierThread cfg)} {s s' : BarrierPool cfg}

/-! ## The rank -/

/-- A bound on the steps before a producer, the rounds of its wait loop apart. An index of
type `size_t` cannot go on for ever. -/
def ProducerPc.left : ProducerPc → ℕ
  | .notCreated | .entry => sizeMax + 4
  | .wait | .asleep | .woken => sizeMax + 3
  | .unlock none => sizeMax + 2
  | .unlock (some _) => 1
  | .submit index => sizeMax - index + 1
  | .finished _ => 0

/-- A bound on the steps before `run_iteration`. -/
def IterationPc.left (producers : ℕ) : IterationPc → ℕ
  | .create index => 2 * producers + 9 + (producers - index)
  | .barrierLock => 2 * producers + 8
  | .wait | .asleep | .woken => 2 * producers + 7
  | .barrierUnlock _ => 2 * producers + 6
  | .releaseCallback => 2 * producers + 5
  | .join index => producers + 4 + (producers - index)
  | .abortLock => producers + 3
  | .abortUnlock => producers + 2
  | .cleanupJoin index _ => 1 + (producers - index)
  | .cleaned _ => 0

def BarrierPc.left (producers : ℕ) : BarrierPc → ℕ
  | .producer pc => pc.left
  | .iteration pc => pc.left producers

/-- In a wait loop. -/
def BarrierPc.loops : BarrierPc → Bool
  | .producer .wait | .producer .asleep | .producer .woken => true
  | .iteration .wait | .iteration .asleep | .iteration .woken => true
  | _ => false

theorem left_blind : (barrierProgram cfg).Blind (BarrierPc.left cfg.producers) :=
  barrierProgram_blind rfl rfl rfl

theorem loops_blind : (barrierProgram cfg).Blind BarrierPc.loops :=
  barrierProgram_blind rfl rfl rfl

theorem producerEnd_le (tasks producers index : ℕ) : producerEnd tasks producers index ≤ sizeMax :=
  Nat.le_pred_of_lt (Nat.mod_lt _ (Nat.two_pow_pos 64))

theorem ProducerStepSpec.left {i : Fin cfg.producers} {pc : ProducerPc}
    {out : BarrierStep cfg ProducerPc} (h : ProducerStepSpec cfg i choice m pc out) :
    out.2.1.left < pc.left ∨ out.2.1.left = pc.left ∧
      (BarrierPc.producer pc).loops = true ∧ (BarrierPc.producer out.2.1).loops = true := by
  have htest : ∀ b : StartBarrier (BarrierThread cfg), producerTest b = .wait ∨
      (producerTest b).left < sizeMax + 3 := by
    intro b
    unfold producerTest
    split
    · exact .inl rfl
    · refine .inr ?_
      cases b.aborted with
      | true => exact Nat.lt_add_left sizeMax (by decide)
      | false => exact Nat.lt_succ_self _
  cases h with
  | arrive hfree =>
    refine .inl ?_
    rcases htest m.barrier with hwait | hlt
    · dsimp only
      rw [hwait]
      exact Nat.lt_succ_self _
    · exact Nat.lt_succ_of_lt hlt
  -- the steps of the wait loop are those that do not count
  | sleep hheld => exact .inr ⟨rfl, rfl, rfl⟩
  | spurious => exact .inr ⟨rfl, rfl, rfl⟩
  | retest hfree =>
    rcases htest m.barrier with hwait | hlt
    · dsimp only
      rw [hwait]
      exact .inr ⟨rfl, rfl, rfl⟩
    · exact .inl hlt
  | waitFailed hfree hfail =>
    have hlt : 1 < sizeMax + 3 := Nat.lt_add_left sizeMax (by decide)
    exact .inl hlt
  | leave r hheld => exact .inl Nat.zero_lt_one
  | pass hheld =>
    refine .inl ?_
    show sizeMax - _ + 1 < sizeMax + 2
    omega
  -- one Task less to submit, or an error and none at all
  | submit index hindex =>
    have hend := producerEnd_le cfg.tasks cfg.producers i
    refine .inl ?_
    rcases submitTask_snd m choice.outcome index with hpc | ⟨r, -, hpc⟩
    · dsimp only
      rw [hpc]
      show sizeMax - (index + 1) + 1 < sizeMax - index + 1
      omega
    · dsimp only
      rw [hpc]
      exact Nat.succ_pos _
  | done index hindex => exact .inl (Nat.succ_pos _)

theorem IterationStepSpec.left {pc : IterationPc} {out : BarrierStep cfg IterationPc}
    (h : IterationStepSpec cfg choice m pc out) (hphase : pc.Phase m) :
    out.2.1.left cfg.producers < pc.left cfg.producers ∨
      out.2.1.left cfg.producers = pc.left cfg.producers ∧
        (BarrierPc.iteration pc).loops = true ∧ (BarrierPc.iteration out.2.1).loops = true := by
  have htests : ∀ {pc : IterationPc}, pc.tests = true → pc = .barrierLock ∨ pc = .woken := by
    intro pc htests
    cases pc <;> first | exact .inl rfl | exact .inr rfl | cases htests
  cases h with
  | created index =>
    have hlt := index.isLt
    refine .inl ?_
    show 2 * cfg.producers + 9 + (cfg.producers - (index + 1))
      < 2 * cfg.producers + 9 + (cfg.producers - index)
    omega
  | unready pc htest hfree hready =>
    -- the first test has come nearer, a later one is a turn of the loop
    rcases htests htest with rfl | rfl
    · exact .inl (Nat.lt_succ_self _)
    · exact .inr ⟨rfl, rfl, rfl⟩
  | release pc htest hfree hready =>
    rcases htests htest with rfl | rfl <;> exact .inl (Nat.add_lt_add_left (by decide) _)
  | giveUp pc htest hfree hfail =>
    rcases htests htest with rfl | rfl <;> exact .inl (Nat.add_lt_add_left (by decide) _)
  | sleep hheld => exact .inr ⟨rfl, rfl, rfl⟩
  | spurious => exact .inr ⟨rfl, rfl, rfl⟩
  | joined index hindex =>
    have hlt := index.isLt
    refine .inl ?_
    show cfg.producers + 4 + (cfg.producers - (index + 1))
      < cfg.producers + 4 + (cfg.producers - index)
    omega
  | cleanupJoined index passed r hindex =>
    have hlt := index.isLt
    refine .inl ?_
    show 1 + (cfg.producers - (index + 1)) < 1 + (cfg.producers - index)
    omega
  | cleanupFailed index passed hindex hfail =>
    have hlt := hindex.trans_le hphase.created_le
    refine .inl ?_
    show 1 + (cfg.producers - (index + 1)) < 1 + (cfg.producers - index)
    omega
  | _ =>
    refine .inl ?_
    simp only [IterationPc.left]
    omega

/-- **A step that does not bring its thread further stays in its wait loop.** -/
theorem BarrierStepSpec.left {pc : BarrierPc} {out : BarrierStep cfg BarrierPc}
    (h : BarrierStepSpec cfg choice m t pc out) (hphase : pc.Phase m) :
    out.2.1.left cfg.producers < pc.left cfg.producers ∨
      out.2.1.left cfg.producers = pc.left cfg.producers ∧ pc.loops = true ∧
        out.2.1.loops = true := by
  cases h with
  | producer i h => exact h.left
  | iteration h => exact h.left hphase

/-- The steps that lie before the threads. -/
def BarrierPool.left (s : BarrierPool cfg) : ℕ := Program.total (BarrierPc.left cfg.producers) s.pc

theorem left_step (hs : Assembled s) (hstep : (barrierProgram cfg).step t choice s = some s') :
    BarrierPool.left s' < BarrierPool.left s ∨ BarrierPool.left s' = BarrierPool.left s ∧
      (s.pc t).loops = true ∧ (s'.pc t).loops = true := by
  obtain ⟨pc, fx, hspec, hfx⟩ := barrier_step_spec hstep
  have htotal : BarrierPool.left s' + (s.pc t).left cfg.producers
      = BarrierPool.left s + pc.left cfg.producers := Program.total_step left_blind hfx
  rw [(Program.step_blind loops_blind hfx).1]
  rcases hspec.left (hs.phases t) with hlt | ⟨heq, hloops⟩
  · dsimp only at hlt
    exact .inl (by omega)
  · dsimp only at heq
    exact .inr ⟨by omega, hloops⟩

/-! ## Who can go on -/

/-- Awake, not inside `release_controlled_callback`, and able to go on without a failure. -/
def BarrierReady (s : BarrierPool cfg) (t : BarrierThread cfg) : Prop :=
  (s.pc t).asleepOn = none ∧ s.pc t ≠ .iteration .releaseCallback ∧
    ∃ choice s', choice.succeeds = true ∧ choice.alsoSucceeds = true ∧
      (barrierProgram cfg).step t choice s = some s'

/-- Ready as soon as the mutex is free. -/
def BarrierPc.moves : BarrierPc → Bool
  | .producer .entry | .producer .woken | .producer (.submit _) => true
  | .iteration (.create _) | .iteration .barrierLock | .iteration .woken => true
  | .iteration .abortLock => true
  | _ => false

/-- At a native join. -/
def IterationPc.joins : IterationPc → Option ℕ
  | .join index | .cleanupJoin index _ => some index
  | _ => none

theorem producer_ready {i : Fin cfg.producers} {pc : ProducerPc} {out : BarrierStep cfg ProducerPc}
    (hpc : s.pc (some i) = .producer pc) (hawake : (BarrierPc.producer pc).asleepOn = none)
    (hact : producerAct cfg i {} s.shared pc = some out)
    (hfx : ((barrierProgram cfg).applyEffects
      (Function.update s.pc (some i) (.producer out.2.1)) out.2.2).isSome = true) :
    BarrierReady s (some i) := by
  obtain ⟨f, hf⟩ := Option.isSome_iff_exists.mp hfx
  refine ⟨by rw [hpc]; exact hawake, by rw [hpc]; nofun, {}, ⟨out.1, f⟩, rfl, rfl,
    Program.step_eq_some.mpr ⟨.producer out.2.1, out.2.2, ?_, hf⟩⟩
  show barrierAct cfg (some i) {} s.shared (s.pc (some i)) = _
  rw [hpc]
  exact congrArg (Option.map _) hact

theorem iteration_ready (choice : BarrierChoice) {pc : IterationPc}
    {out : BarrierStep cfg IterationPc} (hpc : s.pc none = .iteration pc)
    (hawake : (BarrierPc.iteration pc).asleepOn = none)
    (hrelease : BarrierPc.iteration pc ≠ .iteration .releaseCallback)
    (hsucceeds : choice.succeeds = true)
    (halso : choice.alsoSucceeds = true) (hact : iterationAct cfg choice s.shared pc = some out)
    (hfx : ((barrierProgram cfg).applyEffects
      (Function.update s.pc none (.iteration out.2.1)) out.2.2).isSome = true) :
    BarrierReady s none := by
  obtain ⟨f, hf⟩ := Option.isSome_iff_exists.mp hfx
  refine ⟨by rw [hpc]; exact hawake, by rw [hpc]; exact hrelease, choice,
    ⟨out.1, f⟩, hsucceeds, halso, Program.step_eq_some.mpr ⟨.iteration out.2.1, out.2.2, ?_, hf⟩⟩
  show barrierAct cfg none choice s.shared (s.pc none) = _
  rw [hpc]
  exact congrArg (Option.map _) hact

/-- Who holds the mutex can give it back. -/
theorem Assembled.holder_ready (hs : Assembled s) (hheld : s.shared.barrier.mutex = some u) :
    BarrierReady s u := by
  have hholds := (hs.owned u).mp hheld
  cases u with
  | some i =>
    obtain ⟨pc, hpc⟩ := barrier_producer hs.runs i
    rw [hpc] at hholds
    cases pc with
    | wait => exact producer_ready hpc rfl (if_pos hheld) rfl
    | unlock failure => exact producer_ready hpc rfl (if_pos hheld) rfl
    | _ => cases hholds
  | none =>
    obtain ⟨pc, hpc⟩ := barrier_iteration hs.runs
    rw [hpc] at hholds
    cases pc with
    | wait => exact iteration_ready {} hpc rfl (by simp) rfl rfl (if_pos hheld) rfl
    | barrierUnlock released =>
      exact iteration_ready {} hpc rfl (by simp) rfl rfl (if_pos hheld) rfl
    | abortUnlock => exact iteration_ready {} hpc rfl (by simp) rfl rfl (if_pos hheld) rfl
    | _ => cases hholds

theorem barrierTest_effects (choice : BarrierChoice) (m : Meeting (BarrierThread cfg))
    (f : BarrierThread cfg → BarrierPc) :
    ((barrierProgram cfg).applyEffects f (barrierTest cfg choice m).2.2).isSome = true := by
  unfold barrierTest
  split
  · rfl
  · split <;> rfl

/-- While the mutex is free, who wants to take it can do so. -/
theorem Assembled.mover_ready (hs : Assembled s) (hfree : s.shared.barrier.mutex = none)
    (hmoves : (s.pc u).moves = true) : BarrierReady s u := by
  cases u with
  | some i =>
    obtain ⟨pc, hpc⟩ := barrier_producer hs.runs i
    rw [hpc] at hmoves
    cases pc with
    | entry => exact producer_ready hpc rfl (if_pos hfree) rfl
    | woken => exact producer_ready hpc rfl (if_pos ⟨hfree, .inl rfl⟩) rfl
    | submit index =>
      by_cases hindex : index < producerEnd cfg.tasks cfg.producers i
      · exact producer_ready hpc rfl (if_pos hindex) rfl
      · exact producer_ready hpc rfl (if_neg hindex) rfl
    | _ => cases hmoves
  | none =>
    obtain ⟨pc, hpc⟩ := barrier_iteration hs.runs
    have hphase := hs.phase pc hpc
    rw [hpc] at hmoves
    cases pc with
    | create index =>
      by_cases hindex : index < cfg.producers
      · -- the next producer does not run yet
        refine iteration_ready {} hpc rfl (by simp) rfl rfl (dif_pos hindex) ?_
        obtain ⟨ppc, hppc⟩ := barrier_producer hs.runs ⟨index, hindex⟩
        have hcreated := hs.created ⟨index, hindex⟩
        rw [hppc, hphase.1] at hcreated
        cases ppc with
        | notCreated => simp [Program.applyEffects, Program.applyEffect, barrierProgram, hppc]
        | _ => exact absurd (hcreated.mp rfl) (Nat.lt_irrefl index)
      · exact iteration_ready {} hpc rfl (by simp) rfl rfl (dif_neg hindex) rfl
    | barrierLock =>
      exact iteration_ready {} hpc rfl (by simp) rfl rfl (if_pos ⟨hfree, .inl rfl⟩)
        (barrierTest_effects ..)
    | woken =>
      exact iteration_ready {} hpc rfl (by simp) rfl rfl (if_pos ⟨hfree, .inl rfl, .inl rfl⟩)
        (barrierTest_effects ..)
    | abortLock => exact iteration_ready {} hpc rfl (by simp) rfl rfl (if_pos hfree) rfl
    | _ => cases hmoves

/-- Who holds the mutex gives it back. -/
theorem BarrierStepSpec.leaves {pc : BarrierPc} {out : BarrierStep cfg BarrierPc}
    (h : BarrierStepSpec cfg choice m t pc out) (hholds : pc.holds = true) :
    out.1.barrier.mutex = none := by
  have htests : ∀ {pc : IterationPc}, pc.tests = true → (BarrierPc.iteration pc).holds = false := by
    intro pc htests
    cases pc <;> first | rfl | cases htests
  cases h with
  | producer i h => cases h <;> first | rfl | cases hholds
  | iteration h =>
    cases h with
    | unready pc htest hfree hready => cases hholds.symm.trans (htests htest)
    | release pc htest hfree hready => cases hholds.symm.trans (htests htest)
    | giveUp pc htest hfree hfail => cases hholds.symm.trans (htests htest)
    | _ => first | rfl | cases hholds

theorem producerTest_waits {T : Type} {b : StartBarrier T}
    (h : (BarrierPc.producer (producerTest b)).loops = true) :
    (BarrierPc.producer (producerTest b)).waits = true := by
  unfold producerTest at h ⊢
  by_cases hpending : (!b.released && !b.aborted) = true
  · rw [if_pos hpending]
    rfl
  · rw [if_neg hpending] at h
    cases h

/-- Who was woken stays in the wait loop only if what it waits for has not happened. -/
theorem BarrierStepSpec.retests {pc : BarrierPc} {out : BarrierStep cfg BarrierPc}
    (h : BarrierStepSpec cfg choice m t pc out) (hwoken : pc.waits = false)
    (hloops : pc.loops = true) (hloops' : out.2.1.loops = true) : out.1.Pending t := by
  have hpending := fun hwaits : out.2.1.waits = true =>
    h.pending hwaits fun hbefore => absurd hbefore (by rw [hwoken]; exact Bool.false_ne_true)
  cases h with
  | producer i h =>
    cases h with
    | retest hfree => exact hpending (producerTest_waits hloops')
    | waitFailed hfree hfail => cases hloops'
    | _ =>
      first
      | exact absurd hloops Bool.false_ne_true
      | exact absurd hwoken.symm Bool.false_ne_true
  | iteration h =>
    cases h with
    | unready pc htest hfree hready => exact hpending rfl
    | release pc htest hfree hready => cases hloops'
    | giveUp pc htest hfree hfail => cases hloops'
    | _ =>
      first
      | exact absurd hloops Bool.false_ne_true
      | exact absurd hwoken.symm Bool.false_ne_true

/-- Who is in a wait loop and does not wait has been woken. -/
theorem BarrierPc.moves_of_loops {pc : BarrierPc} (hloops : pc.loops = true)
    (hwoken : pc.waits = false) : pc.moves = true := by
  cases pc with
  | producer pc =>
    cases pc with
    | woken => rfl
    | wait => cases hwoken
    | asleep => cases hwoken
    | _ => cases hloops
  | iteration pc =>
    cases pc with
    | woken => rfl
    | wait => cases hwoken
    | asleep => cases hwoken
    | _ => cases hloops

/-- Where `run_iteration` joins, the barrier is open. -/
theorem IterationPc.Phase.released {pc : IterationPc} (h : pc.Phase m)
    (hpc : pc.joins.isSome = true ∨ ∃ passed, pc = .cleaned passed) :
    m.barrier.released = true := by
  have hpassed : ∀ {passed : Bool},
      (if passed then m.Started ∧ m.joined = cfg.producers else m.Aborted) →
        m.barrier.released = true := by
    intro passed h
    cases passed with
    | true => exact h.1.released
    | false => exact h.released
  rcases hpc with hjoins | ⟨passed, rfl⟩
  · cases pc with
    | join index => exact h.2.1.released
    | cleanupJoin index passed => exact hpassed h.2.1
    | _ => cases hjoins
  · exact hpassed h.2

/-! ## Where nothing brings a thread further -/

section Runs

variable {e : Execution (barrierProgram cfg)} {n k : ℕ}

/-- From instant `n` on nothing happens but rounds of the wait loops. -/
def Still (e : Execution (barrierProgram cfg)) (n : ℕ) : Prop :=
  ∀ k, n ≤ k → BarrierReachable cfg (e.state k) ∧
    BarrierPool.left (e.state k) = BarrierPool.left (e.state n)

namespace Still

theorem later (h : Still e n) (hk : n ≤ k) : Still e k :=
  fun j hj => ⟨(h j (hk.trans hj)).1, (h j (hk.trans hj)).2.trans (h k hk).2.symm⟩

theorem assembled (h : Still e n) : Assembled (e.state n) := (h n (Nat.le_refl n)).1.assembled

theorem acts (h : Still e n) (hacts : e.Acts u n) :
    ((e.state n).pc u).loops = true ∧ ((e.state (n + 1)).pc u).loops = true := by
  obtain ⟨i, hstep⟩ := hacts.step
  rcases left_step h.assembled hstep with hlt | ⟨-, hloops⟩
  · exact absurd (h (n + 1) (Nat.le_succ n)).2 hlt.ne
  · exact hloops

/-- Nobody leaves its wait loop or comes to it. -/
theorem loops (h : Still e n) (hk : n ≤ k) (u : BarrierThread cfg) :
    ((e.state k).pc u).loops = ((e.state n).pc u).loops := by
  induction k, hk using Nat.le_induction with
  | base => rfl
  | succ k hk ih =>
    rw [← ih]
    rcases e.next_cases k with ⟨v, i, haction, hstep⟩ | hsame
    · by_cases hu : u = v
      · subst hu
        obtain ⟨hbefore, hafter⟩ := (h.later hk).acts ⟨i, haction⟩
        rw [hbefore, hafter]
      · obtain ⟨pc, fx, -, hfx⟩ := barrier_step_spec hstep
        exact (Program.step_blind loops_blind hfx).2 u hu
    · rw [hsame]

/-- Who is not in a wait loop stands where it stood. -/
theorem stands (h : Still e n) (hloops : ((e.state n).pc u).loops = false)
    (hcreated : ((e.state n).pc u).isCreated = true) (hk : n ≤ k) :
    (e.state k).pc u = (e.state n).pc u := by
  induction k, hk using Nat.le_induction with
  | base => rfl
  | succ k hk ih =>
    rcases e.next_cases k with ⟨v, i, haction, hstep⟩ | hsame
    · have hne : u ≠ v := by
        rintro rfl
        have hlooped := ((h.later hk).acts ⟨i, haction⟩).1
        rw [h.loops hk, hloops] at hlooped
        cases hlooped
      obtain ⟨pc, fx, -, hfx⟩ := barrier_step_spec hstep
      rw [← ih] at hloops hcreated ⊢
      have hsame := Function.update_of_ne hne pc (e.state k).pc
      rw [Program.applyEffects_fixed hfx, hsame]
      · rw [hsame]
        generalize (e.state k).pc u = upc at hloops
        cases upc with
        | producer pc => cases pc <;> first | rfl | cases hloops
        | iteration pc => cases pc <;> first | rfl | cases hloops
      · rw [hsame]
        generalize (e.state k).pc u = upc at hcreated
        cases upc with
        | producer pc => cases pc <;> first | rfl | cases hcreated
        | iteration pc => rfl
    · rw [hsame, ih]

variable (hfair : e.Fair BarrierReady)

include hfair

/-- The mutex is free again and again. -/
theorem free_again (h : Still e n) : ∃ k, n ≤ k ∧ (e.state k).shared.barrier.mutex = none := by
  cases howner : (e.state n).shared.barrier.mutex with
  | none => exact ⟨n, Nat.le_refl n, howner⟩
  | some v =>
    refine hfair.reaches (fun s => Assembled s ∧ s.shared.barrier.mutex = some v)
      (fun s => s.shared.barrier.mutex = none) (fun _ => 0) (t := v) ?_ ?_ ?_ ⟨h.assembled, howner⟩
    · rintro u i s s' hu ⟨hs, howner⟩ hstep
      obtain ⟨pc, fx, hspec, -⟩ := barrier_step_spec hstep
      refine .inr ⟨⟨assembled_step hs hstep, ?_⟩, Nat.le_refl 0⟩
      rcases hspec.lock_move with ⟨hsame, -⟩ | ⟨hfree, -⟩ | ⟨hheld, -⟩
      · exact hsame.trans howner
      · cases hfree.symm.trans howner
      · exact absurd (Option.some.inj (hheld.symm.trans howner)) hu
    · rintro i s s' ⟨hs, howner⟩ hstep
      obtain ⟨pc, fx, hspec, -⟩ := barrier_step_spec hstep
      exact .inl (hspec.leaves ((hs.owned v).mp howner))
    · intro k hregion _
      obtain ⟨hs, howner⟩ := hregion k (Nat.le_refl k)
      exact ⟨k, Nat.le_refl k, hs.holder_ready howner⟩

/-- Who would be ready again and again is in a wait loop. -/
theorem loops_of_ready (h : Still e n)
    (hready : ∀ k, n ≤ k → ∃ j, k ≤ j ∧ BarrierReady (e.state j) u) :
    ((e.state n).pc u).loops = true := by
  obtain ⟨k, hk, hacts⟩ := hfair.acts fun _ k hk => hready k hk
  rw [← h.loops hk]
  exact ((h.later hk).acts hacts).1

theorem no_mover (h : Still e n) (hmoves : ((e.state n).pc u).moves = true) :
    ((e.state n).pc u).loops = true := by
  by_contra hloops
  rw [Bool.not_eq_true] at hloops
  have hcreated : ((e.state n).pc u).isCreated = true := by
    generalize (e.state n).pc u = pc at hmoves
    cases pc with
    | producer pc => cases pc <;> first | rfl | cases hmoves
    | iteration pc => rfl
  have hready := h.loops_of_ready hfair (u := u) fun k hk => by
    obtain ⟨j, hj, hfree⟩ := (h.later hk).free_again hfair
    refine ⟨j, hj, (h.later (hk.trans hj)).assembled.mover_ready hfree ?_⟩
    rw [h.stands hloops hcreated (hk.trans hj)]
    exact hmoves
  cases hloops.symm.trans hready

theorem no_holder (h : Still e n) (hholds : ((e.state n).pc u).holds = true) :
    ((e.state n).pc u).loops = true := by
  by_contra hloops
  rw [Bool.not_eq_true] at hloops
  have hcreated : ((e.state n).pc u).isCreated = true := by
    generalize (e.state n).pc u = pc at hholds
    cases pc with
    | producer pc => cases pc <;> first | rfl | cases hholds
    | iteration pc => rfl
  obtain ⟨k, hk, hfree⟩ := h.free_again hfair
  rw [← h.stands hloops hcreated hk] at hholds
  cases hfree.symm.trans (((h.later hk).assembled.owned u).mpr hholds)

/-- What somebody waits for has not happened, at one instant at least. -/
theorem pending (h : Still e n) (hloops : ((e.state n).pc u).loops = true) :
    ∃ k, n ≤ k ∧ (e.state k).shared.Pending u := by
  by_contra hnever
  have hhappened : ∀ k, n ≤ k → ¬(e.state k).shared.Pending u :=
    fun k hk hpending => hnever ⟨k, hk, hpending⟩
  have hwoken : ∀ k, n ≤ k → ((e.state k).pc u).waits = false := fun k hk =>
    Bool.eq_false_iff.mpr fun hwaits => hhappened k hk ((h.later hk).assembled.pending u hwaits)
  obtain ⟨k, hk, hacts⟩ := hfair.acts (t := u) (n := n) fun _ k hk => by
    obtain ⟨j, hj, hfree⟩ := (h.later hk).free_again hfair
    have hlater := hk.trans hj
    refine ⟨j, hj, (h.later hlater).assembled.mover_ready hfree
      (BarrierPc.moves_of_loops ?_ (hwoken j hlater))⟩
    rw [h.loops hlater]
    exact hloops
  obtain ⟨hbefore, hafter⟩ := (h.later hk).acts hacts
  obtain ⟨i, hstep⟩ := hacts.step
  obtain ⟨pc, fx, hspec, hfx⟩ := barrier_step_spec hstep
  rw [(Program.step_blind loops_blind hfx).1] at hafter
  exact hhappened (k + 1) (Nat.le_succ_of_le hk) (hspec.retests (hwoken k hk) hbefore hafter)

/-- All have arrived. -/
theorem arrived (h : Still e n) (i : Fin cfg.producers)
    (hcreated : (i : ℕ) < (e.state n).shared.created) : ((e.state n).pc (some i)).arrived = 1 := by
  have hmover := h.no_mover hfair (u := some i)
  have hisCreated := (h.assembled.created i).mpr hcreated
  obtain ⟨pc, hpc⟩ := barrier_producer h.assembled.runs i
  rw [hpc] at hmover hisCreated ⊢
  cases pc with
  | notCreated => cases hisCreated
  | entry => cases hmover rfl
  | _ => rfl

/-- Once the barrier is open, all producers have returned. -/
theorem returned (h : Still e n)
    (hreleased : ∀ k, n ≤ k → (e.state k).shared.barrier.released = true)
    (i : Fin cfg.producers) (hcreated : (i : ℕ) < (e.state n).shared.created) :
    ∃ r, (e.state n).pc (some i) = .producer (.finished r) := by
  have hmover := h.no_mover hfair (u := some i)
  have hholder := h.no_holder hfair (u := some i)
  have harrived := h.arrived hfair i hcreated
  have hloops : ((e.state n).pc (some i)).loops = false := by
    refine Bool.eq_false_iff.mpr fun hloops => ?_
    obtain ⟨k, hk, hpending⟩ := h.pending hfair hloops
    cases hpending.1.symm.trans (hreleased k hk)
  obtain ⟨pc, hpc⟩ := barrier_producer h.assembled.runs i
  rw [hpc] at hmover hholder harrived hloops ⊢
  cases pc with
  | finished r => exact ⟨r, rfl⟩
  | unlock failure => cases hholder rfl
  | submit index => cases hmover rfl
  | notCreated => cases harrived
  | entry => cases harrived
  | _ => cases hloops

end Still

end Runs

end SchedulingEngine
