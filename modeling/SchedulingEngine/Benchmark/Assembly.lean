import SchedulingEngine.Benchmark.BarrierSteps
import SchedulingEngine.Concurrency.Waiting

/-!
# Invariants of the start barrier

Whatever fails and however the threads interleave (`Assembled`): the mutex names the thread inside
the critical section, `ready_count` counts the producers that have arrived, `run_iteration` is as
far as its locals and the flags of the barrier say, the clock was read only when all producers had
arrived, and nobody waits for what has already happened.
-/

namespace SchedulingEngine

open Concurrency

variable {cfg : BarrierConfig}

/-! ## The invariants -/

/-- Which code a thread runs. -/
def BarrierPc.RunsOn (t : BarrierThread cfg) : BarrierPc → Prop
  | .producer _ => t.isSome = true
  | .iteration _ => t = none

/-- Counted in `ready_count`. -/
def BarrierPc.arrived : BarrierPc → ℕ
  | .producer .notCreated | .producer .entry | .iteration _ => 0
  | .producer _ => 1

def BarrierPc.isCreated : BarrierPc → Bool
  | .producer .notCreated => false
  | _ => true

namespace Meeting

variable (m : Meeting (BarrierThread cfg))

/-- The barrier has not been opened. -/
structure Quiet : Prop where
  released : m.barrier.released = false
  aborted : m.barrier.aborted = false
  totalStart : m.totalStart = false

/-- It was opened for all producers. -/
structure Started : Prop where
  released : m.barrier.released = true
  aborted : m.barrier.aborted = false
  totalStart : m.totalStart = true

structure Aborted : Prop where
  released : m.barrier.released = true
  aborted : m.barrier.aborted = true

end Meeting

/-- How far `run_iteration` has come. -/
def IterationPc.Phase (m : Meeting (BarrierThread cfg)) : IterationPc → Prop
  | .create index => m.created = index ∧ index ≤ cfg.producers ∧ m.Quiet ∧ m.joined = 0
  | .barrierLock | .wait | .asleep | .woken =>
    m.created = cfg.producers ∧ m.Quiet ∧ m.joined = 0
  | .barrierUnlock true | .releaseCallback =>
    m.created = cfg.producers ∧ m.Started ∧ m.joined = 0
  | .barrierUnlock false => m.created ≤ cfg.producers ∧ m.Quiet ∧ m.joined = 0
  | .join index =>
    m.created = cfg.producers ∧ m.Started ∧ m.joined = index ∧ index ≤ cfg.producers
  | .abortLock => m.created ≤ cfg.producers ∧ (m.Quiet ∨ m.Started) ∧ m.joined ≤ m.created
  | .abortUnlock => m.created ≤ cfg.producers ∧ m.Aborted ∧ m.joined ≤ m.created
  | .cleanupJoin index passed => m.created ≤ cfg.producers ∧
      (if passed then m.Started ∧ m.joined = cfg.producers else m.Aborted) ∧
      m.joined ≤ index ∧ index ≤ m.created
  | .cleaned passed => m.created ≤ cfg.producers ∧
      (if passed then m.Started ∧ m.joined = cfg.producers else m.Aborted)

def BarrierPc.Phase (m : Meeting (BarrierThread cfg)) : BarrierPc → Prop
  | .producer _ => True
  | .iteration pc => pc.Phase m

/-- What the wait loop of a thread waits for has not happened. -/
def Meeting.Pending (m : Meeting (BarrierThread cfg)) : BarrierThread cfg → Prop
  | none => m.barrier.readyCount < cfg.producers
  | some _ => m.barrier.released = false ∧ m.barrier.aborted = false

/-- Inside a wait loop, up to the end of the sleep. -/
def BarrierPc.waits : BarrierPc → Bool
  | .producer .wait | .producer .asleep | .iteration .wait | .iteration .asleep => true
  | _ => false

section Steps

variable {t : BarrierThread cfg} {choice : BarrierChoice} {m : Meeting (BarrierThread cfg)}
  {pc : BarrierPc} {out : BarrierStep cfg BarrierPc}

/-- A thread goes on running its own code. -/
theorem BarrierStepSpec.runsOn (h : BarrierStepSpec cfg choice m t pc out) :
    out.2.1.RunsOn t := by
  cases h with
  | producer i h => rfl
  | iteration h => rfl

/-- An arrival is counted. -/
theorem BarrierStepSpec.arrives (h : BarrierStepSpec cfg choice m t pc out) :
    out.1.barrier.readyCount + pc.arrived = m.barrier.readyCount + out.2.1.arrived := by
  have htest : (BarrierPc.producer (producerTest m.barrier)).arrived = 1 := by
    unfold producerTest
    split <;> rfl
  cases h with
  | producer i h =>
    cases h with
    | arrive hfree => exact (congrArg (m.barrier.readyCount + ·) htest).symm
    | retest hfree => exact (congrArg (m.barrier.readyCount + ·) htest).symm
    | submit index hindex =>
      obtain ⟨passed, hm, -⟩ := submitTask_fst m choice.outcome index
      rw [hm]
      rcases submitTask_snd m choice.outcome index with hpc | ⟨r, -, hpc⟩
      · rw [hpc]
        rfl
      · rw [hpc]
        rfl
    | _ => rfl
  | iteration h => cases h <;> rfl

/-- The steps of the producers leave `run_iteration` alone. -/
theorem ProducerStepSpec.phase {i : Fin cfg.producers} {pc : ProducerPc}
    {out : BarrierStep cfg ProducerPc} (h : ProducerStepSpec cfg i choice m pc out)
    {ipc : IterationPc} (hphase : ipc.Phase m) : ipc.Phase out.1 := by
  have hkeep : ∀ {m' : Meeting (BarrierThread cfg)}, m'.created = m.created →
      m'.joined = m.joined → m'.barrier.released = m.barrier.released →
      m'.barrier.aborted = m.barrier.aborted → m'.totalStart = m.totalStart → ipc.Phase m' := by
    intro m' hcreated hjoined hreleased haborted htotal
    have hquiet : m'.Quiet ↔ m.Quiet :=
      ⟨fun h => ⟨hreleased ▸ h.released, haborted ▸ h.aborted, htotal ▸ h.totalStart⟩,
        fun h => ⟨hreleased.trans h.released, haborted.trans h.aborted, htotal.trans h.totalStart⟩⟩
    have hstarted : m'.Started ↔ m.Started :=
      ⟨fun h => ⟨hreleased ▸ h.released, haborted ▸ h.aborted, htotal ▸ h.totalStart⟩,
        fun h => ⟨hreleased.trans h.released, haborted.trans h.aborted, htotal.trans h.totalStart⟩⟩
    have hgone : m'.Aborted ↔ m.Aborted :=
      ⟨fun h => ⟨hreleased ▸ h.released, haborted ▸ h.aborted⟩,
        fun h => ⟨hreleased.trans h.released, haborted.trans h.aborted⟩⟩
    unfold IterationPc.Phase at hphase ⊢
    simpa only [hcreated, hjoined, hquiet, hstarted, hgone] using hphase
  cases h with
  | submit index hindex =>
    obtain ⟨passed, hm, -⟩ := submitTask_fst m choice.outcome index
    rw [hm]
    exact hkeep rfl rfl rfl rfl rfl
  | _ => exact hkeep rfl rfl rfl rfl rfl

/-- **Every step of `run_iteration` ends in the phase of its next place.** -/
theorem IterationStepSpec.phase {pc : IterationPc} {out : BarrierStep cfg IterationPc}
    (h : IterationStepSpec cfg choice m pc out) (hphase : pc.Phase m) : out.2.1.Phase out.1 := by
  have htested : ∀ {pc : IterationPc}, pc.tests = true → pc.Phase m →
      m.created = cfg.producers ∧ m.Quiet ∧ m.joined = 0 := by
    intro pc htests hphase
    cases pc <;> first | exact hphase | cases htests
  cases h with
  | created index =>
    obtain ⟨hcreated, -, hquiet, hjoined⟩ := hphase
    exact ⟨congrArg (· + 1) hcreated, index.isLt, ⟨hquiet.released, hquiet.aborted,
      hquiet.totalStart⟩, hjoined⟩
  -- both ways of giving up before the release leave the barrier as it was set up
  | createFailed index hindex hfail =>
    obtain ⟨hcreated, hle, hquiet, hjoined⟩ := hphase
    exact ⟨hcreated.trans_le hle, .inl hquiet, hjoined.trans_le (Nat.zero_le _)⟩
  | allCreated index hindex =>
    obtain ⟨hcreated, hle, hquiet, hjoined⟩ := hphase
    exact ⟨hcreated.trans (Nat.le_antisymm hle hindex), hquiet, hjoined⟩
  | unready pc htests hfree hready =>
    obtain ⟨hcreated, hquiet, hjoined⟩ := htested htests hphase
    exact ⟨hcreated, ⟨hquiet.released, hquiet.aborted, hquiet.totalStart⟩, hjoined⟩
  -- the release, with the clock read under the mutex
  | release pc htests hfree hready =>
    obtain ⟨hcreated, hquiet, hjoined⟩ := htested htests hphase
    exact ⟨hcreated, ⟨rfl, hquiet.aborted, rfl⟩, hjoined⟩
  | giveUp pc htests hfree hfail =>
    obtain ⟨hcreated, hquiet, hjoined⟩ := htested htests hphase
    exact ⟨hcreated.le, ⟨hquiet.released, hquiet.aborted, hquiet.totalStart⟩, hjoined⟩
  | sleep hheld =>
    obtain ⟨hcreated, hquiet, hjoined⟩ := hphase
    exact ⟨hcreated, ⟨hquiet.released, hquiet.aborted, hquiet.totalStart⟩, hjoined⟩
  | spurious => exact hphase
  | proceed hheld =>
    obtain ⟨hcreated, hstarted, hjoined⟩ := hphase
    exact ⟨hcreated, ⟨hstarted.released, hstarted.aborted, hstarted.totalStart⟩, hjoined⟩
  | unlockToAbort hheld =>
    obtain ⟨hcreated, hquiet, hjoined⟩ := hphase
    exact ⟨hcreated, .inl ⟨hquiet.released, hquiet.aborted, hquiet.totalStart⟩,
      hjoined.trans_le (Nat.zero_le _)⟩
  | callbackReleased =>
    obtain ⟨hcreated, hstarted, hjoined⟩ := hphase
    exact ⟨hcreated, hstarted, hjoined, Nat.zero_le _⟩
  | callbackFailed hfail =>
    obtain ⟨hcreated, hstarted, hjoined⟩ := hphase
    exact ⟨hcreated.le, .inr hstarted, hjoined.trans_le (Nat.zero_le _)⟩
  | joined index hindex =>
    obtain ⟨hcreated, hstarted, hjoined, -⟩ := hphase
    exact ⟨hcreated, ⟨hstarted.released, hstarted.aborted, hstarted.totalStart⟩,
      congrArg (· + 1) hjoined, index.isLt⟩
  -- a producer that failed has been joined, and the rest is left to the clean-up
  | joinedFailure index r hindex hr =>
    obtain ⟨hcreated, hstarted, hjoined, -⟩ := hphase
    refine ⟨hcreated.le, .inr ⟨hstarted.released, hstarted.aborted, hstarted.totalStart⟩, ?_⟩
    show m.joined + 1 ≤ m.created
    omega
  | joinFailed index hindex hfail =>
    obtain ⟨hcreated, hstarted, hjoined, -⟩ := hphase
    exact ⟨hcreated.le, .inr hstarted, hjoined.trans_le hindex.le⟩
  | allJoined index hindex =>
    obtain ⟨hcreated, hstarted, hjoined, hle⟩ := hphase
    refine ⟨hcreated.le, ?_, Nat.le_refl _, hjoined.trans_le (hle.trans hcreated.ge)⟩
    rw [if_pos rfl]
    exact ⟨hstarted, hjoined.trans (Nat.le_antisymm hle (hcreated.symm.trans_le hindex))⟩
  | abort hfree =>
    obtain ⟨hcreated, -, hjoined⟩ := hphase
    exact ⟨hcreated, ⟨rfl, rfl⟩, hjoined⟩
  | aborted hheld =>
    obtain ⟨hcreated, haborted, hjoined⟩ := hphase
    exact ⟨hcreated, ⟨haborted.released, haborted.aborted⟩, Nat.le_refl _, hjoined⟩
  -- the clean-up goes through all that were created, whether their joins succeed or not
  | cleanupJoined index passed r hindex =>
    obtain ⟨hcreated, hpassed, hjoined, -⟩ := hphase
    exact ⟨hcreated, hpassed, Nat.le_succ_of_le hjoined, hindex⟩
  | cleanupFailed index passed hindex hfail =>
    obtain ⟨hcreated, hpassed, hjoined, -⟩ := hphase
    exact ⟨hcreated, hpassed, Nat.le_succ_of_le hjoined, hindex⟩
  | cleaned index passed hindex =>
    obtain ⟨hcreated, hpassed, -, -⟩ := hphase
    exact ⟨hcreated, hpassed⟩

/-- A step keeps the phase of its own thread, and a step of a producer that of
`run_iteration`. -/
theorem BarrierStepSpec.phase (h : BarrierStepSpec cfg choice m t pc out) (hphase : pc.Phase m) :
    out.2.1.Phase out.1 ∧ (t.isSome = true → ∀ pc : BarrierPc, pc.Phase m → pc.Phase out.1) := by
  cases h with
  | producer i h =>
    refine ⟨trivial, fun _ pc hpc => ?_⟩
    cases pc with
    | producer pc => trivial
    | iteration pc => exact h.phase hpc
  | iteration h => exact ⟨h.phase hphase, nofun⟩

/-- The clock is read when all producers are ready, and arrivals are not taken back. -/
theorem BarrierStepSpec.clock (h : BarrierStepSpec cfg choice m t pc out)
    (hclock : m.totalStart = true → cfg.producers ≤ m.barrier.readyCount)
    (htotal : out.1.totalStart = true) : cfg.producers ≤ out.1.barrier.readyCount := by
  cases h with
  | producer i h =>
    cases h with
    | arrive hfree => exact Nat.le_succ_of_le (hclock htotal)
    | submit index hindex =>
      obtain ⟨passed, hm, -⟩ := submitTask_fst m choice.outcome index
      rw [hm] at htotal ⊢
      exact hclock htotal
    | _ => exact hclock htotal
  | iteration h =>
    cases h with
    | release pc htests hfree hready => exact hready
    | _ => exact hclock htotal

/-- Who comes to a wait loop has seen that what it waits for has not happened. -/
theorem BarrierStepSpec.pending (h : BarrierStepSpec cfg choice m t pc out)
    (hwaits : out.2.1.waits = true) (hbefore : pc.waits = true → m.Pending t) :
    out.1.Pending t := by
  have htest : ∀ {b : StartBarrier (BarrierThread cfg)},
      (BarrierPc.producer (producerTest b)).waits = true →
        b.released = false ∧ b.aborted = false := by
    intro b hwaits
    unfold producerTest at hwaits
    split at hwaits
    · rename_i hpending
      simpa using hpending
    · cases hwaits
  cases h with
  | producer i h =>
    cases h with
    | arrive hfree => exact htest hwaits
    | sleep hheld => exact hbefore rfl
    | retest hfree => exact htest hwaits
    | submit index hindex =>
      rcases submitTask_snd m choice.outcome index with hpc | ⟨r, -, hpc⟩
      · rw [hpc] at hwaits
        cases hwaits
      · rw [hpc] at hwaits
        cases hwaits
    | _ => cases hwaits
  | iteration h =>
    cases h with
    | unready pc htests hfree hready => exact hready
    | sleep hheld => exact hbefore rfl
    | _ => cases hwaits

/-- A step creates the next producer, or nobody. -/
theorem BarrierStepSpec.spawns (h : BarrierStepSpec cfg choice m t pc out)
    (hphase : pc.Phase m) :
    (out.1.created = m.created ∧ (∀ u, .spawn u ∉ out.2.2) ∧
        (t.isSome = true → pc.isCreated = true ∧ out.2.1.isCreated = true)) ∨
      out.1.created = m.created + 1 ∧ t = none ∧ ∃ j : Fin cfg.producers,
        (j : ℕ) = m.created ∧ out.2.2 = [.spawn (some j)] := by
  cases h with
  | producer i h =>
    cases h with
    | submit index hindex =>
      obtain ⟨passed, hm, -⟩ := submitTask_fst m choice.outcome index
      refine .inl ⟨by rw [hm], fun u => List.not_mem_nil, fun _ => ⟨rfl, ?_⟩⟩
      rcases submitTask_snd m choice.outcome index with hpc | ⟨r, -, hpc⟩
      · rw [hpc]
        rfl
      · rw [hpc]
        rfl
    | arrive hfree =>
      refine .inl ⟨rfl, by simp, fun _ => ⟨rfl, ?_⟩⟩
      unfold producerTest
      split <;> rfl
    | retest hfree =>
      refine .inl ⟨rfl, by simp, fun _ => ⟨rfl, ?_⟩⟩
      unfold producerTest
      split <;> rfl
    | _ => exact .inl ⟨rfl, by simp, fun _ => ⟨rfl, rfl⟩⟩
  | iteration h =>
    cases h with
    | created index => exact .inr ⟨rfl, rfl, index, hphase.1.symm, rfl⟩
    | _ => exact .inl ⟨rfl, by simp, by simp⟩

end Steps

/-! ## Every reachable state -/

/-- The invariants of the barrier. -/
structure Assembled (s : BarrierPool cfg) : Prop where
  runs : ∀ t, (s.pc t).RunsOn t
  owned : Program.Owned (fun m : Meeting (BarrierThread cfg) => m.barrier.mutex) BarrierPc.holds s
  ready : s.shared.barrier.readyCount = Program.total BarrierPc.arrived s.pc
  phase : ∀ pc, s.pc none = .iteration pc → pc.Phase s.shared
  pending : ∀ t, (s.pc t).waits = true → s.shared.Pending t
  clock : s.shared.totalStart = true → cfg.producers ≤ s.shared.barrier.readyCount
  created : ∀ i : Fin cfg.producers, (s.pc (some i)).isCreated = true ↔ (i : ℕ) < s.shared.created

section Reachable

variable {t u : BarrierThread cfg} {choice : BarrierChoice} {s s' : BarrierPool cfg}

/-- A wakeup moves the two sleepers only. -/
theorem BarrierPc.apply_wake {M : Type*} {g : BarrierPc → M}
    (hproducer : g (.producer .woken) = g (.producer .asleep))
    (hiteration : g (.iteration .woken) = g (.iteration .asleep)) (pc : BarrierPc) :
    g pc.wake = g pc := by
  cases pc with
  | producer pc => cases pc <;> first | rfl | exact hproducer
  | iteration pc => cases pc <;> first | rfl | exact hiteration

/-- A function of threads that sees neither wakeups nor creations is kept by them. -/
theorem barrierProgram_blind {M : Type*} {g : BarrierPc → M}
    (hproducer : g (.producer .woken) = g (.producer .asleep))
    (hiteration : g (.iteration .woken) = g (.iteration .asleep))
    (hstart : g (.producer .entry) = g (.producer .notCreated)) : (barrierProgram cfg).Blind g where
  wake pc _ _ := BarrierPc.apply_wake hproducer hiteration pc
  start pc hdormant := by
    obtain rfl : pc = .producer .notCreated := of_decide_eq_true hdormant
    exact hstart

/-- A step of the pool is one of the listed steps, with its effects. -/
theorem barrier_step_spec (hstep : (barrierProgram cfg).step t choice s = some s') :
    ∃ pc fx, BarrierStepSpec cfg choice s.shared t (s.pc t) (s'.shared, pc, fx) ∧
      (barrierProgram cfg).applyEffects (Function.update s.pc t pc) fx = some s'.pc := by
  obtain ⟨pc, fx, hact, hfx⟩ := Program.step_eq_some.mp hstep
  exact ⟨pc, fx, barrierAct_spec hact, hfx⟩

/-- Who is woken is no longer asleep. -/
theorem barrierProgram_rouses : (barrierProgram cfg).Rouses where
  wake pc := by
    cases pc with
    | producer pc => cases pc <;> rfl
    | iteration pc => cases pc <;> rfl
  start _ _ := rfl

/-- Effects lead nobody into a wait loop. -/
theorem waits_unroused {f g : BarrierThread cfg → BarrierPc} {fx : List (BarrierEffect cfg)}
    (h : (barrierProgram cfg).applyEffects f fx = some g) (hwaits : (g u).waits = true) :
    g u = f u := by
  refine Program.applyEffects_unroused (Q := fun pc => pc.waits = true) ?_ ?_ h hwaits
  · intro pc c hasleep
    cases pc with
    | producer pc => cases pc <;> first | exact Bool.false_ne_true | cases hasleep
    | iteration pc => cases pc <;> first | exact Bool.false_ne_true | cases hasleep
  · exact fun _ _ => Bool.false_ne_true

/-- Who waits is asleep, or still holds the mutex. -/
theorem BarrierPc.waits_cases {pc : BarrierPc} (h : pc.waits = true) :
    pc.asleepOn = some () ∨ pc.holds = true := by
  cases pc with
  | producer pc => cases pc <;> first | exact .inl rfl | exact .inr rfl | cases h
  | iteration pc => cases pc <;> first | exact .inl rfl | exact .inr rfl | cases h

/-- Every thread is in its phase. -/
theorem Assembled.phases (h : Assembled s) (u : BarrierThread cfg) :
    (s.pc u).Phase s.shared := by
  have hruns := h.runs u
  cases hpc : s.pc u with
  | producer pc => trivial
  | iteration ipc =>
    rw [hpc] at hruns
    obtain rfl : u = none := hruns
    exact h.phase ipc hpc

/-- The controller runs `run_iteration`. -/
theorem barrier_iteration (h : ∀ t, (s.pc t).RunsOn t) : ∃ pc, s.pc none = .iteration pc := by
  have hruns := h none
  cases hpc : s.pc none with
  | producer pc =>
    rw [hpc] at hruns
    cases hruns
  | iteration pc => exact ⟨pc, rfl⟩

/-- A producer runs a producer's code. -/
theorem barrier_producer (h : ∀ t, (s.pc t).RunsOn t) (i : Fin cfg.producers) :
    ∃ pc, s.pc (some i) = .producer pc := by
  have hruns := h (some i)
  cases hpc : s.pc (some i) with
  | producer pc => exact ⟨pc, rfl⟩
  | iteration pc =>
    rw [hpc] at hruns
    cases hruns

/-- **No wakeup is lost**: who waits is told when what it waits for happens. -/
theorem pending_step (h : Assembled s) {pc : BarrierPc} {fx : List (BarrierEffect cfg)}
    (hspec : BarrierStepSpec cfg choice s.shared t (s.pc t) (s'.shared, pc, fx))
    (hfx : (barrierProgram cfg).applyEffects (Function.update s.pc t pc) fx = some s'.pc)
    (hwaits : (s'.pc u).waits = true) : s'.shared.Pending u := by
  have hsame := waits_unroused hfx hwaits
  by_cases hu : u = t
  · subst hu
    rw [Function.update_self] at hsame
    rw [hsame] at hwaits
    exact hspec.pending hwaits (h.pending u)
  rw [Function.update_of_ne hu] at hsame
  rw [hsame] at hwaits
  have hpending := h.pending u hwaits
  rcases hspec.stirs with hcalm | ⟨hfree, hbroadcast⟩
  · cases u with
    | none => exact hcalm.readyCount.trans_lt hpending
    | some i => exact ⟨hcalm.released.trans hpending.1, hcalm.aborted.trans hpending.2⟩
  · rcases BarrierPc.waits_cases hwaits with hasleep | hholds
    · have hasleep' : (barrierProgram cfg).asleepOn (s'.pc u) = some () := by
        rw [hsame]
        exact hasleep
      exact absurd hbroadcast (Program.asleep_step barrierProgram_rouses hfx hasleep').1
    · cases hfree.symm.trans ((h.owned u).mpr hholds)

/-- A producer runs if and only if it was created. -/
theorem created_step (h : Assembled s) {pc : BarrierPc} {fx : List (BarrierEffect cfg)}
    (hspec : BarrierStepSpec cfg choice s.shared t (s.pc t) (s'.shared, pc, fx))
    (hfx : (barrierProgram cfg).applyEffects (Function.update s.pc t pc) fx = some s'.pc)
    (i : Fin cfg.producers) : (s'.pc (some i)).isCreated = true ↔ (i : ℕ) < s'.shared.created := by
  let A (u : BarrierThread cfg) (m : Meeting (BarrierThread cfg)) (pc : BarrierPc) : Prop :=
    ∀ i : Fin cfg.producers, u = some i → (pc.isCreated = true ↔ (i : ℕ) < m.created)
  have hspawns := hspec.spawns (h.phases t)
  dsimp only at hspawns
  refine Program.forall_step_spawn A ?_ hfx ?_ ?_ ?_ ?_ (some i) i rfl
  · intro u m pc c hasleep
    have hwake : ((barrierProgram cfg).wake pc).isCreated = pc.isCreated :=
      BarrierPc.apply_wake rfl rfl pc
    dsimp only [A]
    rw [hwake]
  · rintro i rfl
    rcases hspawns with ⟨hcreated, -, hself⟩ | ⟨-, hnone, -⟩
    · obtain ⟨hbefore, hafter⟩ := hself rfl
      rw [hcreated, ← h.created i, hbefore, hafter]
    · cases hnone
  · rintro u hspawn pc - i rfl
    rcases hspawns with ⟨-, hnobody, -⟩ | ⟨hcreated, -, j, hj, hspawned⟩
    · exact absurd hspawn (hnobody _)
    · rw [hspawned, List.mem_singleton] at hspawn
      cases hspawn
      exact iff_of_true rfl (by rw [hcreated, hj]; exact Nat.lt_succ_self _)
  · rintro u - hspawn hu i rfl
    rcases hspawns with ⟨hcreated, -, -⟩ | ⟨hcreated, -, j, hj, hspawned⟩
    · rw [hcreated]
      exact hu i rfl
    · have hne : (i : ℕ) ≠ s.shared.created := by
        intro hi
        rw [hspawned, Fin.ext (hi.trans hj.symm)] at hspawn
        exact hspawn (List.mem_singleton_self _)
      rw [hu i rfl, hcreated]
      omega
  · rintro u i rfl
    exact h.created i

/-- **One step keeps the barrier's invariants.** -/
theorem assembled_step (h : Assembled s)
    (hstep : (barrierProgram cfg).step t choice s = some s') : Assembled s' := by
  obtain ⟨pc, fx, hspec, hfx⟩ := barrier_step_spec hstep
  refine ⟨?_, ?_, ?_, ?_, fun u => pending_step h hspec hfx, hspec.clock h.clock,
    created_step h hspec hfx⟩
  · exact Program.forall_step (fun u _ pc => pc.RunsOn u)
      (fun u _ => barrierProgram_blind rfl rfl rfl) hfx hspec.runsOn (fun _ _ hruns => hruns) h.runs
  · exact Program.owner_step (barrierProgram_blind rfl rfl rfl) hfx hspec.lock_move h.owned
  · exact Program.sum_step (fun m : Meeting (BarrierThread cfg) => m.barrier.readyCount)
      (barrierProgram_blind rfl rfl rfl) hfx hspec.arrives h.ready
  · -- `run_iteration` keeps its own phase, the producers leave it alone
    have hphases := Program.forall_step (fun _ m pc => pc.Phase m)
      (fun _ m => barrierProgram_blind rfl rfl rfl) hfx (hspec.phase (h.phases t)).1
      (fun u hu hphase => ?_) h.phases
    · intro ipc hpc
      have hphase := hphases none
      rwa [hpc] at hphase
    · cases t with
      | some i => exact (hspec.phase (h.phases _)).2 rfl _ hphase
      | none =>
        obtain ⟨i, rfl⟩ := Option.ne_none_iff_exists'.mp hu
        obtain ⟨ppc, hppc⟩ := barrier_producer h.runs i
        rw [hppc]
        trivial

/-- They hold before the first producer is created. -/
theorem assembled_initial (cfg : BarrierConfig) : Assembled (barrierInitial cfg) where
  runs t := by cases t <;> rfl
  owned t := by
    refine iff_of_false nofun ?_
    cases t <;> exact Bool.false_ne_true
  ready := by
    refine (Finset.sum_eq_zero fun t _ => ?_).symm
    cases t <;> rfl
  phase pc hpc := by
    cases hpc
    exact ⟨rfl, Nat.zero_le _, ⟨rfl, rfl, rfl⟩, rfl⟩
  pending t hwaits := by cases t <;> cases hwaits
  clock := nofun
  created i := iff_of_false Bool.false_ne_true (Nat.not_lt_zero _)

/-- And so in every reachable state. -/
theorem BarrierReachable.assembled (h : BarrierReachable cfg s) : Assembled s := by
  refine Program.Steps.invariant h (assembled_initial cfg) ?_
  rintro u u' - hu ⟨t, choice, hstep⟩
  exact assembled_step hu hstep

end Reachable

end SchedulingEngine
