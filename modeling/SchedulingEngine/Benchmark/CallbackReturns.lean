import SchedulingEngine.Benchmark.Handshake
import SchedulingEngine.Concurrency.Locks

/-!
# Callbacks return

In a fair execution `release_controlled_callback` returns once a callback has been called, and every
callback returns, whatever Tasks are passed and however often a wait ends by itself
(`callbacks_return`). Timer, mutex and condition calls succeed here: a callback of a profiling build
whose reading fails returns without entering, and may leave the controller waiting. A callback
of the controlled profile waits for the controller, which waits for the first callback; a callback
that is let through has finitely many steps left (`CallbackPc.left`).
-/

namespace SchedulingEngine

open Concurrency

variable {b : Benchmark} {t u : BenchmarkThread b} {choice : CallbackChoice}
  {ctx : CallbackContext (BenchmarkThread b)} {pc : CallbackPc}
  {out : CallbackSection (BenchmarkThread b)} {s s' : BenchmarkPool b}

/-- In the callback, or in `release_controlled_callback`. -/
def CallbackPc.busy : CallbackPc → Bool
  | .idle | .returned _ | .released => false
  | _ => true

/-- A bound on the steps before a callback that is let through returns, and before
`release_controlled_callback` does once it need not wait. -/
def CallbackPc.left : CallbackPc → ℕ
  | .called _ => 10
  | .computing _ _ => 9
  | .partitioned stage _ => 1 + stage.left
  | .lock _ | .wait _ | .asleep _ | .woken _ => 3
  | .unlock => 2
  | .leaving => 1
  | .releaseLock | .releaseWait | .releaseAsleep | .releaseWoken => 2
  | .releaseUnlock => 1
  | .idle | .returned _ | .released => 0

theorem busy_blind : (benchmarkProgram b).Blind CallbackPc.busy where
  wake pc c hasleep := by cases pc <;> rfl
  start pc hdormant := by cases hdormant

theorem callbackLeft_blind : (benchmarkProgram b).Blind CallbackPc.left where
  wake pc c hasleep := by cases pc <;> rfl
  start pc hdormant := by cases hdormant

namespace CallbackStepSpec

variable (h : CallbackStepSpec b t choice ctx pc out)

include h

/-- A callback that is let through comes closer to its return. -/
theorem nears (hseat : pc.Seat b ctx) (hpasses : b.Passes ctx) (hbusy : pc.busy = true)
    (hworker : pc.controls = false) (hawake : pc.asleepOn = none) : out.2.1.left < pc.left := by
  have hnot : ¬b.Held ctx := fun hheld =>
    hpasses.elim (by simp [hheld.1]) fun hother => hother hheld.2.2
  cases h with
  | start task => exact Nat.lt_succ_self _
  | unprofiled task => exact (by decide : 3 < 10)
  | computed task combinedStart hlast pc hpc =>
    rcases hpc with ⟨-, rfl⟩ | rfl
    · exact (by decide : 8 < 9)
    · exact (by decide : 3 < 9)
  | partitioned stage call counters pc hstep =>
    rcases partitionedStep_next hstep with ⟨next, rfl, hlt⟩ | ⟨result, rfl⟩
    · exact Nat.add_lt_add_left hlt 1
    · exact Nat.lt_add_right _ Nat.one_pos
  | announce call hfree hheld => exact absurd hheld hnot
  | rest call hfree hheld => exact absurd hheld hnot
  | account pc call hpc => rcases hpc with rfl | rfl <;> exact Nat.lt_succ_self _
  | sleep call => exact absurd hpasses hseat.2.1
  | spurious call => cases hawake
  | unlock hheld => exact Nat.lt_succ_self _
  | leave result => exact Nat.one_pos
  | unready pc hpc => rcases hpc with rfl | rfl <;> cases hworker
  | release pc hpc => rcases hpc with rfl | rfl <;> cases hworker
  | pass task => cases hbusy
  | again result => cases hbusy
  | _ => cases hworker

/-- One that is held announces itself, or comes closer to that. -/
theorem announces (hcontrolled : b.config.profile = .controlledBlocking) (hseat : pc.Seat b ctx)
    (hheld : b.Held ctx) (hbusy : pc.busy = true) (hworker : pc.controls = false)
    (hunentered : ctx.blockingEntered = false) :
    out.1.blockingEntered = true ∨
      out.2.1.left < pc.left ∧ out.2.1.busy = true ∧ out.1.blockingEntered = false := by
  have hnotthrough : ¬b.Passes ctx := by simp [Benchmark.Passes, hheld.1, hcontrolled]
  cases h with
  | start task => exact .inr ⟨Nat.lt_succ_self _, rfl, hunentered⟩
  | unprofiled task => exact .inr ⟨(by decide : 3 < 10), rfl, hunentered⟩
  | computed task combinedStart hlast pc hpc =>
    rcases hpc with ⟨hpartitions, -⟩ | rfl
    · exact absurd (partitions_passes hpartitions ctx) hnotthrough
    · exact .inr ⟨(by decide : 3 < 9), rfl, hunentered⟩
  | partitioned stage call => exact absurd (partitions_passes hseat.2 ctx) hnotthrough
  | announce call => exact .inl rfl
  | account pc call hpc hfree hpasses => exact absurd hheld hpasses
  | rest call => cases hseat.2.symm.trans hunentered
  | sleep call => cases hseat.2.2.symm.trans hunentered
  | spurious call => cases hseat.2.symm.trans hunentered
  | unlock => exact absurd hseat hnotthrough
  | leave result => exact absurd hseat hnotthrough
  | unready pc hpc => rcases hpc with rfl | rfl <;> cases hworker
  | release pc hpc => rcases hpc with rfl | rfl <;> cases hworker
  | pass task => cases hbusy
  | again result => cases hbusy
  | _ => cases hworker

/-- `release_controlled_callback` comes closer to its return. -/
theorem lets_go (hseat : pc.Seat b ctx) (hbusy : pc.busy = true) (hcontroller : pc.controls = true)
    (hawake : pc.asleepOn = none) (hentered : b.Passes ctx ∨ ctx.blockingEntered = true) :
    out.2.1.left < pc.left := by
  cases h with
  | account pc call hpc => rcases hpc with rfl | rfl <;> cases hcontroller
  | unready pc hpc hfree hunentered =>
    have hheld : ¬b.Passes ctx := by rcases hpc with rfl | rfl <;> exact hseat
    cases (hentered.resolve_left hheld).symm.trans hunentered
  | release pc hpc => rcases hpc with rfl | rfl <;> exact Nat.lt_succ_self _
  | releaseSleep hheld => cases (hentered.resolve_left hseat.1).symm.trans hseat.2
  | releaseSpurious => cases hawake
  | releaseUnlock hheld => exact Nat.one_pos
  | _ => cases hcontroller

/-- Who gives the mutex back. -/
theorem leaves (hholds : pc.holds = true) : out.1.mutex = none := by
  cases h with
  | sleep call => rfl
  | unlock hheld => rfl
  | releaseSleep hheld => rfl
  | releaseUnlock hheld => rfl
  | account pc call hpc => rcases hpc with rfl | rfl <;> cases hholds
  | unready pc hpc => rcases hpc with rfl | rfl <;> cases hholds
  | release pc hpc => rcases hpc with rfl | rfl <;> cases hholds
  | _ => cases hholds

end CallbackStepSpec

/-! ## Who can go on -/

/-- Busy, awake, and able to go on. -/
def CallbackReady (s : BenchmarkPool b) (t : BenchmarkThread b) : Prop :=
  (s.pc t).busy = true ∧ (s.pc t).asleepOn = none ∧ (benchmarkProgram b).CanStep s t

/-- The readings that are left can all be the last one. -/
theorem callbackAct_possible (hsubmitted : ∀ task, b.submitted task ≤ b.lastReading)
    (hbusy : pc.busy = true) (hseat : pc.Seat b ctx)
    (hfree : pc.holds = false → ctx.mutex = none) (hheld : pc.holds = true → ctx.mutex = some t) :
    ∃ out, callbackAct b t { time := b.lastReading, accountingEnd := b.lastReading } ctx pc
      = some out ∧ ∀ f, ((benchmarkProgram b).applyEffects f out.2.2).isSome = true := by
  have hlast : ∀ {previous}, previous ≤ b.lastReading → b.Reads previous b.lastReading :=
    fun hle => ⟨hle, Nat.le_refl _⟩
  have hsection : ∀ {call : CallbackCall} (ctx : CallbackContext (BenchmarkThread b)),
      call.computeEnd ≤ b.lastReading → ∃ out, accountSection b t
        { time := b.lastReading, accountingEnd := b.lastReading } call ctx = some out := by
    -- an account reads the clock once more, or not at all
    intro call ctx hend
    unfold accountSection
    split
    · exact ⟨_, rfl⟩
    · exact ⟨_, if_pos ⟨hlast (Nat.max_le.mpr ⟨hsubmitted _, hend⟩), hlast (Nat.le_refl _)⟩⟩
  cases pc with
  | called task =>
    simp only [callbackAct]
    split
    · exact ⟨_, if_pos (hlast (hsubmitted task)), fun _ => rfl⟩
    · exact ⟨_, rfl, fun _ => rfl⟩
  | computing task combinedStart => exact ⟨_, if_pos (hlast hseat), fun _ => rfl⟩
  -- no mutex is taken in this mode, so there is always a next stage
  | partitioned stage call =>
    obtain ⟨⟨k, pc⟩, hstep⟩ : ∃ out, partitionedStep b t
        { time := b.lastReading, accountingEnd := b.lastReading } call ctx.counters stage
          = some out := by
      cases stage with
      | tally =>
        simp only [partitionedStep]
        split
        · exact ⟨_, rfl⟩
        · split <;> exact ⟨_, rfl⟩
      | time =>
        simp only [partitionedStep]
        rw [if_pos (hlast hseat.1)]
        split <;> exact ⟨_, rfl⟩
      | _ => exact ⟨_, rfl⟩
    exact ⟨_, by simp only [callbackAct, hstep, Option.map_some]; rfl, fun _ => rfl⟩
  | lock call =>
    simp only [callbackAct, if_pos (hfree rfl)]
    split
    · obtain ⟨out, hout⟩ := hsection { ctx with mutex := some t, blockingEntered := true } hseat
      exact ⟨_, by rw [hout]; rfl, fun _ => rfl⟩
    · obtain ⟨out, hout⟩ := hsection { ctx with mutex := some t } hseat
      exact ⟨_, by rw [hout]; rfl, fun _ => rfl⟩
  | woken call =>
    simp only [callbackAct, if_pos (hfree rfl)]
    obtain ⟨out, hout⟩ := hsection { ctx with mutex := some t } hseat.1
    exact ⟨_, by rw [hout]; rfl, fun _ => rfl⟩
  -- whoever is inside the section holds the mutex
  | wait call => exact ⟨_, if_pos (hheld rfl), fun _ => rfl⟩
  | unlock => exact ⟨_, if_pos (hheld rfl), fun _ => rfl⟩
  | releaseWait => exact ⟨_, if_pos (hheld rfl), fun _ => rfl⟩
  | releaseUnlock => exact ⟨_, if_pos (hheld rfl), fun _ => rfl⟩
  | releaseLock | releaseWoken =>
    refine ⟨_, if_pos (hfree rfl), fun f => ?_⟩
    unfold releaseSection
    split <;> rfl
  | asleep | leaving | releaseAsleep => exact ⟨_, rfl, fun _ => rfl⟩
  | idle | returned | released => cases hbusy

theorem Handshake.ready (h : Handshake s) (hsubmitted : ∀ task, b.submitted task ≤ b.lastReading)
    (hbusy : (s.pc t).busy = true) (hawake : (s.pc t).asleepOn = none)
    (hfree : (s.pc t).holds = false → s.shared.mutex = none) : CallbackReady s t := by
  obtain ⟨out, hact, hpossible⟩ := callbackAct_possible hsubmitted hbusy (h.seats t) hfree
    fun hholds => (h.owned t).mpr hholds
  exact ⟨hbusy, hawake, Program.canStep_of_act hact (hpossible _)⟩

/-! ## Fair executions -/

section Fair

variable {e : Execution (benchmarkProgram b)} {n m : ℕ}

theorem Handshake.execution (h : Handshake (e.state 0)) (n : ℕ) : Handshake (e.state n) :=
  e.stays Handshake.step (Nat.zero_le n) h

/-- The mutex is free again and again. -/
theorem callback_mutex_free_again (hsubmitted : ∀ task, b.submitted task ≤ b.lastReading)
    (hfair : e.Fair CallbackReady) (h : Handshake (e.state 0)) (n : ℕ) :
    ∃ m, n ≤ m ∧ (e.state m).shared.mutex = none := by
  refine hfair.free_again Handshake (fun s => s.shared.mutex) (fun _ => 0)
    (fun hs hstep => hs.step hstep) (fun {t i s s'} hs howner hstep => ?_)
    (fun {t u i s s'} hs howner htu hstep => ?_) (fun {s t} hs howner => ?_) (h.execution n)
  · obtain ⟨pc, fx, hspec, -⟩ := callback_step_spec hstep
    exact .inl (hspec.leaves ((hs.owned t).mp howner))
  · obtain ⟨pc, fx, hspec, -⟩ := callback_step_spec hstep
    refine ⟨?_, rfl⟩
    rcases hspec.lockMove with ⟨hsame, -⟩ | ⟨hfree, -⟩ | ⟨hheld, -⟩
    · exact hsame.trans howner
    · cases hfree.symm.trans howner
    · exact absurd (Option.some.inj (hheld.symm.trans howner)) htu
  · have hholds := (hs.owned t).mp howner
    refine hs.ready hsubmitted ?_ ?_ fun hfalse => ?_
    · cases hpc : s.pc t <;> rw [hpc] at hholds <;> first | rfl | cases hholds
    · cases hpc : s.pc t <;> rw [hpc] at hholds <;> first | rfl | cases hholds
    · cases hholds.symm.trans hfalse

/-- **Progress of one thread**: while it is busy and awake in the region, it comes to the target if
its own steps bring it closer and the others do not take it back. -/
theorem callback_reaches (hsubmitted : ∀ task, b.submitted task ≤ b.lastReading)
    (hfair : e.Fair CallbackReady) (h : Handshake (e.state 0)) (u : BenchmarkThread b)
    (Region Target : BenchmarkPool b → Prop)
    (hregion : ∀ {s}, Handshake s → Region s → (s.pc u).busy = true ∧ (s.pc u).asleepOn = none)
    (hother : ∀ {v choice s s'}, v ≠ u → Handshake s → Region s →
      (benchmarkProgram b).step v choice s = some s' → s'.pc u = s.pc u → Target s' ∨ Region s')
    (hself : ∀ {choice s s'}, Handshake s → Region s →
      (benchmarkProgram b).step u choice s = some s' →
      Target s' ∨ Region s' ∧ (s'.pc u).left < (s.pc u).left)
    (hn : Region (e.state n)) : ∃ m, n ≤ m ∧ Target (e.state m) := by
  refine hfair.reaches (fun s => Handshake s ∧ Region s) Target (fun s => (s.pc u).left) (t := u)
    ?_ ?_ ?_ ⟨h.execution n, hn⟩
  · rintro v choice s s' hv ⟨hs, hin⟩ hstep
    have hsame := Program.step_stays (hregion hs hin).2 rfl hv hstep
    refine (hother hv hs hin hstep hsame).imp_right fun hin' => ⟨⟨hs.step hstep, hin'⟩, ?_⟩
    rw [hsame]
  · rintro choice s s' ⟨hs, hin⟩ hstep
    exact (hself hs hin hstep).imp_right fun ⟨hin', hlt⟩ => ⟨⟨hs.step hstep, hin'⟩, hlt⟩
  · intro k hin _
    obtain ⟨m, hm, hfree⟩ := callback_mutex_free_again hsubmitted hfair h k
    obtain ⟨hs, hin⟩ := hin m hm
    obtain ⟨hbusy, hawake⟩ := hregion hs hin
    exact ⟨m, hm, hs.ready hsubmitted hbusy hawake fun _ => hfree⟩

/-- A callback that is let through returns. -/
theorem let_through_returns (hsubmitted : ∀ task, b.submitted task ≤ b.lastReading)
    (hfair : e.Fair CallbackReady) (h : Handshake (e.state 0)) {worker : Fin b.config.workers}
    (hpasses : b.Passes (e.state n).shared) :
    ∃ m, n ≤ m ∧ ((e.state m).pc (some worker)).busy = false := by
  cases hbusy : ((e.state n).pc (some worker)).busy with
  | false => exact ⟨n, Nat.le_refl n, hbusy⟩
  | true =>
    have hawake : ∀ {s : BenchmarkPool b}, Handshake s → b.Passes s.shared →
        (s.pc (some worker)).asleepOn = none := by
      intro s hs hpasses
      cases hasleep : (s.pc (some worker)).asleepOn with
      | none => rfl
      | some c => exact absurd hpasses (hs.sleepers _ hasleep).1
    refine callback_reaches hsubmitted hfair h (some worker)
      (fun s => b.Passes s.shared ∧ (s.pc (some worker)).busy = true)
      (fun s => (s.pc (some worker)).busy = false)
      (fun hs hin => ⟨hin.2, hawake hs hin.1⟩) ?_ ?_ ⟨hpasses, hbusy⟩
    · rintro v choice s s' hv hs ⟨hpasses, hbusy⟩ hstep hsame
      obtain ⟨pc, fx, hspec, -⟩ := callback_step_spec hstep
      exact .inr ⟨hspec.passes hpasses, by rw [hsame]; exact hbusy⟩
    · rintro choice s s' hs ⟨hpasses, hbusy⟩ hstep
      obtain ⟨pc, fx, hspec, hfx⟩ := callback_step_spec hstep
      have hlt := hspec.nears (hs.seats _) hpasses hbusy (hs.controls _) (hawake hs hpasses)
      rw [← (Program.step_blind callbackLeft_blind hfx).1] at hlt
      cases hbusy' : (s'.pc (some worker)).busy with
      | false => exact .inl rfl
      | true => exact .inr ⟨⟨hspec.passes hpasses, rfl⟩, hlt⟩

/-- The first callback announces itself. -/
theorem first_callback_enters (hcontrolled : b.config.profile = .controlledBlocking)
    (hsubmitted : ∀ task, b.submitted task ≤ b.lastReading) (hfair : e.Fair CallbackReady)
    (h : Handshake (e.state 0)) {worker : Fin b.config.workers}
    (hbusy : ((e.state n).pc (some worker)).busy = true) :
    ∃ m, n ≤ m ∧ (e.state m).shared.blockingEntered = true := by
  cases hentered : (e.state n).shared.blockingEntered with
  | true => exact ⟨n, Nat.le_refl n, hentered⟩
  | false =>
    -- as long as nobody has entered, everybody is held
    have hheld : ∀ {s : BenchmarkPool b}, Handshake s → s.shared.blockingEntered = false →
        b.Held s.shared := by
      intro s hs hunentered
      have hshut : ¬b.Passes s.shared := fun hpasses => by
        cases (hs.entered hcontrolled hpasses).symm.trans hunentered
      refine ⟨?_, by rw [hs.shut hshut]; rfl, hcontrolled⟩
      rw [← Bool.not_eq_true]
      exact fun hreleased => hshut (.inl hreleased)
    refine callback_reaches hsubmitted hfair h (some worker)
      (fun s => (s.pc (some worker)).busy = true ∧ s.shared.blockingEntered = false)
      (fun s => s.shared.blockingEntered = true) (fun {s} hs hin => ⟨hin.1, ?_⟩) ?_ ?_
      ⟨hbusy, hentered⟩
    · -- who sleeps has announced itself
      have hseat := hs.seats (some worker)
      have hcontrols := hs.controls (some worker)
      cases hpc : s.pc (some worker) with
      | asleep call =>
        rw [hpc] at hseat
        cases hseat.2.symm.trans hin.2
      | releaseAsleep =>
        rw [hpc] at hcontrols
        cases hcontrols
      | _ => rfl
    · -- another thread may enter first
      rintro v choice s s' hv hs ⟨hbusy, -⟩ hstep hsame
      cases hentered' : s'.shared.blockingEntered with
      | true => exact .inl rfl
      | false => exact .inr ⟨by rw [hsame]; exact hbusy, rfl⟩
    · -- the callback itself enters, or comes a step nearer to it
      rintro choice s s' hs ⟨hbusy, hunentered⟩ hstep
      obtain ⟨pc, fx, hspec, hfx⟩ := callback_step_spec hstep
      rcases hspec.announces hcontrolled (hs.seats _) (hheld hs hunentered) hbusy (hs.controls _)
        hunentered with hentered | ⟨hlt, hbusy', hunentered'⟩
      · exact .inl hentered
      · rw [← (Program.step_blind callbackLeft_blind hfx).1] at hlt
        rw [← (Program.step_blind busy_blind hfx).1] at hbusy'
        exact .inr ⟨⟨hbusy', hunentered'⟩, hlt⟩

/-- Then the controller releases the callbacks and returns. -/
theorem controller_returns (hsubmitted : ∀ task, b.submitted task ≤ b.lastReading)
    (hfair : e.Fair CallbackReady) (h : Handshake (e.state 0))
    (hentered : b.Passes (e.state n).shared ∨ (e.state n).shared.blockingEntered = true) :
    ∃ m, n ≤ m ∧ (e.state m).pc none = .released := by
  have hreleased : ∀ {s : BenchmarkPool b}, Handshake s → (s.pc none).busy = false →
      s.pc none = .released := by
    intro s hs hidle
    have hcontrols := hs.controls none
    cases hpc : s.pc none with
    | released => rfl
    | idle | returned =>
      rw [hpc] at hcontrols
      cases hcontrols
    | _ =>
      rw [hpc] at hidle
      cases hidle
  -- once a callback has entered the controller is not asleep
  have hawake : ∀ {s : BenchmarkPool b}, Handshake s →
      b.Passes s.shared ∨ s.shared.blockingEntered = true → (s.pc none).asleepOn = none := by
    intro s hs hentered
    cases hasleep : (s.pc none).asleepOn with
    | none => rfl
    | some c =>
      obtain ⟨hheld, hunentered⟩ := hs.sleepers none hasleep
      cases (hentered.resolve_left hheld).symm.trans (hunentered rfl)
  cases hbusy : ((e.state n).pc none).busy with
  | false => exact ⟨n, Nat.le_refl n, hreleased (h.execution n) hbusy⟩
  | true =>
    refine callback_reaches hsubmitted hfair h none
      (fun s => (s.pc none).busy = true ∧ (b.Passes s.shared ∨ s.shared.blockingEntered = true))
      (fun s => s.pc none = .released) (fun hs hin => ⟨hin.1, hawake hs hin.2⟩) ?_ ?_
      ⟨hbusy, hentered⟩
    · rintro v choice s s' hv hs ⟨hbusy, hentered⟩ hstep hsame
      obtain ⟨pc, fx, hspec, -⟩ := callback_step_spec hstep
      exact .inr ⟨by rw [hsame]; exact hbusy, hentered.imp hspec.passes hspec.grows.2⟩
    · rintro choice s s' hs ⟨hbusy, hentered⟩ hstep
      obtain ⟨pc, fx, hspec, hfx⟩ := callback_step_spec hstep
      have hlt := hspec.lets_go (hs.seats none) hbusy (hs.controls none)
          (hawake hs hentered) hentered
      rw [← (Program.step_blind callbackLeft_blind hfx).1] at hlt
      cases hbusy' : (s'.pc none).busy with
      | false => exact .inl (hreleased (hs.step hstep) hbusy')
      | true => exact .inr ⟨⟨rfl, hentered.imp hspec.passes hspec.grows.2⟩, hlt⟩

end Fair

/-- **Callbacks return.** In an execution of the callbacks and the controller that is fair (who is
ready again and again acts again and again), while timer, mutex and condition calls succeed and if
no Task was submitted after the last reading of the timer: once a callback was called, the
controller returns from `release_controlled_callback`, and every callback that is called returns, in
every profile. -/
theorem callbacks_return {e : Execution (benchmarkProgram b)}
    (hsubmitted : ∀ task, b.submitted task ≤ b.lastReading) (h : e.state 0 = benchmarkInitial b)
    (hfair : e.Fair CallbackReady) {n : ℕ} {worker : Fin b.config.workers}
    (hbusy : ((e.state n).pc (some worker)).busy = true) :
    (∃ m, n ≤ m ∧ (e.state m).pc none = .released) ∧
      ∃ m, n ≤ m ∧ ((e.state m).pc (some worker)).busy = false := by
  have hhandshake : Handshake (e.state 0) := by
    rw [h]
    exact handshake_initial
  obtain ⟨k, hk, hreleased⟩ : ∃ m, n ≤ m ∧ (e.state m).pc none = .released := by
    by_cases hcontrolled : b.config.profile = .controlledBlocking
    · obtain ⟨k, hk, hentered⟩ :=
        first_callback_enters hcontrolled hsubmitted hfair hhandshake hbusy
      obtain ⟨m, hm, hreleased⟩ := controller_returns hsubmitted hfair hhandshake (.inr hentered)
      exact ⟨m, hk.trans hm, hreleased⟩
    · exact controller_returns hsubmitted hfair hhandshake (.inl (.inr hcontrolled))
  have hpasses := (hhandshake.execution k).seats none
  rw [hreleased] at hpasses
  obtain ⟨m, hm, hreturned⟩ := let_through_returns hsubmitted hfair hhandshake hpasses.1
  exact ⟨⟨k, hk, hreleased⟩, m, hk.trans hm, hreturned⟩

/-- How the run of `heldSchedule` goes on: the controller lets the worker go. -/
def letGoSchedule :
    List (BenchmarkThread (soloBenchmark .controlledBlocking .standard) × CallbackChoice) :=
  let worker : BenchmarkThread (soloBenchmark .controlledBlocking .standard) :=
    some ⟨0, Nat.one_pos⟩
  [(none, {}), (none, {}), (worker, { time := 4, accountingEnd := 5 }), (worker, {}), (worker, {})]

theorem soloBenchmark_submitted (task : ℕ) :
    (soloBenchmark .controlledBlocking .standard).submitted task
      ≤ (soloBenchmark .controlledBlocking .standard).lastReading := by
  unfold Benchmark.submitted
  cases taskIndexForPointer (soloBenchmark .controlledBlocking .standard) task with
  | none => exact Nat.zero_le _
  | some index => exact (by decide : 1 ≤ 100)

/-- The callback that sleeps after `heldSchedule` returns. -/
theorem callbacks_return_held :
    ∃ e : Execution (benchmarkProgram (soloBenchmark .controlledBlocking .standard)),
      (e.state 5).pc (some ⟨0, Nat.one_pos⟩) = .asleep ⟨4096, 2, 3⟩ ∧
      ∃ m, 5 ≤ m ∧ ((e.state m).pc (some ⟨0, Nat.one_pos⟩)).busy = false := by
  let b := soloBenchmark .controlledBlocking .standard
  obtain ⟨s, hrun, hquiet⟩ : ∃ s, (benchmarkProgram b).run (heldSchedule ++ letGoSchedule)
      (benchmarkInitial b) = some s ∧ ∀ u, (s.pc u).busy = false := by
    refine ⟨_, rfl, fun u => ?_⟩
    cases u with
    | none => rfl
    | some worker =>
      rw [show worker = ⟨0, Nat.one_pos⟩ from Fin.ext (Nat.lt_one_iff.mp worker.isLt)]
      rfl
  obtain ⟨s₅, hrun₅, hasleep⟩ : ∃ s, (benchmarkProgram b).run heldSchedule (benchmarkInitial b)
      = some s ∧ s.pc (some ⟨0, Nat.one_pos⟩) = .asleep ⟨4096, 2, 3⟩ := ⟨_, rfl, rfl⟩
  let e := Execution.ofRun hrun
  have hfair : e.Fair CallbackReady := Execution.ofRun_fair hrun fun u hready => by
    cases (hquiet u).symm.trans hready.1
  have hstate : e.state 5 = s₅ := by
    show Option.getD ((benchmarkProgram b).run heldSchedule (benchmarkInitial b)) s = s₅
    rw [hrun₅]
    rfl
  rw [← hstate] at hasleep
  have hbusy : ((e.state 5).pc (some ⟨0, Nat.one_pos⟩)).busy = true := by
    rw [hasleep]
    rfl
  exact ⟨e, hasleep, (callbacks_return soloBenchmark_submitted rfl hfair hbusy).2⟩

end SchedulingEngine
