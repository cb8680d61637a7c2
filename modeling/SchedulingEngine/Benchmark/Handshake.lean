import SchedulingEngine.Benchmark.Gate
import SchedulingEngine.Concurrency.Waiting

/-!
# The handshake of the controlled callback

In the controlled profile the first callback announces itself and waits, like every callback after
it, until the controller lets all of them go: `release_controlled_callback` waits for the
announcement and then releases. `CallbackStepSpec` lists the steps of the threads, and `Handshake`
is the invariant: who stands where says what was announced and released.

`controlled_callbacks_held`: nothing is accounted for before the release, and the release comes
after the first callback has entered. Both hold of runs in which the timer, mutex and condition
calls succeed, as in `Callback`: a callback whose `sched_condition_wait` fails sets `failure` and
accounts for its Task at once.
-/

namespace SchedulingEngine

open Concurrency

/-! ## The steps of a thread -/

section Steps

variable (b : Benchmark) (t : BenchmarkThread b) (choice : CallbackChoice)
  (ctx : CallbackContext (BenchmarkThread b))

/-- The test of the callback's wait loop. -/
def Benchmark.Held (b : Benchmark) {T : Type} (ctx : CallbackContext T) : Prop :=
  ctx.blockingReleased = false ∧ ctx.counters.failure = false ∧
    b.config.profile = .controlledBlocking

/-- The steps of thread `t`. -/
inductive CallbackStepSpec : CallbackPc → CallbackSection (BenchmarkThread b) → Prop where
  | pass (task : ℕ) : CallbackStepSpec .idle (ctx, .called task, [])
  | start (task : ℕ) (hlast : choice.time ≤ b.lastReading) :
      CallbackStepSpec (.called task) (ctx, .computing task choice.time, [])
  | unprofiled (task : ℕ) : CallbackStepSpec (.called task) (ctx, .lock ⟨task, 0, 0⟩, [])
  | computed (task combinedStart : ℕ) (hlast : choice.time ≤ b.lastReading) (pc : CallbackPc)
      (hpc : b.partitions = true ∧ pc = .partitioned .tally ⟨task, combinedStart, choice.time⟩ ∨
        pc = .lock ⟨task, combinedStart, choice.time⟩) :
      CallbackStepSpec (.computing task combinedStart) (ctx, pc, [])
  | partitioned (stage : PartitionedStage) (call : CallbackCall) (counters : CallbackCounters)
      (pc : CallbackPc)
      (hstep : partitionedStep b t choice call ctx.counters stage = some (counters, pc)) :
      CallbackStepSpec (.partitioned stage call) ({ ctx with counters }, pc, [])
  | announce (call : CallbackCall) (hfree : ctx.mutex = none) (hheld : b.Held ctx) :
      CallbackStepSpec (.lock call)
        ({ ctx with mutex := some t, blockingEntered := true }, .wait call, [.broadcast ()])
  | rest (call : CallbackCall) (hfree : ctx.mutex = none) (hheld : b.Held ctx) :
      CallbackStepSpec (.woken call) ({ ctx with mutex := some t }, .wait call, [])
  | account (pc : CallbackPc) (call : CallbackCall) (hpc : pc = .lock call ∨ pc = .woken call)
      (hfree : ctx.mutex = none) (hpasses : ¬b.Held ctx) (counters : CallbackCounters)
      (entered : Bool) (fx : List (CallbackEffect (BenchmarkThread b)))
      (hfx : entered = ctx.blockingEntered ∧ fx = [] ∨ entered = true ∧ fx = [.broadcast ()]) :
      CallbackStepSpec pc
        ({ ctx with mutex := some t, blockingEntered := entered, counters }, .unlock, fx)
  | sleep (call : CallbackCall) (hheld : ctx.mutex = some t) :
      CallbackStepSpec (.wait call) ({ ctx with mutex := none }, .asleep call, [])
  | spurious (call : CallbackCall) : CallbackStepSpec (.asleep call) (ctx, .woken call, [])
  | unlock (hheld : ctx.mutex = some t) :
      CallbackStepSpec .unlock ({ ctx with mutex := none }, .leaving, [])
  | leave (result : ℕ) : CallbackStepSpec .leaving (ctx, .returned result, [])
  | again (result : ℕ) : CallbackStepSpec (.returned result) (ctx, .idle, [])
  | unready (pc : CallbackPc) (hpc : pc = .releaseLock ∨ pc = .releaseWoken)
      (hfree : ctx.mutex = none) (hentered : ctx.blockingEntered = false) :
      CallbackStepSpec pc ({ ctx with mutex := some t }, .releaseWait, [])
  | release (pc : CallbackPc) (hpc : pc = .releaseLock ∨ pc = .releaseWoken)
      (hfree : ctx.mutex = none)
      (hready : ctx.blockingEntered = true ∨ ctx.counters.failure = true) :
      CallbackStepSpec pc
        ({ ctx with mutex := some t, blockingReleased := true }, .releaseUnlock, [.broadcast ()])
  | releaseSleep (hheld : ctx.mutex = some t) :
      CallbackStepSpec .releaseWait ({ ctx with mutex := none }, .releaseAsleep, [])
  | releaseSpurious : CallbackStepSpec .releaseAsleep (ctx, .releaseWoken, [])
  | releaseUnlock (hheld : ctx.mutex = some t) :
      CallbackStepSpec .releaseUnlock ({ ctx with mutex := none }, .released, [])

end Steps

variable {b : Benchmark} {t u : BenchmarkThread b} {choice : CallbackChoice}
  {ctx : CallbackContext (BenchmarkThread b)} {pc : CallbackPc}
  {out : CallbackSection (BenchmarkThread b)} {s s' : BenchmarkPool b}

/-- The wait loop of the callback is left or entered. -/
theorem accountSection_cases {call : CallbackCall}
    {out : CallbackContext (BenchmarkThread b) × CallbackPc}
    (h : accountSection b t choice call ctx = some out) :
    b.Held ctx ∧ out = (ctx, .wait call) ∨
      ¬b.Held ctx ∧ ∃ counters, out = ({ ctx with counters }, .unlock) := by
  unfold accountSection at h
  split at h
  · rename_i hheld
    cases h
    refine .inl ⟨?_, rfl⟩
    simpa [Benchmark.Held, and_assoc] using hheld
  · rename_i hheld
    obtain ⟨-, h⟩ := Option.ite_none_right_eq_some.mp h
    cases h
    refine .inr ⟨fun hheld' => hheld ?_, _, rfl⟩
    simpa [Benchmark.Held, and_assoc] using hheld'

theorem releaseSection_spec (hpc : pc = .releaseLock ∨ pc = .releaseWoken)
    (hfree : ctx.mutex = none) :
    CallbackStepSpec b t choice ctx pc (releaseSection b { ctx with mutex := some t }) := by
  unfold releaseSection
  split
  · rename_i hunready
    simp only [Bool.and_eq_true, Bool.not_eq_true'] at hunready
    exact .unready pc hpc hfree hunready.1
  · rename_i hready
    refine .release pc hpc hfree ?_
    by_contra hnot
    refine hready ?_
    simpa [not_or] using hnot

/-- **Every step of a thread is listed.** -/
theorem callbackAct_spec (hact : callbackAct b t choice ctx pc = some out) :
    CallbackStepSpec b t choice ctx pc out := by
  cases pc with
  | idle =>
    obtain ⟨-, hact⟩ := Option.ite_none_right_eq_some.mp hact
    cases hact
    exact .pass _
  | called task =>
    simp only [callbackAct] at hact
    split at hact
    · obtain ⟨hreads, hact⟩ := Option.ite_none_right_eq_some.mp hact
      cases hact
      exact .start task hreads.2
    · cases hact
      exact .unprofiled task
  | computing task combinedStart =>
    obtain ⟨hreads, hact⟩ := Option.ite_none_right_eq_some.mp hact
    cases hact
    refine .computed task combinedStart hreads.2 _ ?_
    split
    · rename_i hpartitions
      exact .inl ⟨hpartitions, rfl⟩
    · exact .inr rfl
  | partitioned stage call =>
    obtain ⟨⟨counters, pc⟩, hstep, rfl⟩ := Option.map_eq_some_iff.mp hact
    exact .partitioned stage call counters pc hstep
  -- the first callback announces itself, the others wait or account at once
  | lock call =>
    obtain ⟨hfree, hact⟩ := Option.ite_none_right_eq_some.mp hact
    split at hact
    · rename_i hcontrolled
      obtain ⟨section', hsection, rfl⟩ := Option.map_eq_some_iff.mp hact
      rcases accountSection_cases hsection with ⟨hheld, rfl⟩ | ⟨hpasses, counters, rfl⟩
      · exact .announce call hfree hheld
      · exact .account _ call (.inl rfl) hfree hpasses counters true _ (.inr ⟨rfl, rfl⟩)
    · rename_i hnot
      obtain ⟨section', hsection, rfl⟩ := Option.map_eq_some_iff.mp hact
      rcases accountSection_cases hsection with ⟨hheld, rfl⟩ | ⟨hpasses, counters, rfl⟩
      · exact absurd ⟨hheld.2.2, hheld.1⟩ hnot
      · exact .account _ call (.inl rfl) hfree hpasses counters _ _ (.inl ⟨rfl, rfl⟩)
  | wait call =>
    obtain ⟨hheld, hact⟩ := Option.ite_none_right_eq_some.mp hact
    cases hact
    exact .sleep call hheld
  | asleep call =>
    cases hact
    exact .spurious call
  -- every wakeup tests the release again
  | woken call =>
    obtain ⟨hfree, hact⟩ := Option.ite_none_right_eq_some.mp hact
    obtain ⟨section', hsection, rfl⟩ := Option.map_eq_some_iff.mp hact
    rcases accountSection_cases hsection with ⟨hheld, rfl⟩ | ⟨hpasses, counters, rfl⟩
    · exact .rest call hfree hheld
    · exact .account _ call (.inr rfl) hfree hpasses counters _ _ (.inl ⟨rfl, rfl⟩)
  | unlock =>
    obtain ⟨hheld, hact⟩ := Option.ite_none_right_eq_some.mp hact
    cases hact
    exact .unlock hheld
  | leaving =>
    cases hact
    exact .leave _
  | returned result =>
    cases hact
    exact .again result
  -- the controller's half of the handshake
  | releaseLock =>
    obtain ⟨hfree, hact⟩ := Option.ite_none_right_eq_some.mp hact
    cases hact
    exact releaseSection_spec (.inl rfl) hfree
  | releaseWait =>
    obtain ⟨hheld, hact⟩ := Option.ite_none_right_eq_some.mp hact
    cases hact
    exact .releaseSleep hheld
  | releaseAsleep =>
    cases hact
    exact .releaseSpurious
  | releaseWoken =>
    obtain ⟨hfree, hact⟩ := Option.ite_none_right_eq_some.mp hact
    cases hact
    exact releaseSection_spec (.inr rfl) hfree
  | releaseUnlock =>
    obtain ⟨hheld, hact⟩ := Option.ite_none_right_eq_some.mp hact
    cases hact
    exact .releaseUnlock hheld
  | released => cases hact

/-- How far an operation of partitioned accounting is from the last one. -/
def PartitionedStage.left : PartitionedStage → ℕ
  | .tally => 7
  | .duplicate => 6
  | .flagUnknown | .flagDuplicate => 5
  | .complete => 4
  | .count => 3
  | .sum => 2
  | .time => 1

/-- Partitioned accounting goes on to a later operation, or leaves the callback. -/
theorem partitionedStep_next {call : CallbackCall} {k k' : CallbackCounters}
    {stage : PartitionedStage} (h : partitionedStep b t choice call k stage = some (k', pc)) :
    (∃ next : PartitionedStage, pc = .partitioned next call ∧ next.left < stage.left) ∨
      ∃ result, pc = .returned result := by
  cases stage with
  | tally =>
    simp only [partitionedStep] at h
    split at h
    · cases h
      exact .inl ⟨.flagUnknown, rfl, by decide⟩
    · split at h
      · cases h
        refine .inl ⟨_, rfl, ?_⟩
        split <;> decide
      · cases h
        exact .inl ⟨.count, rfl, by decide⟩
  | time =>
    obtain ⟨-, h⟩ := Option.ite_none_right_eq_some.mp h
    split at h <;> cases h <;> exact .inr ⟨_, rfl⟩
  | _ =>
    cases h
    exact .inl ⟨_, rfl, by decide⟩

/-! ## Who stands where -/

/-- Callbacks are let through: they were released, or the profile does not hold them. -/
def Benchmark.Passes (b : Benchmark) {T : Type} (ctx : CallbackContext T) : Prop :=
  ctx.blockingReleased = true ∨ b.config.profile ≠ .controlledBlocking

/-- Inside the critical section. -/
def CallbackPc.holds : CallbackPc → Bool
  | .wait _ | .unlock | .releaseWait | .releaseUnlock => true
  | _ => false

/-- In `release_controlled_callback`. -/
def CallbackPc.controls : CallbackPc → Bool
  | .releaseLock | .releaseWait | .releaseAsleep | .releaseWoken | .releaseUnlock | .released =>
    true
  | _ => false

/-- What a thread that stands at `pc` knows; its readings are not after the last one. -/
def CallbackPc.Seat (b : Benchmark) {T : Type} (ctx : CallbackContext T) : CallbackPc → Prop
  | .computing _ combinedStart => combinedStart ≤ b.lastReading
  | .partitioned _ call => call.computeEnd ≤ b.lastReading ∧ b.partitions = true
  | .lock call => call.computeEnd ≤ b.lastReading
  | .wait call =>
    call.computeEnd ≤ b.lastReading ∧ ¬b.Passes ctx ∧ ctx.blockingEntered = true
  | .asleep call | .woken call => call.computeEnd ≤ b.lastReading ∧ ctx.blockingEntered = true
  | .unlock | .leaving | .returned _ => b.Passes ctx
  | .releaseLock | .releaseAsleep | .releaseWoken => ¬b.Passes ctx
  | .releaseWait => ¬b.Passes ctx ∧ ctx.blockingEntered = false
  | .releaseUnlock | .released =>
    b.Passes ctx ∧ (b.config.profile = .controlledBlocking → ctx.blockingEntered = true)
  | .idle | .called _ => True

/-- What holds in every reachable state. -/
structure Handshake (s : BenchmarkPool b) : Prop where
  owned : Program.Owned CallbackContext.mutex CallbackPc.holds s
  seats : ∀ u, (s.pc u).Seat b s.shared
  controls : ∀ u, (s.pc u).controls = u.isNone
  sleepers : ∀ u, (s.pc u).asleepOn = some () →
    ¬b.Passes s.shared ∧ (u = none → s.shared.blockingEntered = false)
  shut : ¬b.Passes s.shared → s.shared.counters = callbackContextInit

theorem holds_blind : (benchmarkProgram b).Blind CallbackPc.holds where
  wake pc c hasleep := by cases pc <;> rfl
  start pc hdormant := by cases hdormant

theorem controls_blind : (benchmarkProgram b).Blind CallbackPc.controls where
  wake pc c hasleep := by cases pc <;> rfl
  start pc hdormant := by cases hdormant

theorem seat_blind (ctx : CallbackContext (BenchmarkThread b)) :
    (benchmarkProgram b).Blind (CallbackPc.Seat b ctx) where
  wake pc c hasleep := by cases pc <;> rfl
  start pc hdormant := by cases hdormant

theorem callback_rouses : (benchmarkProgram b).Rouses where
  wake pc := by cases pc <;> rfl
  start pc hdormant := by cases hdormant

/-- Partitioned accounting is not for the controlled profile. -/
theorem partitions_passes (h : b.partitions = true) (ctx : CallbackContext (BenchmarkThread b)) :
    b.Passes ctx := by
  refine .inr fun hcontrolled => ?_
  simp [Benchmark.partitions, hcontrolled] at h

namespace CallbackStepSpec

variable (h : CallbackStepSpec b t choice ctx pc out)

include h

theorem lockMove :
    Program.LockMove CallbackContext.mutex CallbackPc.holds t ctx out.1 pc out.2.1 := by
  cases h with
  | computed task combinedStart hlast pc hpc =>
    rcases hpc with ⟨-, rfl⟩ | rfl <;> exact .inl ⟨rfl, rfl⟩
  | partitioned stage call counters pc hstep =>
    rcases partitionedStep_next hstep with ⟨next, rfl, -⟩ | ⟨result, rfl⟩ <;> exact .inl ⟨rfl, rfl⟩
  | announce call hfree => exact .inr (.inl ⟨hfree, rfl, rfl⟩)
  | rest call hfree => exact .inr (.inl ⟨hfree, rfl, rfl⟩)
  | account pc call hpc hfree => exact .inr (.inl ⟨hfree, rfl, rfl⟩)
  | sleep call hheld => exact .inr (.inr ⟨hheld, rfl, rfl⟩)
  | unlock hheld => exact .inr (.inr ⟨hheld, rfl, rfl⟩)
  | unready pc hpc hfree => exact .inr (.inl ⟨hfree, rfl, rfl⟩)
  | release pc hpc hfree => exact .inr (.inl ⟨hfree, rfl, rfl⟩)
  | releaseSleep hheld => exact .inr (.inr ⟨hheld, rfl, rfl⟩)
  | releaseUnlock hheld => exact .inr (.inr ⟨hheld, rfl, rfl⟩)
  | _ => exact .inl ⟨rfl, rfl⟩

/-- What was announced and released stays so. -/
theorem grows : (ctx.blockingReleased = true → out.1.blockingReleased = true) ∧
    (ctx.blockingEntered = true → out.1.blockingEntered = true) := by
  cases h with
  | announce call => exact ⟨id, fun _ => rfl⟩
  | account pc call hpc hfree hpasses counters entered fx hfx =>
    refine ⟨id, fun hentered => ?_⟩
    rcases hfx with ⟨hsame, -⟩ | ⟨htrue, -⟩
    · exact hsame.trans hentered
    · exact htrue
  | release pc => exact ⟨fun _ => rfl, id⟩
  | _ => exact ⟨id, id⟩

theorem passes (hpasses : b.Passes ctx) : b.Passes out.1 := hpasses.imp_left h.grows.1

/-- It changes only while the mutex was free, and not without a broadcast. -/
theorem quiet (hquiet : ctx.mutex ≠ none ∨ .broadcast () ∉ out.2.2) :
    out.1.blockingReleased = ctx.blockingReleased ∧
      out.1.blockingEntered = ctx.blockingEntered := by
  have hloud : ∀ {p : Prop}, ctx.mutex = none → .broadcast () ∈ out.2.2 → p :=
    fun hfree hmem => absurd hquiet (by simp [hfree, hmem])
  cases h with
  | announce call hfree => exact hloud hfree (List.mem_singleton.mpr rfl)
  | account pc call hpc hfree hpasses counters entered fx hfx =>
    rcases hfx with ⟨hsame, -⟩ | ⟨-, rfl⟩
    · exact ⟨rfl, hsame⟩
    · exact hloud hfree (List.mem_singleton.mpr rfl)
  | release pc hpc hfree => exact hloud hfree (List.mem_singleton.mpr rfl)
  | _ => exact ⟨rfl, rfl⟩

/-- Only the controller releases. -/
theorem releases (hworker : pc.controls = false) :
    out.1.blockingReleased = ctx.blockingReleased := by
  cases h with
  | release pc hpc => rcases hpc with rfl | rfl <;> cases hworker
  | _ => rfl

theorem controls : out.2.1.controls = pc.controls := by
  cases h with
  | computed task combinedStart hlast pc hpc => rcases hpc with ⟨-, rfl⟩ | rfl <;> rfl
  | partitioned stage call counters pc hstep =>
    rcases partitionedStep_next hstep with ⟨next, rfl, -⟩ | ⟨result, rfl⟩ <;> rfl
  | account pc call hpc => rcases hpc with rfl | rfl <;> rfl
  | unready pc hpc => rcases hpc with rfl | rfl <;> rfl
  | release pc hpc => rcases hpc with rfl | rfl <;> rfl
  | _ => rfl

/-- Where the thread stands after the step. -/
theorem seat (hseat : pc.Seat b ctx) (hshut : ¬b.Passes ctx → ctx.counters = callbackContextInit) :
    out.2.1.Seat b out.1 := by
  cases h with
  | start task hlast => exact hlast
  | unprofiled task => exact Nat.zero_le _
  | computed task combinedStart hlast pc hpc =>
    rcases hpc with ⟨hpartitions, rfl⟩ | rfl
    · exact ⟨hlast, hpartitions⟩
    · exact hlast
  | partitioned stage call counters pc hstep =>
    rcases partitionedStep_next hstep with ⟨next, rfl, -⟩ | ⟨result, rfl⟩
    · exact hseat
    · exact partitions_passes hseat.2 _
  | announce call hfree hheld =>
    obtain ⟨hunreleased, -, hcontrolled⟩ := hheld
    refine ⟨hseat, ?_, rfl⟩
    simp [Benchmark.Passes, hunreleased, hcontrolled]
  | rest call hfree hheld =>
    obtain ⟨hunreleased, -, hcontrolled⟩ := hheld
    refine ⟨hseat.1, ?_, hseat.2⟩
    simp [Benchmark.Passes, hunreleased, hcontrolled]
  | account pc call hpc hfree hpasses =>
    by_contra hheld
    have hunreleased : ¬b.Passes ctx := hheld
    rw [Benchmark.Passes, not_or, not_not, Bool.not_eq_true] at hunreleased
    exact hpasses ⟨hunreleased.1, by rw [hshut hheld]; rfl, hunreleased.2⟩
  | sleep call => exact ⟨hseat.1, hseat.2.2⟩
  | spurious call => exact hseat
  | unlock hheld => exact hseat
  | leave result => exact hseat
  | unready pc hpc hfree hentered => rcases hpc with rfl | rfl <;> exact ⟨hseat, hentered⟩
  | release pc hpc hfree hready =>
    have hshut : ctx.counters = callbackContextInit := by
      rcases hpc with rfl | rfl <;> exact hshut hseat
    refine ⟨.inl rfl, fun _ => hready.resolve_right ?_⟩
    rw [hshut]
    exact Bool.false_ne_true
  | releaseSleep hheld => exact hseat.1
  | releaseSpurious => exact hseat
  | releaseUnlock hheld => exact hseat
  | _ => trivial

/-- The step of another thread. -/
theorem seat_other {upc : CallbackPc} (hut : u ≠ t) (hcontrols : upc.controls = u.isNone)
    (hcontrols' : pc.controls = t.isNone) (howned : upc.holds = true → ctx.mutex = some u)
    (hseat : upc.Seat b ctx) : upc.Seat b out.1 := by
  obtain ⟨-, hentered⟩ := h.grows
  have hstays : upc.holds = true → out.1.blockingReleased = ctx.blockingReleased ∧
      out.1.blockingEntered = ctx.blockingEntered := fun hholds =>
    h.quiet (.inl (by rw [howned hholds]; exact Option.some_ne_none u))
  have hunreleased : upc.controls = true → out.1.blockingReleased = ctx.blockingReleased := by
    intro hcontroller
    rw [hcontroller, eq_comm, Option.isNone_iff_eq_none] at hcontrols
    refine h.releases ?_
    rw [hcontrols', Option.isNone_eq_false_iff, Option.isSome_iff_ne_none]
    exact fun hnone => hut (hcontrols.trans hnone.symm)
  cases upc with
  | wait call =>
    obtain ⟨hlast, hheld, hannounced⟩ := hseat
    obtain ⟨hsame, -⟩ := hstays rfl
    exact ⟨hlast, by rwa [Benchmark.Passes, hsame], hentered hannounced⟩
  | asleep call => exact hseat.imp_right hentered
  | woken call => exact hseat.imp_right hentered
  | unlock => exact h.passes hseat
  | leaving => exact h.passes hseat
  | returned result => exact h.passes hseat
  | releaseWait =>
    obtain ⟨hreleased, hsame⟩ := hstays rfl
    exact ⟨by rw [Benchmark.Passes, hreleased]; exact hseat.1, hsame.trans hseat.2⟩
  | releaseLock | releaseAsleep | releaseWoken =>
    show ¬b.Passes _
    rw [Benchmark.Passes, hunreleased rfl]
    exact hseat
  | releaseUnlock | released =>
    exact ⟨h.passes hseat.1, fun hcontrolled => hentered (hseat.2 hcontrolled)⟩
  | _ => exact hseat

/-- Who goes to sleep has just found that it has to. -/
theorem asleep (hseat : pc.Seat b ctx) (hasleep : out.2.1.asleepOn = some ()) :
    ¬b.Passes out.1 ∧ (pc.controls = true → out.1.blockingEntered = false) := by
  cases h with
  | sleep call => exact ⟨hseat.2.1, Bool.noConfusion⟩
  | releaseSleep => exact ⟨hseat.1, fun _ => hseat.2⟩
  | computed task combinedStart hlast pc hpc => rcases hpc with ⟨-, rfl⟩ | rfl <;> cases hasleep
  | partitioned stage call counters pc hstep =>
    rcases partitionedStep_next hstep with ⟨next, rfl, -⟩ | ⟨result, rfl⟩ <;> cases hasleep
  | _ => cases hasleep

/-- Nothing is accounted for while the callbacks are held. -/
theorem shut (hseat : pc.Seat b ctx) (hshut : ¬b.Passes ctx → ctx.counters = callbackContextInit)
    (hheld : ¬b.Passes out.1) : out.1.counters = callbackContextInit := by
  have hbefore : ¬b.Passes ctx := fun hpasses => hheld (h.passes hpasses)
  have hseat' := h.seat hseat hshut
  cases h with
  | partitioned stage call => exact absurd (partitions_passes hseat.2 _) hheld
  | account pc call => exact absurd hseat' hheld
  | _ => exact hshut hbefore

end CallbackStepSpec

/-! ## Runs -/

/-- A step, with what it is. -/
theorem callback_step_spec (hstep : (benchmarkProgram b).step t choice s = some s') :
    ∃ pc fx, CallbackStepSpec b t choice s.shared (s.pc t) (s'.shared, pc, fx) ∧
      (benchmarkProgram b).applyEffects (Function.update s.pc t pc) fx = some s'.pc := by
  obtain ⟨pc, fx, hact, hfx⟩ := Program.step_eq_some.mp hstep
  exact ⟨pc, fx, callbackAct_spec hact, hfx⟩

theorem handshake_initial : Handshake (benchmarkInitial b) where
  owned u := by
    cases u with
    | some worker => exact ⟨nofun, nofun⟩
    | none =>
      simp only [benchmarkInitial]
      split <;> exact ⟨nofun, nofun⟩
  seats u := by
    cases u with
    | some worker => trivial
    | none =>
      simp only [benchmarkInitial]
      split
      · rename_i hcontrolled
        simp [CallbackPc.Seat, Benchmark.Passes, hcontrolled]
      · rename_i hother
        exact ⟨.inr hother, fun hcontrolled => absurd hcontrolled hother⟩
  controls u := by
    cases u with
    | some worker => rfl
    | none =>
      simp only [benchmarkInitial]
      split <;> rfl
  sleepers u hasleep := by
    cases u with
    | some worker => cases hasleep
    | none =>
      simp only [benchmarkInitial] at hasleep
      split at hasleep <;> cases hasleep
  shut _ := rfl

/-- **One step keeps the handshake.** -/
theorem Handshake.step (h : Handshake s) (hstep : (benchmarkProgram b).step t choice s = some s') :
    Handshake s' := by
  obtain ⟨pc, fx, hspec, hfx⟩ := callback_step_spec hstep
  refine ⟨?_, ?_, ?_, fun u hasleep => ?_, ?_⟩
  · exact Program.owner_step holds_blind hfx hspec.lockMove h.owned
  · refine Program.forall_step (fun _ ctx pc => CallbackPc.Seat b ctx pc) (fun _ => seat_blind) hfx
      (hspec.seat (h.seats t) h.shut) (fun u hut hseat => ?_) h.seats
    exact hspec.seat_other hut (h.controls u) (h.controls t) (fun hholds => (h.owned u).mpr hholds)
      hseat
  · refine Program.forall_step
      (fun (u : BenchmarkThread b) _ (pc : CallbackPc) => pc.controls = u.isNone)
      (fun _ _ => ⟨fun pc c hasleep => ?_, fun pc hdormant => ?_⟩) hfx ?_
        (fun _ _ hu => hu) h.controls
    · rw [controls_blind.wake pc c hasleep]
    · cases hdormant
    · exact hspec.controls.trans (h.controls t)
  · obtain ⟨hquiet, hwho⟩ := Program.asleep_step callback_rouses hfx hasleep
    obtain ⟨hreleased, hentered⟩ := hspec.quiet (.inr hquiet)
    rcases hwho with ⟨rfl, hpc⟩ | ⟨hut, hpc⟩
    · rw [hpc] at hasleep
      obtain ⟨hheld, hunentered⟩ := hspec.asleep (h.seats u) hasleep
      refine ⟨hheld, fun hnone => hunentered ?_⟩
      rw [h.controls u, hnone]
      rfl
    · rw [hpc] at hasleep
      obtain ⟨hheld, hunentered⟩ := h.sleepers u hasleep
      refine ⟨?_, fun hnone => hentered.trans (hunentered hnone)⟩
      rw [Benchmark.Passes, show s'.shared.blockingReleased = _ from hreleased]
      exact hheld
  · exact hspec.shut (h.seats t) h.shut

/-- **In every reachable state.** -/
theorem handshake_of_steps (hsteps : (benchmarkProgram b).Steps (benchmarkInitial b) s) :
    Handshake s := by
  refine hsteps.invariant handshake_initial ?_
  rintro v v' - hv ⟨t, choice, hstep⟩
  exact hv.step hstep

/-- The controller releases after the first callback has entered. -/
theorem Handshake.entered (h : Handshake s) (hcontrolled : b.config.profile = .controlledBlocking)
    (hpasses : b.Passes s.shared) : s.shared.blockingEntered = true := by
  have hseat := h.seats none
  have hcontrols := h.controls none
  cases hpc : s.pc none with
  | releaseUnlock | released =>
    rw [hpc] at hseat
    exact hseat.2 hcontrolled
  | releaseLock | releaseAsleep | releaseWoken =>
    rw [hpc] at hseat
    exact absurd hpasses hseat
  | releaseWait =>
    rw [hpc] at hseat
    exact absurd hpasses hseat.1
  | _ =>
    rw [hpc] at hcontrols
    cases hcontrols

/-- Accounted for, or past that. -/
def CallbackPc.through : CallbackPc → Bool
  | .unlock | .leaving | .returned _ => true
  | _ => false

/-- **The controlled profile holds its callbacks**, while timer, mutex and condition calls succeed.
In every reachable state: before the release no counter has changed and no callback has got
through; the release comes after the first callback has entered; and a thread that sleeps has a
reason to. -/
theorem controlled_callbacks_held (hcontrolled : b.config.profile = .controlledBlocking)
    (hsteps : (benchmarkProgram b).Steps (benchmarkInitial b) s) :
    (s.shared.blockingReleased = false →
      s.shared.counters = callbackContextInit ∧ ∀ u, (s.pc u).through = false) ∧
    (s.shared.blockingReleased = true → s.shared.blockingEntered = true) ∧
    (∀ u, (s.pc u).asleepOn = some () →
      s.shared.blockingReleased = false ∧ (u = none → s.shared.blockingEntered = false)) := by
  have h := handshake_of_steps hsteps
  have hpasses : b.Passes s.shared ↔ s.shared.blockingReleased = true := by
    simp [Benchmark.Passes, hcontrolled]
  refine ⟨fun hunreleased => ?_, fun hreleased => ?_, fun u hasleep => ?_⟩
  · have hheld : ¬b.Passes s.shared := by
      rw [hpasses, hunreleased]
      exact Bool.false_ne_true
    refine ⟨h.shut hheld, fun u => ?_⟩
    have hseat := h.seats u
    cases hpc : s.pc u with
    | unlock | leaving | returned =>
      rw [hpc] at hseat
      exact absurd hseat hheld
    | _ => rfl
  · exact h.entered hcontrolled (hpasses.mpr hreleased)
  · obtain ⟨hheld, hunentered⟩ := h.sleepers u hasleep
    rw [hpasses, Bool.not_eq_true] at hheld
    exact ⟨hheld, hunentered⟩

/-- The only worker enters the callback and goes to sleep in it. -/
def heldSchedule :
    List (BenchmarkThread (soloBenchmark .controlledBlocking .standard) × CallbackChoice) :=
  let worker : BenchmarkThread (soloBenchmark .controlledBlocking .standard) :=
    some ⟨0, Nat.one_pos⟩
  [(worker, { task := 4096 }), (worker, { time := 2 }), (worker, { time := 3 }), (worker, {}),
    (worker, {})]

theorem controlled_callbacks_held_asleep : ∃ s,
    (benchmarkProgram (soloBenchmark .controlledBlocking .standard)).run heldSchedule
      (benchmarkInitial _) = some s ∧
    s.pc (some ⟨0, Nat.one_pos⟩) = .asleep ⟨4096, 2, 3⟩ ∧ s.shared.blockingEntered = true ∧
    s.shared.counters = callbackContextInit := by
  refine ⟨_, rfl, rfl, rfl, ?_⟩
  have hheld := controlled_callbacks_held (b := soloBenchmark .controlledBlocking .standard) rfl
    (Program.steps_of_run (show (benchmarkProgram _).run heldSchedule _ = some _ from rfl))
  exact (hheld.1 rfl).1

end SchedulingEngine
