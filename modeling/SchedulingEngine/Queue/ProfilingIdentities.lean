import SchedulingEngine.Queue.Agreement
import SchedulingEngine.Queue.ProfilingTallies

/-!
# What the profile of a queue adds up to

The published numbers are related because every step keeps the books of both sides. A `SideLedger`
is such a balance: a call that took the mutex has succeeded, was answered `SHUTDOWN`, or is still
there; a wait that began has ended or goes on; a success moved a Task, sampled the occupancy, and
sent or saved one signal. Ledgers add up along a run (`SideLedger.append`), and where nobody is
inside the critical section the calls still there are the waiting ones.

`try_enqueue` and `try_dequeue` move Tasks without a line of profiling code, so the runs are those
that do not enter them.
-/

namespace SchedulingEngine

open Concurrency

variable {T P : Type}

/-! ## The books of one side -/

/-- The condition on which the calls of a side wait. -/
def QueueSide.condition : QueueSide → QueueCondition
  | .enqueue => .notFull
  | .dequeue => .notEmpty

/-- The Tasks that the calls of a side have moved. -/
def QueueSide.moved (q : ConcurrentTaskQueue T P) : QueueSide → List P
  | .enqueue => q.inserted
  | .dequeue => q.removed

/-- A call of the side that is about to return `SHUTDOWN`. -/
def QueuePc.turnedAway (side : QueueSide) : QueuePc P → ℕ
  | .unlock op (.status .errorShutdown _) => if op.side = some side then 1 else 0
  | _ => 0

/-- How many calls of a side are in the wait loop or on their way out of it without a Task, how
many of these wait, and how many Tasks the side has moved. -/
structure Standing where
  busy : ℕ
  waiting : ℕ
  moved : ℕ

/-- The part of one thread in it. -/
def QueuePc.standing (side : QueueSide) (q : ConcurrentTaskQueue T P)
    (pc : QueuePc P) : Standing where
  busy := pc.waiting side.condition + pc.turnedAway side
  waiting := pc.waiting side.condition
  moved := (side.moved q).length

/-- The successes among the listed increments. -/
def successes (side : QueueSide) (es : List ProfilingCounter) : ℕ :=
  es.count (.side side .immediateSuccesses) + es.count (.side side .successesAfterWait)

/-- The increments `es`, with `turned` calls that returned `SHUTDOWN`, take a side from `a` to
`b`. -/
structure SideLedger (cfg : QueueConfig) (side : QueueSide)
    (es : List ProfilingCounter) (turned : ℕ)
    (a b : Standing) : Prop where
  locks : es.count (.side side .lockAttempts) = es.count (.side side .attempts)
  calls : a.busy + es.count (.side side .attempts) = successes side es + turned + b.busy
  observations : es.count (.side side .blockedObservations) = es.count (.side side .waitCount)
  waits : a.waiting + es.count (.side side .waitCount)
    = es.count (.side side .waitReturns) + b.waiting
  wakeups : es.count (.side side .predicateFalseWakeups) ≤ es.count (.side side .waitReturns)
  signals : es.count (.side side .signals) + es.count (.side side .avoidedSignals)
    = successes side es
  always : cfg.transitionSignaling = false → es.count (.side side .avoidedSignals) = 0
  moved : b.moved = a.moved + successes side es

/-- The increments `es` sample the occupancy once for each success. -/
structure Sampled (es : List ProfilingCounter) : Prop where
  samples : es.count .occupancySampleCount = successes .enqueue es + successes .dequeue es
  extremes : es.count .occupancyZeroObservations + es.count .occupancyFullObservations
    ≤ es.count .occupancySampleCount

section Ledgers

variable {cfg : QueueConfig} {side : QueueSide} {es es' : List ProfilingCounter} {n n' : ℕ}
  {a b c d e : Standing}

theorem successes_append (side : QueueSide) (es es' : List ProfilingCounter) :
    successes side (es ++ es') = successes side es + successes side es' := by
  simp only [successes, List.count_append]
  omega

/-- **Ledgers add up**, also when the second is about one of several threads: the rest of the
side's calls stay where they are. -/
theorem SideLedger.append (h : SideLedger cfg side es n a b) (h' : SideLedger cfg side es' n' c d)
    (hbusy : e.busy + c.busy = b.busy + d.busy)
    (hwaiting : e.waiting + c.waiting = b.waiting + d.waiting)
    (hmoved : e.moved + c.moved = b.moved + d.moved) :
    SideLedger cfg side (es ++ es') (n + n') a e := by
  obtain ⟨locks, calls, observations, waits, wakeups, signals, always, moved⟩ := h
  obtain ⟨locks', calls', observations', waits', wakeups', signals', always', moved'⟩ := h'
  constructor
  all_goals simp only [List.count_append, successes_append]
  case always =>
    intro hbuild
    have := always hbuild
    have := always' hbuild
    omega
  all_goals omega

theorem SideLedger.trans (h : SideLedger cfg side es n a b) (h' : SideLedger cfg side es' n' b c) :
    SideLedger cfg side (es ++ es') (n + n') a c :=
  h.append h' (Nat.add_comm _ _) (Nat.add_comm _ _) (Nat.add_comm _ _)

/-- A step that increments no counter of the side and leaves its standing alone. -/
theorem SideLedger.frame (h : ∀ counter, .side side counter ∉ es) :
    SideLedger cfg side es 0 a a := by
  have hzero : ∀ counter, es.count (.side side counter) = 0 :=
    fun counter => List.count_eq_zero.mpr (h counter)
  constructor
  all_goals simp [hzero, successes]

theorem Sampled.append (h : Sampled es) (h' : Sampled es') : Sampled (es ++ es') := by
  obtain ⟨samples, extremes⟩ := h
  obtain ⟨samples', extremes'⟩ := h'
  constructor
  all_goals simp only [List.count_append, successes_append]
  all_goals omega

theorem Sampled.nil : Sampled [] := ⟨rfl, Nat.le_refl 0⟩

end Ledgers

/-! ## The books of one step -/

section Entries

variable (cfg : QueueConfig) (side : QueueSide) (k : ℕ)

/-- Taking the mutex begins a call. -/
theorem ledger_locked :
    SideLedger cfg side [.side side .attempts, .side side .lockAttempts] 0 ⟨0, 0, k⟩ ⟨1, 0, k⟩ := by
  constructor
  all_goals simp [successes]

/-- Coming back from a wait ends it. -/
theorem ledger_resumed (still : Bool) :
    SideLedger cfg side
      ([.side side .waitReturns] ++ if still then [.side side .predicateFalseWakeups] else []) 0
      ⟨1, 1, k⟩ ⟨1, 0, k⟩ := by
  cases still
  all_goals constructor
  all_goals simp [successes]

/-- Seeing the loop condition begins a wait. -/
theorem ledger_blocked :
    SideLedger cfg side [.side side .blockedObservations, .side side .waitCount] 0
      ⟨1, 0, k⟩ ⟨1, 1, k⟩ := by
  constructor
  all_goals simp [successes]

theorem count_occupancyTallies (counter : SideCounter) (queue : TaskQueue P) :
    (occupancyTallies queue).count (.side side counter) = 0 := by
  rw [List.count_eq_zero]
  unfold occupancyTallies
  split <;> split <;> simp

/-- A success ends the call and moves a Task. -/
theorem ledger_succeeded (waited signalled : Bool) (queue : TaskQueue P)
    (h : cfg.transitionSignaling = false → signalled = true) :
    SideLedger cfg side
      ([.side side (if waited then .successesAfterWait else .immediateSuccesses)]
        ++ occupancyTallies queue
        ++ [.side side (if signalled then .signals else .avoidedSignals)]) 0
      ⟨1, 0, k⟩ ⟨0, 0, k + 1⟩ := by
  cases waited
  all_goals cases signalled
  all_goals constructor
  all_goals simp [successes, count_occupancyTallies]
  all_goals simpa using h

end Entries

section Outcomes

variable {cfg : QueueConfig} {t : T} {woken : Option T} {choice : QueueChoice T P}
  {q q₀ : ConcurrentTaskQueue T P} {f : ClosableFifo P} {pc : QueuePc P}
  {op : QueueOperation P} {out : QueueSection T P} {side : QueueSide}

theorem Waiter.operation_side (w : Waiter P) : w.operation.side = some w.side := by
  cases w <;> rfl

theorem Waiter.side_condition (w : Waiter P) : w.side.condition = w.condition := by
  cases w <;> rfl

/-- The call of the side leaves the test of its wait loop with the books balanced. -/
theorem SectionSpec.ledger (hspec : SectionSpec cfg woken q₀ f op out) (hside : op.side = some side)
    (waited : Bool) (q : ConcurrentTaskQueue T P) :
    SideLedger cfg side (outcomeTallies cfg side waited q out) 0 ⟨1, 0, (side.moved q₀).length⟩
      (out.2.1.standing side out.1) := by
  have hsignals : ∀ q', cfg.transitionSignaling = false → side.signals cfg q q' = true := by
    intro q' hbuild
    cases side <;> simp [QueueSide.signals, hbuild]
  cases hspec with
  | wait w hopen hblocked =>
    rw [w.operation_side] at hside
    cases hside
    have hstanding : (QueuePc.wait w).standing w.side (beginWait w q₀)
        = ⟨1, 1, (w.side.moved q₀).length⟩ := by
      cases w <;> rfl
    rw [hstanding]
    exact ledger_blocked cfg w.side _
  | insert task f' ring hop hinsert habs =>
    rcases hop with rfl | rfl
    · cases hside
      have hstanding : (QueuePc.unlock (.enqueue task) (.status .ok none)).standing .enqueue
          { q₀ with
            queue := ring, highWaterMark := f'.highWater, inserted := q₀.inserted ++ [task] }
          = ⟨0, 0, (QueueSide.enqueue.moved q₀).length + 1⟩ := by
        simp [QueuePc.standing, QueuePc.waiting, QueuePc.turnedAway, QueueSide.moved]
      rw [hstanding]
      exact ledger_succeeded cfg .enqueue _ waited _ ring (hsignals _)
    · cases hside
  | remove task f' ring hop hremove habs =>
    rcases hop with rfl | rfl
    · cases hside
      have hstanding : (QueuePc.unlock .dequeue (.status .ok (some task))).standing .dequeue
          { q₀ with queue := ring, removed := q₀.removed ++ [task] }
          = ⟨0, 0, (QueueSide.dequeue.moved q₀).length + 1⟩ := by
        simp [QueuePc.standing, QueuePc.waiting, QueuePc.turnedAway, QueueSide.moved]
      rw [hstanding]
      exact ledger_succeeded cfg .dequeue _ waited _ ring (hsignals _)
    · cases hside
  | close => cases hside
  | observe r hstep hshutdown =>
    -- a call of either side that moved nothing was answered `SHUTDOWN`
    have hrefused : r = .status .errorShutdown none := by
      cases op with
      | enqueue task => exact observe_enqueue hstep
      | dequeue => exact observe_dequeue hstep
      | _ => cases hside
    subst hrefused
    have hstanding : (QueuePc.unlock op (.status .errorShutdown none)).standing side q₀
        = ⟨1, 0, (side.moved q₀).length⟩ := by
      simp [QueuePc.standing, QueuePc.waiting, QueuePc.turnedAway, hside]
    rw [hstanding]
    exact SideLedger.frame fun counter => List.not_mem_nil

/-- Entering the critical section with the books balanced. -/
theorem Enters.ledger (henter : Enters t q pc op q₀) (hside : op.side = some side) :
    SideLedger cfg side (entryTallies q pc) 0 (pc.standing side q)
      ⟨1, 0, (side.moved q₀).length⟩ := by
  cases henter with
  | lock op =>
    have htallies : entryTallies q (.lock op)
        = [.side side .attempts, .side side .lockAttempts] := by
      simp [entryTallies, hside]
    rw [htallies]
    exact ledger_locked cfg side (side.moved q).length
  | resume w =>
    rw [w.operation_side] at hside
    cases hside
    have hstanding : (QueuePc.woken w).standing w.side q = ⟨1, 1, (w.side.moved q).length⟩ := by
      simp [QueuePc.standing, QueuePc.waiting, QueuePc.turnedAway, w.side_condition]
    have hmoved : w.side.moved (endWait w { q with mutex := some t }) = w.side.moved q := by
      cases w <;> rfl
    rw [hstanding, hmoved]
    exact ledger_resumed cfg w.side _ _

/-- The operations that move Tasks without profiling code. -/
def QueueOperation.uncounted : QueueOperation P → Bool
  | .tryEnqueue _ | .tryDequeue => true
  | _ => false

/-- A call of no side, or of the other one, leaves the side's standing alone. -/
theorem SectionSpec.standing_frame (hspec : SectionSpec cfg woken q₀ f op out)
    (hside : op.side ≠ some side) (hcounted : op.uncounted = false) :
    out.2.1.standing side out.1 = ⟨0, 0, (side.moved q₀).length⟩ := by
  cases hspec with
  | wait w hopen hblocked => cases w <;> cases side <;> first | rfl | exact absurd rfl hside
  | insert task f' ring hop hinsert habs =>
    rcases hop with rfl | rfl
    · cases side with
      | enqueue => exact absurd rfl hside
      | dequeue => rfl
    · cases hcounted
  | remove task f' ring hop hremove habs =>
    rcases hop with rfl | rfl
    · cases side with
      | enqueue => rfl
      | dequeue => exact absurd rfl hside
    · cases hcounted
  | close => cases side <;> rfl
  | observe r hstep hshutdown =>
    unfold QueuePc.standing QueuePc.turnedAway
    split
    · rename_i heq
      cases heq
      simp [QueuePc.waiting, hside]
    · rfl

theorem Enters.standing_frame (henter : Enters t q pc op q₀) (hside : op.side ≠ some side) :
    pc.standing side q = ⟨0, 0, (side.moved q₀).length⟩ := by
  cases henter with
  | lock op => cases side <;> rfl
  | resume w => cases w <;> cases side <;> first | rfl | exact absurd rfl hside

theorem Enters.entering (henter : Enters t q pc op q₀) : pc.entering = op.side := by
  cases henter with
  | lock op => rfl
  | resume w => exact w.operation_side.symm

theorem side_mem_occupancyTallies {counter : SideCounter} {queue : TaskQueue P} :
    .side side counter ∉ occupancyTallies queue :=
  List.count_eq_zero.mp (count_occupancyTallies side counter queue)

theorem side_mem_outcomeTallies {other : QueueSide} {waited : Bool} {counter : SideCounter}
    (h : .side side counter ∈ outcomeTallies cfg other waited q out) : other = side := by
  unfold outcomeTallies at h
  split at h
  · simp only [List.mem_cons, ProfilingCounter.side.injEq, List.not_mem_nil, or_false] at h
    rcases h with ⟨hsame, -⟩ | ⟨hsame, -⟩
    · exact hsame.symm
    · exact hsame.symm
  · simp only [List.mem_append, List.mem_singleton, ProfilingCounter.side.injEq,
      side_mem_occupancyTallies, or_false] at h
    rcases h with ⟨hsame, -⟩ | ⟨hsame, -⟩
    · exact hsame.symm
    · exact hsame.symm
  · cases h

theorem side_mem_entryTallies {counter : SideCounter} (h : .side side counter ∈ entryTallies q pc) :
    pc.entering = some side := by
  cases pc with
  | lock op =>
    show op.side = some side
    simp only [entryTallies] at h
    cases hop : op.side with
    | none =>
      rw [hop] at h
      cases h
    | some other =>
      simp only [hop, Option.elim_some, List.mem_cons, ProfilingCounter.side.injEq,
        List.not_mem_nil, or_false] at h
      rcases h with ⟨hsame, -⟩ | ⟨hsame, -⟩
      · rw [hsame]
      · rw [hsame]
  | woken w =>
    show some w.side = some side
    unfold entryTallies at h
    rcases List.mem_append.mp h with h | h
    · cases List.mem_singleton.mp h
      rfl
    · split at h
      · cases List.mem_singleton.mp h
        rfl
      · cases h
  | _ => cases h

/-- A step writes into the books of the side of its call only. -/
theorem side_mem_stepTallies {waited : Bool} {counter : SideCounter}
    (h : .side side counter ∈ stepTallies cfg waited q pc out) : pc.entering = some side := by
  unfold stepTallies at h
  rcases List.mem_append.mp h with h | h
  · exact side_mem_entryTallies h
  · cases hentering : pc.entering with
    | none =>
      rw [hentering] at h
      cases h
    | some other =>
      rw [hentering] at h
      rw [side_mem_outcomeTallies h]

/-- The calls that a step returns `SHUTDOWN` from. -/
def QueuePc.shutdownReturns : QueuePc P → List QueueSide
  | .returned op (.status .errorShutdown _) => op.side.toList
  | _ => []

theorem count_shutdownReturns (op : QueueOperation P) (r : QueueReturn P) :
    (QueuePc.returned op r).shutdownReturns.count side = (QueuePc.unlock op r).turnedAway side := by
  cases r with
  | status result output =>
    cases result with
    | errorShutdown =>
      show op.side.toList.count side = if op.side = some side then 1 else 0
      cases op.side with
      | none => rfl
      | some other => simp [List.count_singleton]
    | _ => rfl
  | _ => rfl

/-- Handing the mutex back ends a call that was turned away. -/
theorem ledger_returned (cfg : QueueConfig) (op : QueueOperation P) (r : QueueReturn P)
    (hmoved : side.moved q₀ = side.moved q) :
    SideLedger cfg side [] ((QueuePc.returned op r).shutdownReturns.count side)
      ((QueuePc.unlock op r).standing side q) ((QueuePc.returned op r).standing side q₀) := by
  rw [count_shutdownReturns]
  constructor
  all_goals simp [successes, QueuePc.standing, QueuePc.waiting, hmoved]
  all_goals rfl

/-- **Every step keeps the books of both sides.** -/
theorem QueueStepSpec.ledger (h : QueueStepSpec cfg t choice q f pc out)
    (hwait : cfg.waitMayFail = false) (hcounted : ∀ op, pc = .lock op → op.uncounted = false)
    (waited : Bool) (side : QueueSide) :
    SideLedger cfg side (stepTallies cfg waited q pc out) (out.2.1.shutdownReturns.count side)
      (pc.standing side q) (out.2.1.standing side out.1) := by
  cases h with
  | @enter pc op q₀ out hmutex henter hspec =>
    have hturned : out.2.1.shutdownReturns.count side = 0 := by
      cases hspec <;> rfl
    rw [hturned]
    by_cases hside : op.side = some side
    · have htallies : stepTallies cfg waited q pc out
          = entryTallies q pc ++ outcomeTallies cfg side waited q out := by
        simp [stepTallies, henter.entering, hside]
      rw [htallies]
      exact (henter.ledger hside).trans (hspec.ledger hside waited q)
    · -- the call is of no side, or of the other one
      have hop : op.uncounted = false := by
        cases henter with
        | lock op => exact hcounted op rfl
        | resume w => cases w <;> rfl
      rw [henter.standing_frame hside, hspec.standing_frame hside hop]
      refine SideLedger.frame fun counter hmem => hside ?_
      rw [← henter.entering, side_mem_stepTallies hmem]
  | waitFailed w hfail hmutex => cases hwait.symm.trans hfail
  | unlock op r hmutex =>
    exact ledger_returned cfg op r (by cases side <;> rfl)
  | callInvalid op => cases op <;> exact SideLedger.frame fun counter => List.not_mem_nil
  | _ => exact SideLedger.frame fun counter => List.not_mem_nil

/-- A ring with room for a Task is not empty and full at once. -/
theorem occupancyTallies_counts {queue : TaskQueue P} (hpos : 0 < taskQueueCapacity queue) :
    (occupancyTallies queue).count .occupancySampleCount = 1 ∧
      (occupancyTallies queue).count .occupancyZeroObservations
        + (occupancyTallies queue).count .occupancyFullObservations ≤ 1 := by
  unfold occupancyTallies
  by_cases hempty : taskQueueSize queue = 0
  · have hroom : taskQueueSize queue ≠ taskQueueCapacity queue := by omega
    rw [if_pos hempty, if_neg hroom]
    decide
  · rw [if_neg hempty]
    split <;> decide

theorem sampled_succeeded (side : QueueSide) (waited signalled : Bool) {queue : TaskQueue P}
    (hpos : 0 < taskQueueCapacity queue) :
    Sampled ([.side side (if waited then .successesAfterWait else .immediateSuccesses)]
      ++ occupancyTallies queue
      ++ [.side side (if signalled then .signals else .avoidedSignals)]) := by
  obtain ⟨hsample, hextremes⟩ := occupancyTallies_counts hpos
  constructor
  · cases side <;> cases waited <;> cases signalled <;>
      simp [successes, count_occupancyTallies, hsample]
  · simpa [hsample] using hextremes

/-- A section samples the occupancy once for each success. -/
theorem sampled_outcomeTallies (side : QueueSide) (waited : Bool)
    (hpos : 0 < taskQueueCapacity out.1.queue) :
    Sampled (outcomeTallies cfg side waited q out) := by
  unfold outcomeTallies
  split
  · constructor
    all_goals simp [successes]
  · exact sampled_succeeded side waited _ hpos
  · exact Sampled.nil

theorem sampled_stepTallies (waited : Bool) (hpos : 0 < taskQueueCapacity out.1.queue) :
    Sampled (stepTallies cfg waited q pc out) := by
  refine Sampled.append ?_ ?_
  · cases pc with
    | lock op =>
      simp only [entryTallies]
      cases op.side with
      | none => exact Sampled.nil
      | some side =>
        constructor
        all_goals simp [successes]
    | woken w =>
      simp only [entryTallies]
      constructor
      all_goals split
      all_goals simp [successes]
    | _ => exact Sampled.nil
  · cases pc.entering with
    | none => exact Sampled.nil
    | some side => exact sampled_outcomeTallies side waited hpos

end Outcomes

/-! ## Whole runs -/

section Runs

variable [DecidableEq T] [Fintype T] {cfg : QueueConfig} {capacity : ℕ}
  {p₀ : SchedulerProfilingSnapshot} {s s' : ProfiledPool T P} {t : T}
  {choice : ProfilingChoice T P} {noted : List QueueSide}

/-- The queue underneath a profiling build. -/
abbrev queueUnder (s : ProfiledPool T P) : QueuePool T P :=
  Program.inside ProfiledQueue.queue ProfiledPc.pc s

omit [Fintype T] in
theorem profiledProgram_embeds :
    (profiledProgram (T := T) (P := P) cfg).Embeds (queueProgram cfg) id ProfiledPc.pc where
  asleep _ _ := Iff.rfl
  wake _ _ _ := rfl
  wakeOuter _ d _ hother := absurd rfl (hother d)
  start _ _ := rfl

omit [Fintype T] in
theorem profiledProgram_blind {M : Type*} {g : QueuePc P → M}
    (hg : ∀ w, g (.woken w) = g (.asleep w)) :
    (profiledProgram (T := T) cfg).Blind fun pc => g pc.pc where
  wake a c h :=
    have hblind : (queueProgram (T := T) cfg).Blind g := queueProgram_blind hg
    hblind.wake a.pc c h
  start a h := by cases h

/-- The standing of a side over all threads. -/
def standingOf (side : QueueSide) (s : ProfiledPool T P) : Standing where
  busy := Program.total (fun pc => pc.pc.waiting side.condition + pc.pc.turnedAway side) s.pc
  waiting := Program.total (fun pc => pc.pc.waiting side.condition) s.pc
  moved := (side.moved s.shared.queue).length

/-- The books of a run that began with the profile `p₀` and in which the calls `noted` returned
`SHUTDOWN`. -/
structure ProfilingBooks (cfg : QueueConfig) (capacity : ℕ) (p₀ : SchedulerProfilingSnapshot)
    (noted : List QueueSide) (s : ProfiledPool T P) : Prop where
  queue : QueueInv capacity (queueUnder s)
  kept : ∃ es, Gains p₀ s.shared.profiling es ∧ Sampled es ∧
    ∀ side, SideLedger cfg side es (noted.count side) ⟨0, 0, 0⟩ (standingOf side s)

/-- What the thread returns to its caller in a step is seen on its counter afterwards. -/
def shutdownReturnsOf (_ : ProfiledPool T P) (t : T) (s' : ProfiledPool T P) : List QueueSide :=
  (s'.pc t).pc.shutdownReturns

/-- Threads that are not about to enter `try_enqueue` or `try_dequeue`. -/
def ProfiledPool.counted (s : ProfiledPool T P) (t : T) : Bool :=
  match (s.pc t).pc with
  | .lock op => !op.uncounted
  | _ => true

omit [Fintype T] [DecidableEq T] in
theorem ProfiledPool.counted_lock (s : ProfiledPool T P) (h : s.counted t = true) :
    ∀ op, (s.pc t).pc = .lock op → op.uncounted = false := by
  intro op hpc
  unfold ProfiledPool.counted at h
  rw [hpc] at h
  simpa using h

theorem ProfilingBooks.step (h : ProfilingBooks cfg capacity p₀ noted s)
    (hwait : cfg.waitMayFail = false)
    (hcounted : s.counted t = true)
    (hstep : (profiledProgram cfg).step t choice s = some s') :
    ProfilingBooks cfg capacity p₀ (noted ++ shutdownReturnsOf s t s') s' := by
  obtain ⟨pc', fx, hact, hfx⟩ := Program.step_eq_some.mp hstep
  obtain ⟨hqueue, hgains⟩ := profiledAct_spec hwait hact
  obtain ⟨f, habs, hcap⟩ := h.queue.abstracts
  have hspec := queueAct_spec habs hqueue
  have hunder : (queueProgram cfg).step t choice.queue (queueUnder s) = some (queueUnder s') := by
    refine profiledProgram_embeds.step_inner hspec.inner hqueue ?_
    rw [Effect.map_lift_id]
    exact hfx
  have hinv := queueInv_step h.queue hunder
  refine ⟨hinv, ?_⟩
  obtain ⟨es, hbefore, hsampled, hledger⟩ := h.kept
  obtain ⟨f', habs', -⟩ := hinv.abstracts
  have hroom : 0 < taskQueueCapacity s'.shared.queue.queue := habs'.ring.capacity_pos
  refine ⟨_, hbefore.trans hgains, hsampled.append (sampled_stepTallies _ hroom), fun side => ?_⟩
  -- the acting thread's own ledger, and the other threads where they were
  have hown := hspec.ledger hwait (s.counted_lock hcounted) (s.pc t).locals.waited side
  have hreturns : shutdownReturnsOf s t s' = pc'.pc.shutdownReturns :=
    (Program.step_blind (profiledProgram_blind fun _ => rfl) hfx).1
  rw [hreturns, List.count_append]
  refine (hledger side).append hown ?_ ?_ ?_
  · exact Program.total_step (profiledProgram_blind
      (g := fun pc => pc.waiting side.condition + pc.turnedAway side) fun _ => rfl) hfx
  · exact Program.total_step (profiledProgram_blind
      (g := fun pc => pc.waiting side.condition) fun _ => rfl) hfx
  · exact Nat.add_comm _ _

omit [DecidableEq T] in
theorem books_initial {ring : TaskQueue P} (hring : taskQueueInit capacity true = (.ok, some ring))
    (timerFrequency : ℕ) :
    ProfilingBooks (T := T) cfg capacity
      (profiledInitial (T := T) ring timerFrequency).shared.profiling []
      (profiledInitial ring timerFrequency) := by
  refine ⟨queueInv_initial hring, [], Gains.refl _, Sampled.nil, fun side => ?_⟩
  have hzero : standingOf side (profiledInitial ring timerFrequency : ProfiledPool T P)
      = ⟨0, 0, 0⟩ := by
    cases side <;> simp [standingOf, Program.total, profiledInitial, QueuePc.waiting,
      QueuePc.turnedAway, QueueSide.moved, concurrentTaskQueueInit]
  rw [hzero]
  exact SideLedger.frame fun counter => List.not_mem_nil

omit [DecidableEq T] in
/-- Outside the critical section every call of a side that is still there waits. -/
theorem ProfilingBooks.outside (h : ProfilingBooks cfg capacity p₀ noted s)
    (hfree : s.shared.queue.mutex = none)
    (side : QueueSide) :
    (standingOf side s).busy = waiterCount side.condition s.shared.queue ∧
      (standingOf side s).waiting = waiterCount side.condition s.shared.queue := by
  have hwaiters : (standingOf side s).waiting = waiterCount side.condition s.shared.queue :=
    (h.queue.waiters side.condition).symm
  refine ⟨?_, hwaiters⟩
  rw [← hwaiters]
  refine Finset.sum_congr rfl fun u _ => ?_
  have hout : (s.pc u).pc.holdsMutex = false := by
    by_contra hholds
    have howner := (h.queue.owned u).mpr (Bool.not_eq_false _ ▸ hholds)
    rw [show (queueUnder s).shared.mutex = none from hfree] at howner
    cases howner
  have hturned : (s.pc u).pc.turnedAway side = 0 := by
    cases hpc : (s.pc u).pc with
    | unlock op r =>
      rw [hpc] at hout
      cases hout
    | _ => rfl
  show (s.pc u).pc.waiting side.condition + (s.pc u).pc.turnedAway side = _
  rw [hturned, Nat.add_zero]

/-- `enqueue_immediate_successes + enqueue_successes_after_wait`, or the same for `dequeue`. -/
def SchedulerProfilingSnapshot.successes (p : SchedulerProfilingSnapshot) (side : QueueSide) : ℕ :=
  p.counter (.side side .immediateSuccesses) + p.counter (.side side .successesAfterWait)

/-- The relations between the counters of a profile, given how many calls of each side have
returned `SHUTDOWN`. -/
structure ProfilingIdentities (cfg : QueueConfig) (shutdowns : QueueSide → ℕ)
    (sh : ProfiledQueue T P) : Prop where
  attempts : ∀ side, sh.profiling.counter (.side side .attempts)
    = sh.profiling.successes side + shutdowns side + waiterCount side.condition sh.queue
  lockAttempts : ∀ side, sh.profiling.counter (.side side .lockAttempts)
    = sh.profiling.counter (.side side .attempts)
  observations : ∀ side, sh.profiling.counter (.side side .blockedObservations)
    = sh.profiling.counter (.side side .waitCount)
  waits : ∀ side, sh.profiling.counter (.side side .waitCount)
    = sh.profiling.counter (.side side .waitReturns) + waiterCount side.condition sh.queue
  falseWakeups : ∀ side, sh.profiling.counter (.side side .predicateFalseWakeups)
    ≤ sh.profiling.counter (.side side .waitReturns)
  signals : ∀ side, sh.profiling.counter (.side side .signals)
    + sh.profiling.counter (.side side .avoidedSignals) = sh.profiling.successes side
  avoided : cfg.transitionSignaling = false →
    ∀ side, sh.profiling.counter (.side side .avoidedSignals) = 0
  size : sh.profiling.successes .enqueue
    = sh.profiling.successes .dequeue + taskQueueSize sh.queue.queue
  samples : sh.profiling.counter .occupancySampleCount
    = sh.profiling.successes .enqueue + sh.profiling.successes .dequeue
  extremes : sh.profiling.counter .occupancyZeroObservations
    + sh.profiling.counter .occupancyFullObservations
      ≤ sh.profiling.counter .occupancySampleCount

omit [DecidableEq T] in
/-- Balanced books without an overflow are the relations between the counters. -/
theorem ProfilingBooks.identities (h : ProfilingBooks cfg capacity p₀ noted s)
    (hp₀ : ∀ c, p₀.counter c = 0)
    (hfree : s.shared.queue.mutex = none)
    (hoverflow : s.shared.profiling.counterOverflow = false) :
    ProfilingIdentities cfg noted.count s.shared := by
  obtain ⟨es, hgains, hsampled, hledger⟩ := h.kept
  have hcounter : ∀ c, c.tallied = true → s.shared.profiling.counter c = es.count c := by
    intro c hc
    rw [(hgains hoverflow).2 c hc, hp₀ c, Nat.zero_add]
  have hsuccesses : ∀ side, s.shared.profiling.successes side = successes side es := by
    intro side
    unfold SchedulerProfilingSnapshot.successes successes
    rw [hcounter _ rfl, hcounter _ rfl]
  constructor
  case attempts =>
    intro side
    -- with the mutex free nobody is between its attempt and its outcome
    have hcalls : 0 + _ = _ := (hledger side).calls
    rw [(h.outside hfree side).1] at hcalls
    rw [hcounter _ rfl, hsuccesses]
    omega
  case lockAttempts =>
    intro side
    rw [hcounter _ rfl, hcounter _ rfl]
    exact (hledger side).locks
  case observations =>
    intro side
    rw [hcounter _ rfl, hcounter _ rfl]
    exact (hledger side).observations
  case waits =>
    intro side
    -- nor between a wait and its return
    have hwaits : 0 + _ = _ := (hledger side).waits
    rw [(h.outside hfree side).2] at hwaits
    rw [hcounter _ rfl, hcounter _ rfl]
    omega
  case falseWakeups =>
    intro side
    rw [hcounter _ rfl, hcounter _ rfl]
    exact (hledger side).wakeups
  case signals =>
    intro side
    rw [hcounter _ rfl, hcounter _ rfl, hsuccesses]
    exact (hledger side).signals
  case avoided =>
    intro hbuild side
    rw [hcounter _ rfl]
    exact (hledger side).always hbuild
  case size =>
    obtain ⟨f, habs, -⟩ := h.queue.abstracts
    -- what was inserted and not removed is in the queue
    have hinserted : s.shared.queue.inserted.length = _ := (hledger .enqueue).moved
    have hremoved : s.shared.queue.removed.length = _ := (hledger .dequeue).moved
    have hhistory := congrArg List.length habs.history
    rw [List.length_append, ← habs.size_eq] at hhistory
    rw [hsuccesses, hsuccesses]
    simp only [Program.inside] at hhistory
    omega
  case samples =>
    rw [hcounter _ rfl, hsuccesses, hsuccesses]
    exact hsampled.samples
  case extremes =>
    rw [hcounter _ rfl, hcounter _ rfl, hcounter _ rfl]
    exact hsampled.extremes

/-- **The profile adds up.** In a profiling build whose condition waits succeed, after any run
that does not enter `try_enqueue` or `try_dequeue`, as long as no counter overflowed: whenever no
thread is inside the critical section, the counters are related as `ProfilingIdentities` says,
with the calls that returned `SHUTDOWN` read off the run. The timer may answer anything. -/
theorem profile_adds_up {ring : TaskQueue P} {ls : List (T × ProfilingChoice T P)}
    (hwait : cfg.waitMayFail = false) (hring : taskQueueInit capacity true = (.ok, some ring))
    (timerFrequency : ℕ)
    (hcounted : (profiledProgram cfg).allowed (fun s t => ProfiledPool.counted s t = true) ls
      (profiledInitial ring timerFrequency) = true)
    (hrun : (profiledProgram cfg).run ls (profiledInitial ring timerFrequency) = some s)
    (hfree : s.shared.queue.mutex = none)
    (hoverflow : s.shared.profiling.counterOverflow = false) :
    ProfilingIdentities cfg
      ((profiledProgram cfg).log shutdownReturnsOf ls (profiledInitial ring timerFrequency)).count
      s.shared := by
  have hbooks := Program.log_invariant (p := profiledProgram cfg) shutdownReturnsOf
    (J := ProfilingBooks cfg capacity _)
    (fun h hok hstep => h.step hwait hok hstep) (books_initial hring timerFrequency)
    hcounted hrun
  exact hbooks.identities (fun _ => rfl) hfree hoverflow

end Runs

/-- Thread `0` finds the ring empty and waits until thread `1` puts a Task in and signals it;
thread `1` then closes the queue, and the next `dequeue` of thread `0` returns `SHUTDOWN`. -/
def profiledSchedule : List (Fin 2 × ProfilingChoice (Fin 2) ℕ) :=
  [(0, { queue := { call := some (.dequeue, true) }, timer := some 5, workerIndex := 3 }),
    (0, { timer := some 6, timerBeforeWait := some 7 }), (0, {}),
    (1, { queue := { call := some (.enqueue 41, true) }, timer := some 8 }),
    (1, { queue := { woken := some 0 }, timer := some 9 }), (1, {}), (1, {}),
    (0, { timer := some 12 }), (0, {}), (0, {}),
    (1, { queue := { call := some (.shutdown, true) } }), (1, {}), (1, {}), (1, {}),
    (0, { queue := { call := some (.dequeue, true) }, timer := some 20, workerIndex := 3 }),
    (0, { timer := some 21 }), (0, {})]

/-- The ring of capacity one that `task_queue_init` leaves. -/
def profiledRing : TaskQueue ℕ where
  items := some [none]
  capacity := 1
  size := 0
  head := 0
  tail := 0

theorem profile_adds_up_after_wait :
    ∃ s, (profiledProgram ⟨true, false⟩).run profiledSchedule
      (profiledInitial profiledRing 10000000)
        = some s ∧
      s.shared.profiling.counter (.side .dequeue .attempts) = 2 ∧
      s.shared.profiling.counter (.side .dequeue .successesAfterWait) = 1 ∧
      ProfilingIdentities ⟨true, false⟩
        ((profiledProgram ⟨true, false⟩).log shutdownReturnsOf profiledSchedule
          (profiledInitial profiledRing 10000000)).count s.shared := by
  have hend : ((profiledProgram ⟨true, false⟩).run profiledSchedule
        (profiledInitial profiledRing 10000000)).map
      (fun s => (s.shared.queue.mutex, s.shared.profiling.counterOverflow,
        s.shared.profiling.counter (.side .dequeue .attempts),
        s.shared.profiling.counter (.side .dequeue .successesAfterWait)))
      = some (none, false, 2, 1) := by
    decide +kernel
  obtain ⟨s, hrun, hobserved⟩ := Option.map_eq_some_iff.mp hend
  simp only [Prod.mk.injEq] at hobserved
  obtain ⟨hfree, hoverflow, hattempts, hwaited⟩ := hobserved
  refine ⟨s, hrun, hattempts, hwaited, ?_⟩
  have hring : taskQueueInit 1 true = (.ok, some profiledRing) := rfl
  exact profile_adds_up rfl hring _ (by decide +kernel) hrun hfree hoverflow

end SchedulingEngine
