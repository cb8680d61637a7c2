import Mathlib.Data.Fintype.Option
import SchedulingEngine.Benchmark.Ranges
import SchedulingEngine.Concurrency.ThreadPool

/-!
# The start barrier of an iteration (benchmark_scheduler.c)

`run_iteration` creates the producers one after the other, waits until all of them stand at the
barrier, reads the clock and releases them together; `producer_entry` submits the Tasks of its
range only then. On the way a creation, a condition wait, the clock, the controlled callback or a
join may fail: `run_iteration` then aborts the barrier, and in its clean-up it joins the producers
that are left before it destroys the barrier, which stands on its stack.

The granularity is that of the queue: a step that takes the mutex runs the critical section up to
the next `sched_condition_wait` or `sched_mutex_unlock`. A `scheduler_submit` is one step, and so is
`release_controlled_callback`, which in the code sleeps until a callback has entered: that it
returns once a callback is busy is shown in `CallbackReturns`, and what depends on its return
says so.
-/

namespace SchedulingEngine

open Concurrency

/-- An iteration as far as its producers are concerned, and what may fail. -/
structure BarrierConfig where
  tasks : ℕ
  producers : ℕ
  createMayFail : Bool
  waitMayFail : Bool
  joinMayFail : Bool
  timerMayFail : Bool
  callbackMayFail : Bool
  deriving DecidableEq, Repr

/-- The producers, and the thread of `run_iteration` (`none`). -/
abbrev BarrierThread (cfg : BarrierConfig) := Option (Fin cfg.producers)

/-- `start_barrier`. -/
structure StartBarrier (T : Type) where
  mutex : Option T
  readyCount : ℕ
  released : Bool
  aborted : Bool
  deriving DecidableEq, Repr

/-- The barrier and the locals `created` and `joined` of `run_iteration`. `totalStart` says whether
the clock was read, and `submitted` which Tasks were passed to `scheduler_submit`. -/
structure Meeting (T : Type) where
  barrier : StartBarrier T
  created : ℕ
  joined : ℕ
  totalStart : Bool
  submitted : List ℕ
  deriving DecidableEq, Repr

/-- Where a producer stands; `unlock (some r)` is about to return `r`. -/
inductive ProducerPc where
  | notCreated
  | entry
  | wait
  | asleep
  | woken
  | unlock (failure : Option ℕ)
  | submit (index : ℕ)
  | finished (result : ℕ)
  deriving DecidableEq, Repr

/-- Where `run_iteration` stands. `passed` says whether all producers were joined with result
`0`. -/
inductive IterationPc where
  | create (index : ℕ)
  | barrierLock
  | wait
  | asleep
  | woken
  | barrierUnlock (released : Bool)
  | releaseCallback
  | join (index : ℕ)
  | abortLock
  | abortUnlock
  | cleanupJoin (index : ℕ) (passed : Bool)
  | cleaned (passed : Bool)
  deriving DecidableEq, Repr

inductive BarrierPc where
  | producer (pc : ProducerPc)
  | iteration (pc : IterationPc)
  deriving DecidableEq, Repr

/-- The answers of the backend, the clock and the scheduler at one step. -/
structure BarrierChoice where
  succeeds : Bool := true
  alsoSucceeds : Bool := true
  result : ℕ := 0
  outcome : SubmissionOutcome := .accepted

abbrev BarrierEffect (cfg : BarrierConfig) := Effect (BarrierThread cfg) Unit ℕ

abbrev BarrierStep (cfg : BarrierConfig) (π : Type) :=
  Meeting (BarrierThread cfg) × π × List (BarrierEffect cfg)

section Code

variable (cfg : BarrierConfig)

/-- `sched_mutex_lock(&barrier->mutex)`. -/
def Meeting.lock {T : Type} (m : Meeting T) (t : T) : Meeting T :=
  { m with barrier := { m.barrier with mutex := some t } }

/-- `sched_mutex_unlock(&barrier->mutex)`. -/
def Meeting.unlock {T : Type} (m : Meeting T) : Meeting T :=
  { m with barrier := { m.barrier with mutex := none } }

/-! ## producer_entry -/

/-- The test of the wait loop, and of `aborted` after it. -/
def producerTest {T : Type} (b : StartBarrier T) : ProducerPc :=
  if !b.released && !b.aborted then .wait
  else .unlock (if b.aborted then some 4 else none)

/-- One Task of the loop. -/
def submitTask (m : Meeting (BarrierThread cfg)) (outcome : SubmissionOutcome) (index : ℕ) :
    Meeting (BarrierThread cfg) × ProducerPc :=
  let passed := { m with submitted := m.submitted ++ [index] }
  match outcome with
  | .timerFailsBefore => (m, .finished 6)
  | .timerFailsAfter => (passed, .finished 7)
  | .submitFails => (passed, .finished 8)
  | .accepted | .rejected => (passed, .submit (index + 1))

def producerAct (i : Fin cfg.producers) (choice : BarrierChoice) (m : Meeting (BarrierThread cfg)) :
    ProducerPc → Option (BarrierStep cfg ProducerPc)
  | .notCreated => none
  | .entry =>
    if m.barrier.mutex = none then
      let barrier :=
        { m.barrier with mutex := some (some i), readyCount := m.barrier.readyCount + 1 }
      some ({ m with barrier }, producerTest barrier, [.broadcast ()])
    else none
  | .wait => if m.barrier.mutex = some (some i) then some (m.unlock, .asleep, []) else none
  | .asleep => some (m, .woken, [])
  | .woken =>
    if m.barrier.mutex = none ∧ (choice.succeeds = true ∨ cfg.waitMayFail = true) then
      some (m.lock (some i),
        if choice.succeeds then producerTest m.barrier else .unlock (some 3), [])
    else none
  | .unlock failure =>
    if m.barrier.mutex = some (some i) then
      some (m.unlock, match failure with
        | some result => .finished result
        | none => .submit (producerBegin cfg.tasks cfg.producers i), [])
    else none
  | .submit index =>
    if index < producerEnd cfg.tasks cfg.producers i then
      let (m, pc) := submitTask cfg m choice.outcome index
      some (m, pc, [])
    else some (m, .finished 0, [])
  | .finished _ => none

/-! ## run_iteration -/

/-- The test of the wait loop; once all producers are ready, the clock and the release. -/
def barrierTest (choice : BarrierChoice) (m : Meeting (BarrierThread cfg)) :
    BarrierStep cfg IterationPc :=
  if m.barrier.readyCount < cfg.producers then (m, .wait, [])
  else if choice.alsoSucceeds then
    ({ m with barrier := { m.barrier with released := true }, totalStart := true },
      .barrierUnlock true, [.broadcast ()])
  else (m, .barrierUnlock false, [])

/-- `sched_thread_join(&threads[index], ..)`. -/
def joinProducer (choice : BarrierChoice) (index : ℕ)
    (joined failed : Meeting (BarrierThread cfg) × IterationPc) :
    Option (BarrierStep cfg IterationPc) :=
  if h : index < cfg.producers then
    if choice.succeeds then some (joined.1, joined.2, [.await (some ⟨index, h⟩) choice.result])
    else if cfg.joinMayFail then some (failed.1, failed.2, []) else none
  else none

def iterationAct (choice : BarrierChoice) (m : Meeting (BarrierThread cfg)) :
    IterationPc → Option (BarrierStep cfg IterationPc)
  | .create index =>
    if h : index < cfg.producers then
      if choice.succeeds then
        some ({ m with created := m.created + 1 }, .create (index + 1),
          [.spawn (some ⟨index, h⟩)])
      else if cfg.createMayFail then some (m, .abortLock, []) else none
    else some (m, .barrierLock, [])
  | .barrierLock =>
    if m.barrier.mutex = none ∧ (choice.alsoSucceeds = true ∨ cfg.timerMayFail = true) then
      some (barrierTest cfg choice (m.lock none))
    else none
  | .wait => if m.barrier.mutex = some none then some (m.unlock, .asleep, []) else none
  | .asleep => some (m, .woken, [])
  | .woken =>
    if m.barrier.mutex = none ∧ (choice.succeeds = true ∨ cfg.waitMayFail = true) ∧
        (choice.alsoSucceeds = true ∨ cfg.timerMayFail = true) then
      some (if choice.succeeds then barrierTest cfg choice (m.lock none)
        else (m.lock none, .barrierUnlock false, []))
    else none
  | .barrierUnlock released =>
    if m.barrier.mutex = some none then
      some (m.unlock, if released then .releaseCallback else .abortLock, [])
    else none
  | .releaseCallback =>
    if choice.succeeds then some (m, .join 0, [])
    else if cfg.callbackMayFail then some (m, .abortLock, []) else none
  | .join index =>
    if index < m.created then
      joinProducer cfg choice index
        ({ m with joined := m.joined + 1 },
          if choice.result = 0 then .join (index + 1) else .abortLock)
        (m, .abortLock)
    else some (m, .cleanupJoin m.joined true, [])
  | .abortLock =>
    if m.barrier.mutex = none then
      some ({ m with
          barrier := { m.barrier with mutex := some none, aborted := true, released := true } },
        .abortUnlock, [.broadcast ()])
    else none
  | .abortUnlock =>
    if m.barrier.mutex = some none then some (m.unlock, .cleanupJoin m.joined false, []) else none
  | .cleanupJoin index passed =>
    if index < m.created then
      joinProducer cfg choice index (m, .cleanupJoin (index + 1) passed)
        (m, .cleanupJoin (index + 1) passed)
    else some (m, .cleaned passed, [])
  | .cleaned _ => none

/-! ## Threads -/

/-- One step of a thread. -/
def barrierAct (t : BarrierThread cfg) (choice : BarrierChoice) (m : Meeting (BarrierThread cfg))
    (pc : BarrierPc) : Option (BarrierStep cfg BarrierPc) :=
  match t, pc with
  | some i, .producer pc =>
    (producerAct cfg i choice m pc).map fun (m, pc, fx) => (m, .producer pc, fx)
  | none, .iteration pc =>
    (iterationAct cfg choice m pc).map fun (m, pc, fx) => (m, .iteration pc, fx)
  | _, _ => none

end Code

def BarrierPc.asleepOn : BarrierPc → Option Unit
  | .producer .asleep | .iteration .asleep => some ()
  | _ => none

def BarrierPc.wake : BarrierPc → BarrierPc
  | .producer .asleep => .producer .woken
  | .iteration .asleep => .iteration .woken
  | pc => pc

/-- The result of a producer that has returned. -/
def BarrierPc.finished : BarrierPc → Option ℕ
  | .producer (.finished result) => some result
  | _ => none

/-- The producers and `run_iteration`. -/
def barrierProgram (cfg : BarrierConfig) :
    Program (BarrierThread cfg) (Meeting (BarrierThread cfg)) BarrierPc BarrierChoice Unit ℕ where
  act := barrierAct cfg
  asleepOn := BarrierPc.asleepOn
  wake := BarrierPc.wake
  dormant pc := pc = .producer .notCreated
  start _ := .producer .entry
  finished := BarrierPc.finished

abbrev BarrierPool (cfg : BarrierConfig) :=
  Pool (BarrierThread cfg) (Meeting (BarrierThread cfg)) BarrierPc

/-- The barrier as `start_barrier_init` left it, before the first creation. -/
def barrierInitial (cfg : BarrierConfig) : BarrierPool cfg where
  shared :=
    { barrier := { mutex := none, readyCount := 0, released := false, aborted := false }
      created := 0
      joined := 0
      totalStart := false
      submitted := [] }
  pc
    | some _ => .producer .notCreated
    | none => .iteration (.create 0)

def BarrierReachable (cfg : BarrierConfig) (s : BarrierPool cfg) : Prop :=
  (barrierProgram cfg).Steps (barrierInitial cfg) s

end SchedulingEngine
