import Mathlib.Algebra.Order.BigOperators.Group.Finset
import SchedulingEngine.Scheduler.Counters

/-!
# Lifetimes

A wrapper (`Scheduler` in scheduler.h) holds no implementation, or one that
`scheduler_init` made and `scheduler_destroy` will free; in between is one lifetime.

- `StateMove` lists the assignments of `state` that a lifetime can see, and `StatePath`
  the paths they make.
- `ControllerPc.rejects` is where a lifecycle call stands that will answer
  `INVALID_ARGUMENT` or `INVALID_STATE`; up to there it has only taken and given back
  `lifecycle_mutex`.
- `WrapperSteps` are the runs over any number of lifetimes.
-/

namespace SchedulingEngine

open Concurrency

variable {W : ℕ} {C P : Type}

/-! ## The path of the states -/

/-- The assignments of `state`. -/
inductive StateMove : SchedulerState → SchedulerState → Prop where
  | start : StateMove .initialized .starting
  | unwind : StateMove .starting .initialized
  | run : StateMove .starting .running
  | abort : StateMove .starting .failed
  | shutdown : StateMove .running .shuttingDown
  | stop : StateMove .shuttingDown .stopped
  | fail : StateMove .shuttingDown .failed
  | retry : StateMove .failed .failed
  | recover : StateMove .failed .stopped

/-- `STARTING` is seen inside `scheduler_start` only, and assigning the same state again
is no move. -/
def extendPath (path : List SchedulerState) (state : SchedulerState) : List SchedulerState :=
  if state = .starting ∨ path.getLast? = some state then path else path ++ [state]

/-- The states that a lifetime went through. -/
def statePath (states : List SchedulerState) : List SchedulerState := states.foldl extendPath []

/-- The paths that end in a state, and how often `RUNNING` was assigned on them. -/
inductive StatePath : SchedulerState → List SchedulerState → ℕ → Prop where
  | initialized : StatePath .initialized [.initialized] 0
  | starting : StatePath .starting [.initialized] 0
  | running : StatePath .running [.initialized, .running] 1
  | shuttingDown : StatePath .shuttingDown [.initialized, .running, .shuttingDown] 1
  | aborted : StatePath .failed [.initialized, .failed] 0
  | failed : StatePath .failed [.initialized, .running, .shuttingDown, .failed] 1
  | stoppedAborted : StatePath .stopped [.initialized, .failed, .stopped] 0
  | stopped : StatePath .stopped [.initialized, .running, .shuttingDown, .stopped] 1
  | stoppedFailed :
    StatePath .stopped [.initialized, .running, .shuttingDown, .failed, .stopped] 1

/-- A lifetime extends its path by a move. -/
theorem StatePath.move {state state' : SchedulerState} {path : List SchedulerState} {n : ℕ}
    (h : StatePath state path n) (hmove : StateMove state state') :
    StatePath state' (extendPath path state') (n + if state' = .running then 1 else 0) := by
  cases hmove <;> cases h <;> constructor

/-- `RUNNING` is assigned once at most. -/
theorem StatePath.running_le {state : SchedulerState} {path : List SchedulerState} {n : ℕ}
    (h : StatePath state path n) : n ≤ 1 := by
  cases h <;> decide

/-- Every path begins one of the three full ones. -/
theorem StatePath.begins {state : SchedulerState} {path : List SchedulerState} {n : ℕ}
    (h : StatePath state path n) :
    path <+: [.initialized, .failed, .stopped] ∨
      path <+: [.initialized, .running, .shuttingDown, .stopped] ∨
      path <+: [.initialized, .running, .shuttingDown, .failed, .stopped] := by
  cases h <;> decide

/-- The states assigned so far lead to the state. -/
def Scheduler.OnPath (sh : Scheduler W C P) : Prop :=
  StatePath sh.lifecycle.state (statePath sh.history.states)
    (sh.history.states.count .running)

/-- What a step does to the state and to its history. -/
inductive Assigns (sh sh' : Scheduler W C P) : Prop where
  | keep (hstate : sh'.lifecycle.state = sh.lifecycle.state)
      (hstates : sh'.history.states = sh.history.states)
  | move (hmove : StateMove sh.lifecycle.state sh'.lifecycle.state)
      (hstates : sh'.history.states = sh.history.states ++ [sh'.lifecycle.state])

/-- An assignment of the next state goes on along the path. -/
theorem Assigns.onPath {sh sh' : Scheduler W C P} (h : Assigns sh sh') (hpath : sh.OnPath) :
    sh'.OnPath := by
  unfold Scheduler.OnPath at hpath ⊢
  cases h with
  | keep hstate hstates => rwa [hstate, hstates]
  | move hmove hstates =>
    have hnext := hpath.move hmove
    rw [hstates, statePath, List.foldl_append, List.count_append, List.count_singleton]
    simpa [statePath, beq_iff_eq] using hnext

section Steps

variable [DecidableEq C] {cfg : SchedulerConfig W} {t : Thread W C}
  {choice : SchedulerChoice W C P} {sh : Scheduler W C P}

/-- Submissions and captures set no state. -/
theorem CallStepSpec.states {pc : CallPc P} {out : SchedulerStep W C P (CallPc P)}
    (h : CallStepSpec cfg t choice sh pc out) : out.1.history.states = sh.history.states := by
  cases h with
  | enqueue kind task hq => rw [hq.frame]
  | captureQueue temporary hq => rw [hq.frame]
  | _ => rfl

/-- Only the controller sets the state. -/
theorem SchedulerStepSpec.states {pc : SchedulerPc W P}
    {out : SchedulerStep W C P (SchedulerPc W P)} (h : SchedulerStepSpec cfg choice sh t pc out)
    (ht : t ≠ .controller) : out.1.history.states = sh.history.states := by
  cases h with
  | call c h => exact h.states
  | worker i h =>
    cases h with
    | dequeue hq => rw [hq.frame]
    | call task runningAccounted hcall => exact hcall.states
    | queueShutdown r hq => rw [hq.frame]
    | _ => rfl
  | controller h => exact absurd rfl ht

/-- **A lifecycle call assigns `state` by the moves of a lifetime.** -/
theorem ControllerStepSpec.assigns {pc : ControllerPc P}
    {out : SchedulerStep W C P (ControllerPc P)}
    (h : ControllerStepSpec cfg choice sh pc out) (hphase : (pc.phase W).Ok sh) :
    Assigns sh out.1 := by
  have hmove : ∀ {state state' : SchedulerState}, sh.lifecycle.state = state →
      StateMove state state' → Assigns sh ((sh.lockLifecycle .controller).setState state') := by
    rintro state state' rfl hmove
    exact .move hmove rfl
  cases h with
  | start hfree hstate => exact hmove hstate .start
  | allocationFailed sh' hsh hfail => subst hsh; exact .keep rfl rfl
  | allocated sh' hsh hthreads hcontexts => subst hsh; exact .keep rfl rfl
  | run hfree => exact hmove hphase.1 .run
  | abortQueue hq => rw [hq.frame]; exact .keep rfl rfl
  | setState state call r hfree =>
    -- the phase says under which state the call got here
    cases state with
    | initialized =>
      cases call with
      | start => exact hmove hphase.1 .unwind
      | _ => exact hphase.elim
    | failed =>
      cases call with
      | start => exact hmove hphase.1 .abort
      | join =>
        rcases hphase.1 with hstate | hstate
        · exact hmove hstate .fail
        · exact hmove hstate .retry
      | _ => exact hphase.elim
    | stopped =>
      cases call with
      | join =>
        rcases hphase.1 with hstate | hstate
        · exact hmove hstate .stop
        · exact hmove hstate .recover
      | _ => exact hphase.elim
    | _ => exact hphase.elim
  | shutdownRunning hfree hstate => exact hmove hstate .shutdown
  | shutdownQueue hq => rw [hq.frame]; exact .keep rfl rfl
  | _ => exact .keep rfl rfl

end Steps

section Reachable

variable [DecidableEq C] [Fintype C] {cfg : SchedulerConfig W} {t : Thread W C}
  {choice : SchedulerChoice W C P} {s s' : SchedulerPool W C P}

/-- Every step assigns the next state or none. -/
theorem SchedulerReachable.assigns (h : SchedulerReachable cfg s)
    (hstep : (schedulerProgram cfg).step t choice s = some s') : Assigns s.shared s'.shared := by
  rcases h.step_cases hstep with ⟨ht, hframe⟩ | ⟨rfl, pc, pc', fx, hpc, hspec, -⟩
  · obtain ⟨pc, fx, hspec, -⟩ := h.threads.step_spec hstep
    exact .keep hframe.state (hspec.states ht)
  · exact hspec.assigns (h.lifecycle.phase hpc)

/-- **All states ever set lie on one path.** -/
theorem SchedulerReachable.onPath (h : SchedulerReachable cfg s) : s.shared.OnPath :=
  h.invariant (fun _ _ => .initialized) fun hu hpath hstep => (hu.assigns hstep).onPath hpath

end Reachable

/-! ## Between two lifecycle calls -/

/-- Between two lifecycle calls: the last one has returned. -/
def ControllerPc.between : ControllerPc P → Bool
  | .idle | .returned _ _ | .faultReturned _ => true
  | _ => false

def SchedulerPc.between : SchedulerPc W P → Bool
  | .controller pc => pc.between
  | _ => false

/-- What holds between two lifecycle calls, state by state. -/
structure BetweenCalls (s : SchedulerPool W C P) : Prop where
  not_starting : s.shared.lifecycle.state ≠ .starting
  initialized : s.shared.lifecycle.state = .initialized →
    (∀ i, s.pc (.worker i) = .worker i .notCreated) ∧ s.shared.worker.threads = none ∧
      s.shared.worker.workerContexts = none ∧ s.shared.lifecycle.workerSyncInitialized = false ∧
      s.shared.queue.shutdownRequested = false ∧ taskQueueSize s.shared.queue.queue = 0
  running : s.shared.lifecycle.state = .running →
    s.shared.worker.startedWorkerCount = W ∧ s.shared.worker.createdWorkerCount = W ∧
      s.shared.worker.readyWorkerCount = W
  closed : s.shared.lifecycle.state = .shuttingDown ∨ s.shared.lifecycle.state = .stopped ∨
    s.shared.lifecycle.state = .failed → s.shared.queue.shutdownRequested = true
  gone : s.shared.lifecycle.state = .stopped ∨
    s.shared.lifecycle.state = .failed ∧ s.shared.worker.threads = none →
    (∀ i wpc, s.pc (.worker i) = .worker i wpc → wpc.alive = false) ∧
      s.shared.lifecycle.activeSubmitterCount = 0

section Between

variable [DecidableEq C] [Fintype C] {cfg : SchedulerConfig W} {t : Thread W C}
  {choice : SchedulerChoice W C P} {s s' : SchedulerPool W C P}

theorem WorkerPc.ready_le_one (pc : WorkerPc P) : pc.ready ≤ 1 := by
  cases pc <;> first | exact Nat.le_refl _ | exact Nat.zero_le _

/-- There are `W` workers to be ready. -/
theorem SchedulerReachable.ready_le (h : SchedulerReachable cfg s) (hunfolded : s.shared.Unfolded) :
    s.shared.worker.readyWorkerCount ≤ W := by
  rw [h.lifecycle.ready hunfolded,
    total_workers h.threads.runs SchedulerPc.ready (fun _ => rfl) fun _ => rfl]
  have hle : ∀ i ∈ Finset.univ, (s.pc (.worker i)).ready ≤ 1 := by
    intro i _
    obtain ⟨wpc, hwpc⟩ := h.threads.workerPc i
    rw [hwpc]
    exact wpc.ready_le_one
  simpa using Finset.sum_le_card_nsmul Finset.univ _ 1 hle

/-- Nothing was inserted into the queue of a scheduler without workers. -/
theorem SchedulerReachable.queue_empty (h : SchedulerReachable cfg s)
    (hcreated : s.shared.worker.createdWorkerCount < W) :
    taskQueueSize s.shared.queue.queue = 0 := by
  obtain ⟨hadmitted, haccepted⟩ := h.gate.unopened hcreated
  have hinserted := h.accounts.inserted
  have hzero : Program.total SchedulerPc.inFlight s.pc = 0 :=
    Finset.sum_eq_zero fun u _ => CallPc.inFlight_eq_zero (hadmitted u)
  rw [hzero, haccepted, add_zero] at hinserted
  have hlength := h.inserted_removed
  rw [(Multiset.coe_eq_zero _).mp hinserted, List.length_nil] at hlength
  omega

omit [DecidableEq C] [Fintype C] in
/-- Between two calls the scheduler is settled. -/
theorem ControllerPc.phase_between {pc : ControllerPc P} (h : pc.between = true) :
    pc.phase W = .settled := by
  cases pc with
  | idle => rfl
  | returned call r => rfl
  | faultReturned configured => rfl
  | _ => cases h

/-- **The state says what there is**, between two lifecycle calls. -/
theorem SchedulerReachable.betweenCalls (h : SchedulerReachable cfg s)
    (hbetween : (s.pc .controller).between = true) : BetweenCalls s := by
  obtain ⟨pc, hpc⟩ := h.threads.controllerPc
  rw [hpc] at hbetween
  have hsettled : s.shared.Settled := by
    have hphase := h.lifecycle.phase hpc
    rwa [ControllerPc.phase_between hbetween] at hphase
  have hdead : s.shared.crew.Released →
      ∀ i wpc, s.pc (.worker i) = .worker i wpc → wpc.alive = false :=
    fun hreleased i wpc hwpc => h.released hreleased hwpc
  refine ⟨?_, ?_, ?_, ?_, ?_⟩
  · intro hstate
    exact hsettled.of_state hstate
  · intro hstate
    -- initialised: no workers and an empty open queue
    obtain ⟨hempty, hsync, hopen, -⟩ := hsettled.of_state hstate
    have hcreated : s.shared.worker.createdWorkerCount = 0 := hempty.created
    refine ⟨fun i => ?_, hempty.threads, ?_, hsync.1, Bool.not_eq_true _ ▸ hopen,
      h.queue_empty (hcreated.trans_lt h.1)⟩
    · obtain ⟨wpc, hwpc⟩ := h.threads.workerPc i
      rw [hwpc, (h.lifecycle.worker hwpc).created.mpr (hcreated.trans_le (Nat.zero_le _))]
    · exact Option.isNone_iff_eq_none.mp (Option.isSome_eq_false_iff.mp hempty.contexts)
  · intro hstate
    -- running: all workers created and ready
    obtain ⟨hpopulated, -, hready⟩ := hsettled.of_state hstate
    exact ⟨hpopulated.started, hpopulated.created,
      Nat.le_antisymm (h.ready_le (.inr hpopulated.contexts)) hready⟩
  · rintro (hstate | hstate | hstate)
    · exact (hsettled.of_state hstate).2.2
    · exact (hsettled.of_state hstate).2.2.1
    · exact (hsettled.of_state hstate).2.2.1
  · rintro (hstate | ⟨hstate, hnull⟩)
    · obtain ⟨hreleased, -, -, hquiet⟩ := hsettled.of_state hstate
      exact ⟨hdead hreleased, hquiet⟩
    · obtain ⟨hreleasable, -, -, hquiet⟩ := hsettled.of_state hstate
      refine ⟨hdead ?_, hquiet⟩
      rcases hreleasable with hreleased | ⟨k, hpopulated⟩
      · exact hreleased
      · have hsome : s.shared.worker.threads.isSome = true := hpopulated.threads
        rw [hnull] at hsome
        cases hsome

end Between

/-! ## Rejected calls -/

/-- `INVALID_ARGUMENT` and `INVALID_STATE`. -/
def SchedulerResult.isInvalid : SchedulerResult → Bool
  | .errorInvalidArgument | .errorInvalidState => true
  | _ => false

/-- A lifecycle call has returned and its answer was not read yet. -/
def ControllerPc.answered : ControllerPc P → Bool
  | .returned _ _ | .faultReturned _ => true
  | _ => false

def SchedulerPc.answered : SchedulerPc W P → Bool
  | .controller pc => pc.answered
  | _ => false

/-- Where a lifecycle call stands that may still be rejected, or was. -/
def ControllerPc.rejects : ControllerPc P → Bool
  | .idle | .startLock | .startUnlock false | .shutdownLock | .shutdownUnlock
    (some .errorInvalidState)
  | .joinLock | .joinUnlock .errorInvalidState | .destroyLock | .destroyUnlock false => true
  | .returned _ r => r.isInvalid
  | _ => false

def SchedulerPc.rejects : SchedulerPc W P → Bool
  | .controller pc => pc.rejects
  | _ => false

/-- A call that has passed its checks does not answer with a rejection, and one that has
not is in the wrong state. -/
def ControllerPc.Genuine : ControllerPc P → Prop
  | .shutdownUnlock (some r) | .joinUnlock r => r ≠ .errorInvalidArgument
  | .setStateLock _ _ r | .setStateUnlock _ r | .releaseJoin _ _ r _ | .releaseLock _ _ _ r _
  | .releaseUnlock _ _ _ r _ | .foldLock _ r | .foldUnlock _ r | .drainLock (.shutdown r)
  | .drainWait (.shutdown r) | .drainAsleep (.shutdown r) | .drainWoken (.shutdown r)
  | .drainUnlock (.shutdown r) _ => r.isInvalid = false
  | _ => True

def SchedulerPc.Genuine : SchedulerPc W P → Prop
  | .controller pc => pc.Genuine
  | _ => True

theorem ControllerPc.rejects_wake (pc : ControllerPc P) : pc.wake.rejects = pc.rejects := by
  cases pc <;> rfl

theorem ControllerPc.genuine_wake (pc : ControllerPc P) : pc.wake.Genuine = pc.Genuine := by
  cases pc with
  | drainAsleep caller => cases caller <;> rfl
  | _ => rfl

section Rejects

variable [DecidableEq C] {cfg : SchedulerConfig W} {choice : SchedulerChoice W C P}
  {sh : Scheduler W C P}

omit [DecidableEq C] in
/-- The wait for the submitters keeps the answer of the call. -/
theorem drainTest_genuine (sh : Scheduler W C P) {caller : DrainCaller}
    (h : (ControllerPc.drainLock caller : ControllerPc P).Genuine) :
    (drainTest sh caller : ControllerPc P).Genuine := by
  rcases drainTest_cases sh caller with ⟨hpc, -⟩ | ⟨hpc, -⟩ <;> rw [hpc] <;>
    cases caller <;> exact h

omit [DecidableEq C] in
/-- So does setting the state behind it. -/
theorem afterRelease_genuine (sh : Scheduler W C P) (caller : ReleaseCaller) {r : SchedulerResult}
    (h : r.isInvalid = false) : (afterRelease sh caller r : ControllerPc P).Genuine := by
  cases caller with
  | abort => rfl
  | join =>
    unfold afterRelease
    dsimp only
    split
    · rfl
    · exact h

/-- A call is rejected at its first check or not at all. -/
theorem ControllerStepSpec.genuine {pc : ControllerPc P}
    {out : SchedulerStep W C P (ControllerPc P)}
    (h : ControllerStepSpec cfg choice sh pc out) (hgenuine : pc.Genuine) : out.2.1.Genuine := by
  cases h with
  | call call pc hcall => rcases beginCall_quiet hcall with rfl | rfl | rfl | rfl | rfl <;> trivial
  -- past its first check a call fails with an error of the system or of memory
  | sizeGuard hsize => rfl
  | allocationFailed sh' hsh hfail => rfl
  | syncInitFailed mutexInitialized hmutex hfail => rfl
  | readyLock hfree hinit =>
    rcases readyTest_cases sh with ⟨hpc, -⟩ | ⟨hpc, -⟩ <;> rw [hpc] <;> trivial
  | readyAgain hfree hinit =>
    rcases readyTest_cases sh with ⟨hpc, -⟩ | ⟨hpc, -⟩ <;> rw [hpc] <;> trivial
  | abortQueue hq =>
    cases hq with
    | run hact hleave => trivial
    | leave op r => rfl
  | releaseSkip caller i result allJoined hindex hskip => exact hgenuine
  | releaseNativeFailed caller i result allJoined hfail hindex => rfl
  | releaseInjected caller i result allJoined faultPlan workerResult hfault hindex => rfl
  | releaseFailedWorker caller i result allJoined faultPlan workerResult hresult hindex => rfl
  | releaseJoined caller i result allJoined faultPlan hindex => exact hgenuine
  | releaseDone caller index result hindex =>
    show SchedulerResult.isInvalid _ = false
    split
    · rfl
    · exact hgenuine
  | releaseIncomplete caller index result hindex => exact afterRelease_genuine sh caller rfl
  | releaseLock caller index event result allJoined hfree hinit => exact hgenuine
  | releaseUnlockFailed caller i result allJoined hheld => exact hgenuine
  | releaseUnlock caller i event result allJoined hevent hheld => exact hgenuine
  | fold caller result worker hfree hinit hfold => exact hgenuine
  | foldUnlock caller result hheld => exact afterRelease_genuine sh caller hgenuine
  | setState state call r hfree => exact hgenuine
  | shutdownQueue hq =>
    cases hq with
    | run hact hleave => trivial
    | leave op r =>
      show (mapQueueShutdownResult r.result).isInvalid = false
      cases r.result <;> rfl
  -- the answer is carried along while the submitters drain
  | drainLock caller hfree => exact drainTest_genuine sh hgenuine
  | drainWait caller hheld => cases caller <;> exact hgenuine
  | drainSpurious caller => cases caller <;> exact hgenuine
  | drainAgain caller hfree => exact drainTest_genuine sh (by cases caller <;> exact hgenuine)
  | drainFailed caller hfree hfail => cases caller <;> exact hgenuine
  | joinDrained hheld => rfl
  | join hfree hstate => exact drainTest_genuine sh trivial
  -- these are the first checks themselves
  | shutdownStopped hfree hstate => exact nofun
  | shutdownRefused hfree hstate => exact nofun
  | joinStopped hfree hstate => exact nofun
  | joinRefused hfree hstate => exact nofun
  | _ => trivial

/-- Other threads leave the call where it is. -/
theorem SchedulerStepSpec.genuine {t : Thread W C} {pc : SchedulerPc W P}
    {out : SchedulerStep W C P (SchedulerPc W P)} (h : SchedulerStepSpec cfg choice sh t pc out)
    (hgenuine : pc.Genuine) : out.2.1.Genuine := by
  cases h with
  | call c h => trivial
  | worker i h => trivial
  | controller h => exact h.genuine hgenuine

/-- **A call that is rejected has changed nothing but the owner of `lifecycle_mutex`.** -/
theorem ControllerStepSpec.rejects {pc : ControllerPc P}
    {out : SchedulerStep W C P (ControllerPc P)}
    (h : ControllerStepSpec cfg choice sh pc out) (hgenuine : pc.Genuine)
    (hanswered : pc.answered = false) (hrejects : out.2.1.rejects = true) :
    pc.rejects = true ∧ out.1.unlockLifecycle = sh.unlockLifecycle := by
  -- no later stage of a call can be rejected any more
  have hdrain : ∀ {caller : DrainCaller},
      (drainTest sh caller : ControllerPc P).rejects ≠ true := by
    intro caller
    rcases drainTest_cases sh caller with ⟨hpc, -⟩ | ⟨hpc, -⟩ <;> rw [hpc] <;> nofun
  have hready : (readyTest sh : ControllerPc P).rejects ≠ true := by
    rcases readyTest_cases sh with ⟨hpc, -⟩ | ⟨hpc, -⟩ <;> rw [hpc] <;> nofun
  have hrelease : ∀ {sh : Scheduler W C P} {caller : ReleaseCaller} {r : SchedulerResult},
      (afterRelease sh caller r : ControllerPc P).rejects ≠ true := by
    intro sh caller r
    obtain ⟨state, call, r', hpc⟩ := afterRelease_cases sh caller r
    rw [hpc]
    nofun
  cases h with
  | call call pc hcall => exact ⟨rfl, rfl⟩
  | callNull call => exact ⟨rfl, rfl⟩
  | faultNull => exact ⟨rfl, rfl⟩
  | returned call r => cases hanswered
  -- a rejected call takes the mutex, looks at the state and gives the mutex back
  | startRefused hfree hstate => exact ⟨rfl, rfl⟩
  | startRefusedUnlock hheld => exact ⟨rfl, rfl⟩
  | shutdownStopped hfree hstate => cases hrejects
  | shutdownRefused hfree hstate => exact ⟨rfl, rfl⟩
  | shutdownAnswered r hheld =>
    cases r with
    | errorInvalidState => exact ⟨rfl, rfl⟩
    | errorInvalidArgument => exact absurd rfl hgenuine
    | _ => cases hrejects
  | joinStopped hfree hstate => cases hrejects
  | joinRefused hfree hstate => exact ⟨rfl, rfl⟩
  | joinUnlock answer hheld =>
    cases answer with
    | errorInvalidState => exact ⟨rfl, rfl⟩
    | errorInvalidArgument => exact absurd rfl hgenuine
    | _ => cases hrejects
  | destroyLock hfree => exact ⟨rfl, rfl⟩
  | destroyRefused hheld => exact ⟨rfl, rfl⟩
  | readyLock hfree hinit => exact absurd hrejects hready
  | readyAgain hfree hinit => exact absurd hrejects hready
  | abortQueue hq => cases hq <;> cases hrejects
  | releaseIncomplete caller index result hindex => exact absurd hrejects hrelease
  | foldUnlock caller result hheld => exact absurd hrejects hrelease
  | setStateUnlock call r hcall hheld => exact absurd (hrejects.symm.trans hgenuine) nofun
  | joinAnswered r hheld => exact absurd (hrejects.symm.trans hgenuine) nofun
  | shutdownQueue hq => cases hq <;> cases hrejects
  | drainLock caller hfree => exact absurd hrejects hdrain
  | drainAgain caller hfree => exact absurd hrejects hdrain
  | shutdownDrained result hheld => exact absurd (hrejects.symm.trans hgenuine) nofun
  | join hfree hstate => exact absurd hrejects hdrain
  | faultReturned configured => cases hanswered
  | _ => cases hrejects

end Rejects

section Runs

variable [DecidableEq C] [Fintype C] {cfg : SchedulerConfig W} {t : Thread W C}
  {choice : SchedulerChoice W C P} {s s' : SchedulerPool W C P}

omit [Fintype C] in
theorem rejects_blind : (schedulerProgram (C := C) (P := P) cfg).Blind SchedulerPc.rejects := by
  refine schedulerProgram_blind (fun pc => ?_) fun _ => rfl
  cases pc with
  | controller pc => exact pc.rejects_wake
  | _ => rfl

/-- In every reachable state a rejection is one of the first check. -/
theorem SchedulerReachable.genuine (h : SchedulerReachable cfg s) : (s.pc .controller).Genuine := by
  have hall : ∀ u, (s.pc u).Genuine := by
    refine h.invariant (I := fun s => ∀ u, (s.pc u).Genuine) ?_ ?_
    · rintro queue - (_ | i | c) <;> trivial
    · intro u u' t choice hu hgenuine hstep
      obtain ⟨pc, fx, hspec, hfx⟩ := hu.threads.step_spec hstep
      refine Program.forall_step (fun _ _ (pc : SchedulerPc W P) => pc.Genuine) ?_ hfx ?_
        (fun _ _ hv => hv) hgenuine
      · intro v sh
        refine schedulerProgram_blind (fun pc => ?_) fun _ => rfl
        cases pc with
        | controller pc => exact pc.genuine_wake
        | _ => rfl
      · exact hspec.genuine (hgenuine t)
  exact hall .controller

/-- One step towards a rejection. -/
theorem SchedulerReachable.rejects_step (h : SchedulerReachable cfg s)
    (hstep : (schedulerProgram cfg).step t choice s = some s')
    (hanswered : t = .controller → (s.pc .controller).answered = false)
    (hrejects : (s'.pc .controller).rejects = true) :
    (s.pc .controller).rejects = true ∧
      (t = .controller → s'.shared.unlockLifecycle = s.shared.unlockLifecycle) := by
  rcases h.step_cases hstep with ⟨ht, -⟩ | ⟨rfl, pc, pc', fx, hpc, hspec, hfx⟩
  · obtain ⟨pc, fx, -, hfx⟩ := h.threads.step_spec hstep
    obtain ⟨-, hother⟩ := Program.step_blind rejects_blind hfx
    rw [hother _ (Ne.symm ht)] at hrejects
    exact ⟨hrejects, fun heq => absurd heq ht⟩
  · obtain ⟨hself, -⟩ := Program.step_blind rejects_blind hfx
    rw [hself] at hrejects
    have hgenuine := h.genuine
    have hbefore := hanswered rfl
    rw [hpc] at hgenuine hbefore ⊢
    obtain ⟨hfirst, hshared⟩ := hspec.rejects hgenuine hbefore hrejects
    exact ⟨hfirst, fun _ => hshared⟩

/-- **A rejected call leaves the scheduler as it is**: none of its steps changes anything
but the owner of `lifecycle_mutex`, whatever the other threads do meanwhile. -/
theorem SchedulerReachable.rejected (h : SchedulerReachable cfg s)
    {ls : List (Thread W C × SchedulerChoice W C P)}
    (hrun : (schedulerProgram cfg).run ls s = some s')
    (hcall : (schedulerProgram cfg).Every
      (fun u t _ => t = .controller → (u.pc .controller).answered = false) ls s)
    (hrejects : (s'.pc .controller).rejects = true) :
    (s.pc .controller).rejects = true ∧
      (schedulerProgram cfg).Every
        (fun u t u' => t = .controller → u'.shared.unlockLifecycle = u.shared.unlockLifecycle)
        ls s := by
  induction ls generalizing s with
  | nil =>
    cases hrun
    exact ⟨hrejects, trivial⟩
  | cons l ls ih =>
    obtain ⟨t, choice⟩ := l
    obtain ⟨u, hu, hrun⟩ := Option.bind_eq_some_iff.mp hrun
    obtain ⟨hanswered, hcall⟩ := hcall u hu
    obtain ⟨hnext, hevery⟩ := ih (h.tail (.single ⟨_, _, hu⟩)) hrun hcall
    obtain ⟨hfirst, hshared⟩ := h.rejects_step hu hanswered hnext
    refine ⟨hfirst, fun u' hu' => ?_⟩
    obtain rfl : u = u' := Option.some.inj (hu.symm.trans hu')
    exact ⟨hshared, hevery⟩

end Runs

end SchedulingEngine
