import SchedulingEngine.Concurrency.Simulation
import SchedulingEngine.Scheduler.Unreachable

/-!
# Lifecycle calls as a sequential machine

Workers and submitters run while a lifecycle call does, and a call takes its mutexes and gives
them back many times. The client that makes the calls one after the other sees a machine with a
few stages instead: `Stage.Answers` says which answers a call can give at a stage and where it
leads, and the answers of every run are a word of it (`lifecycle_answers_sequential`). What is left
open depends on what the backend may refuse (`Hazards`). Where it refuses nothing, stage and call
determine the answer (`Stage.call`).
-/

namespace SchedulingEngine

open Concurrency

variable {W : ℕ} {C P : Type}

/-! ## The machine -/

/-- Where a lifetime stands between two lifecycle calls. A failed scheduler is `released` once its
workers are joined and their arrays freed. -/
inductive Stage where
  | initialized
  | running
  | shuttingDown
  | stopped
  | failed (released : Bool)
  | destroyed
  deriving DecidableEq

/-- What may go wrong: an allocation, the creation of `worker_mutex` or `worker_condition`, the
start of the workers, a condition wait, a native join, and the fault plan at a native join. -/
structure Hazards where
  allocation : Prop
  syncInit : Prop
  startup : Prop
  wait : Prop
  join : Prop
  injectedJoin : Prop

/-- What a configuration admits. -/
def SchedulerConfig.hazards (cfg : SchedulerConfig W) : Hazards where
  allocation := cfg.allocationMayFail = true ∨ cfg.faultInjection = true ∨
    W > sizeMax / schedThreadSize ∨ W > sizeMax / workerContextSize
  syncInit := cfg.syncInitMayFail = true
  startup := cfg.createMayFail = true ∨ cfg.faultInjection = true ∨ cfg.waitMayFail = true
  wait := cfg.waitMayFail = true
  join := cfg.joinMayFail = true
  injectedJoin := cfg.faultInjection = true

/-- Nothing goes wrong. -/
structure Hazards.Absent (may : Hazards) : Prop where
  allocation : ¬may.allocation
  syncInit : ¬may.syncInit
  startup : ¬may.startup
  wait : ¬may.wait
  join : ¬may.join
  injectedJoin : ¬may.injectedJoin

namespace Stage

/-- A join goes on to release the workers. -/
def joinable : Stage → Bool
  | .shuttingDown | .failed _ => true
  | _ => false

/-- A shutdown goes on to close the queue. -/
def closable : Stage → Bool
  | .running | .shuttingDown => true
  | _ => false

/-- A destroy is refused. -/
def occupied : Stage → Bool
  | .running | .shuttingDown | .failed false => true
  | _ => false

/-- A lifecycle call at a stage, its answer, and the stage after it. -/
inductive Answers (may : Hazards) : Stage → LifecycleCall × SchedulerResult → Stage → Prop where
  | start : Answers may .initialized (.start, .ok) .running
  | startNoMemory (hmay : may.allocation) :
      Answers may .initialized (.start, .errorAllocation) .initialized
  | startNoSync (hmay : may.syncInit) :
      Answers may .initialized (.start, .errorSystem) .initialized
  | startAborted (released : Bool) (hmay : may.startup) (hjoin : released = false → may.join) :
      Answers may .initialized (.start, .errorSystem) (.failed released)
  | startRefused {stage : Stage} (hstage : stage ≠ .initialized) (hlive : stage ≠ .destroyed) :
      Answers may stage (.start, .errorInvalidState) stage
  | shutdown {stage : Stage} (hstage : stage.closable = true) :
      Answers may stage (.shutdown, .ok) .shuttingDown
  | shutdownFailed {stage : Stage} (hstage : stage.closable = true) (hmay : may.wait) :
      Answers may stage (.shutdown, .errorSystem) .shuttingDown
  | shutdownStopped : Answers may .stopped (.shutdown, .ok) .stopped
  | shutdownRefused {stage : Stage} (hstage : stage.closable = false) (hstopped : stage ≠ .stopped)
      (hlive : stage ≠ .destroyed) : Answers may stage (.shutdown, .errorInvalidState) stage
  | join {stage : Stage} (hstage : stage.joinable = true) : Answers may stage (.join, .ok) .stopped
  | joinTroubled {stage : Stage} (hstage : stage.joinable = true)
      (hmay : may.wait ∨ may.injectedJoin) : Answers may stage (.join, .errorSystem) .stopped
  | joinIncomplete {stage : Stage} (hstage : stage.joinable = true)
      (hunreleased : stage ≠ .failed true) (hmay : may.join) :
      Answers may stage (.join, .errorSystem) (.failed false)
  | joinGivesUp (hmay : may.wait) :
      Answers may .shuttingDown (.join, .errorSystem) .shuttingDown
  | joinStopped : Answers may .stopped (.join, .ok) .stopped
  | joinRefused {stage : Stage} (hstage : stage.joinable = false) (hstopped : stage ≠ .stopped)
      (hlive : stage ≠ .destroyed) : Answers may stage (.join, .errorInvalidState) stage
  | destroy {stage : Stage} (hstage : stage.occupied = false) (hlive : stage ≠ .destroyed) :
      Answers may stage (.destroy, .ok) .destroyed
  | destroyRefused {stage : Stage} (hstage : stage.occupied = true) :
      Answers may stage (.destroy, .errorInvalidState) stage

/-- The machine where nothing goes wrong. -/
def call : Stage → LifecycleCall → Option (SchedulerResult × Stage)
  | .initialized, .start => some (.ok, .running)
  | .running, .shutdown | .shuttingDown, .shutdown => some (.ok, .shuttingDown)
  | .shuttingDown, .join | .failed _, .join | .stopped, .join => some (.ok, .stopped)
  | .stopped, .shutdown => some (.ok, .stopped)
  | .initialized, .destroy | .stopped, .destroy | .failed true, .destroy => some (.ok, .destroyed)
  | .destroyed, _ | _, .faultConfigure _ _ | _, .faultReset => none
  | stage, _ => some (.errorInvalidState, stage)

/-- A call that gives this answer. -/
def reply (stage : Stage) (answer : LifecycleCall × SchedulerResult) : Option Stage :=
  (stage.call answer.1).bind fun (r, stage) => if r = answer.2 then some stage else none

/-- **Where nothing goes wrong, stage and call determine the answer.** Once the workers were
started, allocations and creations do not matter. -/
theorem Answers.reply {may : Hazards} {stage stage' : Stage}
    {answer : LifecycleCall × SchedulerResult} (h : stage.Answers may answer stage')
    (habsent : stage ≠ .initialized ∨ ¬may.allocation ∧ ¬may.syncInit ∧ ¬may.startup)
    (hwait : ¬may.wait) (hjoin : ¬may.join) (hinjected : ¬may.injectedJoin) :
    stage.reply answer = some stage' := by
  -- a start is the only call with several answers, and its failures are excluded
  have hstart : stage = .initialized → ¬may.allocation ∧ ¬may.syncInit ∧ ¬may.startup :=
    fun hstage => habsent.resolve_left (absurd hstage)
  cases h with
  | start => rfl
  | startNoMemory hmay => exact absurd hmay (hstart rfl).1
  | startNoSync hmay => exact absurd hmay (hstart rfl).2.1
  | startAborted released hmay => exact absurd hmay (hstart rfl).2.2
  | startRefused hstage hlive =>
    cases stage with
    | initialized => exact absurd rfl hstage
    | destroyed => exact absurd rfl hlive
    | failed released => cases released <;> rfl
    | _ => rfl
  -- what is left is decided by the stage
  | shutdown hstage => cases stage <;> first | rfl | cases hstage
  | shutdownFailed hstage hmay => exact absurd hmay hwait
  | shutdownStopped => rfl
  | shutdownRefused hstage hstopped hlive =>
    cases stage with
    | stopped => exact absurd rfl hstopped
    | destroyed => exact absurd rfl hlive
    | initialized => rfl
    | failed released => cases released <;> rfl
    | _ => cases hstage
  | join hstage => cases stage <;> first | rfl | cases hstage
  -- the failures of a join are excluded as well
  | joinTroubled hstage hmay => exact absurd hmay (not_or.mpr ⟨hwait, hinjected⟩)
  | joinIncomplete hstage hunreleased hmay => exact absurd hmay hjoin
  | joinGivesUp hmay => exact absurd hmay hwait
  | joinStopped => rfl
  | joinRefused hstage hstopped hlive =>
    cases stage with
    | stopped => exact absurd rfl hstopped
    | destroyed => exact absurd rfl hlive
    | initialized => rfl
    | running => rfl
    | _ => cases hstage
  | destroy hstage hlive =>
    cases stage with
    | destroyed => exact absurd rfl hlive
    | failed released => cases released <;> first | rfl | cases hstage
    | initialized => rfl
    | stopped => rfl
    | _ => cases hstage
  | destroyRefused hstage =>
    cases stage with
    | failed released => cases released <;> first | rfl | cases hstage
    | running => rfl
    | shuttingDown => rfl
    | _ => cases hstage

/-- The stage as `state` and the worker arrays show it. -/
def Shows : Stage → SchedulerState → Bool → Prop
  | .initialized, state, _ => state = .initialized
  | .running, state, _ => state = .running
  | .shuttingDown, state, _ => state = .shuttingDown
  | .stopped, state, _ => state = .stopped
  | .failed released, state, arrays => state = .failed ∧ arrays = !released
  | .destroyed, _, _ => False

end Stage

/-! ## What a call is going to answer -/

namespace Scheduler

variable (may : Hazards) (stage : Stage) (sh : Scheduler W C P)

/-- The scheduler shows the stage. -/
def Shows : Prop := stage.Shows sh.lifecycle.state sh.worker.threads.isSome

/-- The call is about to give this answer. -/
def Owes (call : LifecycleCall) (r : SchedulerResult) : Prop :=
  ∃ stage', stage.Answers may (call, r) stage' ∧ sh.Shows stage'

/-- A shutdown past its state check. -/
def Closing : Prop := stage.closable = true ∧ sh.lifecycle.state = .shuttingDown

/-- A `scheduler_join` past its state check. -/
def Joins : Prop := stage.joinable = true ∧ sh.Shows stage

/-- Inside the loop of `release_workers`. -/
def Releasing (result : SchedulerResult) (allJoined : Bool) : ReleaseCaller → Prop
  | .abort => stage = .initialized ∧ may.startup ∧ (allJoined = false → may.join)
  | .join => sh.Joins stage ∧
      (result = .ok ∨ result = .errorSystem ∧ (allJoined = false ∨ may.wait ∨ may.injectedJoin)) ∧
      (allJoined = false → may.join ∧ sh.worker.threads.isSome = true)

end Scheduler

/-- `release_workers` with all workers joined. -/
def Stage.Released (may : Hazards) (stage : Stage) (result : SchedulerResult) :
    ReleaseCaller → Prop
  | .abort => stage = .initialized ∧ may.startup
  | .join => stage.joinable = true ∧
      (result = .ok ∨ result = .errorSystem ∧ (may.wait ∨ may.injectedJoin))

/-- Where a call stands that was made at a stage, it is going to give one of the answers of
that stage. -/
def ControllerPc.Due (may : Hazards) (stage : Stage) (sh : Scheduler W C P) :
    ControllerPc P → Prop
  | .idle | .returned _ _ | .faultReturned _ | .faultLock _ | .faultUnlock _ | .startLock
  | .shutdownLock | .joinLock | .destroyLock => sh.Shows stage
  | .startUnlock false => sh.Owes may stage .start .errorInvalidState
  | .startUnlock true | .startAllocate | .startSyncInit | .startSyncLock | .startSyncUnlock
  | .createLock _ | .createUnlock _ true | .readyLock | .readyWait | .readyAsleep | .readyWoken
  | .readyUnlock true | .runLock => stage = .initialized
  | .createUnlock _ false | .readyUnlock false | .abortQueue _ =>
    stage = .initialized ∧ may.startup
  | .runUnlock => sh.Owes may stage .start .ok
  | .releaseJoin caller _ r allJoined | .releaseLock caller _ _ r allJoined
  | .releaseUnlock caller _ _ r allJoined => sh.Releasing may stage r allJoined caller
  | .foldLock caller r | .foldUnlock caller r => stage.Released may r caller
  | .setStateLock state call r => ∃ stage', stage.Answers may (call, r) stage' ∧
      stage'.Shows state sh.worker.threads.isSome
  | .setStateUnlock call r => sh.Owes may stage call r
  | .shutdownUnlock (some r) => sh.Owes may stage .shutdown r
  | .shutdownUnlock none => sh.Closing stage
  | .shutdownQueue q => sh.Closing stage ∧ (may.wait ∨ q.ShutsDown)
  | .drainLock (.shutdown r) | .drainWait (.shutdown r) | .drainAsleep (.shutdown r)
  | .drainWoken (.shutdown r) => sh.Closing stage ∧ (r = .ok ∨ r = .errorSystem ∧ may.wait)
  | .drainLock .join => sh.Joins stage
  | .drainWait .join | .drainAsleep .join | .drainWoken .join =>
    stage = .shuttingDown ∧ sh.Shows stage
  | .drainUnlock (.shutdown r) succeeded =>
    sh.Owes may stage .shutdown (if succeeded then r else .errorSystem)
  | .drainUnlock .join true => sh.Joins stage
  | .drainUnlock .join false => sh.Owes may stage .join .errorSystem
  | .joinUnlock r => sh.Owes may stage .join r
  | .destroyUnlock false => sh.Owes may stage .destroy .errorInvalidState
  | .destroyUnlock true => stage.Answers may (.destroy, .ok) .destroyed
  | .destroyFree => stage = .destroyed

/-- The answer that a lifecycle call gives at a step; a call on `NULL` is not one on the
scheduler. -/
def ControllerPc.gives : ControllerPc P → ControllerPc P → List (LifecycleCall × SchedulerResult)
  | .idle, _ => []
  | _, .returned call r => [(call, r)]
  | _, .destroyFree => [(.destroy, .ok)]
  | _, _ => []

theorem ControllerPc.due_wake (may : Hazards) (stage : Stage) (sh : Scheduler W C P)
    (pc : ControllerPc P) : pc.wake.Due may stage sh ↔ pc.Due may stage sh := by
  cases pc with
  | shutdownQueue q => cases q <;> exact Iff.rfl
  | drainAsleep caller => cases caller <;> exact Iff.rfl
  | _ => exact Iff.rfl

theorem ControllerPc.gives_wake (pc pc' : ControllerPc P) : pc.gives pc'.wake = pc.gives pc' := by
  cases pc' <;> cases pc <;> rfl

/-- What is due depends on `state` and on the arrays being there. -/
theorem ControllerPc.Due.congr {may : Hazards} {stage : Stage} {sh sh' : Scheduler W C P}
    {pc : ControllerPc P} (h : pc.Due may stage sh)
    (hstate : sh'.lifecycle.state = sh.lifecycle.state)
    (hthreads : sh'.worker.threads.isSome = sh.worker.threads.isSome) : pc.Due may stage sh' := by
  have hshows : ∀ stage, sh'.Shows stage = sh.Shows stage := by
    intro stage
    unfold Scheduler.Shows
    rw [hstate, hthreads]
  have howes : ∀ call r, sh'.Owes may stage call r = sh.Owes may stage call r := by
    intro call r
    unfold Scheduler.Owes
    simp only [hshows]
  have hclosing : sh'.Closing stage = sh.Closing stage := by
    unfold Scheduler.Closing
    rw [hstate]
  have hjoins : sh'.Joins stage = sh.Joins stage := by
    unfold Scheduler.Joins
    rw [hshows]
  have hreleasing : ∀ r allJoined caller,
      sh'.Releasing may stage r allJoined caller = sh.Releasing may stage r allJoined caller := by
    intro r allJoined caller
    cases caller with
    | abort => rfl
    | join =>
      unfold Scheduler.Releasing
      rw [hjoins, hthreads]
  unfold ControllerPc.Due at h ⊢
  simpa only [hshows, howes, hclosing, hjoins, hreleasing, hthreads] using h

/-! ## One step -/

/-- What may go wrong at a step of the controller is among the hazards. -/
structure Hazards.Cover (may : Hazards) (cfg : SchedulerConfig W) (plan : SchedulerFaultPlan) :
    Prop where
  allocation : cfg.hazards.allocation → may.allocation
  syncInit : cfg.hazards.syncInit → may.syncInit
  startup : cfg.hazards.startup → may.startup
  wait : cfg.hazards.wait → may.wait
  join : cfg.hazards.join → may.join
  injectedJoin : (consultFaultPlan cfg plan .workerJoin).2 = true → may.injectedJoin

section Steps

variable [DecidableEq C] {cfg : SchedulerConfig W} {choice : SchedulerChoice W C P}
  {sh : Scheduler W C P} {f : ClosableFifo P} {may : Hazards} {stage : Stage}

omit [DecidableEq C] in
theorem Scheduler.Shows.at_state {state : SchedulerState} (h : sh.Shows stage)
    (hstate : sh.lifecycle.state = state) : stage.Shows state sh.worker.threads.isSome :=
  hstate ▸ h

omit [DecidableEq C] in
theorem ControllerPc.gives_drainTest (pc : ControllerPc P) (sh : Scheduler W C P)
    (caller : DrainCaller) : pc.gives (drainTest sh caller) = [] := by
  rcases drainTest_cases sh caller with ⟨hpc, -⟩ | ⟨hpc, -⟩
  · rw [hpc]
    cases pc <;> rfl
  · rw [hpc]
    cases pc <;> rfl

omit [DecidableEq C] in
/-- **`scheduler_destroy` is refused where the stage is occupied.** -/
theorem Scheduler.Shows.destroyAccepted (h : sh.Shows stage) (hsettled : sh.Settled)
    (harrays : sh.worker.workerContexts.isSome = sh.worker.threads.isSome) :
    destroyAccepted sh = !stage.occupied := by
  have hquiet : ∀ {state}, sh.lifecycle.state = state →
      state = .initialized ∨ state = .stopped ∨ state = .failed →
      sh.lifecycle.activeSubmitterCount = 0 := by
    rintro state hstate (rfl | rfl | rfl)
    · exact (hsettled.of_state hstate).2.2.2
    · exact (hsettled.of_state hstate).2.2.2
    · exact (hsettled.of_state hstate).2.2.2
  unfold SchedulingEngine.destroyAccepted
  cases stage with
  | initialized =>
    have hempty := (hsettled.of_state h).1
    have hthreads : sh.worker.threads = none := hempty.threads
    simp [show sh.lifecycle.state = _ from h, hquiet h (.inl rfl), harrays,
      hthreads, Stage.occupied]
  | stopped =>
    have hreleased := (hsettled.of_state h).1
    have hthreads : sh.worker.threads = none := hreleased.threads
    simp [show sh.lifecycle.state = _ from h, hquiet h (.inr (.inl rfl)), harrays, hthreads,
      Stage.occupied]
  | failed released =>
    obtain ⟨hstate, hthreads⟩ := h
    cases released <;>
      simp [hstate, hquiet hstate (.inr (.inr rfl)), harrays, hthreads, Stage.occupied]
  | running => simp [show sh.lifecycle.state = _ from h, Stage.occupied]
  | shuttingDown => simp [show sh.lifecycle.state = _ from h, Stage.occupied]
  | destroyed => exact h.elim

/-- **A lifecycle call gives an answer of its stage**: one step of the controller. -/
theorem ControllerStepSpec.due {pc : ControllerPc P} {out : SchedulerStep W C P (ControllerPc P)}
    (h : ControllerStepSpec cfg choice sh pc out) (habs : Abstracts sh.queue f)
    (hphase : (pc.phase W).Ok sh)
    (hoperation : pc.queue.operation = (SchedulerPc.controller pc : SchedulerPc W P).operation)
    (hmay : may.Cover cfg sh.faultPlan)
    (hfailed : sh.worker.infrastructureFailure = true → may.wait)
    (hsound : ∀ i r, .await (.worker i) r ∈ out.2.2 → r ≠ .ok → may.wait)
    (hdue : pc.Due may stage sh) :
    ∃ stage', Trace (Stage.Answers may) stage (pc.gives out.2.1) stage' ∧
      out.2.1.Due may stage' out.1 := by
  -- a step on the way
  have hquiet : ∀ {pc pc' : ControllerPc P} {sh' : Scheduler W C P}, pc.gives pc' = [] →
      pc'.Due may stage sh' →
      ∃ stage', Trace (Stage.Answers may) stage (pc.gives pc') stage' ∧ pc'.Due may stage' sh' :=
    fun hgives hdue => ⟨stage, hgives ▸ .nil stage, hdue⟩
  -- a step that answers
  have hanswer : ∀ {pc : ControllerPc P} {sh' : Scheduler W C P} {call : LifecycleCall}
      {r : SchedulerResult}, sh'.Owes may stage call r →
      pc.gives (.returned call r) = [(call, r)] →
      ∃ stage', Trace (Stage.Answers may) stage (pc.gives (.returned call r)) stage' ∧
        sh'.Shows stage' := by
    rintro pc sh' call r ⟨stage', hanswers, hshows⟩ hgives
    exact ⟨stage', hgives ▸ .single hanswers, hshows⟩
  have hlive : sh.Shows stage → stage ≠ .destroyed := by
    rintro hshows rfl
    exact hshows
  -- the end of the drain of a shutdown
  have hclosed : ∀ (sh' : Scheduler W C P) {r : SchedulerResult}, sh'.Closing stage →
      (r = .ok ∨ r = .errorSystem ∧ may.wait) → sh'.Owes may stage .shutdown r := by
    rintro sh' r ⟨hclosable, hstate⟩ (rfl | ⟨rfl, hwait⟩)
    · exact ⟨.shuttingDown, .shutdown hclosable, hstate⟩
    · exact ⟨.shuttingDown, .shutdownFailed hclosable hwait, hstate⟩
  have hdrainShutdown : ∀ {r : SchedulerResult}, sh.Closing stage →
      (r = .ok ∨ r = .errorSystem ∧ may.wait) →
      (drainTest sh (.shutdown r) : ControllerPc P).Due may stage (sh.lockLifecycle .controller) :=
    fun hclosing hr => drainTest_elim (M := fun pc => pc.Due may stage _) ⟨hclosing, hr⟩
      (hclosed (sh.lockLifecycle .controller) hclosing hr)
  -- from `FAILED` a join waits for nobody
  have hdrainJoin : sh.Joins stage → (sh.lifecycle.state = .failed → sh.Quiet) →
      (drainTest sh .join : ControllerPc P).Due may stage (sh.lockLifecycle .controller) := by
    rintro ⟨hjoinable, hshows⟩ hnobody
    rcases drainTest_cases sh .join with ⟨hpc, hactive⟩ | ⟨hpc, -⟩
    · rw [hpc]
      refine ⟨?_, hshows⟩
      cases stage with
      | shuttingDown => rfl
      | failed released => exact absurd (hnobody hshows.1) hactive
      | _ => cases hjoinable
    · rw [hpc]
      exact ⟨hjoinable, hshows⟩
  cases h with
  | call call pc hcall =>
    exact hquiet rfl (beginCall_elim (M := fun pc => pc.Due may stage sh) hcall hdue hdue hdue hdue
      hdue)
  | callNull call => exact hquiet rfl hdue
  | faultNull => exact hquiet rfl hdue
  | returned call r => exact hquiet rfl hdue
  | startRefused hfree hstate =>
    refine hquiet rfl ⟨stage, .startRefused ?_ (hlive hdue), hdue⟩
    rintro rfl
    exact hstate hdue
  | start hfree hstate =>
    refine hquiet rfl ?_
    have hshows := Scheduler.Shows.at_state hdue hstate
    cases stage with
    | initialized => rfl
    | failed released => cases hshows.1
    | _ => cases hshows
  | startRefusedUnlock hheld => exact hanswer hdue rfl
  | sizeGuard hsize =>
    obtain rfl : stage = .initialized := hdue
    exact hquiet rfl ⟨.initialized, .startNoMemory (hmay.allocation (.inr (.inr hsize))), rfl⟩
  | allocationFailed sh' hsh hfail =>
    obtain rfl : stage = .initialized := hdue
    exact hquiet rfl ⟨.initialized,
      .startNoMemory (hmay.allocation (hfail.imp_right .inl)), rfl⟩
  | syncInitFailed mutexInitialized hmutex hfail =>
    obtain rfl : stage = .initialized := hdue
    exact hquiet rfl ⟨.initialized, .startNoSync (hmay.syncInit hfail), rfl⟩
  | createFailed i faultPlan hfree hinit hfail hplan =>
    exact hquiet rfl ⟨hdue, hmay.startup (hfail.imp_right .inl)⟩
  | readyLock hfree hinit =>
    rcases readyTest_cases sh with ⟨hpc, -⟩ | ⟨hpc, -⟩
    · rw [hpc]
      exact hquiet rfl hdue
    · rw [hpc]
      exact hquiet rfl hdue
  | readyAgain hfree hinit =>
    rcases readyTest_cases sh with ⟨hpc, -⟩ | ⟨hpc, -⟩
    · rw [hpc]
      exact hquiet rfl hdue
    · rw [hpc]
      exact hquiet rfl hdue
  | readyFailed hfree hfail => exact hquiet rfl ⟨hdue, hmay.startup (.inr (.inr hfail))⟩
  | run hfree =>
    obtain rfl : stage = .initialized := hdue
    exact hquiet rfl ⟨.running, .start, rfl⟩
  | runUnlock hheld => exact hanswer hdue rfl
  | abortQueue hq =>
    cases hq with
    | run hact hleave => exact hquiet rfl hdue
    | leave op r => exact hquiet rfl ⟨hdue.1, hdue.2, nofun⟩
  | releaseNativeFailed caller i result allJoined hfail hindex hhandle =>
    obtain ⟨threads, hthreads, -⟩ := hhandle
    cases caller with
    | abort => exact hquiet rfl ⟨hdue.1, hdue.2.1, fun _ => hmay.join hfail⟩
    | join =>
      exact hquiet rfl ⟨hdue.1, .inr ⟨rfl, .inl rfl⟩,
        fun _ => ⟨hmay.join hfail, Option.isSome_iff_exists.mpr ⟨threads, hthreads⟩⟩⟩
  | releaseInjected caller i result allJoined faultPlan workerResult hfault hindex hhandle hplan =>
    have hinjected : may.injectedJoin := hmay.injectedJoin (congrArg Prod.snd hplan)
    cases caller with
    | abort => exact hquiet rfl hdue
    | join => exact hquiet rfl ⟨hdue.1, .inr ⟨rfl, .inr (.inr hinjected)⟩, hdue.2.2⟩
  | releaseFailedWorker caller i result allJoined faultPlan workerResult hresult hindex hhandle
      hplan =>
    have hwait : may.wait := hsound i workerResult (List.mem_singleton_self _) hresult
    have hnext : (ControllerPc.releaseJoin caller (i + 1) .errorSystem allJoined :
        ControllerPc P).Due may stage sh := by
      cases caller with
      | abort => exact hdue
      | join => exact ⟨hdue.1, .inr ⟨rfl, .inr (.inl hwait)⟩, hdue.2.2⟩
    exact hquiet rfl (hnext.congr rfl Option.isSome_map)
  | releaseDone caller index result hindex =>
    cases caller with
    | abort => exact hquiet rfl ⟨hdue.1, hdue.2.1⟩
    | join =>
      obtain ⟨⟨hjoinable, -⟩, hresult, -⟩ := hdue
      refine hquiet rfl ⟨hjoinable, ?_⟩
      by_cases hfailure : sh.worker.infrastructureFailure = true
      · rw [if_pos hfailure]
        exact .inr ⟨rfl, .inl (hfailed hfailure)⟩
      · rw [if_neg hfailure]
        exact hresult.imp_right fun ⟨hr, htrouble⟩ => ⟨hr, htrouble.resolve_left nofun⟩
  | releaseIncomplete caller index result hindex =>
    cases caller with
    | abort =>
      obtain ⟨rfl, hstartup, hjoin⟩ := hdue
      refine hquiet rfl ⟨.failed (!sh.worker.threads.isSome), .startAborted _ hstartup fun _ =>
        hjoin rfl, rfl, (Bool.not_not _).symm⟩
    | join =>
      obtain ⟨⟨hjoinable, hshows⟩, -, hjoin⟩ := hdue
      obtain ⟨hmayJoin, hsome⟩ := hjoin rfl
      have hafter : (afterRelease sh .join .errorSystem : ControllerPc P)
          = .setStateLock .failed .join .errorSystem := if_pos hsome
      rw [hafter]
      refine hquiet rfl ⟨.failed false, .joinIncomplete hjoinable ?_ hmayJoin, rfl, hsome⟩
      rintro rfl
      cases hsome.symm.trans hshows.2
  | releaseLock caller index event result allJoined hfree hinit =>
    have hnext : (ControllerPc.releaseUnlock caller index event result allJoined :
        ControllerPc P).Due may stage sh := hdue
    refine hquiet rfl (hnext.congr rfl ?_)
    cases event <;> rfl
  | releaseUnlockFailed caller i result allJoined hheld => exact hquiet rfl hdue
  | releaseUnlock caller i event result allJoined hevent hheld =>
    have hnext : (ControllerPc.releaseJoin caller (i + 1) result allJoined :
        ControllerPc P).Due may stage sh := hdue
    exact hquiet rfl (hnext.congr rfl Option.isSome_map)
  | foldUnlock caller result hheld =>
    have hnone : sh.worker.threads = none := hphase.2.1.threads
    cases caller with
    | abort =>
      obtain ⟨rfl, hstartup⟩ := hdue
      refine hquiet rfl ⟨.failed true, .startAborted _ hstartup nofun, rfl, ?_⟩
      show sh.worker.threads.isSome = false
      rw [hnone]
      rfl
    | join =>
      have hafter : (afterRelease sh .join result : ControllerPc P)
          = .setStateLock .stopped .join result := if_neg (by rw [hnone]; simp)
      rw [hafter]
      obtain ⟨hjoinable, rfl | ⟨rfl, htrouble⟩⟩ := hdue
      · exact hquiet rfl ⟨.stopped, .join hjoinable, rfl⟩
      · exact hquiet rfl ⟨.stopped, .joinTroubled hjoinable htrouble, rfl⟩
  | setStateUnlock call r hcall hheld => exact hanswer hdue rfl
  | joinAnswered r hheld => exact hanswer hdue rfl
  | shutdownStopped hfree hstate =>
    refine hquiet rfl ⟨stage, ?_, hdue⟩
    have hshows := Scheduler.Shows.at_state hdue hstate
    cases stage with
    | stopped => exact .shutdownStopped
    | failed released => cases hshows.1
    | _ => cases hshows
  | shutdownRunning hfree hstate =>
    refine hquiet rfl ⟨?_, rfl⟩
    have hshows := Scheduler.Shows.at_state hdue hstate
    cases stage with
    | running => rfl
    | failed released => cases hshows.1
    | _ => cases hshows
  | shutdownAgain hfree hstate =>
    refine hquiet rfl ⟨?_, hstate⟩
    have hshows := Scheduler.Shows.at_state hdue hstate
    cases stage with
    | shuttingDown => rfl
    | failed released => cases hshows.1
    | _ => cases hshows
  | shutdownRefused hfree hstate =>
    refine hquiet rfl ⟨stage, ?_, hdue⟩
    obtain ⟨hstopped, hrunning, hshuttingDown⟩ := hstate
    cases stage with
    | running => exact absurd hdue hrunning
    | shuttingDown => exact absurd hdue hshuttingDown
    | stopped => exact absurd hdue hstopped
    | destroyed => exact hdue.elim
    | _ => exact .shutdownRefused rfl nofun nofun
  | shutdownAnswered r hheld => exact hanswer hdue rfl
  | shutdownUnlock hheld => exact hquiet rfl ⟨hdue, .inr trivial⟩
  | shutdownQueue hq =>
    obtain ⟨hclosing, hwait⟩ := hdue
    cases hq with
    | run hact hleave =>
      refine hquiet rfl ⟨hclosing, ?_⟩
      cases hfail : cfg.waitMayFail with
      | true => exact .inl (hmay.wait hfail)
      | false => exact hwait.imp_right ((queueAct_spec habs hact).shutsDown hfail hoperation)
    | leave op r =>
      refine hquiet rfl ⟨hclosing, ?_⟩
      rcases hwait with hwait | hok
      · cases r.result <;> first | exact .inl rfl | exact .inr ⟨rfl, hwait⟩
      · rw [show r.result = .ok from hok]
        exact .inl rfl
  | drainLock caller hfree =>
    cases caller with
    | shutdown r =>
      exact hquiet (ControllerPc.gives_drainTest _ sh _) (hdrainShutdown hdue.1 hdue.2)
    | join =>
      refine hquiet (ControllerPc.gives_drainTest _ sh _) (hdrainJoin hdue fun hstate => ?_)
      rcases hphase.1 with ⟨hshuttingDown, -⟩ | ⟨-, -, hquiet⟩
      · cases hshuttingDown.symm.trans hstate
      · exact hquiet
  | drainAgain caller hfree =>
    cases caller with
    | shutdown r =>
      exact hquiet (ControllerPc.gives_drainTest _ sh _) (hdrainShutdown hdue.1 hdue.2)
    | join =>
      obtain ⟨rfl, hshows⟩ := hdue
      refine hquiet (ControllerPc.gives_drainTest _ sh _)
        (hdrainJoin ⟨rfl, hshows⟩ fun hstate => ?_)
      cases (show sh.lifecycle.state = .shuttingDown from hshows).symm.trans hstate
  | drainWait caller hheld => cases caller <;> exact hquiet rfl hdue
  | drainSpurious caller => cases caller <;> exact hquiet rfl hdue
  | drainFailed caller hfree hfail =>
    have hwait := hmay.wait hfail
    cases caller with
    | shutdown r => exact hquiet rfl (hclosed _ hdue.1 (.inr ⟨rfl, hwait⟩))
    | join =>
      obtain ⟨rfl, hshows⟩ := hdue
      exact hquiet rfl ⟨.shuttingDown, .joinGivesUp hwait, hshows⟩
  | shutdownDrained result hheld => exact hanswer hdue rfl
  | shutdownFailed result hheld => exact hanswer hdue rfl
  | joinDrained hheld => exact hquiet rfl ⟨hdue, .inl rfl, nofun⟩
  | joinFailed hheld => exact hanswer hdue rfl
  | joinStopped hfree hstate =>
    refine hquiet rfl ⟨stage, ?_, hdue⟩
    have hshows := Scheduler.Shows.at_state hdue hstate
    cases stage with
    | stopped => exact .joinStopped
    | failed released => cases hshows.1
    | _ => cases hshows
  | join hfree hstate =>
    refine hquiet (ControllerPc.gives_drainTest _ sh _) (hdrainJoin ⟨?_, hdue⟩ fun hfailed =>
      (Scheduler.Settled.of_state hphase hfailed).2.2.2)
    rcases hstate with hstate | hstate
    · have hshows := Scheduler.Shows.at_state hdue hstate
      cases stage with
      | shuttingDown => rfl
      | failed released => rfl
      | _ => cases hshows
    · have hshows := Scheduler.Shows.at_state hdue hstate
      cases stage with
      | failed released => rfl
      | _ => cases hshows
  | joinRefused hfree hstate =>
    refine hquiet rfl ⟨stage, ?_, hdue⟩
    obtain ⟨hstopped, hshuttingDown, hnotFailed⟩ := hstate
    cases stage with
    | shuttingDown => exact absurd hdue hshuttingDown
    | stopped => exact absurd hdue hstopped
    | failed released => exact absurd hdue.1 hnotFailed
    | destroyed => exact hdue.elim
    | _ => exact .joinRefused rfl nofun nofun
  | joinUnlock answer hheld => exact hanswer hdue rfl
  | destroyLock hfree =>
    have haccepted := Scheduler.Shows.destroyAccepted hdue hphase hphase.arrays
    rw [haccepted]
    cases hoccupied : stage.occupied with
    | true => exact hquiet rfl ⟨stage, .destroyRefused hoccupied, hdue⟩
    | false => exact hquiet rfl (.destroy hoccupied (hlive hdue))
  | destroyRefused hheld => exact hanswer hdue rfl
  | destroyUnlock hheld => exact ⟨.destroyed, .single hdue, rfl⟩
  | _ => exact hquiet rfl hdue

end Steps

/-! ## Every run -/

/-- The same for the counter of any thread. -/
def SchedulerPc.gives :
    SchedulerPc W P → SchedulerPc W P → List (LifecycleCall × SchedulerResult)
  | .controller pc, .controller pc' => pc.gives pc'
  | _, _ => []

/-- The answer that a lifecycle call gives at a step. -/
def lifecycleAnswers (s : SchedulerPool W C P) (t : Thread W C) (s' : SchedulerPool W C P) :
    List (LifecycleCall × SchedulerResult) :=
  (s.pc t).gives (s'.pc t)

/-- The call that stands at the controller's counter was made at the stage. -/
def Stage.Begun (may : Hazards) (stage : Stage) (s : SchedulerPool W C P) : Prop :=
  ∀ pc, s.pc .controller = .controller pc → pc.Due may stage s.shared

/-- Only a destroy leads to the end, and it ends there. -/
theorem ControllerPc.Due.destroyed {may : Hazards} {sh : Scheduler W C P} {pc : ControllerPc P}
    (h : pc.Due may .destroyed sh) : pc = .destroyFree := by
  -- a destroyed scheduler answers no call
  have hnone : ∀ {answer stage}, ¬Stage.Answers may .destroyed answer stage := by
    intro answer stage hanswers
    cases hanswers with
    | startRefused hstage hlive => exact hlive rfl
    | shutdownRefused hstage hstopped hlive => exact hlive rfl
    | joinRefused hstage hstopped hlive => exact hlive rfl
    | destroy hstage hlive => exact hlive rfl
    | shutdown hstage => cases hstage
    | shutdownFailed hstage hmay => cases hstage
    | join hstage => cases hstage
    | joinTroubled hstage hmay => cases hstage
    | joinIncomplete hstage hunreleased hmay => cases hstage
    | destroyRefused hstage => cases hstage
  have howes : ∀ {call r}, ¬sh.Owes may .destroyed call r :=
    fun ⟨_, hanswers, _⟩ => hnone hanswers
  have hreleasing : ∀ {r allJoined caller}, ¬sh.Releasing may .destroyed r allJoined caller := by
    intro r allJoined caller hreleasing
    cases caller with
    | abort => cases hreleasing.1
    | join => cases hreleasing.1.1
  have hreleased : ∀ {r caller}, ¬Stage.Released may .destroyed r caller := by
    intro r caller hreleased
    cases caller <;> cases hreleased.1
  -- so the controller is nowhere inside a call but at the end of `destroy`
  cases pc with
  | destroyFree => rfl
  | startUnlock accepted =>
    cases accepted with
    | false => exact absurd h howes
    | true => cases h
  | createUnlock index created =>
    cases created with
    | false => cases h.1
    | true => cases h
  | readyUnlock succeeded =>
    cases succeeded with
    | false => cases h.1
    | true => cases h
  | abortQueue q => cases h.1
  | runUnlock => exact absurd h howes
  | releaseJoin caller index r allJoined => exact absurd h hreleasing
  | releaseLock caller index event r allJoined => exact absurd h hreleasing
  | releaseUnlock caller index event r allJoined => exact absurd h hreleasing
  | foldLock caller r => exact absurd h hreleased
  | foldUnlock caller r => exact absurd h hreleased
  | setStateLock state call r =>
    obtain ⟨stage, hanswers, -⟩ := h
    exact absurd hanswers hnone
  | setStateUnlock call r => exact absurd h howes
  | shutdownUnlock answer =>
    cases answer with
    | none => cases h.1
    | some r => exact absurd h howes
  | shutdownQueue q => cases h.1.1
  | drainLock caller =>
    cases caller with
    | shutdown r => cases h.1.1
    | join => cases h.1
  | drainWait caller =>
    cases caller with
    | shutdown r => cases h.1.1
    | join => cases h.1
  | drainAsleep caller =>
    cases caller with
    | shutdown r => cases h.1.1
    | join => cases h.1
  | drainWoken caller =>
    cases caller with
    | shutdown r => cases h.1.1
    | join => cases h.1
  | drainUnlock caller succeeded =>
    cases caller with
    | shutdown r => exact absurd h howes
    | join =>
      cases succeeded with
      | false => exact absurd h howes
      | true => cases h.1
  | joinUnlock r => exact absurd h howes
  | destroyUnlock accepted =>
    cases accepted with
    | false => exact absurd h howes
    | true => exact absurd h hnone
  | _ => cases h

section Runs

variable [DecidableEq C] [Fintype C] {cfg : SchedulerConfig W} {t : Thread W C}
  {choice : SchedulerChoice W C P} {s s' : SchedulerPool W C P} {may : Hazards} {stage : Stage}

omit [DecidableEq C] [Fintype C] in
theorem lifecycleAnswers_other (hruns : t.Runs (s.pc t)) (ht : t ≠ .controller) :
    lifecycleAnswers s t s' = [] := by
  unfold lifecycleAnswers
  generalize s.pc t = pc at hruns
  cases pc with
  | controller pc =>
    cases t with
    | controller => exact absurd rfl ht
    | _ => exact hruns.elim
  | _ => rfl

theorem lifecycleAnswers_controller {pc pc' : ControllerPc P} {fx : List (SchedulerEffect W C)}
    (hpc : s.pc .controller = .controller pc)
    (hfx : (schedulerProgram cfg).applyEffects
      (Function.update s.pc .controller (.controller pc')) fx = some s'.pc) :
    lifecycleAnswers s .controller s' = pc.gives pc' := by
  have hblind : (schedulerProgram (C := C) (P := P) cfg).Blind
      (SchedulerPc.controller pc : SchedulerPc W P).gives := by
    refine schedulerProgram_blind (fun pc' => ?_) fun _ => rfl
    cases pc' with
    | controller pc' => exact ControllerPc.gives_wake pc pc'
    | _ => rfl
  unfold lifecycleAnswers
  rw [hpc]
  exact (Program.step_blind hblind hfx).1

/-- A worker whose result a step takes has finished with that result. -/
theorem SchedulerReachable.await_finished (h : SchedulerReachable cfg s) {pc : SchedulerPc W P}
    {fx : List (SchedulerEffect W C)}
    (hfx : (schedulerProgram cfg).applyEffects (Function.update s.pc .controller pc) fx
      = some s'.pc) {i : Fin W} {r : WorkerResult} (hawait : .await (.worker i) r ∈ fx) :
    s.pc (.worker i) = .worker i (.finished r) := by
  have hfinished := Program.applyEffects_await schedulerFinished_blind hfx hawait
  have hne : (Thread.worker i : Thread W C) ≠ .controller := by simp
  rw [Function.update_of_ne hne] at hfinished
  obtain ⟨wpc, hwpc⟩ := h.threads.workerPc i
  rw [hwpc] at hfinished ⊢
  cases wpc with
  | finished r' => cases hfinished; rfl
  | _ => cases hfinished

/-- **One step of the program is at most one step of the machine.** -/
theorem SchedulerReachable.answers_step (h : SchedulerReachable cfg s)
    (hstep : (schedulerProgram cfg).step t choice s = some s')
    (hmay : may.Cover cfg s.shared.faultPlan) (hbegun : stage.Begun may s) :
    ∃ stage', Trace (Stage.Answers may) stage (lifecycleAnswers s t s') stage' ∧
      stage'.Begun may s' := by
  have hblind : ∀ stage, (schedulerProgram (C := C) (P := P) cfg).Blind
      (SchedulerPc.ofController (ControllerPc.Due may stage s'.shared)) := by
    intro stage
    refine schedulerProgram_blind (fun pc => ?_) fun _ => rfl
    cases pc with
    | controller pc => exact propext (pc.due_wake may stage s'.shared)
    | _ => rfl
  rcases h.step_cases hstep with ⟨ht, hframe⟩ | ⟨rfl, pc, pc', fx, hpc, hspec, hfx⟩
  · -- the other threads answer no call and leave the stage alone
    obtain ⟨pc₁, fx, -, hfx⟩ := h.threads.step_spec hstep
    obtain ⟨pc, hpc⟩ := h.threads.controllerPc
    rw [lifecycleAnswers_other (h.threads.runs t) ht]
    refine ⟨stage, .nil stage, fun pc' hpc' => ?_⟩
    have hsame := (Program.step_blind (hblind stage) hfx).2 .controller (Ne.symm ht)
    rw [hpc', hpc] at hsame
    refine hsame.mpr ((hbegun pc hpc).congr hframe.state ?_)
    exact congrArg (Option.isSome ∘ Crew.threads) hframe.crew
  · obtain ⟨f, habs, -⟩ := h.threads.abstracts
    have hoperation := h.accounts.operation .controller
    rw [hpc] at hoperation
    -- what the call finds troubled was caused by a wait that failed
    have hfailed : s.shared.worker.infrastructureFailure = true → may.wait := by
      intro hfailed
      cases hwait : cfg.waitMayFail with
      | true => exact hmay.wait hwait
      | false => cases hfailed.symm.trans (h.sound hwait).unfailed.1
    have hsound : ∀ i r, .await (.worker i) r ∈ fx → r ≠ .ok → may.wait := by
      intro i r hawait hr
      cases hwait : cfg.waitMayFail with
      | true => exact hmay.wait hwait
      | false =>
        have hsound := (h.sound hwait).sound (.worker i)
        rw [h.await_finished hfx hawait] at hsound
        exact absurd hsound hr
    obtain ⟨stage', htrace, hdue⟩ := hspec.due habs (h.lifecycle.phase hpc) hoperation hmay hfailed
      hsound (hbegun pc hpc)
    rw [lifecycleAnswers_controller hpc hfx]
    refine ⟨stage', htrace, fun pc₁ hpc₁ => ?_⟩
    have hsame := (Program.step_blind (hblind stage') hfx).1
    rw [hpc₁] at hsame
    exact hsame.mpr hdue

/-- What the configuration admits covers every step. -/
theorem SchedulerConfig.hazards_cover (cfg : SchedulerConfig W) (plan : SchedulerFaultPlan) :
    cfg.hazards.Cover cfg plan where
  allocation := id
  syncInit := id
  startup := id
  wait := id
  join := id
  injectedJoin h := by
    unfold consultFaultPlan at h
    split at h
    · assumption
    · cases h

omit [DecidableEq C] [Fintype C] in
/-- What is due between two calls is the stage itself. -/
theorem Stage.Begun.shows (h : stage.Begun may s) (hbetween : (s.pc .controller).between = true) :
    s.shared.Shows stage := by
  generalize hpc : s.pc .controller = pc at hbetween
  cases pc with
  | controller pc =>
    have hdue := h pc hpc
    cases pc with
    | idle => exact hdue
    | returned call r => exact hdue
    | faultReturned configured => exact hdue
    | _ => cases hbetween
  | _ => cases hbetween

/-- However far a call has come, it was made at some stage. -/
theorem SchedulerReachable.begun (h : SchedulerReachable cfg s) :
    ∃ stage : Stage, stage.Begun cfg.hazards s := by
  refine h.invariant (I := fun s => ∃ stage : Stage, stage.Begun cfg.hazards s)
    (fun queue _ => ⟨.initialized, ?_⟩) ?_
  · rintro pc ⟨⟩
    rfl
  · rintro u u' t choice hreach ⟨stage, hbegun⟩ hstep
    obtain ⟨stage', -, hbegun'⟩ :=
      hreach.answers_step hstep (cfg.hazards_cover u.shared.faultPlan) hbegun
    exact ⟨stage', hbegun'⟩

/-- **Lifecycle calls are a sequential machine.** In every run, whatever submitters and workers do
meanwhile, the answers of the lifecycle calls are a word of the machine. Between two calls `state`
and the worker arrays show the stage that the machine has reached; it has come to its end exactly
when `scheduler_destroy` has freed the scheduler. Where nothing goes wrong the answers are those
of `Stage.call`. -/
theorem lifecycle_answers_sequential (hW : 0 < W) {queue : TaskQueue P}
    (hinit : taskQueueInit cfg.capacity true = (.ok, some queue))
    {ls : List (Thread W C × SchedulerChoice W C P)}
    (hrun : (schedulerProgram cfg).run ls (schedulerInitial queue) = some s) :
    ∃ stage, Trace (Stage.Answers cfg.hazards) .initialized
        ((schedulerProgram cfg).log lifecycleAnswers ls (schedulerInitial queue)) stage ∧
      ((s.pc .controller).between = true →
        stage.Shows s.shared.lifecycle.state s.shared.worker.threads.isSome) ∧
      (stage = .destroyed ↔ s.pc .controller = .controller .destroyFree) ∧
      (cfg.hazards.Absent →
        ((schedulerProgram cfg).log lifecycleAnswers ls (schedulerInitial queue)).foldlM
          Stage.reply .initialized = some stage) := by
  have hlog : ∃ stage, Trace (Stage.Answers cfg.hazards) .initialized
      ((schedulerProgram cfg).log lifecycleAnswers ls (schedulerInitial queue)) stage ∧
      SchedulerReachable cfg s ∧ stage.Begun cfg.hazards s := by
    refine Program.simulates lifecycleAnswers
      (fun (stage : Stage) s => SchedulerReachable cfg s ∧ stage.Begun cfg.hazards s) ?_
      ⟨⟨hW, queue, hinit, .refl⟩, ?_⟩ hrun
    · rintro stage u u' t choice ⟨hreach, hbegun⟩ hstep
      obtain ⟨stage', hmore, hbegun'⟩ :=
        hreach.answers_step hstep (cfg.hazards_cover u.shared.faultPlan) hbegun
      exact ⟨stage', hmore, hreach.tail (.single ⟨t, choice, hstep⟩), hbegun'⟩
    · rintro pc ⟨⟩
      rfl
  obtain ⟨stage, htrace, hreach, hbegun⟩ := hlog
  refine ⟨stage, htrace, hbegun.shows, ⟨?_, fun hpc => hbegun _ hpc⟩, fun habsent =>
    htrace.replay (I := fun _ => True) trivial fun _ hanswers => ⟨trivial, hanswers.reply
      (.inr ⟨habsent.allocation, habsent.syncInit, habsent.startup⟩) habsent.wait habsent.join
      habsent.injectedJoin⟩⟩
  rintro rfl
  obtain ⟨pc, hpc⟩ := hreach.threads.controllerPc
  rw [hpc, (hbegun pc hpc).destroyed]

end Runs

/-- A lifetime in which the first `scheduler_start` succeeds and the first `scheduler_join` does
not. -/
def retriedSchedule : SmallSchedule :=
  startSchedule ++ makes .controller (.lifecycle .start true) 3
    ++ makes .controller (.lifecycle .shutdown true) 8 ++ advance soleWorker 5
    ++ makes .controller (.lifecycle .join true) 2 ++ [(.controller, { succeeds := false })]
    ++ advance .controller 6 ++ makes .controller (.lifecycle .join true) 11
    ++ makes .controller (.lifecycle .destroy true) 2

theorem lifecycle_answers_sequential_retried :
    ∃ s : SchedulerPool 1 (Fin 2) ℕ, s.pc .controller = .controller .destroyFree ∧
      Trace
        (Stage.Answers ({ reliableConfig with joinMayFail := true } : SchedulerConfig 1).hazards)
        .initialized [(.start, .ok), (.start, .errorInvalidState), (.shutdown, .ok),
          (.join, .errorSystem), (.join, .ok), (.destroy, .ok)] .destroyed := by
  have hlog : (schedulerProgram { reliableConfig with joinMayFail := true }).log lifecycleAnswers
      retriedSchedule (schedulerInitial smallQueue : SchedulerPool 1 (Fin 2) ℕ)
        = [(.start, .ok), (.start, .errorInvalidState), (.shutdown, .ok), (.join, .errorSystem),
          (.join, .ok), (.destroy, .ok)] := by decide +kernel
  have hobs : ((schedulerProgram { reliableConfig with joinMayFail := true }).run retriedSchedule
      (schedulerInitial smallQueue : SchedulerPool 1 (Fin 2) ℕ)).map (fun s => s.pc .controller)
        = some (.controller .destroyFree) := by
    decide +kernel
  obtain ⟨s, hrun, hend⟩ := Option.map_eq_some_iff.mp hobs
  obtain ⟨stage, htrace, -, hdestroyed, -⟩ :=
    lifecycle_answers_sequential Nat.one_pos (by decide) hrun
  rw [hlog, hdestroyed.mpr hend] at htrace
  exact ⟨s, hend, htrace⟩

end SchedulingEngine
