import SchedulingEngine.Scheduler.Erasure
import SchedulingEngine.Scheduler.Headcount

/-!
# Starts that fail before they create a thread (scheduler.c)

Between `STARTING` and the first creation `scheduler_start` can fail at the size guard, at
either array, at `worker_mutex` and at `worker_condition`, and gives up by hand what it got
so far. `Unused` says which fields are still as `scheduler_init` assigned them; it holds in
every reachable state from which no creation was tried. A start that fails early therefore
leaves no trace, and the next one runs as on a new scheduler (`early_start_atomic`).
-/

namespace SchedulingEngine

open Concurrency

variable {W : ℕ} {C P : Type}

/-- Inside `scheduler_start`, before the first creation. -/
def ControllerPc.early : ControllerPc P → Bool
  | .startUnlock true | .startAllocate | .startSyncInit | .startSyncLock | .startSyncUnlock
  | .createLock 0 | .setStateLock .initialized .start _ => true
  | _ => false

theorem ControllerPc.early_wake (pc : ControllerPc P) : pc.wake.early = pc.early := by
  cases pc <;> rfl

/-- No thread was created and nothing was accepted: but for the arrays, the locks and the
counts of rejected submissions the fields are those of `scheduler_init`. -/
structure Scheduler.Unused (ring : TaskQueue P) (sh : Scheduler W C P) : Prop where
  queue : sh.queue = { (schedulerInit ring : Scheduler W C P).queue with mutex := sh.queue.mutex }
  active : sh.lifecycle.activeSubmitterCount = 0
  accepted : sh.lifecycle.acceptedCount = 0
  worker : sh.worker =
    { (schedulerInit ring : Scheduler W C P).worker with
      mutex := sh.worker.mutex
      mutexInitialized := sh.worker.mutexInitialized
      conditionInitialized := sh.worker.conditionInitialized
      threads := sh.worker.threads
      workerContexts := sh.worker.workerContexts }
  untaken : sh.worker.mutexInitialized = false →
    sh.worker.mutex = none ∧ sh.worker.conditionInitialized = false

section Steps

variable [DecidableEq C] {cfg : SchedulerConfig W} {t : Thread W C}
  {choice : SchedulerChoice W C P} {sh : Scheduler W C P} {ring : TaskQueue P}

/-- `concurrent_task_queue_capture_runtime_snapshot` takes the mutex and gives it back. -/
theorem queueAct_capture {T : Type} [DecidableEq T] {cfg : QueueConfig} {t : T}
    {choice : QueueChoice T P} {queue : ConcurrentTaskQueue T P} {q : QueuePc P}
    {out : QueueSection T P} (hact : queueAct cfg t choice queue q = some out)
    (hoperation : q.operation = some .captureRuntimeSnapshot) :
    out.1 = { queue with mutex := out.1.mutex } := by
  cases q with
  | idle => cases hoperation
  | lock op =>
    cases hoperation
    simp only [queueAct, Option.ite_none_right_eq_some, Option.some.injEq] at hact
    obtain ⟨-, rfl⟩ := hact
    rfl
  | wait w => cases w <;> cases hoperation
  | asleep w => cases w <;> cases hoperation
  | woken w => cases w <;> cases hoperation
  | unlock op r =>
    simp only [queueAct, Option.ite_none_right_eq_some, Option.some.injEq] at hact
    obtain ⟨-, rfl⟩ := hact
    rfl
  | returned op r =>
    cases hact
    rfl

/-- A call that is not admitted leaves the scheduler unused. -/
theorem CallStepSpec.unused {pc : CallPc P} {out : SchedulerStep W C P (CallPc P)}
    (h : CallStepSpec cfg t choice sh pc out) (hadmitted : pc.admitted = false)
    (hoperation : pc.queue.operation = pc.operation) (hstate : sh.lifecycle.state ≠ .running)
    (hunused : sh.Unused ring) : out.1.Unused ring := by
  obtain ⟨hqueue, hactive, haccepted, hworker, huntaken⟩ := hunused
  cases h with
  | register kind task hfree =>
    obtain ⟨h₁, h₂⟩ := registerSubmitter_refused (l := (sh.lockLifecycle t).lifecycle) hstate
    exact ⟨hqueue, h₁.trans hactive, h₂.trans haccepted, hworker, huntaken⟩
  | registered kind task hheld => cases hadmitted
  | enqueue kind task hq => cases hadmitted
  | deregister task r hfree => cases hadmitted
  | captureWorker temporary hfree hinit hstarted =>
    refine ⟨hqueue, hactive, haccepted, ?_, fun h => nomatch hinit.symm.trans h⟩
    exact congrArg (fun w : WorkerDomain W (Thread W C) => { w with mutex := some t }) hworker
  | captureNoSlots temporary hfree hinit hstarted =>
    refine ⟨hqueue, hactive, haccepted, ?_, fun h => nomatch hinit.symm.trans h⟩
    exact congrArg (fun w : WorkerDomain W (Thread W C) => { w with mutex := some t }) hworker
  | captureWorkerDone temporary hheld =>
    refine ⟨hqueue, hactive, haccepted, ?_, fun h => ⟨rfl, (huntaken h).2⟩⟩
    exact congrArg (fun w : WorkerDomain W (Thread W C) => { w with mutex := none }) hworker
  | captureQueue temporary hq =>
    cases hq with
    | run hact hleave =>
      have hcapture := queueAct_capture hact hoperation
      refine ⟨hcapture.trans ?_, hactive, haccepted, hworker, huntaken⟩
      rw [hqueue]
    | leave op r => exact ⟨hqueue, hactive, haccepted, hworker, huntaken⟩
  | _ => exact ⟨hqueue, hactive, haccepted, hworker, huntaken⟩

omit [DecidableEq C] in
/-- `INITIALIZED` is seen between lifecycle calls only, and when one begins or returns. -/
theorem Phase.Ok.not_initialized {phase : Phase} (h : phase.Ok sh) (hphase : phase ≠ .settled) :
    sh.lifecycle.state ≠ .initialized := by
  intro hstate
  have hreleased : ∀ caller, ¬sh.ReleasedBy caller := by
    rintro (_ | _) h
    · cases hstate.symm.trans h
    · rcases h with h | h <;> cases hstate.symm.trans h
  have hdrained : ∀ caller, ¬sh.DrainedBy caller := by
    rintro (result | _) h
    · cases hstate.symm.trans h.1
    · rcases h with h | h <;> cases hstate.symm.trans h.1
  cases phase with
  | settled => exact hphase rfl
  | draining caller => exact hdrained caller h.1
  | drained caller => exact hdrained caller h.1
  | releasing caller => exact hreleased caller h.1
  | released caller => exact hreleased caller h.1
  | impossible => exact h
  | _ => cases hstate.symm.trans h.1

omit [DecidableEq C] in
theorem afterRelease_early (sh : Scheduler W C P) (caller : ReleaseCaller)
    (result : SchedulerResult) :
    (afterRelease sh caller result : ControllerPc P).early = false := by
  unfold afterRelease
  cases caller with
  | abort => rfl
  | join => dsimp only; split <;> rfl

/-- No creation was tried. -/
def Scheduler.Untried (sh : Scheduler W C P) (pc : ControllerPc P) : Prop :=
  sh.lifecycle.state = .initialized ∨ pc.early = true

omit [DecidableEq C] in
/-- An early counter stands inside a start that has created nobody. -/
theorem ControllerPc.early_ok {pc : ControllerPc P} (hearly : pc.early = true)
    (hphase : (pc.phase W).Ok sh) :
    sh.lifecycle.state = .starting ∧ sh.worker.createdWorkerCount = 0 := by
  unfold early at hearly
  split at hearly
  · exact ⟨hphase.1, hphase.2.1.created⟩
  · exact ⟨hphase.1, hphase.2.1.created⟩
  · exact ⟨hphase.1, hphase.2.1.created⟩
  · exact ⟨hphase.1, hphase.2.1.created⟩
  · exact ⟨hphase.1, hphase.2.1.created⟩
  · exact ⟨hphase.1, hphase.2.1.created⟩
  · exact ⟨hphase.1, hphase.2.1.created⟩
  · cases hearly

omit [DecidableEq C] in
/-- With no creation tried nobody is admitted and there is no worker. -/
theorem Scheduler.Untried.created {pc : ControllerPc P} (h : sh.Untried pc)
    (hphase : (pc.phase W).Ok sh) :
    sh.lifecycle.state ≠ .running ∧ sh.worker.createdWorkerCount = 0 := by
  rcases h with hstate | hearly
  · have hsettled : pc.phase W = .settled := by
      by_contra hphase'
      exact hphase.not_initialized hphase' hstate
    rw [hsettled] at hphase
    obtain ⟨hempty, -⟩ := Scheduler.Settled.of_state hphase hstate
    exact ⟨by simp [hstate], hempty.created⟩
  · obtain ⟨hstate, hcreated⟩ := ControllerPc.early_ok hearly hphase
    exact ⟨by simp [hstate], hcreated⟩

/-- **A lifecycle call leaves the scheduler unused** as long as it tries no creation. -/
theorem ControllerStepSpec.unused {pc : ControllerPc P} {out : SchedulerStep W C P (ControllerPc P)}
    (h : ControllerStepSpec cfg choice sh pc out) (hphase : (pc.phase W).Ok sh)
    (hbefore : sh.Untried pc → sh.Unused ring) : out.1.Untried out.2.1 → out.1.Unused ring := by
  -- a step that touches none of the five leaves an unused scheduler unused
  have hkeep : ∀ {out : SchedulerStep W C P (ControllerPc P)},
      (out.1.Untried out.2.1 → sh.Untried pc) → out.1.queue = sh.queue →
      out.1.worker = sh.worker →
      out.1.lifecycle.activeSubmitterCount = sh.lifecycle.activeSubmitterCount →
      out.1.lifecycle.acceptedCount = sh.lifecycle.acceptedCount →
      out.1.Untried out.2.1 → out.1.Unused ring := by
    intro out hearly hqueue hworker hactive haccepted hout
    obtain ⟨h₁, h₂, h₃, h₄, h₅⟩ := hbefore (hearly hout)
    exact ⟨by rw [hqueue]; exact h₁, hactive.trans h₂, haccepted.trans h₃,
      by rw [hworker]; exact h₄, by rw [hworker]; exact h₅⟩
  -- and once a worker was tried the scheduler does not become untried again
  have hlate : ∀ {out : SchedulerStep W C P (ControllerPc P)},
      out.1.lifecycle.state = sh.lifecycle.state → out.2.1.early = false → pc.phase W ≠ .settled →
      out.1.Untried out.2.1 → out.1.Unused ring := by
    intro out hstate hearly hsettled hout
    rcases hout with hout | hout
    · exact absurd (hstate.symm.trans hout) (hphase.not_initialized hsettled)
    · cases hearly.symm.trans hout
  cases h with
  | call call pc hcall =>
    have hearly : pc.early = false := by
      exact beginCall_elim (M := fun pc => pc.early = false) hcall rfl rfl rfl rfl rfl
    exact hkeep (.imp_right fun h => nomatch hearly.symm.trans h) rfl rfl rfl rfl
  | start hfree hstate => exact hkeep (fun _ => .inl hstate) rfl rfl rfl rfl
  | startUnlock hheld => exact hkeep (fun _ => .inr rfl) rfl rfl rfl rfl
  | sizeGuard hsize => exact hkeep (fun _ => .inr rfl) rfl rfl rfl rfl
  | allocationFailed sh' hsh hfail =>
    subst hsh
    intro hout
    obtain ⟨h₁, h₂, h₃, h₄, h₅⟩ := hbefore (.inr rfl)
    refine ⟨h₁, h₂, h₃, ?_, h₅⟩
    exact congrArg (fun w : WorkerDomain W (Thread W C) =>
      { w with threads := none, workerContexts := none }) h₄
  -- up to the creation of the first worker only arrays and initialisations are added
  | allocated sh' hsh hthreads hcontexts hsize =>
    subst hsh
    intro hout
    obtain ⟨h₁, h₂, h₃, h₄, h₅⟩ := hbefore (.inr rfl)
    refine ⟨h₁, h₂, h₃, ?_, h₅⟩
    exact congrArg (fun w : WorkerDomain W (Thread W C) =>
      { w with
        threads := (allocateWorkers cfg choice sh).worker.threads
        workerContexts := (allocateWorkers cfg choice sh).worker.workerContexts }) h₄
  | syncInit =>
    intro hout
    obtain ⟨h₁, h₂, h₃, h₄, h₅⟩ := hbefore (.inr rfl)
    refine ⟨h₁, h₂, h₃, ?_, nofun⟩
    exact congrArg (fun w : WorkerDomain W (Thread W C) =>
      { w with mutexInitialized := true, conditionInitialized := true }) h₄
  | syncInitFailed mutexInitialized hmutex hfail =>
    intro hout
    obtain ⟨h₁, h₂, h₃, h₄, h₅⟩ := hbefore (.inr rfl)
    refine ⟨h₁, h₂, h₃, ?_, fun _ => h₅ hphase.2.2.1.2⟩
    exact congrArg (fun w : WorkerDomain W (Thread W C) =>
      { w with mutexInitialized := mutexInitialized, threads := none, workerContexts := none }) h₄
  | syncLock hfree => exact hkeep (fun _ => .inr rfl) rfl rfl rfl rfl
  | syncUnlock hheld => exact hkeep (fun _ => .inr rfl) rfl rfl rfl rfl
  | createFailed i faultPlan hfree hinit hfail => exact hlate rfl rfl nofun
  | created i faultPlan hfree hinit => exact hlate rfl rfl nofun
  | createFailedUnlock index hheld => exact hlate rfl rfl nofun
  | createNext index hheld hindex => exact hlate rfl rfl nofun
  | createLast index hheld hindex => exact hlate rfl rfl nofun
  | readyLock hfree hinit =>
    exact hlate rfl (readyTest_elim (M := fun pc => pc.early = false) rfl rfl) nofun
  | readyAgain hfree hinit =>
    exact hlate rfl (readyTest_elim (M := fun pc => pc.early = false) rfl rfl) nofun
  | readyFailed hfree hfail => exact hlate rfl rfl nofun
  | run hfree => rintro (hout | hout) <;> cases hout
  | abortQueue hq =>
    cases hq with
    | run hact hleave => exact hlate rfl rfl nofun
    | leave op r => exact hlate rfl rfl nofun
  | releaseIncomplete caller index result hindex =>
    exact hlate rfl (afterRelease_early sh caller .errorSystem) nofun
  | foldUnlock caller result hheld => exact hlate rfl (afterRelease_early sh caller result) nofun
  -- back to `INITIALIZED` leads the failed start only
  | setState state call r hfree =>
    rintro (hout | hout)
    · obtain rfl : state = .initialized := hout
      cases call with
      | start => exact hkeep (fun _ => .inr rfl) rfl rfl rfl rfl (.inl rfl)
      | _ => exact absurd hphase id
    · cases hout
  | shutdownRunning hfree hstate => rintro (hout | hout) <;> cases hout
  | shutdownQueue hq =>
    cases hq with
    | run hact hleave => exact hlate rfl rfl nofun
    | leave op r => exact hlate rfl rfl nofun
  | drainLock caller hfree =>
    exact hlate rfl (drainTest_elim (M := fun pc => pc.early = false) rfl rfl) nofun
  | drainAgain caller hfree =>
    exact hlate rfl (drainTest_elim (M := fun pc => pc.early = false) rfl rfl) nofun
  | join hfree hstate =>
    rintro (hout | hout)
    · rcases hstate with hstate | hstate <;> cases hstate.symm.trans hout
    · exact absurd hout (by
        rw [drainTest_elim (M := fun pc => pc.early = false) rfl rfl]
        exact nofun)
  | _ => first
    | exact hkeep (.imp_right nofun) rfl rfl rfl rfl
    | exact hlate rfl rfl nofun

end Steps

section Reachable

variable [DecidableEq C] [Fintype C] {cfg : SchedulerConfig W} {t : Thread W C}
  {choice : SchedulerChoice W C P} {s s' : SchedulerPool W C P} {ring : TaskQueue P}

theorem unused_step (hreach : SchedulerReachable cfg s)
    (hstep : (schedulerProgram cfg).step t choice s = some s')
    (h : ∀ pc, s.pc .controller = .controller pc → s.shared.Untried pc → s.shared.Unused ring) :
    ∀ pc, s'.pc .controller = .controller pc → s'.shared.Untried pc → s'.shared.Unused ring := by
  refine hreach.controller_step (fun sh pc => sh.Untried pc → sh.Unused ring)
    (fun sh pc => ?_) hstep (fun cpc ht hcpc hbefore huntried => ?_)
    (fun pc out _ hpc hspec hout hbefore => ?_) h
  · rw [Scheduler.Untried, pc.early_wake]
    rfl
  · -- the step is one of a call that is not admitted: there is no worker
    obtain ⟨pc, fx, hspec, -⟩ := hreach.threads.step_spec hstep
    rcases hreach.step_cases hstep with ⟨-, hframe⟩ | ⟨rfl, -⟩
    · have huntried₀ : s.shared.Untried cpc := huntried.imp_left hframe.state.symm.trans
      obtain ⟨hstate, hcreated⟩ := huntried₀.created (hreach.lifecycle.phase hcpc)
      have hadmitted := (hreach.gate.unopened (hcreated ▸ hreach.1)).1 t
      have hoperation := hreach.accounts.operation t
      have hself := hreach.lifecycle.threads t
      generalize s.pc t = tpc at hspec hadmitted hoperation hself
      generalize hout : (s'.shared, pc, fx) = out at hspec
      cases hspec with
      | call c h =>
        rw [(Prod.mk.inj hout).1]
        exact h.unused hadmitted hoperation hstate (hbefore huntried₀)
      | worker i h => exact absurd (hself.created.mpr (hcreated ▸ Nat.zero_le _)) h.created
      | controller h => exact absurd rfl ht
    · exact absurd rfl ht
  · rw [← hout]
    exact hspec.unused (hreach.lifecycle.phase hpc) hbefore

/-- **Before a creation is tried the scheduler is unused.** -/
theorem SchedulerReachable.unused (h : SchedulerReachable cfg s)
    (hring : taskQueueInit cfg.capacity true = (.ok, some ring)) {pc : ControllerPc P}
    (hpc : s.pc .controller = .controller pc) (huntried : s.shared.Untried pc) :
    s.shared.Unused ring := by
  refine h.invariant (I := fun s => ∀ pc, s.pc .controller = .controller pc →
    s.shared.Untried pc → s.shared.Unused ring) (fun queue hinit pc _ _ => ?_)
    (fun hu h hstep => unused_step hu hstep h) pc hpc huntried
  obtain rfl : queue = ring := by simpa [hinit] using hring
  exact ⟨rfl, rfl, rfl, rfl, fun _ => ⟨rfl, rfl⟩⟩

end Reachable

/-! ## Sequences of starts -/

/-- Where a start gives up before it creates a thread. -/
inductive StartFailure where
  | sizeGuard
  | allocation
  | workerSync
  deriving DecidableEq, Repr

/-- The answer of a start that gives up there. -/
def StartFailure.result : StartFailure → SchedulerResult
  | .sizeGuard | .allocation => .errorAllocation
  | .workerSync => .errorSystem

namespace ControllerPc

/-- The failure at which a step inside `scheduler_start` gives up. -/
def givesUp (W : ℕ) : ControllerPc P → ControllerPc P → List StartFailure
  | .startAllocate, .setStateLock _ _ _ =>
    [if W > sizeMax / schedThreadSize ∨ W > sizeMax / workerContextSize then .sizeGuard
      else .allocation]
  | .startSyncInit, .setStateLock _ _ _ => [.workerSync]
  | _, _ => []

/-- The answer of the `scheduler_start` that returns at a step. -/
def answers : ControllerPc P → ControllerPc P → List SchedulerResult
  | .idle, _ => []
  | _, .returned .start r => [r]
  | _, _ => []

/-- The answer that a start is about to give. -/
def owes : ControllerPc P → List SchedulerResult
  | .startUnlock false => [.errorInvalidState]
  | .runUnlock => [.ok]
  | .setStateLock _ .start r | .setStateUnlock .start r => [r]
  | _ => []

/-- About to create a thread, or to change the fault plan. -/
def departs : ControllerPc P → Bool
  | .createLock _ | .faultLock _ => true
  | _ => false

theorem owes_wake (pc : ControllerPc P) : pc.wake.owes = pc.owes := by
  cases pc <;> rfl

end ControllerPc

/-- Two plans that differ in what was observed only. -/
def SchedulerFaultPlan.Agrees (plan plan' : SchedulerFaultPlan) : Prop :=
  plan'.point = plan.point ∧ plan'.triggerOccurrence = plan.triggerOccurrence ∧
    plan'.enabled = plan.enabled

theorem SchedulerFaultPlan.Agrees.refl (plan : SchedulerFaultPlan) : plan.Agrees plan :=
  ⟨rfl, rfl, rfl⟩

theorem SchedulerFaultPlan.Agrees.trans {plan₁ plan₂ plan₃ : SchedulerFaultPlan}
    (h : plan₁.Agrees plan₂) (h' : plan₂.Agrees plan₃) : plan₁.Agrees plan₃ :=
  ⟨h'.1.trans h.1, h'.2.1.trans h.2.1, h'.2.2.trans h.2.2⟩

theorem consultFaultPlan_agrees (cfg : SchedulerConfig W) (plan : SchedulerFaultPlan)
    (point : SchedulerFaultPoint) : plan.Agrees (consultFaultPlan cfg plan point).1 := by
  unfold consultFaultPlan schedulerFaultShouldTrigger
  split
  · split
    · exact .refl plan
    · split
      · exact ⟨rfl, rfl, rfl⟩
      · dsimp only
        split <;> exact ⟨rfl, rfl, rfl⟩
  · exact .refl plan

theorem allocateWorkers_agrees (cfg : SchedulerConfig W) (choice : SchedulerChoice W C P)
    (sh : Scheduler W C P) : sh.faultPlan.Agrees (allocateWorkers cfg choice sh).faultPlan :=
  (consultFaultPlan_agrees cfg sh.faultPlan .allocation).trans
    (consultFaultPlan_agrees cfg _ .allocation)

section Plans

variable [DecidableEq C] {cfg : SchedulerConfig W} {t : Thread W C}
  {choice : SchedulerChoice W C P} {sh : Scheduler W C P}

theorem CallStepSpec.faultPlan {pc : CallPc P} {out : SchedulerStep W C P (CallPc P)}
    (h : CallStepSpec cfg t choice sh pc out) : out.1.faultPlan = sh.faultPlan := by
  cases h with
  | enqueue kind task hq => cases hq <;> rfl
  | captureQueue temporary hq => cases hq <;> rfl
  | _ => rfl

/-- Only lifecycle calls consult the fault plan. -/
theorem SchedulerStepSpec.faultPlan {pc : SchedulerPc W P}
    {out : SchedulerStep W C P (SchedulerPc W P)} (h : SchedulerStepSpec cfg choice sh t pc out)
    (ht : t ≠ .controller) : out.1.faultPlan = sh.faultPlan := by
  cases h with
  | call c h => exact h.faultPlan
  | worker i h =>
    cases h with
    | dequeue hq => cases hq <;> rfl
    | call task runningAccounted hcall => exact hcall.faultPlan
    | queueShutdown r hq => cases hq <;> rfl
    | _ => rfl
  | controller h => exact absurd rfl ht

end Plans

/-- What a step of a lifecycle call does while no creation is tried. -/
structure EarlyStep (sh : Scheduler W C P) (pc : ControllerPc P)
    (out : SchedulerStep W C P (ControllerPc P)) : Prop where
  untried : out.1.Untried out.2.1
  effects : out.2.2 = []
  log : pc.owes ++ (pc.givesUp W out.2.1).map StartFailure.result =
    pc.answers out.2.1 ++ out.2.1.owes
  plan : sh.faultPlan.Agrees out.1.faultPlan

section Runs

variable [DecidableEq C] {cfg : SchedulerConfig W} {choice : SchedulerChoice W C P}
  {sh : Scheduler W C P}

theorem ControllerStepSpec.earlyStep {pc : ControllerPc P}
    {out : SchedulerStep W C P (ControllerPc P)} (h : ControllerStepSpec cfg choice sh pc out)
    (hphase : (pc.phase W).Ok sh) (huntried : sh.Untried pc) (hstays : pc.departs = false) :
    EarlyStep sh pc out := by
  -- past the first creation the scheduler is not untried
  have hlate : pc.early = false → pc.phase W ≠ .settled → EarlyStep sh pc out := by
    intro hearly hsettled
    rcases huntried with hstate | hearly'
    · exact absurd hstate (hphase.not_initialized hsettled)
    · cases hearly.symm.trans hearly'
  -- elsewhere a call in the wrong state comes and goes
  have hkeep : pc.early = false → out.1.lifecycle.state = sh.lifecycle.state → out.2.2 = [] →
      pc.owes ++ (pc.givesUp W out.2.1).map StartFailure.result
        = pc.answers out.2.1 ++ out.2.1.owes →
      sh.faultPlan.Agrees out.1.faultPlan → EarlyStep sh pc out := by
    intro hearly hstate heffects hlog hplan
    rcases huntried with hinit | hearly'
    · exact ⟨.inl (hstate.trans hinit), heffects, hlog, hplan⟩
    · cases hearly.symm.trans hearly'
  cases h with
  | call call pc hcall =>
    refine hkeep rfl rfl rfl ?_ (.refl _)
    exact beginCall_elim (M := fun pc => ([] : List SchedulerResult) = [] ++ pc.owes) hcall
      rfl rfl rfl rfl rfl
  | startRefused hfree hstate =>
    rcases huntried with hinit | hearly
    · exact absurd hinit hstate
    · cases hearly
  | start hfree hstate => exact ⟨.inr rfl, rfl, rfl, .refl _⟩
  | startUnlock hheld => exact ⟨.inr rfl, rfl, rfl, .refl _⟩
  -- each early failure owes its own result
  | sizeGuard hsize =>
    refine ⟨.inr rfl, rfl, ?_, .refl _⟩
    simp only [ControllerPc.givesUp, if_pos hsize]
    rfl
  | allocationFailed sh' hsh hfail =>
    subst hsh
    refine ⟨.inr rfl, rfl, ?_, allocateWorkers_agrees cfg choice sh⟩
    simp only [ControllerPc.givesUp]
    split <;> rfl
  | allocated sh' hsh hthreads hcontexts hsize =>
    subst hsh
    exact ⟨.inr rfl, rfl, rfl, allocateWorkers_agrees cfg choice sh⟩
  | syncInit => exact ⟨.inr rfl, rfl, rfl, .refl _⟩
  | syncInitFailed mutexInitialized hmutex hfail => exact ⟨.inr rfl, rfl, rfl, .refl _⟩
  | syncLock hfree => exact ⟨.inr rfl, rfl, rfl, .refl _⟩
  | syncUnlock hheld => exact ⟨.inr rfl, rfl, rfl, .refl _⟩
  | createFailed i faultPlan hfree hinit hfail => cases hstays
  | created i faultPlan hfree hinit => cases hstays
  | faultLock call faultPlan configured hfree => cases hstays
  | releaseLock caller index event result allJoined hfree hinit => exact hlate rfl nofun
  | setState state call r hfree =>
    have hinit : state = .initialized ∧ call = .start := by
      rcases huntried with hstate | hearly
      · refine absurd hstate (hphase.not_initialized ?_)
        cases state <;> cases call <;> exact nofun
      · cases state <;> cases call <;> first | exact ⟨rfl, rfl⟩ | cases hearly
    obtain ⟨rfl, rfl⟩ := hinit
    exact ⟨.inl rfl, rfl, rfl, .refl _⟩
  -- the other calls succeed only after a start that did
  | shutdownRunning hfree hstate =>
    rcases huntried with hinit | hearly
    · cases hinit.symm.trans hstate
    · cases hearly
  | join hfree hstate =>
    rcases huntried with hinit | hearly
    · rcases hstate with hstate | hstate <;> cases hinit.symm.trans hstate
    · cases hearly
  | setStateUnlock call r hcall hheld =>
    refine hkeep rfl rfl rfl ?_ (.refl _)
    cases call <;> rfl
  | _ => first
    | exact hkeep rfl rfl rfl rfl (.refl _)
    | exact hlate rfl nofun

variable [Fintype C] {t : Thread W C} {s s' : SchedulerPool W C P} {ring : TaskQueue P}

def SchedulerPc.departs : SchedulerPc W P → Bool
  | .controller pc => pc.departs
  | _ => false

def SchedulerPc.owes : SchedulerPc W P → List SchedulerResult
  | .controller pc => pc.owes
  | _ => []

/-- The starts that give up early at a step, and the answers of those that return at it. -/
def startFailures (s : SchedulerPool W C P) (t : Thread W C) (s' : SchedulerPool W C P) :
    List StartFailure :=
  match s.pc t, s'.pc t with
  | .controller pc, .controller pc' => pc.givesUp W pc'
  | _, _ => []

def startAnswers (s : SchedulerPool W C P) (t : Thread W C) (s' : SchedulerPool W C P) :
    List SchedulerResult :=
  match s.pc t, s'.pc t with
  | .controller pc, .controller pc' => pc.answers pc'
  | _, _ => []

/-- No creation was tried, and the fault plan is configured as `plan` is. -/
def EarlyInv (cfg : SchedulerConfig W) (plan : SchedulerFaultPlan)
    (s : SchedulerPool W C P) : Prop :=
  SchedulerReachable cfg s ∧ plan.Agrees s.shared.faultPlan ∧
    ∀ pc, s.pc .controller = .controller pc → s.shared.Untried pc

theorem earlyInv_step {plan : SchedulerFaultPlan} (h : EarlyInv cfg plan s)
    (hstays : (s.pc t).departs = false) (hstep : (schedulerProgram cfg).step t choice s = some s') :
    EarlyInv cfg plan s' ∧
      (s.pc .controller).owes ++ (startFailures s t s').map StartFailure.result
        = startAnswers s t s' ++ (s'.pc .controller).owes := by
  obtain ⟨hreach, hplan, huntried⟩ := h
  have hreach' := hreach.tail (.single ⟨t, choice, hstep⟩)
  rcases hreach.step_cases hstep with ⟨ht, hframe⟩ | ⟨rfl, pc, pc', fx, hpc, hspec, hfx⟩
  · -- the others touch neither the plan nor the call
    obtain ⟨pc, fx, hspec, hfx⟩ := hreach.threads.step_spec hstep
    have hfixed : s'.shared.faultPlan = s.shared.faultPlan := hspec.faultPlan ht
    have howes : (s'.pc .controller).owes = (s.pc .controller).owes := by
      refine (Program.step_blind (schedulerProgram_blind (fun pc => ?_) fun _ => rfl) hfx).2
        .controller (Ne.symm ht)
      cases pc with
      | controller pc => exact pc.owes_wake
      | _ => rfl
    have hnotes : startFailures s t s' = [] ∧ startAnswers s t s' = [] := by
      have hruns := hreach.threads.runs t
      unfold startFailures startAnswers
      generalize s.pc t = tpc at hruns
      cases tpc with
      | controller pc => cases t <;> first | exact absurd rfl ht | cases hruns
      | _ => exact ⟨rfl, rfl⟩
    rw [hnotes.1, hnotes.2, howes]
    refine ⟨⟨hreach', hfixed ▸ hplan, ?_⟩, List.append_nil _⟩
    refine hreach.controller_step (fun sh pc => sh.Untried pc) (fun sh pc => ?_) hstep
      (fun pc _ _ h => h.imp_left hframe.state.trans) (fun pc out ht' => absurd ht' ht) huntried
    rw [Scheduler.Untried, pc.early_wake]
    rfl
  · rw [hpc] at hstays
    obtain ⟨huntried', hnone, hlog, hagrees⟩ :=
      hspec.earlyStep (hreach.lifecycle.phase hpc) (huntried pc hpc) hstays
    -- an early failure creates no thread and wakes nobody
    obtain rfl : fx = [] := hnone
    have hpc' : s'.pc .controller = .controller pc' := by
      rw [← Option.some.inj hfx]
      exact Function.update_self ..
    refine ⟨⟨hreach', hplan.trans hagrees, fun pc₁ hpc₁ => ?_⟩, ?_⟩
    · cases hpc'.symm.trans hpc₁
      exact huntried'
    · unfold startFailures startAnswers
      rw [hpc, hpc']
      exact hlog

/-- The scheduler of `scheduler_init` around the ring, with the fault plan of `sh`, at a moment
when its locks are held as those of `sh` are. -/
def Scheduler.anew (ring : TaskQueue P) (sh : Scheduler W C P) : Scheduler W C P :=
  let new : Scheduler W C P := schedulerInit ring
  { new with
    queue := { new.queue with mutex := sh.queue.mutex }
    lifecycle := { new.lifecycle with mutex := sh.lifecycle.mutex }
    faultPlan := sh.faultPlan }

/-- Every field but the locks, the counts of rejected submissions with their overflow flag,
and what the fault plan observed. -/
def Scheduler.lasting (sh : Scheduler W C P) : Scheduler W C P where
  queue := { sh.queue with mutex := none }
  lifecycle := { sh.lifecycle with
    mutex := none, submittedCount := 0, rejectedCount := 0, accountingOverflow := false }
  worker := sh.worker
  faultPlan := { sh.faultPlan with
    observedOccurrence := 0, triggered := false, occurrenceOverflow := false }
  history := { accepted := [], invoked := [], completed := [], states := [], firstJoin := none }

omit [DecidableEq C] [Fintype C] in
/-- An unused scheduler in `INITIALIZED` is as `scheduler_init` leaves it. -/
theorem Scheduler.Unused.anew (h : sh.Unused ring) (hstate : sh.lifecycle.state = .initialized)
    (hsettled : sh.SettledIn .initialized) :
    sh.bare = (sh.anew ring).bare ∧ sh.lasting = (sh.anew ring).lasting := by
  obtain ⟨hempty, ⟨hsync, hinit⟩, -, -⟩ := hsettled
  obtain ⟨hmutex, hcondition⟩ := h.untaken hinit
  have hthreads : sh.worker.threads = none := hempty.threads
  have hcontexts : sh.worker.workerContexts = none :=
    Option.isSome_eq_false_iff.mp hempty.contexts |> Option.isNone_iff_eq_none.mp
  have hworker : sh.worker = (schedulerInit ring : Scheduler W C P).worker := by
    rw [h.worker, hmutex, hinit, hcondition, hthreads, hcontexts]
    rfl
  obtain ⟨queue, lifecycle, worker, faultPlan, history⟩ := sh
  obtain ⟨mutex, state, active, submitted, accepted, rejected, overflow, sync⟩ := lifecycle
  obtain rfl : worker = _ := hworker
  obtain rfl : state = .initialized := hstate
  obtain rfl : active = 0 := h.active
  obtain rfl : accepted = 0 := h.accepted
  obtain rfl : sync = false := hsync
  constructor
  · exact congrArg (fun queue => (⟨queue, _, _, _, _⟩ : Scheduler W C P)) h.queue
  · exact congrArg (fun queue : ConcurrentTaskQueue (Thread W C) P =>
      (⟨{ queue with mutex := none }, _, _, _, _⟩ : Scheduler W C P)) h.queue

omit [DecidableEq C] [Fintype C] in
theorem Scheduler.anew_lasting {sh' : Scheduler W C P} (h : sh.faultPlan.Agrees sh'.faultPlan) :
    (sh'.anew ring).lasting = (sh.anew ring).lasting := by
  unfold Scheduler.lasting Scheduler.anew
  obtain ⟨hpoint, htrigger, henabled⟩ := h
  simp only [hpoint, htrigger, henabled]

omit [DecidableEq C] [Fintype C] in
/-- Between two calls no answer is due. -/
theorem SchedulerPc.owes_between {pc : SchedulerPc W P} (h : pc.between = true) : pc.owes = [] := by
  cases pc with
  | controller pc =>
    cases pc with
    | startUnlock accepted => cases h
    | runUnlock => cases h
    | setStateLock state call r => cases h
    | setStateUnlock call r => cases h
    | _ => rfl
  | _ => cases h

/-- In `INITIALIZED` the scheduler is settled and unused. -/
theorem SchedulerReachable.initialized (h : SchedulerReachable cfg s)
    (hring : taskQueueInit cfg.capacity true = (.ok, some ring))
    (hbetween : (s.pc .controller).between = true)
    (hstate : s.shared.lifecycle.state = .initialized) :
    s.shared.Unused ring ∧ s.shared.SettledIn .initialized := by
  obtain ⟨pc, hpc⟩ := h.threads.controllerPc
  rw [hpc] at hbetween
  have hphase := h.lifecycle.phase hpc
  rw [ControllerPc.phase_between hbetween] at hphase
  exact ⟨h.unused hring hpc (.inl hstate), Scheduler.Settled.of_state hphase hstate⟩

/-- **A sequence of starts that fail before a creation leaves no trace.** Every one of them
answers according to its failure; between two of them the scheduler is as before the first,
but for submissions rejected meanwhile and for what the fault plan observed; and from then on
it looks, under every schedule, like a new scheduler with the same fault plan and the same
threads inside. -/
theorem early_start_atomic {ls : List (Thread W C × SchedulerChoice W C P)}
    (hreach : SchedulerReachable cfg s) (hbefore : (s.pc .controller).between = true)
    (hstate : s.shared.lifecycle.state = .initialized)
    (hearly : (schedulerProgram cfg).allowed (fun u t => (u.pc t).departs = false) ls s = true)
    (hrun : (schedulerProgram cfg).run ls s = some s')
    (hbetween : (s'.pc .controller).between = true) :
    (schedulerProgram cfg).log startAnswers ls s
        = ((schedulerProgram cfg).log startFailures ls s).map StartFailure.result ∧
      s'.shared.lasting = s.shared.lasting ∧
      (s'.shared.lifecycle.state = .initialized ∧ s'.shared.worker.threads = none ∧
        s'.shared.worker.workerContexts = none ∧ s'.shared.worker.mutexInitialized = false ∧
        s'.shared.worker.conditionInitialized = false ∧
        s'.shared.lifecycle.workerSyncInitialized = false ∧
        s'.shared.queue.shutdownRequested = false ∧ s'.shared.queue.queue.size = 0) ∧
      ∃ ring, taskQueueInit cfg.capacity true = (.ok, some ring) ∧
        ∀ ls', ((schedulerProgram cfg).run ls' s').map
            (Program.appearance Scheduler.bare SchedulerPc.bare)
          = ((schedulerProgram cfg).run ls' ⟨s'.shared.anew ring, s'.pc⟩).map
            (Program.appearance Scheduler.bare SchedulerPc.bare) := by
  obtain ⟨ring, hring⟩ : ∃ ring, taskQueueInit cfg.capacity true = (.ok, some ring) :=
    ⟨_, hreach.2.choose_spec.1⟩
  have hlog := Program.log_of_run (p := schedulerProgram cfg)
    (fun u t u' => (startFailures u t u').map StartFailure.result) startAnswers
    (fun u => (u.pc .controller).owes) (I := EarlyInv cfg s.shared.faultPlan)
    (fun hu hok hstep => earlyInv_step hu hok hstep)
    ⟨hreach, .refl _, fun _ _ => .inl hstate⟩ hearly hrun
  obtain ⟨⟨hreach', hagrees, huntried⟩, hlog⟩ := hlog
  rw [SchedulerPc.owes_between hbefore, SchedulerPc.owes_between hbetween, List.nil_append,
    List.append_nil, Program.log_map] at hlog
  have hstate' : s'.shared.lifecycle.state = .initialized := by
    obtain ⟨pc, hpc⟩ := hreach'.threads.controllerPc
    rw [hpc] at hbetween
    refine (huntried pc hpc).resolve_right fun hearly => ?_
    cases pc with
    | idle => cases hearly
    | returned call r => cases hearly
    | faultReturned configured => cases hearly
    | _ => cases hbetween
  obtain ⟨hunused, hsettled⟩ := hreach.initialized hring hbefore hstate
  obtain ⟨hunused', hsettled'⟩ := hreach'.initialized hring hbetween hstate'
  obtain ⟨hbare, hlasting⟩ := hunused'.anew hstate' hsettled'
  refine ⟨hlog.symm, ?_, ?_, ring, hring, fun ls' => ?_⟩
  · rw [hlasting, (hunused.anew hstate hsettled).2, Scheduler.anew_lasting hagrees]
  · obtain ⟨hempty, ⟨hsync, hinit⟩, hopen, -⟩ := hsettled'
    refine ⟨hstate', hempty.threads, ?_, hinit, (hunused'.untaken hinit).2, hsync, ?_, ?_⟩
    · exact Option.isNone_iff_eq_none.mp (Option.isSome_eq_false_iff.mp hempty.contexts)
    · exact Bool.eq_false_iff.mpr hopen
    · rw [hunused'.queue]
      exact (taskQueueInit_represents hring).1.length_eq.symm
  · exact (schedulerProgram_congruent cfg).run ls' (congrArg (Pool.mk · _) hbare)

end Runs

/-- A backend that may refuse memory and sync objects. -/
def reluctantConfig : SchedulerConfig 1 :=
  { reliableConfig with allocationMayFail := true, syncInitMayFail := true }

/-- A start without memory, a submission, and a start without `worker_condition`. -/
def earlySchedule : SmallSchedule :=
  makes .controller (.lifecycle .start true) 2 ++ [(.controller, { succeeds := false })]
    ++ advance .controller 3 ++ makes firstClient (.submit .submit (some 7)) 2
    ++ makes .controller (.lifecycle .start true) 3 ++ [(.controller, { alsoSucceeds := false })]
    ++ advance .controller 2

theorem early_start_atomic_twice :
    ∃ s : SchedulerPool 1 (Fin 2) ℕ,
      (schedulerProgram reluctantConfig).run earlySchedule (schedulerInitial smallQueue) = some s ∧
      (schedulerProgram reluctantConfig).log startAnswers earlySchedule
        (schedulerInitial smallQueue)
        = [.errorAllocation, .errorSystem] ∧
      s.shared.lasting = (schedulerInit smallQueue : Scheduler 1 (Fin 2) ℕ).lasting := by
  have hobs : ((schedulerProgram reluctantConfig).run earlySchedule
      (schedulerInitial smallQueue)).map (fun s => (s.pc .controller).between) = some true := by
    decide +kernel
  have hfailures : (schedulerProgram reluctantConfig).log startFailures earlySchedule
      (schedulerInitial smallQueue) = [.allocation, .workerSync] := by decide +kernel
  obtain ⟨s, hrun, hbetween⟩ := Option.map_eq_some_iff.mp hobs
  have hreach : SchedulerReachable reluctantConfig
      (schedulerInitial (W := 1) (C := Fin 2) smallQueue) :=
    ⟨Nat.one_pos, smallQueue, by decide, .refl⟩
  obtain ⟨hanswers, hlasting, -⟩ :=
    early_start_atomic hreach rfl rfl (by decide +kernel) hrun hbetween
  exact ⟨s, hrun, by rw [hanswers, hfailures]; rfl, hlasting⟩

end SchedulingEngine
