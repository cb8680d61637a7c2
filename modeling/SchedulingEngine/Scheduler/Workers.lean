import SchedulingEngine.Scheduler.Phases

/-!
# Workers and lifecycle calls together

`WorkerOk` is what holds of one worker: it exists exactly if it was created, it has
its context as long as it runs, its handle is destroyed only when it has finished, a
clean exit means that the queue is closed and empty, and any other exit was recorded as
an infrastructure failure.

`LifecycleInv` puts it together with the phase of the controller's call and with the
counts of ready and active workers. It holds in every reachable state
(`SchedulerReachable.lifecycle`).
-/

namespace SchedulingEngine

open Concurrency

variable {W : ℕ} {C P : Type}

/-! ## One worker -/

/-- The context of worker `i`, while there are contexts. -/
def Scheduler.slot (sh : Scheduler W C P) (i : Fin W) : Option WorkerContext :=
  sh.worker.workerContexts.map fun contexts => contexts i

/-- Nothing has been counted in this slot. -/
def WorkerContext.Untouched (context : WorkerContext) : Prop :=
  context.dequeuedCount = 0 ∧ context.callbackStartedCount = 0 ∧
    context.callbackSucceededCount = 0 ∧ context.callbackFailedCount = 0 ∧
    context.accountingOverflow = false

namespace WorkerPc

/-- Created and not finished. -/
def alive : WorkerPc P → Bool
  | .notCreated | .finished _ => false
  | _ => true

/-- At its end, where a native join returns. -/
def isFinished : WorkerPc P → Bool
  | .finished _ => true
  | _ => false

/-- The result that the worker is about to exit with, or has exited with. -/
def exiting : WorkerPc P → Option WorkerResult
  | .queueShutdown _ r | .exitLock r | .exitUnlock r | .finished r => some r
  | _ => none

/-- The result that the worker has recorded. -/
def exited : WorkerPc P → Option WorkerResult
  | .exitUnlock r | .finished r => some r
  | _ => none

/-- Between its registration and its exit. -/
def active : WorkerPc P → ℕ
  | .notCreated | .entry | .exitUnlock _ | .finished _ => 0
  | _ => 1

/-- Past its registration. -/
def ready : WorkerPc P → ℕ
  | .notCreated | .entry => 0
  | _ => 1

end WorkerPc

/-- What holds of worker `i` at `pc`. -/
structure WorkerOk (sh : Scheduler W C P) (i : Fin W) (pc : WorkerPc P) : Prop where
  created : pc = .notCreated ↔ sh.worker.createdWorkerCount ≤ i
  context : pc.alive = true → ∃ context, sh.slot i = some context ∧ context.scheduler = true ∧
    context.workerIndex = i
  handle : ∀ threads, sh.worker.threads = some threads → (i : ℕ) < sh.worker.startedWorkerCount →
    threads i = false → pc.isFinished = true
  drained : pc.exiting = some .ok → Drained sh.queue
  failure : ∀ r, pc.exited = some r → r ≠ .ok → sh.worker.infrastructureFailure = true
  untouched : pc = .notCreated → ∀ context, sh.slot i = some context → context.Untouched

/-- The condition looks at six things about where the worker is. -/
theorem WorkerOk.congr {sh : Scheduler W C P} {i : Fin W} {pc pc' : WorkerPc P}
    (hcreated : pc' = .notCreated ↔ pc = .notCreated) (halive : pc'.alive = pc.alive)
    (hfinished : pc'.isFinished = pc.isFinished) (hexiting : pc'.exiting = pc.exiting)
    (hexited : pc'.exited = pc.exited) (hok : WorkerOk sh i pc) : WorkerOk sh i pc' where
  created := hcreated.trans hok.created
  context := halive ▸ hok.context
  handle := hfinished ▸ hok.handle
  drained := hexiting ▸ hok.drained
  failure := hexited ▸ hok.failure
  untouched h := hok.untouched (hcreated.mp h)

/-- A wakeup changes none of them. -/
theorem WorkerOk.wake {sh : Scheduler W C P} {i : Fin W} (pc : WorkerPc P) :
    WorkerOk sh i pc.wake ↔ WorkerOk sh i pc := by
  have hsame : (pc.wake = .notCreated ↔ pc = .notCreated) ∧ pc.wake.alive = pc.alive ∧
      pc.wake.isFinished = pc.isFinished ∧ pc.wake.exiting = pc.exiting ∧
      pc.wake.exited = pc.exited := by
    cases pc <;> simp [WorkerPc.wake, WorkerPc.alive, WorkerPc.isFinished, WorkerPc.exiting,
      WorkerPc.exited]
  obtain ⟨h₁, h₂, h₃, h₄, h₅⟩ := hsame
  exact ⟨.congr h₁.symm h₂.symm h₃.symm h₄.symm h₅.symm, .congr h₁ h₂ h₃ h₄ h₅⟩

/-- What the steps of other threads may do to the data of worker `i`. -/
structure WorkerFrame (i : Fin W) (sh sh' : Scheduler W C P) : Prop where
  crew : sh'.crew = sh.crew
  slot : sh'.slot i = sh.slot i
  drained : Drained sh.queue → Drained sh'.queue
  failure : sh.worker.infrastructureFailure = true → sh'.worker.infrastructureFailure = true

/-- What the steps of other threads do keeps the condition. -/
theorem WorkerOk.frame {i : Fin W} {sh sh' : Scheduler W C P} {pc : WorkerPc P}
    (hok : WorkerOk sh i pc) (h : WorkerFrame i sh sh') : WorkerOk sh' i pc where
  created := by
    rw [show sh'.worker.createdWorkerCount = _ from congrArg Crew.createdWorkerCount h.crew]
    exact hok.created
  context := by
    rw [h.slot]
    exact hok.context
  handle := by
    rw [show sh'.worker.threads = _ from congrArg Crew.threads h.crew,
      show sh'.worker.startedWorkerCount = _ from congrArg Crew.startedWorkerCount h.crew]
    exact hok.handle
  drained hexit := h.drained (hok.drained hexit)
  failure r hr hne := h.failure (hok.failure r hr hne)
  untouched := by
    rw [h.slot]
    exact hok.untouched

/-- A worker that is not created. -/
theorem WorkerOk.notCreated {i : Fin W} {sh : Scheduler W C P}
    (hcreated : sh.worker.createdWorkerCount ≤ i) (hstarted : sh.worker.startedWorkerCount ≤ i)
    (huntouched : ∀ context, sh.slot i = some context → context.Untouched) :
    WorkerOk sh i (.notCreated : WorkerPc P) where
  created := by simp [hcreated]
  context := nofun
  handle _ _ hlt := absurd hlt (Nat.not_lt.mpr hstarted)
  drained := nofun
  failure := nofun
  untouched _ := huntouched

section Steps

variable [DecidableEq C] {cfg : SchedulerConfig W} {t : Thread W C}
  {choice : SchedulerChoice W C P} {sh : Scheduler W C P} {f : ClosableFifo P}

/-- The queue has none of a worker's data. -/
theorem InsideQueueSpec.workerFrame {π : Type} {inside : QueuePc P → π} {resume : QueueReturn P → π}
    {q : QueuePc P} {out : SchedulerStep W C P π}
    (h : InsideQueueSpec cfg t choice sh inside resume q out) (habs : Abstracts sh.queue f)
    (i : Fin W) : WorkerFrame i sh out.1 := by
  cases h with
  | run hact hleave => exact ⟨rfl, rfl, (queueAct_spec habs hact).drained_stays habs, id⟩
  | leave op r => exact ⟨rfl, rfl, id, id⟩

/-- A call leaves the data of the workers alone. -/
theorem CallStepSpec.workerFrame {pc : CallPc P} {out : SchedulerStep W C P (CallPc P)}
    (h : CallStepSpec cfg t choice sh pc out) (habs : Abstracts sh.queue f) (i : Fin W) :
    WorkerFrame i sh out.1 := by
  cases h with
  | enqueue kind task hq => exact hq.workerFrame habs i
  | captureQueue temporary hq => exact hq.workerFrame habs i
  | _ => exact ⟨rfl, rfl, id, id⟩

omit [DecidableEq C] in
/-- A store of worker `i` is seen in its own slot only. -/
theorem storeSlot_slot (i j : Fin W) (g : WorkerContext → WorkerContext) :
    (storeSlot i sh g).slot j = if j = i then (sh.slot i).map g else sh.slot j := by
  unfold Scheduler.slot storeSlot setContext
  dsimp only
  cases sh.worker.workerContexts with
  | none => simp
  | some contexts =>
    by_cases hji : j = i
    · simp [hji]
    · simp [hji]

/-- An exit with an error, or one that was not counted, is a failure of the infrastructure. -/
theorem recordWorkerExit_failure {T : Type} (w : WorkerDomain W T) (r : WorkerResult) :
    (w.infrastructureFailure = true → (recordWorkerExit w r).1.infrastructureFailure = true) ∧
      ((recordWorkerExit w r).2 ≠ .ok → (recordWorkerExit w r).1.infrastructureFailure = true) ∧
      ((recordWorkerExit w r).2 = .ok → r = .ok) := by
  unfold recordWorkerExit
  dsimp only
  split <;> split <;> simp_all

/-- A worker that is counted is taken off the count, and its result stands. -/
theorem recordWorkerExit_active {T : Type} {w : WorkerDomain W T} (r : WorkerResult)
    (hpos : 0 < w.activeWorkerCount) :
    (recordWorkerExit w r).1.activeWorkerCount + 1 = w.activeWorkerCount := by
  have hne : w.activeWorkerCount ≠ 0 := Nat.ne_of_gt hpos
  unfold recordWorkerExit
  simp only [hne, if_false]
  split <;> exact Nat.sub_add_cancel hpos

/-- The other workers. -/
theorem WorkerStepSpec.workerFrame {i j : Fin W} (hij : j ≠ i) {pc : WorkerPc P}
    {out : SchedulerStep W C P (WorkerPc P)} (h : WorkerStepSpec cfg t choice sh i pc out)
    (habs : Abstracts sh.queue f) : WorkerFrame j sh out.1 := by
  have hstore : ∀ g, WorkerFrame j sh (storeSlot i sh g) := fun g =>
    ⟨storeSlot_crew i g, by rw [storeSlot_slot, if_neg hij], id, id⟩
  cases h with
  | dequeue hq => exact hq.workerFrame habs j
  | accountDequeued task hcontexts => exact hstore _
  | accountStarted task hcontexts => exact hstore _
  | accountRunning task contexts hcontexts => exact hstore _
  | call task runningAccounted hcall => exact hcall.workerFrame habs j
  | accountResult succeeded hcontexts => exact hstore _
  | accountResultOnly succeeded hcontexts => exact hstore _
  | accountRunningDone hcontexts => exact hstore _
  | queueShutdown r hq => exact hq.workerFrame habs j
  | exit r hfree hinit =>
    obtain ⟨active, failures, overflow, failure, hexit⟩ :=
      recordWorkerExit_frame (sh.lockWorker t).worker r
    have hfailure := (recordWorkerExit_failure (sh.lockWorker t).worker r).1
    refine ⟨?_, ?_, id, hfailure⟩
    · dsimp only
      rw [hexit]
      rfl
    · dsimp only
      rw [hexit]
      rfl
  | _ => exact ⟨rfl, rfl, id, id⟩

omit [DecidableEq C] in
/-- A step of worker `i` itself, which keeps its place in the crew. -/
theorem WorkerOk.step {sh' : Scheduler W C P} {i : Fin W} {pc pc' : WorkerPc P}
    (hok : WorkerOk sh i pc) (halive : pc.alive = true) (hcrew : sh'.crew = sh.crew)
    (hslot : ∀ context, sh.slot i = some context → ∃ context', sh'.slot i = some context' ∧
      context'.scheduler = context.scheduler ∧ context'.workerIndex = context.workerIndex)
    (hpc' : pc' ≠ .notCreated) (hdrained : pc'.exiting = some .ok → Drained sh'.queue)
    (hfailure : ∀ r, pc'.exited = some r → r ≠ .ok → sh'.worker.infrastructureFailure = true) :
    WorkerOk sh' i pc' := by
  have hpc : pc ≠ .notCreated := by rintro rfl; cases halive
  refine ⟨?_, ?_, ?_, hdrained, hfailure, fun h => absurd h hpc'⟩
  · rw [show sh'.worker.createdWorkerCount = _ from congrArg Crew.createdWorkerCount hcrew]
    exact iff_of_false hpc' (mt hok.created.mpr hpc)
  · intro _
    obtain ⟨context, hcontext, hscheduler, hindex⟩ := hok.context halive
    obtain ⟨context', hcontext', h₁, h₂⟩ := hslot context hcontext
    exact ⟨context', hcontext', h₁.trans hscheduler, h₂.trans hindex⟩
  · intro threads hthreads hstarted hgone
    have hfinished := hok.handle threads ((congrArg Crew.threads hcrew).symm.trans hthreads)
      (Nat.lt_of_lt_of_eq hstarted (congrArg Crew.startedWorkerCount hcrew)) hgone
    cases pc with
    | finished r => cases halive
    | _ => cases hfinished

omit [DecidableEq C] in
/-- A worker that runs passes the check of its context. -/
theorem WorkerOk.good_context {i : Fin W} {pc : WorkerPc P} (hok : WorkerOk sh i pc)
    (halive : pc.alive = true) {contexts : Fin W → WorkerContext}
    (hcontexts : sh.worker.workerContexts = some contexts) :
    ¬((contexts i).scheduler = false ∨ W ≤ (contexts i).workerIndex) := by
  obtain ⟨context, hcontext, hscheduler, hindex⟩ := hok.context halive
  unfold Scheduler.slot at hcontext
  rw [hcontexts] at hcontext
  cases hcontext
  rintro (hbad | hbad)
  · rw [hscheduler] at hbad
    cases hbad
  · exact absurd i.isLt (Nat.not_lt.mpr (hindex ▸ hbad))

/-- A worker that takes a step was created. -/
theorem WorkerStepSpec.created {i : Fin W} {pc : WorkerPc P}
    {out : SchedulerStep W C P (WorkerPc P)} (h : WorkerStepSpec cfg t choice sh i pc out) :
    pc ≠ .notCreated := by
  cases h <;> nofun

/-- **A step of a worker keeps what holds of it.** -/
theorem WorkerStepSpec.ok {i : Fin W} {pc : WorkerPc P} {out : SchedulerStep W C P (WorkerPc P)}
    (h : WorkerStepSpec cfg t choice sh i pc out) (habs : Abstracts sh.queue f)
    (hanswered : pc.queue.Answered sh.queue)
    (hoperation : (SchedulerPc.worker i pc).queue.operation = (SchedulerPc.worker i pc).operation)
    (hok : WorkerOk sh i pc) : WorkerOk out.1 i out.2.1 := by
  have hframe : ∀ {sh' : Scheduler W C P}, WorkerFrame i sh sh' → ∀ context,
      sh.slot i = some context → ∃ context', sh'.slot i = some context' ∧
        context'.scheduler = context.scheduler ∧ context'.workerIndex = context.workerIndex :=
    fun hframe context hcontext => ⟨context, hframe.slot.trans hcontext, rfl, rfl⟩
  -- stores go to the counters of the slot, not to its identity
  have hstore : ∀ {pc' : WorkerPc P} (g : WorkerContext → WorkerContext),
      (∀ context, (g context).scheduler = context.scheduler ∧
        (g context).workerIndex = context.workerIndex) →
      pc.alive = true → pc' ≠ .notCreated → pc'.exiting = none → pc'.exited = none →
      WorkerOk (storeSlot i sh g) i pc' := by
    intro pc' g hg halive hpc' hexiting hexited
    refine hok.step halive (storeSlot_crew i g) ?_ hpc' ?_ ?_
    · intro context hcontext
      refine ⟨g context, ?_, hg context⟩
      rw [storeSlot_slot, if_pos rfl, hcontext]
      rfl
    · rw [hexiting]
      nofun
    · rw [hexited]
      nofun
  cases h with
  | badContext contexts hcontexts hbad => exact absurd hbad (hok.good_context rfl hcontexts)
  | register hcontexts hfree hinit =>
    exact hok.step rfl rfl (fun context hcontext => ⟨context, hcontext, rfl, rfl⟩) nofun nofun nofun
  | registered hheld =>
    exact hok.step rfl rfl (fun context hcontext => ⟨context, hcontext, rfl, rfl⟩) nofun nofun nofun
  | dequeue hq =>
    cases hq with
    | run hact hleave =>
      exact hok.step rfl rfl (fun context hcontext => ⟨context, hcontext, rfl, rfl⟩) nofun nofun
        nofun
    | leave op r =>
      obtain rfl : op = .dequeue := Option.some.inj hoperation
      refine hok.step rfl rfl (fun context hcontext => ⟨context, hcontext, rfl, rfl⟩) ?_ ?_ ?_
      · rcases afterDequeue_cases r with hpc | hpc | ⟨task, -, hpc⟩ <;> rw [hpc] <;> nofun
      · intro hexiting
        -- the worker exits with `ok` only after a dequeue refused with `ERROR_SHUTDOWN`
        cases r with
        | status result output =>
          cases result <;> cases output <;> first | exact hanswered | cases hexiting
        | _ => cases hexiting
      · intro r' hexited
        rcases afterDequeue_cases r with hpc | hpc | ⟨task, -, hpc⟩ <;> rw [hpc] at hexited <;>
          cases hexited
  | accountDequeued task hcontexts => exact hstore _ (fun _ => ⟨rfl, rfl⟩) rfl nofun rfl rfl
  | accountStarted task hcontexts => exact hstore _ (fun _ => ⟨rfl, rfl⟩) rfl nofun rfl rfl
  | accountRunning task contexts hcontexts =>
    exact hstore _ (fun _ => ⟨rfl, rfl⟩) rfl nofun rfl rfl
  | invoke task runningAccounted =>
    exact hok.step rfl rfl (fun context hcontext => ⟨context, hcontext, rfl, rfl⟩) nofun nofun nofun
  | callbackReturns task runningAccounted succeeded =>
    exact hok.step rfl rfl (fun context hcontext => ⟨context, hcontext, rfl, rfl⟩) nofun nofun nofun
  | call task runningAccounted hcall =>
    have hcallFrame := hcall.workerFrame habs i
    exact hok.step rfl hcallFrame.crew (hframe hcallFrame) nofun nofun nofun
  | accountResult succeeded hcontexts =>
    exact hstore _ (fun _ => by cases succeeded <;> exact ⟨rfl, rfl⟩) rfl nofun rfl rfl
  | accountResultOnly succeeded hcontexts =>
    exact hstore _ (fun _ => by cases succeeded <;> exact ⟨rfl, rfl⟩) rfl nofun rfl rfl
  | accountRunningDone hcontexts => exact hstore _ (fun _ => ⟨rfl, rfl⟩) rfl nofun rfl rfl
  | queueShutdown r hq =>
    have hqueueFrame := hq.workerFrame habs i
    cases hq with
    | run hact hleave =>
      exact hok.step rfl rfl (hframe hqueueFrame) nofun
        (fun hexiting => hqueueFrame.drained (hok.drained hexiting)) nofun
    | leave op r' => exact hok.step rfl rfl (hframe hqueueFrame) nofun hok.drained nofun
  | exit r hfree hinit =>
    obtain ⟨-, hfailed, hclean⟩ := recordWorkerExit_failure (sh.lockWorker t).worker r
    obtain ⟨active, failures, overflow, failure, hexit⟩ :=
      recordWorkerExit_frame (sh.lockWorker t).worker r
    refine hok.step rfl ?_ ?_ nofun ?_ ?_
    · dsimp only
      rw [hexit]
      rfl
    · intro context hcontext
      dsimp only
      rw [hexit]
      exact ⟨context, hcontext, rfl, rfl⟩
    · intro hexiting
      rw [hclean (Option.some.inj hexiting)] at hok
      exact hok.drained rfl
    · intro r' hr' hne
      exact hfailed (Option.some.inj hr' ▸ hne)
  | exited r hheld =>
    exact hok.step rfl rfl (fun context hcontext => ⟨context, hcontext, rfl, rfl⟩) nofun hok.drained
      hok.failure

/-! ## Lifecycle calls and the workers -/

/-- The worker that a native join has returned for, until its handle is destroyed. -/
def ControllerPc.joining : ControllerPc P → Option ℕ
  | .releaseLock _ index event _ _ | .releaseUnlock _ index event _ _ =>
    if event = .nativeFailed then none else some index
  | _ => none

theorem ControllerPc.joining_wake (pc : ControllerPc P) : pc.wake.joining = pc.joining := by
  cases pc <;> rfl

omit [DecidableEq C] in
/-- The creation of worker `j` writes in its own slot. -/
theorem creating_slot (sh : Scheduler W C P) (i j : Fin W) :
    ((creating sh j).workerContexts.map fun contexts => contexts i)
      = if i = j then (sh.slot j).map fun context =>
          { context with scheduler := true, workerIndex := (j : ℕ) }
        else sh.slot i :=
  storeSlot_slot j i _

omit [DecidableEq C] in
theorem creating_crew (sh : Scheduler W C P) (j : Fin W) :
    Crew.mk (creating sh j).threads (creating sh j).workerContexts.isSome
      (creating sh j).startedWorkerCount (creating sh j).createdWorkerCount = sh.crew :=
  storeSlot_crew j _

/-- A handle destroyed after its worker has finished. -/
theorem destroyThread_handle {T : Type} {w : WorkerDomain W T} {i j : Fin W} {pc : WorkerPc P}
    (hhandle : ∀ threads, w.threads = some threads → (i : ℕ) < w.startedWorkerCount →
      threads i = false → pc.isFinished = true)
    (hfinished : i = j → pc.isFinished = true) :
    ∀ threads, (destroyThread w j).threads = some threads →
      (i : ℕ) < (destroyThread w j).startedWorkerCount → threads i = false →
      pc.isFinished = true := by
  intro threads hthreads hstarted hgone
  obtain ⟨threads₀, hthreads₀, rfl⟩ := Option.map_eq_some_iff.mp hthreads
  by_cases hij : i = j
  · exact hfinished hij
  · rw [Function.update_of_ne hij] at hgone
    exact hhandle threads₀ hthreads₀ hstarted hgone

omit [DecidableEq C] in
/-- A worker that must have finished by the time the slots are folded. -/
theorem WorkerOk.not_alive {i : Fin W} {pc : WorkerPc P} (hok : WorkerOk sh i pc)
    (hreleasable : sh.crew.Releasable) (hgone : sh.crew.Gone sh.crew.startedWorkerCount) :
    pc.alive = false := by
  cases halive : pc.alive with
  | false => rfl
  | true =>
    obtain ⟨context, hcontext, -⟩ := hok.context halive
    have hnot : pc ≠ .notCreated := by rintro rfl; cases halive
    rcases hreleasable with hreleased | ⟨k, hpopulated⟩
    · have hnone : sh.worker.workerContexts = none :=
        Option.isNone_iff_eq_none.mp (Option.isSome_eq_false_iff.mp hreleased.contexts)
      unfold Scheduler.slot at hcontext
      rw [hnone] at hcontext
      cases hcontext
    · obtain ⟨threads, hthreads⟩ := Option.isSome_iff_exists.mp hpopulated.threads
      have hlt : (i : ℕ) < sh.crew.startedWorkerCount := by
        rw [hpopulated.started, ← hpopulated.created]
        exact Nat.not_le.mp (mt hok.created.mpr hnot)
      have hfinished := hok.handle threads hthreads hlt (hgone threads hthreads i hlt)
      cases pc with
      | finished r => cases halive
      | _ => cases hfinished

/-- **A step of a lifecycle call keeps what holds of a worker that it does not start.** -/
theorem ControllerStepSpec.workers {pc : ControllerPc P}
    {out : SchedulerStep W C P (ControllerPc P)}
    (h : ControllerStepSpec cfg choice sh pc out) (habs : Abstracts sh.queue f)
    (hphase : (pc.phase W).Ok sh) (hgone : pc.HandlesGone sh.crew) {i : Fin W} {wpc : WorkerPc P}
    (hok : WorkerOk sh i wpc) (hjoin : pc.joining = some (i : ℕ) → wpc.isFinished = true)
    (hawait : ∀ r, .await (.worker i) r ∈ out.2.2 → wpc.isFinished = true)
    (hspawn : .spawn (.worker i) ∉ out.2.2) : WorkerOk out.1 i wpc := by
  cases h with
  | allocationFailed sh' hsh hfail =>
    subst hsh
    obtain ⟨hstate, hempty, hsync, hopen, hquiet⟩ := hphase
    have hcreated : sh.worker.createdWorkerCount ≤ i := hempty.created.trans_le (Nat.zero_le _)
    obtain rfl := hok.created.mpr hcreated
    exact .notCreated hcreated (hempty.started.trans_le (Nat.zero_le _)) nofun
  | allocated sh' hsh hthreads hcontexts =>
    subst hsh
    obtain ⟨hstate, hempty, hsync, hopen, hquiet⟩ := hphase
    have hcreated : sh.worker.createdWorkerCount ≤ i := hempty.created.trans_le (Nat.zero_le _)
    obtain rfl := hok.created.mpr hcreated
    refine .notCreated hcreated (hempty.started.trans_le (Nat.zero_le _)) ?_
    intro context hcontext
    unfold Scheduler.slot at hcontext
    rw [hcontexts] at hcontext
    cases hcontext
    exact ⟨rfl, rfl, rfl, rfl, rfl⟩
  -- no worker has been created when the arrays are freed
  | syncInitFailed mutexInitialized hmutex hfail =>
    obtain ⟨hstate, hpopulated, hsync, hopen, hquiet⟩ := hphase
    have hcreated : sh.worker.createdWorkerCount ≤ i := hpopulated.created.trans_le (Nat.zero_le _)
    obtain rfl := hok.created.mpr hcreated
    exact .notCreated hcreated (hpopulated.started.trans_le (Nat.zero_le _)) nofun
  | createFailed j faultPlan hfree hinit hfail =>
    obtain ⟨hstate, hpopulated, hsync, hquiet⟩ := hphase
    -- only the slot of the worker to be created is written
    by_cases hij : i = j
    · subst hij
      have hcreated : sh.worker.createdWorkerCount ≤ i := Nat.le_of_eq hpopulated.created
      obtain rfl := hok.created.mpr hcreated
      refine .notCreated hcreated (Nat.le_of_eq hpopulated.started) ?_
      intro context hcontext
      obtain ⟨context₀, hcontext₀, rfl⟩ := Option.map_eq_some_iff.mp
        (((creating_slot sh i i).trans (if_pos rfl)).symm.trans hcontext)
      exact hok.untouched rfl context₀ hcontext₀
    · exact hok.frame ⟨creating_crew sh j, (creating_slot sh i j).trans (if_neg hij), id, id⟩
  | created j faultPlan hfree hinit =>
    obtain ⟨hstate, hpopulated, hsync, hquiet⟩ := hphase
    have hij : i ≠ j := by
      rintro rfl
      exact hspawn (List.mem_singleton.mpr rfl)
    have hslot := (creating_slot sh i j).trans (if_neg hij)
    refine ⟨?_, ?_, ?_, hok.drained, hok.failure, ?_⟩
    · have hcreated : sh.worker.createdWorkerCount = j := hpopulated.created
      show _ ↔ sh.worker.createdWorkerCount + 1 ≤ i
      rw [hok.created]
      have hne : (i : ℕ) ≠ j := fun h => hij (Fin.ext h)
      omega
    · intro halive
      obtain ⟨context, hcontext, hrest⟩ := hok.context halive
      exact ⟨context, hslot.trans hcontext, hrest⟩
    · intro threads hthreads hstarted hgone
      obtain ⟨threads₀, hthreads₀, rfl⟩ := Option.map_eq_some_iff.mp hthreads
      rw [Function.update_of_ne hij] at hgone
      refine hok.handle threads₀ hthreads₀ ?_ hgone
      have hcount : sh.worker.startedWorkerCount = j := hpopulated.started
      have hlt : (i : ℕ) < sh.worker.startedWorkerCount + 1 := hstarted
      have hne : (i : ℕ) ≠ j := fun h => hij (Fin.ext h)
      omega
    · intro hnot context hcontext
      exact hok.untouched hnot context (hslot.symm.trans hcontext)
  | abortQueue hq => exact hok.frame (hq.workerFrame habs i)
  -- a handle is destroyed after the native join has returned for its worker
  | releaseFailedWorker caller j result allJoined faultPlan workerResult hresult hindex =>
    refine ⟨hok.created, hok.context, destroyThread_handle hok.handle ?_, hok.drained, hok.failure,
      hok.untouched⟩
    rintro rfl
    exact hawait workerResult (List.mem_singleton.mpr rfl)
  | releaseLock caller index event result allJoined hfree hinit =>
    cases event <;> exact hok.frame ⟨rfl, rfl, id, id⟩
  | releaseUnlock caller j event result allJoined hevent hheld =>
    refine ⟨hok.created, hok.context, destroyThread_handle hok.handle ?_, hok.drained, hok.failure,
      hok.untouched⟩
    rintro rfl
    exact hjoin (if_neg hevent)
  -- the slots are freed when all handles are gone, so nobody needs them
  | fold caller result worker hfree hinit hfold =>
    have hdead := hok.not_alive hphase.2.1 hgone
    obtain ⟨_, _, _, _, _, rfl⟩ := foldWorkers_frame hfold
    exact ⟨hok.created, by rw [hdead]; nofun, nofun, hok.drained, hok.failure, nofun⟩
  | shutdownQueue hq => exact hok.frame (hq.workerFrame habs i)
  | _ => exact hok.frame ⟨rfl, rfl, id, id⟩

/-- The queue starts no threads. -/
theorem InsideQueueSpec.no_spawn {π : Type} {inside : QueuePc P → π} {resume : QueueReturn P → π}
    {q : QueuePc P} {out : SchedulerStep W C P π}
    (h : InsideQueueSpec cfg t choice sh inside resume q out) (habs : Abstracts sh.queue f)
    (u : Thread W C) : .spawn u ∉ out.2.2 := by
  intro hspawn
  cases h with
  | run hact hleave =>
    obtain ⟨e, he, hlift⟩ := List.mem_map.mp hspawn
    have hinner := (queueAct_spec habs hact).inner e he
    cases e with
    | signal c woken => cases hlift
    | broadcast c => cases hlift
    | spawn v => exact hinner
    | await v r => exact hinner
  | leave op r => cases hspawn

/-- No call creates a thread. -/
theorem CallStepSpec.no_spawn {pc : CallPc P} {out : SchedulerStep W C P (CallPc P)}
    (h : CallStepSpec cfg t choice sh pc out) (habs : Abstracts sh.queue f) (u : Thread W C) :
    .spawn u ∉ out.2.2 := by
  cases h with
  | enqueue kind task hq => exact hq.no_spawn habs u
  | deregister task r hfree =>
    dsimp only
    split <;> simp
  | captureQueue temporary hq => exact hq.no_spawn habs u
  | _ => simp

/-- And no worker does. -/
theorem WorkerStepSpec.no_spawn {i : Fin W} {pc : WorkerPc P}
    {out : SchedulerStep W C P (WorkerPc P)} (h : WorkerStepSpec cfg t choice sh i pc out)
    (habs : Abstracts sh.queue f) (u : Thread W C) : .spawn u ∉ out.2.2 := by
  cases h with
  | dequeue hq => exact hq.no_spawn habs u
  | call task runningAccounted hcall => exact hcall.no_spawn habs u
  | queueShutdown r hq => exact hq.no_spawn habs u
  | _ => simp

/-- The worker that a lifecycle call starts. -/
theorem ControllerStepSpec.spawned {pc : ControllerPc P}
    {out : SchedulerStep W C P (ControllerPc P)}
    (h : ControllerStepSpec cfg choice sh pc out) (habs : Abstracts sh.queue f)
    (hphase : (pc.phase W).Ok sh) {u : Thread W C} (hspawn : .spawn u ∈ out.2.2) :
    ∃ i, u = .worker i ∧ WorkerOk out.1 i (.entry : WorkerPc P) := by
  cases h with
  | created j faultPlan hfree hinit =>
    cases List.mem_singleton.mp hspawn
    obtain ⟨hstate, hpopulated, hsync, hquiet⟩ := hphase
    refine ⟨j, rfl, ?_, ?_, ?_, nofun, nofun, nofun⟩
    · have hcreated : sh.worker.createdWorkerCount = j := hpopulated.created
      show _ ↔ sh.worker.createdWorkerCount + 1 ≤ j
      rw [hcreated]
      exact iff_of_false nofun (Nat.not_succ_le_self _)
    · intro _
      obtain ⟨contexts, hcontexts⟩ := Option.isSome_iff_exists.mp hpopulated.contexts
      refine ⟨{ contexts j with scheduler := true, workerIndex := j }, ?_, rfl, rfl⟩
      refine ((creating_slot sh j j).trans (if_pos rfl)).trans ?_
      unfold Scheduler.slot
      rw [hcontexts]
      rfl
    · intro threads hthreads _ hgone
      obtain ⟨threads₀, -, rfl⟩ := Option.map_eq_some_iff.mp hthreads
      rw [Function.update_self] at hgone
      cases hgone
  | abortQueue hq => exact absurd hspawn (hq.no_spawn habs u)
  | shutdownQueue hq => exact absurd hspawn (hq.no_spawn habs u)
  | releaseInjected caller i result allJoined faultPlan workerResult =>
    cases List.mem_singleton.mp hspawn
  | releaseFailedWorker caller i result allJoined faultPlan workerResult =>
    cases List.mem_singleton.mp hspawn
  | releaseJoined caller i result allJoined faultPlan => cases List.mem_singleton.mp hspawn
  | _ => cases hspawn

/-- A native join is recorded for the worker that was awaited. -/
theorem ControllerStepSpec.joining {pc : ControllerPc P}
    {out : SchedulerStep W C P (ControllerPc P)}
    (h : ControllerStepSpec cfg choice sh pc out) {i : Fin W}
    (hjoining : out.2.1.joining = some (i : ℕ)) :
    pc.joining = some (i : ℕ) ∨ ∃ r, .await (.worker i) r ∈ out.2.2 := by
  cases h with
  | call call pc hcall =>
    rcases beginCall_quiet hcall with rfl | rfl | rfl | rfl | rfl <;> cases hjoining
  | readyLock hfree hinit =>
    rcases readyTest_cases sh with ⟨hpc, -⟩ | ⟨hpc, -⟩ <;> rw [hpc] at hjoining <;> cases hjoining
  | readyAgain hfree hinit =>
    rcases readyTest_cases sh with ⟨hpc, -⟩ | ⟨hpc, -⟩ <;> rw [hpc] at hjoining <;> cases hjoining
  | abortQueue hq => cases hq <;> cases hjoining
  -- a native join has returned in both cases
  | releaseInjected caller j result allJoined faultPlan workerResult hfault hindex =>
    obtain rfl : j = i := Fin.ext (Option.some.inj hjoining)
    exact .inr ⟨workerResult, List.mem_singleton.mpr rfl⟩
  | releaseJoined caller j result allJoined faultPlan hindex =>
    obtain rfl : j = i := Fin.ext (Option.some.inj hjoining)
    exact .inr ⟨.ok, List.mem_singleton.mpr rfl⟩
  | releaseIncomplete caller index result hindex =>
    obtain ⟨state, call, r, hpc⟩ := afterRelease_cases sh caller .errorSystem
    rw [hpc] at hjoining
    cases hjoining
  | releaseLock caller index event result allJoined hfree hinit => exact .inl hjoining
  | foldUnlock caller result hheld =>
    obtain ⟨state, call, r, hpc⟩ := afterRelease_cases sh caller result
    rw [hpc] at hjoining
    cases hjoining
  | shutdownQueue hq => cases hq <;> cases hjoining
  | drainLock caller hfree =>
    rcases drainTest_cases sh caller with ⟨hpc, -⟩ | ⟨hpc, -⟩ <;> rw [hpc] at hjoining <;>
      cases hjoining
  | drainAgain caller hfree =>
    rcases drainTest_cases sh caller with ⟨hpc, -⟩ | ⟨hpc, -⟩ <;> rw [hpc] at hjoining <;>
      cases hjoining
  | join hfree hstate =>
    rcases drainTest_cases sh .join with ⟨hpc, -⟩ | ⟨hpc, -⟩ <;> rw [hpc] at hjoining <;>
      cases hjoining
  | _ => cases hjoining

/-! ## Counting workers -/

def SchedulerPc.active : SchedulerPc W P → ℕ
  | .worker _ pc => pc.active
  | _ => 0

def SchedulerPc.ready : SchedulerPc W P → ℕ
  | .worker _ pc => pc.ready
  | _ => 0

def SchedulerPc.isFinished : SchedulerPc W P → Bool
  | .worker _ pc => pc.isFinished
  | _ => false

def SchedulerPc.joining : SchedulerPc W P → Option ℕ
  | .controller pc => pc.joining
  | _ => none

section Wake

variable (pc : SchedulerPc W P)

theorem SchedulerPc.active_wake : pc.wake.active = pc.active := by
  cases pc with
  | worker i pc => cases pc <;> rfl
  | _ => rfl

theorem SchedulerPc.ready_wake : pc.wake.ready = pc.ready := by
  cases pc with
  | worker i pc => cases pc <;> rfl
  | _ => rfl

theorem SchedulerPc.isFinished_wake : pc.wake.isFinished = pc.isFinished := by
  cases pc with
  | worker i pc => cases pc <;> rfl
  | _ => rfl

theorem SchedulerPc.joining_wake : pc.wake.joining = pc.joining := by
  cases pc with
  | controller pc => exact pc.joining_wake
  | _ => rfl

end Wake

/-- The slots of the workers, if there are workers, have not been folded yet. -/
def Scheduler.Unfolded (sh : Scheduler W C P) : Prop :=
  sh.worker.createdWorkerCount = 0 ∨ sh.worker.workerContexts.isSome = true

omit [DecidableEq C] in
/-- Whether the slots are folded is seen from the arrays and the counts. -/
theorem Scheduler.Unfolded.congr {sh' : Scheduler W C P} (hcrew : sh'.crew = sh.crew)
    (h : sh'.Unfolded) : sh.Unfolded := by
  rcases h with hcreated | hcontexts
  · exact .inl ((congrArg Crew.createdWorkerCount hcrew).symm.trans hcreated)
  · exact .inr ((congrArg Crew.contexts hcrew).symm.trans hcontexts)

/-- What a step does to the counts of active and ready workers. -/
structure HeadCount (sh sh' : Scheduler W C P) (pc pc' : SchedulerPc W P) : Prop where
  active : sh'.worker.activeWorkerCount + pc.active = sh.worker.activeWorkerCount + pc'.active
  unfolded : sh'.Unfolded → sh.Unfolded
  ready : sh'.Unfolded →
    sh'.worker.readyWorkerCount + pc.ready = sh.worker.readyWorkerCount + pc'.ready

/-- A call counts no worker in or out. -/
theorem CallStepSpec.counts {pc : CallPc P} {out : SchedulerStep W C P (CallPc P)}
    (h : CallStepSpec cfg t choice sh pc out) :
    out.1.worker.activeWorkerCount = sh.worker.activeWorkerCount ∧
      out.1.worker.readyWorkerCount = sh.worker.readyWorkerCount := by
  cases h with
  | enqueue kind task hq => rw [hq.frame]; exact ⟨rfl, rfl⟩
  | captureQueue temporary hq => rw [hq.frame]; exact ⟨rfl, rfl⟩
  | _ => exact ⟨rfl, rfl⟩

theorem afterDequeue_counts (r : QueueReturn P) :
    (afterDequeue r).active = 1 ∧ (afterDequeue r).ready = 1 := by
  rcases afterDequeue_cases r with hpc | hpc | ⟨task, -, hpc⟩ <;> rw [hpc] <;> exact ⟨rfl, rfl⟩

/-- A worker counts itself: as ready when it registers, and as gone when it exits. -/
theorem WorkerStepSpec.headCount {i : Fin W} {pc : WorkerPc P}
    {out : SchedulerStep W C P (WorkerPc P)} (h : WorkerStepSpec cfg t choice sh i pc out)
    (hok : WorkerOk sh i pc) (hcrew : out.1.crew = sh.crew)
    (hactive : pc.active ≤ sh.worker.activeWorkerCount) :
    HeadCount sh out.1 (.worker i pc) (.worker i out.2.1) := by
  suffices hcounts :
      out.1.worker.activeWorkerCount + pc.active = sh.worker.activeWorkerCount + out.2.1.active ∧
      out.1.worker.readyWorkerCount + pc.ready = sh.worker.readyWorkerCount + out.2.1.ready from
    ⟨hcounts.1, .congr hcrew, fun _ => hcounts.2⟩
  clear hcrew
  cases h with
  | badContext contexts hcontexts hbad => exact absurd hbad (hok.good_context rfl hcontexts)
  | dequeue hq =>
    cases hq with
    | run hact hleave => exact ⟨rfl, rfl⟩
    | leave op r =>
      obtain ⟨h₁, h₂⟩ := afterDequeue_counts r
      exact ⟨congrArg (_ + ·) h₁.symm, congrArg (_ + ·) h₂.symm⟩
  | call task runningAccounted hcall =>
    obtain ⟨h₁, h₂⟩ := hcall.counts
    exact ⟨congrArg (· + 1) h₁, congrArg (· + 1) h₂⟩
  | queueShutdown r hq => cases hq <;> exact ⟨rfl, rfl⟩
  | exit r hfree hinit =>
    obtain ⟨active, failures, overflow, failure, hexit⟩ :=
      recordWorkerExit_frame (sh.lockWorker t).worker r
    refine ⟨recordWorkerExit_active r hactive, ?_⟩
    dsimp only
    rw [hexit]
    rfl
  | _ => exact ⟨rfl, rfl⟩

/-- The controller counts no worker in or out; it may fold the slots or, in a failed start, find
that there are none. -/
theorem ControllerStepSpec.headCount {pc : ControllerPc P}
    {out : SchedulerStep W C P (ControllerPc P)} (h : ControllerStepSpec cfg choice sh pc out)
    (hphase : (pc.phase W).Ok sh)
    (hzero : sh.worker.createdWorkerCount = 0 → sh.worker.readyWorkerCount = 0) :
    HeadCount sh out.1 (.controller pc) (.controller out.2.1) := by
  cases h with
  | allocationFailed sh' hsh hfail =>
    subst hsh
    exact ⟨rfl, fun _ => .inl hphase.2.1.created, fun _ => rfl⟩
  | allocated sh' hsh hthreads hcontexts =>
    subst hsh
    exact ⟨rfl, fun _ => .inl hphase.2.1.created, fun _ => rfl⟩
  | syncInitFailed mutexInitialized hmutex hfail =>
    exact ⟨rfl, fun _ => .inl hphase.2.1.created, fun _ => rfl⟩
  | createFailed j faultPlan hfree hinit hfail =>
    exact ⟨rfl, .congr (creating_crew sh j), fun _ => rfl⟩
  | created j faultPlan hfree hinit =>
    exact ⟨rfl, fun _ => .inr hphase.2.1.contexts, fun _ => rfl⟩
  | releaseLock caller index event result allJoined hfree hinit =>
    cases event <;> exact ⟨rfl, id, fun _ => rfl⟩
  | fold caller result worker hfree hinit hfold =>
    obtain ⟨_, _, _, _, _, rfl⟩ := foldWorkers_frame hfold
    have hnone : ∀ {contexts : Option (Fin W → WorkerContext)}, contexts = none →
        sh.worker.createdWorkerCount = 0 ∨ contexts.isSome = true →
        sh.worker.createdWorkerCount = 0 := by
      rintro contexts rfl (hcreated | hsome)
      · exact hcreated
      · cases hsome
    exact ⟨rfl, fun h => .inl (hnone rfl h), fun h => (hzero (hnone rfl h)).symm⟩
  | abortQueue hq => cases hq <;> exact ⟨rfl, id, fun _ => rfl⟩
  | shutdownQueue hq => cases hq <;> exact ⟨rfl, id, fun _ => rfl⟩
  | _ => exact ⟨rfl, id, fun _ => rfl⟩

end Steps

end SchedulingEngine
