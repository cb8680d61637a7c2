import SchedulingEngine.Scheduler.JoinCounts

/-!
# Head counts

The counts that a snapshot copies under `worker_mutex`: of workers created, ready, active
and joined, and of failed creations. They are written at different moments by the workers
and by `release_workers`; `HeadcountInv` says what holds of them in every reachable state,
whatever the backend refuses: what `JoinCounts` says of joins and failed creations, and that
the slot of a worker counts a running callback exactly while the worker is in one
(`RunningCount`).
-/

namespace SchedulingEngine

open Concurrency

variable {W : ℕ} {C P : Type}

/-! ## Running callbacks -/

/-- Counted as running a callback. -/
def WorkerPc.running : WorkerPc P → ℕ
  | .invoke _ true | .callback _ true _ | .accountResult true _ | .accountRunningDone => 1
  | _ => 0

theorem WorkerPc.running_le_active (pc : WorkerPc P) : pc.running ≤ pc.active := by
  cases pc with
  | invoke task runningAccounted =>
    cases runningAccounted with
    | true => exact Nat.le_refl 1
    | false => exact Nat.zero_le 1
  | callback task runningAccounted call =>
    cases runningAccounted with
    | true => exact Nat.le_refl 1
    | false => exact Nat.zero_le 1
  | accountResult runningAccounted succeeded =>
    cases runningAccounted with
    | true => exact Nat.le_refl 1
    | false => exact Nat.zero_le 1
  | accountRunningDone => exact Nat.le_refl 1
  | _ => exact Nat.zero_le _

theorem WorkerPc.running_wake (pc : WorkerPc P) : pc.wake.running = pc.running := by
  cases pc with
  | callback task runningAccounted call => cases runningAccounted <;> rfl
  | _ => rfl

/-- The slot of worker `i` counts the callback that it is in. -/
def RunningCount (sh : Scheduler W C P) (i : Fin W) (pc : WorkerPc P) : Prop :=
  ∀ context, sh.slot i = some context → context.currentlyRunningCount = pc.running

section Running

variable [DecidableEq C] {cfg : SchedulerConfig W} {t : Thread W C}
  {choice : SchedulerChoice W C P} {sh : Scheduler W C P} {f : ClosableFifo P}

omit [DecidableEq C] in
/-- A store of worker `i` to its own slot. -/
theorem RunningCount.store {i : Fin W} {pc pc' : WorkerPc P} {g : WorkerContext → WorkerContext}
    (h : RunningCount sh i pc)
    (hg : ∀ context, sh.slot i = some context → context.currentlyRunningCount = pc.running →
      (g context).currentlyRunningCount = pc'.running) :
    RunningCount (storeSlot i sh g) i pc' := by
  intro context' hcontext'
  rw [storeSlot_slot, if_pos rfl] at hcontext'
  obtain ⟨context, hcontext, rfl⟩ := Option.map_eq_some_iff.mp hcontext'
  exact hg context hcontext (h context hcontext)

theorem WorkerStepSpec.runningCount {i : Fin W} {pc : WorkerPc P}
    {out : SchedulerStep W C P (WorkerPc P)} (h : WorkerStepSpec cfg t choice sh i pc out)
    (habs : Abstracts sh.queue f) (hrunning : RunningCount sh i pc) :
    RunningCount out.1 i out.2.1 := by
  have hsame : ∀ {sh' : Scheduler W C P} {pc' : WorkerPc P}, sh'.slot i = sh.slot i →
      pc'.running = pc.running → RunningCount sh' i pc' := by
    intro sh' pc' hslot hpc context hcontext
    rw [hpc]
    exact hrunning context (hslot ▸ hcontext)
  cases h with
  | dequeue hq =>
    refine hsame (hq.workerFrame habs i).slot ?_
    cases hq with
    | run hact hleave => rfl
    | leave op r =>
      dsimp only
      rcases afterDequeue_cases r with hpc | hpc | ⟨task, -, hpc⟩ <;> rw [hpc] <;> rfl
  | accountDequeued task hcontexts => exact hrunning.store fun context _ hcount => hcount
  | accountStarted task hcontexts => exact hrunning.store fun context _ hcount => hcount
  | accountRunning task contexts hcontexts =>
    refine hrunning.store fun context hcontext hcount => ?_
    -- the count was zero, so the callback is counted
    have hcontext' : context = contexts i := by
      unfold Scheduler.slot at hcontext
      rw [hcontexts] at hcontext
      exact (Option.some.inj hcontext).symm
    have hzero : context.currentlyRunningCount = 0 := hcount
    subst hcontext'
    unfold SchedulingEngine.accountRunning incrementSingleWriterAtomic
    rw [hzero]
    rfl
  | call task runningAccounted hcall =>
    exact hsame (hcall.workerFrame habs i).slot (by cases runningAccounted <;> rfl)
  | accountResult succeeded hcontexts =>
    refine hrunning.store fun context _ hcount => ?_
    cases succeeded <;> exact hcount
  | accountResultOnly succeeded hcontexts =>
    refine hrunning.store fun context _ hcount => ?_
    cases succeeded <;> exact hcount
  | accountRunningDone hcontexts =>
    refine hrunning.store fun context _ hcount => ?_
    have hone : context.currentlyRunningCount = 1 := hcount
    unfold SchedulingEngine.accountRunningDone
    rw [hone]
    rfl
  | queueShutdown r hq =>
    refine hsame (hq.workerFrame habs i).slot ?_
    cases hq <;> rfl
  | exit r hfree hinit =>
    obtain ⟨active, failures, overflow, failure, hexit⟩ :=
      recordWorkerExit_frame (sh.lockWorker t).worker r
    refine hsame ?_ rfl
    dsimp only
    rw [hexit]
    rfl
  | invoke task runningAccounted => exact hsame rfl (by cases runningAccounted <;> rfl)
  | callbackReturns task runningAccounted succeeded =>
    exact hsame rfl (by cases runningAccounted <;> rfl)
  | _ => exact hsame rfl rfl

/-- A lifecycle call does not touch the count of a slot, except that it makes and frees the
slots of workers that do not run. -/
theorem ControllerStepSpec.runningCount {pc : ControllerPc P}
    {out : SchedulerStep W C P (ControllerPc P)} (h : ControllerStepSpec cfg choice sh pc out)
    (hphase : (pc.phase W).Ok sh) {i : Fin W} {wpc : WorkerPc P} (hok : WorkerOk sh i wpc)
    (hrunning : RunningCount sh i wpc) : RunningCount out.1 i wpc := by
  have hcreating : ∀ {sh' : Scheduler W C P} {j : Fin W}, sh'.slot i
      = (if i = j then (sh.slot j).map fun context =>
          { context with scheduler := true, workerIndex := (j : ℕ) } else sh.slot i) →
      RunningCount sh' i wpc := by
    intro sh' j hslot context' hcontext'
    rw [hslot] at hcontext'
    split at hcontext'
    · rename_i hij
      subst hij
      obtain ⟨context, hcontext, rfl⟩ := Option.map_eq_some_iff.mp hcontext'
      exact hrunning context hcontext
    · exact hrunning context' hcontext'
  cases h with
  | allocationFailed sh' hsh hfail => subst hsh; exact nofun
  | allocated sh' hsh hthreads hcontexts hsize =>
    subst hsh
    intro context hcontext
    unfold Scheduler.slot at hcontext
    rw [hcontexts] at hcontext
    cases hcontext
    have hcreated : sh.worker.createdWorkerCount = 0 := hphase.2.1.created
    rw [hok.created.mpr (hcreated ▸ Nat.zero_le _)]
    rfl
  | syncInitFailed mutexInitialized hmutex hfail => exact nofun
  | createFailed j faultPlan hfree hinit hfail => exact hcreating (creating_slot sh i j)
  | created j faultPlan hfree hinit => exact hcreating (creating_slot sh i j)
  | abortQueue hq => rw [hq.frame]; exact hrunning
  | releaseLock caller index event result allJoined hfree hinit => cases event <;> exact hrunning
  | fold caller result worker hfree hinit hfold =>
    obtain ⟨_, _, _, _, _, rfl⟩ := foldWorkers_frame hfold
    exact nofun
  | shutdownQueue hq => rw [hq.frame]; exact hrunning
  | _ => exact hrunning

omit [DecidableEq C] in
theorem RunningCount.congr {sh' : Scheduler W C P} {i : Fin W} {wpc : WorkerPc P}
    (h : RunningCount sh i wpc) (hslot : sh'.slot i = sh.slot i) : RunningCount sh' i wpc :=
  fun context hcontext => h context (hslot ▸ hcontext)

def ThreadRunning (sh : Scheduler W C P) : Thread W C → SchedulerPc W P → Prop
  | .worker i, .worker _ pc => RunningCount sh i pc
  | _, _ => True

/-- The acting thread. -/
theorem SchedulerStepSpec.threadRunning {pc : SchedulerPc W P}
    {out : SchedulerStep W C P (SchedulerPc W P)} (h : SchedulerStepSpec cfg choice sh t pc out)
    (habs : Abstracts sh.queue f) (hself : ThreadRunning sh t pc) :
    ThreadRunning out.1 t out.2.1 := by
  cases h with
  | call c h => trivial
  | worker i h => exact h.runningCount habs hself
  | controller h => trivial

/-- The other workers. -/
theorem SchedulerStepSpec.runningCount_other {pc : SchedulerPc W P}
    {out : SchedulerStep W C P (SchedulerPc W P)} (h : SchedulerStepSpec cfg choice sh t pc out)
    (habs : Abstracts sh.queue f) (hself : ThreadOk sh t pc) {i : Fin W} (hi : t ≠ .worker i)
    {wpc : WorkerPc P} (hok : WorkerOk sh i wpc) (hrunning : RunningCount sh i wpc) :
    RunningCount out.1 i wpc := by
  cases h with
  | call c h => exact hrunning.congr (h.workerFrame habs i).slot
  | worker j h =>
    have hij : i ≠ j := by
      rintro rfl
      exact hi rfl
    exact hrunning.congr (h.workerFrame hij habs).slot
  | controller h => exact h.runningCount hself.1 hok hrunning

end Running

/-! ## Reachable states -/

section Reachable

variable [DecidableEq C] [Fintype C] {cfg : SchedulerConfig W} {t : Thread W C}
  {choice : SchedulerChoice W C P} {s s' : SchedulerPool W C P}

/-- The counts of a scheduler in every reachable state. -/
structure HeadcountInv (s : SchedulerPool W C P) : Prop where
  crew : CrewCount s.shared
  joined : ∀ pc, s.pc .controller = .controller pc →
    JoinCount s.shared.crew s.shared.worker.joinedWorkerCount pc
  startup : ∀ pc, s.pc .controller = .controller pc → StartupCount s.shared pc
  running : ∀ u, ThreadRunning s.shared u (s.pc u)

omit [DecidableEq C] [Fintype C] in
theorem headcountInv_initial (queue : TaskQueue P) :
    HeadcountInv (schedulerInitial queue : SchedulerPool W C P) := by
  refine ⟨⟨Nat.zero_le _, nofun, fun _ => rfl⟩, ?_, ?_, ?_⟩
  · rintro pc ⟨⟩
    exact ⟨nofun, fun _ => Nat.le_refl _, trivial⟩
  · rintro pc ⟨⟩
    exact ⟨Nat.zero_le _, fun _ => rfl⟩
  · rintro (_ | i | c)
    · trivial
    · exact nofun
    · trivial

omit [DecidableEq C] [Fintype C] in
theorem JoinCount.wake (c : Crew W) (joined : ℕ) (pc : ControllerPc P) :
    JoinCount c joined pc.wake ↔ JoinCount c joined pc := by
  have hjoins : pc.wake.joins = pc.joins := by cases pc <;> rfl
  have hhandle : pc.wake.HoldsHandle c = pc.HoldsHandle c := by cases pc <;> rfl
  constructor
  · exact fun h => ⟨hjoins ▸ h.there, h.gone, hhandle ▸ h.handle⟩
  · exact fun h => ⟨hjoins.symm ▸ h.there, h.gone, hhandle.symm ▸ h.handle⟩

omit [DecidableEq C] [Fintype C] in
theorem StartupCount.wake (sh : Scheduler W C P) (pc : ControllerPc P) :
    StartupCount sh pc.wake ↔ StartupCount sh pc := by
  have hunfailed : pc.wake.unfailed = pc.unfailed := by cases pc <;> rfl
  constructor
  · exact fun h => ⟨h.le_one, hunfailed ▸ h.zero⟩
  · exact fun h => ⟨h.le_one, hunfailed.symm ▸ h.zero⟩

omit [DecidableEq C] [Fintype C] in
theorem ThreadRunning.wake (sh : Scheduler W C P) (u : Thread W C) (pc : SchedulerPc W P) :
    ThreadRunning sh u pc.wake = ThreadRunning sh u pc := by
  cases u with
  | worker i =>
    cases pc with
    | worker j pc =>
      show RunningCount sh i pc.wake = RunningCount sh i pc
      unfold RunningCount
      rw [pc.running_wake]
    | _ => rfl
  | _ => cases pc <;> rfl

/-- **One step keeps the head counts.** -/
theorem headcountInv_step (hreach : SchedulerReachable cfg s) (h : HeadcountInv s)
    (hstep : (schedulerProgram cfg).step t choice s = some s') : HeadcountInv s' := by
  obtain ⟨pc, fx, hspec, hfx⟩ := hreach.threads.step_spec hstep
  obtain ⟨f, habs, -⟩ := hreach.threads.abstracts
  have hcases := hreach.step_cases hstep
  have hzero := hreach.lifecycle.ready_zero hreach.threads
  refine ⟨?_, ?_, ?_, ?_⟩
  · -- who is not the controller leaves the arrays and their counts alone
    rcases hcases with ⟨ht, hframe⟩ | ⟨rfl, cpc, cpc', fx', hcpc, hcontroller, -⟩
    · have hcreated : s'.shared.worker.createdWorkerCount = s.shared.worker.createdWorkerCount :=
        congrArg Crew.createdWorkerCount hframe.crew
      have hcontexts : s'.shared.worker.workerContexts.isSome
          = s.shared.worker.workerContexts.isSome := congrArg Crew.contexts hframe.crew
      refine ⟨hcreated ▸ h.crew.created_le, ?_, fun hnone => ?_⟩
      · rw [hcontexts, hcreated]
        exact h.crew.sized
      · have hnone' : s.shared.worker.workerContexts = none := by
          rw [hnone] at hcontexts
          exact Option.isNone_iff_eq_none.mp (Option.isSome_eq_false_iff.mp hcontexts.symm)
        exact ((hspec.ledgerFrame ht).ready hnone').trans (h.crew.folded hnone')
    · exact hcontroller.crewCount (hreach.lifecycle.phase hcpc) hzero h.crew
  · -- nor does anybody else join workers
    refine hreach.controller_step (fun sh => JoinCount sh.crew sh.worker.joinedWorkerCount)
      (fun sh => JoinCount.wake _ _) hstep ?_ ?_ h.joined
    · intro cpc ht hcpc hjoined
      rcases hcases with ⟨-, hframe⟩ | ⟨hcontroller, -⟩
      · rw [hframe.crew, (hspec.ledgerFrame ht).joined]
        exact hjoined
      · exact absurd hcontroller ht
    · intro cpc out ht hcpc hcontroller hout hjoined
      rw [← hout]
      exact hcontroller.joinCount (hreach.lifecycle.phase hcpc) hjoined
  · refine hreach.controller_step StartupCount StartupCount.wake hstep ?_ ?_ h.startup
    · intro cpc ht hcpc hstartup
      rcases hcases with ⟨-, hframe⟩ | ⟨hcontroller, -⟩
      · have hsame := (hspec.ledgerFrame ht).startup
        refine ⟨hsame.trans_le hstartup.le_one, fun hback => hsame.trans (hstartup.zero ?_)⟩
        rwa [← hframe.state]
      · exact absurd hcontroller ht
    · intro cpc out ht hcpc hcontroller hout hstartup
      rw [← hout]
      exact hcontroller.startupCount (hreach.lifecycle.phase hcpc) hstartup
  · -- the running counts: a worker moves its own and nobody else's
    refine Program.forall_step (fun u sh pc => ThreadRunning sh u pc) ?_ hfx ?_ ?_ h.running
    · exact fun u sh => schedulerProgram_blind (fun pc => ThreadRunning.wake sh u pc) fun _ => by
        cases u <;> rfl
    · exact hspec.threadRunning habs (h.running t)
    · intro u hu hrunning
      cases u with
      | worker i =>
        obtain ⟨wpc, hwpc⟩ := hreach.threads.workerPc i
        rw [hwpc] at hrunning ⊢
        exact hspec.runningCount_other habs (hreach.lifecycle.threads t) (Ne.symm hu)
          (hreach.lifecycle.worker hwpc) hrunning
      | _ => trivial

theorem SchedulerReachable.headcount (h : SchedulerReachable cfg s) : HeadcountInv s :=
  h.invariant (fun queue _ => headcountInv_initial queue) headcountInv_step

/-- The slot of a worker counts at most the callback that it is in. -/
theorem SchedulerReachable.running_count (h : SchedulerReachable cfg s) {i : Fin W}
    {pc : WorkerPc P} (hpc : s.pc (.worker i) = .worker i pc) {contexts : Fin W → WorkerContext}
    (hcontexts : s.shared.worker.workerContexts = some contexts) :
    (contexts i).currentlyRunningCount = pc.running := by
  have hrunning := h.headcount.running (.worker i)
  rw [hpc] at hrunning
  refine hrunning (contexts i) ?_
  unfold Scheduler.slot
  rw [hcontexts]
  rfl

/-- **Controller rule over runs**: an assertion about the controller's counter that holds
before the first call, that the other threads do not disturb, and that the controller's own
steps re-establish, given that the workers it awaits have finished with the results taken. -/
theorem SchedulerReachable.controller_invariant (h : SchedulerReachable cfg s)
    (A : Scheduler W C P → ControllerPc P → Prop) (hwake : ∀ sh pc, A sh pc.wake ↔ A sh pc)
    (h0 : ∀ queue : TaskQueue P, A (schedulerInit queue) .idle)
    (hother : ∀ {sh sh' : Scheduler W C P} {pc : ControllerPc P}, Frame sh sh' →
      LedgerFrame sh sh' → A sh pc → A sh' pc)
    (hself : ∀ {u : SchedulerPool W C P} {choice : SchedulerChoice W C P} {pc : ControllerPc P}
      {out : SchedulerStep W C P (ControllerPc P)}, SchedulerReachable cfg u →
      u.pc .controller = .controller pc → ControllerStepSpec cfg choice u.shared pc out →
      (∀ i r, .await (.worker i) r ∈ out.2.2 → u.pc (.worker i) = .worker i (.finished r)) →
      A u.shared pc → A out.1 out.2.1) :
    ∀ pc, s.pc .controller = .controller pc → A s.shared pc := by
  refine h.invariant (I := fun s => ∀ pc, s.pc .controller = .controller pc → A s.shared pc)
    (fun queue _ pc hpc => ?_) fun hu hA hstep => ?_
  · cases hpc
    exact h0 queue
  · refine hu.controller_step_awaits A hwake hstep (fun pc ht hpc hbefore => ?_)
      (fun pc out _ hpc hspec hawaits hout hbefore => hout ▸ hself hu hpc hspec hawaits hbefore) hA
    obtain ⟨pc', fx, hspec, -⟩ := hu.threads.step_spec hstep
    rcases hu.step_cases hstep with ⟨-, hframe⟩ | ⟨hcontroller, -⟩
    · exact hother hframe (hspec.ledgerFrame ht) hbefore
    · exact absurd hcontroller ht

omit [DecidableEq C] [Fintype C] in
theorem Crew.Empty.released {c : Crew W} (h : c.Empty) : c.Released :=
  ⟨h.threads, h.contexts, h.started⟩

omit [DecidableEq C] [Fintype C] in
/-- However far a lifecycle call has come, the workers are there or gone. -/
theorem Phase.Ok.releasable {sh : Scheduler W C P} {phase : Phase} (h : phase.Ok sh) :
    sh.crew.Releasable := by
  have hdrain : ∀ {caller : DrainCaller}, sh.DrainedBy caller → sh.crew.Releasable := by
    intro caller hdrain
    cases caller with
    | shutdown result => exact .inr ⟨W, hdrain.2⟩
    | join => exact (Scheduler.Joinable.releasable hdrain).2
  cases phase with
  | settled =>
    have hsettled : sh.SettledIn sh.lifecycle.state := h
    cases hstate : sh.lifecycle.state with
    | initialized => rw [hstate] at hsettled; exact .inl hsettled.1.released
    | starting => rw [hstate] at hsettled; exact hsettled.elim
    | running => rw [hstate] at hsettled; exact .inr ⟨W, hsettled.1⟩
    | shuttingDown => rw [hstate] at hsettled; exact .inr ⟨W, hsettled.1⟩
    | stopped => rw [hstate] at hsettled; exact .inl hsettled.1
    | failed => rw [hstate] at hsettled; exact hsettled.1
  | bare => exact .inl h.2.1.released
  | draining caller => exact hdrain h.1
  | drained caller => exact hdrain h.1
  | aborting => exact .inr h.2.1
  | releasing caller => exact h.2.1
  | released caller => exact .inl h.2.1
  | impossible => exact h.elim
  | _ => exact .inr ⟨_, h.2.1⟩

omit [DecidableEq C] [Fintype C] in
/-- The arrays are there together, and gone together. -/
theorem Phase.Ok.arrays {sh : Scheduler W C P} {phase : Phase} (h : phase.Ok sh) :
    sh.worker.workerContexts.isSome = sh.worker.threads.isSome := by
  rcases h.releasable with hgone | ⟨k, hthere⟩
  · exact hgone.contexts.trans (congrArg Option.isSome hgone.threads).symm
  · exact hthere.contexts.trans hthere.threads.symm

omit [DecidableEq C] [Fintype C] in
/-- As long as there are contexts the started workers are the created ones. -/
theorem Phase.Ok.started_eq {sh : Scheduler W C P} {phase : Phase} (h : phase.Ok sh)
    (hsome : sh.worker.workerContexts.isSome = true) :
    sh.worker.startedWorkerCount = sh.worker.createdWorkerCount := by
  rcases h.releasable with hgone | ⟨k, hthere⟩
  · exact absurd (hsome.symm.trans hgone.contexts) nofun
  · exact hthere.started.trans hthere.created.symm

omit [DecidableEq C] [Fintype C] in
/-- At most one for each of the first `n` workers. -/
theorem sum_below_le {n : ℕ} {v : Fin W → ℕ} (hone : ∀ i, v i ≤ 1)
    (hzero : ∀ i : Fin W, n ≤ (i : ℕ) → v i = 0) : ∑ i, v i ≤ n := by
  rw [← sum_take_finRange n v hzero]
  have hle : ∀ x ∈ ((List.finRange W).take n).map v, x ≤ 1 := by
    intro x hx
    obtain ⟨i, -, rfl⟩ := List.mem_map.mp hx
    exact hone i
  refine Nat.le_trans (List.sum_le_card_nsmul _ 1 hle) ?_
  rw [List.length_map, List.length_take, smul_eq_mul, Nat.mul_one]
  exact Nat.min_le_left _ _

/-- Nobody is counted as ready who was not created. -/
theorem SchedulerReachable.ready_le_created (h : SchedulerReachable cfg s) :
    s.shared.worker.readyWorkerCount ≤ s.shared.worker.createdWorkerCount := by
  cases hcontexts : s.shared.worker.workerContexts with
  | none => rw [h.headcount.crew.folded hcontexts]; exact Nat.zero_le _
  | some contexts =>
    rw [h.lifecycle.ready (.inr (by rw [hcontexts]; rfl)),
      total_workers h.threads.runs _ (fun _ => rfl) fun _ => rfl]
    refine sum_below_le (fun i => ?_) fun i hi => ?_
    · obtain ⟨wpc, hwpc⟩ := h.threads.workerPc i
      rw [hwpc]
      exact wpc.ready_le_one
    · obtain ⟨wpc, hwpc⟩ := h.threads.workerPc i
      rw [hwpc, (h.lifecycle.worker hwpc).created.mpr hi]
      rfl

/-- A finished worker. -/
def WorkerPc.done (pc : WorkerPc P) : ℕ := if pc.isFinished = true then 1 else 0

omit [DecidableEq C] [Fintype C] in
theorem WorkerPc.active_add_done_le (pc : WorkerPc P) : pc.active + pc.done ≤ 1 := by
  cases pc <;> simp [WorkerPc.active, WorkerPc.done, WorkerPc.isFinished]

/-- The workers counted as joined have finished. -/
theorem SchedulerReachable.joined_le_done (h : SchedulerReachable cfg s)
    (hthreads : s.shared.worker.threads.isSome = true) {wpc : Fin W → WorkerPc P}
    (hwpc : ∀ i, s.pc (.worker i) = .worker i (wpc i)) :
    s.shared.worker.joinedWorkerCount ≤ ∑ i, (wpc i).done := by
  obtain ⟨cpc, hcpc⟩ := h.threads.controllerPc
  have hjoined := h.headcount.joined cpc hcpc
  -- the worker counted last has its handle, and has finished too
  have hfinished : ∀ i ∈ s.shared.crew.destroyed, (wpc i).isFinished = true := by
    intro i hi
    obtain ⟨hstarted, threads, hsome, hgone⟩ := Crew.mem_destroyed.mp hi
    exact (h.lifecycle.worker (hwpc i)).handle threads hsome hstarted hgone
  have hcard : s.shared.crew.destroyed.card + cpc.joins
      ≤ (Finset.univ.filter fun i => (wpc i).isFinished = true).card := by
    by_cases hjoins : cpc.joins = 0
    · rw [hjoins, Nat.add_zero]
      refine Finset.card_le_card fun i hi => ?_
      exact Finset.mem_filter.mpr ⟨Finset.mem_univ i, hfinished i hi⟩
    · have hpc : ∃ caller index result allJoined,
          cpc = .releaseUnlock caller index .joined result allJoined := by
        cases cpc with
        | releaseUnlock caller index event result allJoined =>
          cases event with
          | joined => exact ⟨_, _, _, _, rfl⟩
          | _ => exact absurd rfl hjoins
        | _ => exact absurd rfl hjoins
      obtain ⟨caller, index, result, allJoined, rfl⟩ := hpc
      obtain ⟨i, rfl, hholds⟩ := hjoined.handle nofun
      have hlast : (wpc i).isFinished = true := by
        have hdone := h.lifecycle.joining i (by rw [hcpc]; rfl)
        rwa [hwpc i] at hdone
      show s.shared.crew.destroyed.card + 1 ≤ _
      rw [← Finset.card_insert_of_notMem hholds.not_destroyed]
      refine Finset.card_le_card fun j hj => Finset.mem_filter.mpr ⟨Finset.mem_univ j, ?_⟩
      rcases Finset.mem_insert.mp hj with rfl | hj
      · exact hlast
      · exact hfinished j hj
  calc s.shared.worker.joinedWorkerCount
      ≤ s.shared.crew.destroyed.card + cpc.joins := hjoined.there hthreads
    _ ≤ (Finset.univ.filter fun i => (wpc i).isFinished = true).card := hcard
    _ = ∑ i, (wpc i).done := Finset.card_filter _ _

/-- Where the workers stand. -/
theorem ThreadInv.workerPcs (hinv : ThreadInv cfg s) :
    ∃ wpc : Fin W → WorkerPc P, ∀ i, s.pc (.worker i) = .worker i (wpc i) :=
  ⟨fun i => (hinv.workerPc i).choose, fun i => (hinv.workerPc i).choose_spec⟩

/-- **Active and joined workers are different workers.** -/
theorem SchedulerReachable.active_add_joined_le (h : SchedulerReachable cfg s) :
    s.shared.worker.activeWorkerCount + s.shared.worker.joinedWorkerCount
      ≤ s.shared.worker.createdWorkerCount := by
  obtain ⟨wpc, hwpc⟩ := h.threads.workerPcs
  obtain ⟨cpc, hcpc⟩ := h.threads.controllerPc
  have hactive : s.shared.worker.activeWorkerCount = ∑ i, (wpc i).active := by
    rw [h.lifecycle.active, total_workers h.threads.runs _ (fun _ => rfl) fun _ => rfl]
    exact Finset.sum_congr rfl fun i _ => by rw [hwpc i]; rfl
  have harrays := (h.lifecycle.phase hcpc).arrays
  cases hthreads : s.shared.worker.threads with
  | none =>
    rw [hthreads] at harrays
    have hdead : ∀ i, (wpc i).active = 0 := by
      intro i
      by_contra hactive
      have halive : (wpc i).alive = true := by
        generalize wpc i = pc at hactive
        cases pc <;> first | rfl | exact absurd rfl hactive
      obtain ⟨context, hcontext, -⟩ := (h.lifecycle.worker (hwpc i)).context halive
      unfold Scheduler.slot at hcontext
      rw [Option.isNone_iff_eq_none.mp (Option.isSome_eq_false_iff.mp harrays)] at hcontext
      cases hcontext
    rw [hactive, Finset.sum_eq_zero fun i _ => hdead i, Nat.zero_add]
    exact (h.headcount.joined cpc hcpc).gone hthreads
  | some threads =>
    have hjoined := h.joined_le_done (by rw [hthreads]; rfl) hwpc
    calc s.shared.worker.activeWorkerCount + s.shared.worker.joinedWorkerCount
        ≤ ∑ i, (wpc i).active + ∑ i, (wpc i).done := Nat.add_le_add (Nat.le_of_eq hactive) hjoined
      _ = ∑ i, ((wpc i).active + (wpc i).done) := Finset.sum_add_distrib.symm
      _ ≤ s.shared.worker.createdWorkerCount := by
        refine sum_below_le (fun i => (wpc i).active_add_done_le) fun i hi => ?_
        rw [(h.lifecycle.worker (hwpc i)).created.mpr hi]
        rfl

end Reachable

end SchedulingEngine
