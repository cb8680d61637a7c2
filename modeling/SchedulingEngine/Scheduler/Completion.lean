import SchedulingEngine.Scheduler.LifecycleReturns

/-!
# What a fair execution brings about

The liveness results of the scheduler:

- no thread starves at a mutex, and a call that does not wait in the queue returns
  (`no_thread_starves`);
- every lifecycle call returns, the submitters leave and the workers finish
  (`lifecycle_calls_return`);
- behind the gate every accepted Task is completed, and the queue runs dry
  (`accepted_tasks_complete`).

They are witnessed by one lifetime with one worker, from `scheduler_start` to
`scheduler_join`.
-/

namespace SchedulingEngine

open Concurrency

variable {W : ℕ} {C P : Type} [DecidableEq C] [Fintype C] {cfg : SchedulerConfig W}
  {s s' : SchedulerPool W C P} {t u : Thread W C} {choice : SchedulerChoice W C P} {i : Fin W}

/-! ## Accepted Tasks -/

/-- While not all workers were created nothing was inserted. -/
theorem SchedulerReachable.nothing_inserted (h : SchedulerReachable cfg s)
    (hcreated : s.shared.worker.createdWorkerCount < W) :
    s.shared.queue.inserted = [] ∧ s.shared.history.accepted = [] := by
  obtain ⟨hadmitted, haccepted⟩ := h.gate.unopened hcreated
  have hinserted := h.accounts.inserted
  have hzero : Program.total SchedulerPc.inFlight s.pc = 0 :=
    Finset.sum_eq_zero fun u _ => CallPc.inFlight_eq_zero (hadmitted u)
  rw [hzero, haccepted] at hinserted
  exact ⟨by simpa using hinserted, haccepted⟩

/-- What was accepted is completed, and the queue is empty. -/
structure RunDry (s : SchedulerPool W C P) : Prop where
  empty : taskQueueSize s.shared.queue.queue = 0
  inserted : (s.shared.queue.inserted : Multiset P) = s.shared.history.accepted
  completed : (s.shared.history.completed : Multiset P) = s.shared.history.accepted

theorem SchedulerReachable.runDry_of_unopened (h : SchedulerReachable cfg s)
    (hcreated : s.shared.worker.createdWorkerCount < W) : RunDry s := by
  obtain ⟨hinserted, haccepted⟩ := h.nothing_inserted hcreated
  obtain ⟨f, habs, -⟩ := h.threads.abstracts
  have hhistory := habs.history
  rw [hinserted] at hhistory
  obtain ⟨hremoved, hcontents⟩ := List.append_eq_nil_iff.mp hhistory.symm
  have hinvoked := h.accounts.removed
  have hcompleted := h.accounts.invoked
  rw [hremoved] at hinvoked
  rw [(add_eq_zero.mp hinvoked.symm).1] at hcompleted
  refine ⟨by rw [habs.size_eq, hcontents]; rfl, by rw [hinserted, haccepted], ?_⟩
  rw [haccepted]
  exact (add_eq_zero.mp hcompleted.symm).1

/-- Finished workers that did not fail leave an empty queue and hold nothing. -/
theorem SchedulerReachable.runDry_of_finished (h : SchedulerReachable cfg s)
    (hwait : cfg.waitMayFail = false) (hadmitted : ∀ u, (s.pc u).admitted = false)
    (hfinished : ∀ i, (s.pc (.worker i)).isFinished = true) : RunDry s := by
  obtain ⟨f, habs, -⟩ := h.threads.abstracts
  have hdead : AllDead s := by
    intro i wpc hwpc
    have hover := hfinished i
    rw [hwpc] at hover
    cases wpc <;> first | rfl | cases hover
  obtain ⟨hheld, hexecuting⟩ := hdead.totals h.threads
  -- a worker that has finished well has seen the queue closed and empty
  have hempty : f.contents = [] := by
    obtain ⟨wpc, hwpc⟩ := h.threads.workerPc ⟨0, h.1⟩
    have hover := hfinished ⟨0, h.1⟩
    have hok := h.lifecycle.worker hwpc
    rw [hwpc] at hover
    cases wpc with
    | finished r =>
      have hr : r = .ok := by
        by_contra hne
        have hclear := (h.sound hwait).unfailed.1
        rw [hok.failure r rfl hne] at hclear
        cases hclear
      have hdrained := (hok.drained (by rw [hr]; rfl)).2
      rw [habs.size_eq] at hdrained
      exact List.length_eq_zero_iff.mp hdrained
    | _ => cases hover
  -- nobody holds a Task between two stages
  have hinFlight : Program.total SchedulerPc.inFlight s.pc = 0 :=
    Finset.sum_eq_zero fun u _ => CallPc.inFlight_eq_zero (hadmitted u)
  have hrunning : Program.total SchedulerPc.executing s.pc = 0 :=
    Finset.sum_eq_zero fun u _ => hexecuting u
  have hinserted : (s.shared.queue.inserted : Multiset P) = s.shared.history.accepted := by
    rw [h.accounts.inserted, hinFlight, add_zero]
  refine ⟨by rw [habs.size_eq, hempty]; rfl, hinserted, ?_⟩
  calc (s.shared.history.completed : Multiset P)
      = s.shared.history.invoked := by rw [h.accounts.invoked, hrunning, add_zero]
    _ = s.shared.queue.removed := by rw [h.accounts.removed, hheld, add_zero]
    _ = s.shared.queue.inserted := by rw [habs.history, hempty, List.append_nil]
    _ = s.shared.history.accepted := hinserted

/-! ## The liveness results -/

variable {e : Execution (schedulerProgram (C := C) (P := P) cfg)}

/-- The finished workers stay finished. -/
theorem finished_from (h : SchedulerReachable cfg (e.state 0)) {k m : ℕ} (hkm : k ≤ m)
    (hfinished : ((e.state k).pc (.worker i)).isFinished = true) :
    ((e.state m).pc (.worker i)).isFinished = true :=
  h.lasts (I := fun s => (s.pc (.worker i)).isFinished = true)
    (fun hs hstep => finished_stays hs.threads hstep) hkm hfinished

/-- **No thread starves at a mutex**: every mutex is free again and again, a thread that is inside
the scheduler, awake and not in a native join takes a step, and a call that does not wait in the
queue returns. Fair means that a thread that is ready again and again acts again and again: one
that only acts when it stays ready may starve at a mutex that others keep taking. -/
theorem no_thread_starves (hfair : e.Fair Runnable) (h : SchedulerReachable cfg (e.state 0)) :
    (∀ m n, ∃ k, n ≤ k ∧ (e.state k).shared.owner m = none) ∧
      (∀ u n, ((e.state n).pc u).inside = true → ((e.state n).pc u).asleepOn = none →
        ((e.state n).pc u).atJoin = false → ∃ k, n ≤ k ∧ e.Acts u k) ∧
      ∀ u n, ((e.state n).pc u).toCall.Prompt (e.state n).shared →
        ∃ k, n ≤ k ∧ ((e.state k).pc u).toCall.inside = false := by
  refine ⟨mutex_free_again hfair h, fun u n hinside hawake hjoin => ?_,
    fun u n => prompt_call_returns hfair h⟩
  refine hfair.acts fun hstill k hk => ?_
  have hsame := pc_stands hinside hawake (fun k hk _ => hstill k hk) hk
  rw [← hsame] at hinside hawake hjoin
  exact unblocked_again hfair h hinside hawake hjoin fun m hm => hstill m (hk.trans hm)

/-- **Every lifecycle call returns**, whatever the backend refuses, if callbacks return and a thread
that is ready again and again acts again and again; behind the gate the last active submitter
leaves for good, and the workers of a closed queue finish. -/
theorem lifecycle_calls_return (hfair : e.Fair Runnable) (hreturn : CallbacksReturn e)
    (h : SchedulerReachable cfg (e.state 0)) :
    (∀ n, ∃ m, n ≤ m ∧ ((e.state m).pc .controller).inside = false) ∧
      (∀ n, (e.state n).shared.Barred → (e.state n).shared.Closed →
        ∃ m, n ≤ m ∧ ∀ k, m ≤ k → (e.state k).shared.lifecycle.activeSubmitterCount = 0) ∧
      ∀ n (i : Fin W), (e.state n).shared.Closed →
        (i : ℕ) < (e.state n).shared.worker.createdWorkerCount →
        ∃ m, n ≤ m ∧ ∀ k, m ≤ k → ((e.state k).pc (.worker i)).isFinished = true := by
  refine ⟨fun n => ?_, fun n hbarred hclosed => ?_, fun n i hclosed hcreated => ?_⟩
  · obtain ⟨m, hm, hreturned⟩ := lifecycle_call_returns hfair hreturn h n
    obtain ⟨pc, hpc⟩ := (h.execution m).threads.controllerPc
    rw [hpc] at hreturned
    refine ⟨m, hm, ?_⟩
    rw [hpc]
    exact hreturned
  · obtain ⟨m, hm, hadmitted⟩ := submitters_leave hfair h hbarred hclosed
    exact ⟨m, hm, fun k hk => (h.execution k).quiet_of_unadmitted (hadmitted k hk)⟩
  · obtain ⟨m, hm, hfinished⟩ := worker_finishes hfair hreturn h hclosed hcreated
    exact ⟨m, hm, fun k hk => finished_from h hk hfinished⟩

/-- **Every accepted Task is completed**: once the gate and the queue are closed, whether or not
somebody joins, the callbacks of all Tasks whose submission was or will be accepted return, each
as often as its pointer was accepted, and the queue is empty from then on. Threads that are ready
again and again act again and again. -/
theorem accepted_tasks_complete (hfair : e.Fair Runnable) (hreturn : CallbacksReturn e)
    (h : SchedulerReachable cfg (e.state 0)) (hwait : cfg.waitMayFail = false) {n : ℕ}
    (hbarred : (e.state n).shared.Barred) (hclosed : (e.state n).shared.Closed) :
    ∃ m, n ≤ m ∧ ∀ k, m ≤ k →
      (∀ u, ((e.state k).pc u).admitted = false) ∧
        taskQueueSize (e.state k).shared.queue.queue = 0 ∧
        ((e.state k).shared.queue.inserted : Multiset P) = (e.state k).shared.history.accepted ∧
        ((e.state k).shared.history.completed : Multiset P)
          = (e.state k).shared.history.accepted := by
  have hdry : ∃ m, n ≤ m ∧ ∀ k, m ≤ k → (∀ u, ((e.state k).pc u).admitted = false) →
      RunDry (e.state k) := by
    by_cases hall : ∃ k, n ≤ k ∧ W ≤ (e.state k).shared.worker.createdWorkerCount
    · obtain ⟨k, hk, hcreated⟩ := hall
      have hclosed' : (e.state k).shared.Closed :=
        h.lasts (I := fun s => s.shared.Closed) SchedulerReachable.closed_stays hk hclosed
      obtain ⟨m, hm, hfinished⟩ := e.reaches_all (n := k)
        (Q := fun (i : Fin W) s => (s.pc (.worker i)).isFinished = true)
        (fun i _ _ _ hm hfinished => finished_from h hm hfinished)
        fun i => worker_finishes hfair hreturn h hclosed' (i.isLt.trans_le hcreated)
      exact ⟨m, hk.trans hm, fun k hk hadmitted =>
        (h.execution k).runDry_of_finished hwait hadmitted
        fun i => finished_from h hk (hfinished i)⟩
    · exact ⟨n, Nat.le_refl n, fun k hk _ => (h.execution k).runDry_of_unopened
        (Nat.not_le.mp fun hcreated => hall ⟨k, hk, hcreated⟩)⟩
  obtain ⟨m, hm, hdry⟩ := hdry
  obtain ⟨m', hm', hadmitted⟩ := submitters_leave hfair h hbarred hclosed
  refine ⟨max m m', hm.trans (Nat.le_max_left _ _), fun k hk => ?_⟩
  have hnobody := hadmitted k ((Nat.le_max_right _ _).trans hk)
  have hrun := hdry k ((Nat.le_max_left _ _).trans hk) hnobody
  exact ⟨hnobody, hrun.empty, hrun.inserted, hrun.completed⟩

/-! ## A fair lifetime -/

/-- A listed run at whose end nobody is inside and no callback runs is a fair execution whose
callbacks return. -/
theorem execution_of_run (schedule : SmallSchedule)
    (hquiet : ((schedulerProgram reliableConfig).run schedule (schedulerInitial smallQueue)).map
      (fun s => decide (∀ t, (s.pc t).inside = false ∧ (s.pc t).calling = false)) = some true) :
    ∃ e : Execution (schedulerProgram (C := Fin 2) (P := ℕ) reliableConfig),
      SchedulerReachable reliableConfig (e.state 0) ∧ e.Fair Runnable ∧ CallbacksReturn e ∧
        ∀ (n : ℕ) {α : Type} (obs : SchedulerPool 1 (Fin 2) ℕ → α) (v : α),
          ((schedulerProgram reliableConfig).run (schedule.take n)
            (schedulerInitial smallQueue)).map
            obs = some v → obs (e.state n) = v := by
  obtain ⟨s, hrun, hobs⟩ := Option.map_eq_some_iff.mp hquiet
  have hquiet := of_decide_eq_true hobs
  refine ⟨.ofRun hrun, ⟨Nat.one_pos, smallQueue, by decide, .refl⟩,
    Execution.ofRun_fair hrun ?_, ?_,
    ?_⟩
  · rintro t ⟨hinside, -⟩
    rw [(hquiet t).1] at hinside
    cases hinside
  · intro u n _
    refine ⟨max n schedule.length, Nat.le_max_left _ _, ?_⟩
    rw [Execution.ofRun_last hrun (Nat.le_max_right _ _)]
    exact (hquiet u).2
  · intro n α obs v hv
    obtain ⟨u, hu, hobs⟩ := Option.map_eq_some_iff.mp hv
    show obs (((schedulerProgram reliableConfig).run (schedule.take n) _).getD s) = v
    rw [hu]
    exact hobs

/-- One Task, submitted before `scheduler_shutdown` and run after it. -/
def parkedSchedule : SmallSchedule :=
  startSchedule ++ makes firstClient (.submit .submit (some 7)) 8
    ++ makes .controller (.lifecycle .shutdown true) 8 ++ executeSchedule ++ advance soleWorker 5

/-- The client has just taken `lifecycle_mutex`. -/
theorem no_thread_starves_submitting :
    ∃ e : Execution (schedulerProgram (C := Fin 2) (P := ℕ) reliableConfig), e.Fair Runnable ∧
      (e.state 18).shared.owner .lifecycle = some firstClient ∧
      ∃ k, 18 ≤ k ∧ (e.state k).shared.owner .lifecycle = none := by
  obtain ⟨e, hreach, hfair, -, hobs⟩ := execution_of_run parkedSchedule (by decide +kernel)
  exact ⟨e, hfair, hobs 18 (fun s => s.shared.owner .lifecycle) _ (by decide +kernel),
    (no_thread_starves hfair hreach).1 .lifecycle 18⟩

/-- `scheduler_shutdown` has taken `lifecycle_mutex`. -/
theorem lifecycle_calls_return_shutdown :
    ∃ e : Execution (schedulerProgram (C := Fin 2) (P := ℕ) reliableConfig), e.Fair Runnable ∧
      ((e.state 27).pc .controller).inside = true ∧
      ∃ m, 27 ≤ m ∧ ((e.state m).pc .controller).inside = false := by
  obtain ⟨e, hreach, hfair, hreturn, hobs⟩ := execution_of_run parkedSchedule (by decide +kernel)
  exact ⟨e, hfair, hobs 27 (fun s => (s.pc .controller).inside) _ (by decide +kernel),
    (lifecycle_calls_return hfair hreturn hreach).1 27⟩

/-- The queue is closed, and the Task still in it. -/
theorem accepted_tasks_complete_late :
    ∃ e : Execution (schedulerProgram (C := Fin 2) (P := ℕ) reliableConfig), e.Fair Runnable ∧
      (e.state 30).shared.history.accepted = [7] ∧ (e.state 30).shared.history.completed = [] ∧
      ∃ m, 30 ≤ m ∧ ∀ k, m ≤ k →
        ((e.state k).shared.history.completed : Multiset ℕ)
          = (e.state k).shared.history.accepted := by
  obtain ⟨e, hreach, hfair, hreturn, hobs⟩ := execution_of_run parkedSchedule (by decide +kernel)
  have hstate := hobs 30
    (fun s => (s.shared.history.accepted, s.shared.history.completed, s.shared.lifecycle.state,
      s.shared.queue.shutdownRequested)) ([7], [], .shuttingDown, true) (by decide +kernel)
  obtain ⟨haccepted, hrest⟩ := Prod.mk.inj hstate
  obtain ⟨hcompleted, hrest⟩ := Prod.mk.inj hrest
  obtain ⟨hbarred, hclosed⟩ := Prod.mk.inj hrest
  obtain ⟨m, hm, hall⟩ := accepted_tasks_complete hfair hreturn hreach rfl (.inl hbarred) hclosed
  exact ⟨e, hfair, haccepted, hcompleted, m, hm, fun k hk => (hall k hk).2.2.2⟩

end SchedulingEngine
