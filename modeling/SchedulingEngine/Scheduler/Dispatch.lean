import Mathlib.Algebra.Order.BigOperators.Group.Finset
import SchedulingEngine.Scheduler.ExactlyOnce

/-!
# In which order, and how far behind

The queue hands out the Tasks in the order of insertion, but a worker that has removed one may be
overtaken before it passes it to the callback. So with several workers the callbacks need not begin
in the order of insertion; still, in every run,

- each worker passes its Tasks to the callback in the order of insertion, and a single worker
  leaves none out (`dispatch_in_order`);
- no more Tasks than there are workers are removed and not completed, so what has been inserted is
  ahead of what was completed by the capacity and the number of workers at most
  (`backlog_bounded`).
-/

namespace SchedulingEngine

open Concurrency

variable {W : ℕ} {C P : Type}

/-! ## Steps -/

/-- The Tasks that thread `u` passes to the callback in a step. -/
def invokedBy [DecidableEq C] (u : Thread W C) (s : SchedulerPool W C P) (t : Thread W C)
    (s' : SchedulerPool W C P) : List P :=
  if t = u then s'.shared.history.invoked.drop s.shared.history.invoked.length else []

/-- What was removed stays removed. -/
theorem QueueStepSpec.removes {T : Type} {cfg : QueueConfig} {t : T} {choice : QueueChoice T P}
    {q : ConcurrentTaskQueue T P} {f : ClosableFifo P} {pc : QueuePc P} {out : QueueSection T P}
    (h : QueueStepSpec cfg t choice q f pc out) : q.removed <+: out.1.removed := by
  cases h with
  | enter hmutex henter hsec =>
    obtain ⟨-, -, -, -, hremoved⟩ := henter.accounts
    rw [← hremoved]
    cases hsec with
    | wait w hopen hblocked => simp
    | remove task f' ring hop hremove habs' => exact ⟨_, rfl⟩
    | _ => exact List.prefix_rfl
  | waitFailed w hfail hmutex => simp
  | _ => exact List.prefix_rfl

section Steps

variable [DecidableEq C] {cfg : SchedulerConfig W} {t : Thread W C}
  {choice : SchedulerChoice W C P} {sh : Scheduler W C P}

/-- A worker passes the Task it holds to the callback, and nobody else passes one. -/
theorem SchedulerStepSpec.dispatches {pc : SchedulerPc W P}
    {out : SchedulerStep W C P (SchedulerPc W P)} (h : SchedulerStepSpec cfg choice sh t pc out) :
    out.1.history.invoked = sh.history.invoked ∨ ∃ i task, t = .worker i ∧ pc.held = {task} ∧
      out.2.1.held = 0 ∧ out.1.history.invoked = sh.history.invoked ++ [task] ∧
        out.1.queue = sh.queue := by
  cases h with
  | call c h => exact .inl h.failure.2
  | controller h => exact .inl h.failure.2
  | worker i h =>
    cases h with
    | invoke task runningAccounted => exact .inr ⟨i, task, rfl, rfl, rfl, rfl, rfl⟩
    | dequeue hq =>
      rw [hq.frame]
      exact .inl rfl
    | call task runningAccounted hcall => exact .inl hcall.failure.2
    | queueShutdown r hq =>
      rw [hq.frame]
      exact .inl rfl
    | _ => exact .inl rfl

end Steps

section Runs

variable [DecidableEq C] [Fintype C] {cfg : SchedulerConfig W} {t u : Thread W C}
  {choice : SchedulerChoice W C P} {s s' : SchedulerPool W C P}

theorem SchedulerReachable.removed_grows (h : SchedulerReachable cfg s)
    (hstep : (schedulerProgram cfg).step t choice s = some s') :
    s.shared.queue.removed <+: s'.shared.queue.removed := by
  obtain ⟨pc, fx, hspec, -⟩ := h.threads.step_spec hstep
  obtain ⟨f, habs, -⟩ := h.threads.abstracts
  have hmove := hspec.queueMove
  dsimp only at hmove
  cases hmove with
  | run hact hleave => exact (queueAct_spec habs hact).removes
  | jump hqueue hq hq' hfx => rw [hqueue]

/-! ## Runs -/

/-- What a thread has passed to the callback, and what it holds, it removed in this order. -/
def InOrder (passed : List P) (s : SchedulerPool W C P) (u : Thread W C) : Prop :=
  ∃ held : List P, (held : Multiset P) = (s.pc u).held ∧
    (passed ++ held).Sublist s.shared.queue.removed

theorem inOrder_step {passed : List P} (hreach : SchedulerReachable cfg s)
    (h : InOrder passed s u) (hstep : (schedulerProgram cfg).step t choice s = some s') :
    InOrder (passed ++ invokedBy u s t s') s' u := by
  obtain ⟨held, hheld, hsublist⟩ := h
  obtain ⟨taken, htaken⟩ := hreach.removed_grows hstep
  obtain ⟨pc, fx, hspec, hfx⟩ := hreach.threads.step_spec hstep
  obtain ⟨f, habs, -⟩ := hreach.threads.abstracts
  have hledger := (hspec.ledger habs (hreach.accounts.operation t)
    (hreach.accounts.registered_le t)).removed
  obtain ⟨hself, hothers⟩ := Program.step_blind
    (schedulerProgram_blind SchedulerPc.held_wake fun _ => rfl) hfx
  by_cases hu : t = u
  · subst hu
    unfold invokedBy InOrder
    rw [if_pos rfl, hself]
    dsimp only at hledger
    rcases hspec.dispatches with hsame | ⟨-, task, -, htask, hnone, hinvoked, hqueue⟩
    · -- what it has removed now comes last
      dsimp only at hsame
      rw [hsame] at hledger ⊢
      rw [List.drop_length, List.append_nil]
      refine ⟨held ++ taken, ?_, ?_⟩
      · rw [← htaken, ← Multiset.coe_add, add_assoc, add_right_inj, add_left_comm, add_right_inj,
          add_comm] at hledger
        rw [← hledger, ← hheld, Multiset.coe_add]
      · rw [← htaken, ← List.append_assoc]
        exact hsublist.append_right taken
    · dsimp only at hinvoked hqueue hnone
      rw [hinvoked, List.drop_left, hnone, hqueue]
      refine ⟨[], rfl, ?_⟩
      rw [htask] at hheld
      rw [List.append_nil, ← Multiset.coe_eq_singleton.mp hheld]
      exact hsublist
  · unfold invokedBy
    rw [if_neg hu, List.append_nil]
    refine ⟨held, hheld.trans (hothers u (Ne.symm hu)).symm, ?_⟩
    rw [← htaken]
    exact hsublist.trans (List.sublist_append_left _ _)

/-- The invocations of a step, each with the worker that passes the Task to the callback. -/
def invocations (s : SchedulerPool W C P) (t : Thread W C) (s' : SchedulerPool W C P) :
    List (Fin W × P) :=
  match t with
  | .worker i => (invokedBy (.worker i) s (.worker i) s').map fun task => (i, task)
  | _ => []

/-- Those of worker `i`. -/
def ofWorker (i : Fin W) (calls : List (Fin W × P)) : List P :=
  (calls.filter fun call => call.1 = i).map Prod.snd

omit [Fintype C] in
theorem ofWorker_invocations (i : Fin W) (s s' : SchedulerPool W C P) (t : Thread W C) :
    ofWorker i (invocations s t s') = invokedBy (.worker i) s t s' := by
  unfold ofWorker invocations
  cases t with
  | worker j =>
    by_cases hj : j = i
    · subst hj
      rw [List.filter_eq_self.mpr, List.map_map]
      · exact List.map_id _
      · intro call hcall
        obtain ⟨task, -, rfl⟩ := List.mem_map.mp hcall
        exact decide_eq_true rfl
    · have hne : (Thread.worker j : Thread W C) ≠ .worker i := fun h => hj (Thread.worker.inj h)
      rw [List.filter_eq_nil_iff.mpr, List.map_nil]
      · unfold invokedBy
        rw [if_neg hne]
      · intro call hcall
        obtain ⟨task, -, rfl⟩ := List.mem_map.mp hcall
        simpa using hj
  | controller => rfl
  | client c => rfl

theorem invocations_snd (hreach : SchedulerReachable cfg s)
    (hstep : (schedulerProgram cfg).step t choice s = some s') :
    s'.shared.history.invoked
      = s.shared.history.invoked ++ (invocations s t s').map Prod.snd := by
  obtain ⟨pc, fx, hspec, -⟩ := hreach.threads.step_spec hstep
  rcases hspec.dispatches with hsame | ⟨i, task, rfl, -, -, hinvoked, -⟩
  · dsimp only at hsame
    cases t <;> simp [invocations, invokedBy, hsame]
  · dsimp only at hinvoked
    simp [invocations, invokedBy, hinvoked]

/-- The record of the invocations in a run. -/
structure Recorded (calls : List (Fin W × P)) (s : SchedulerPool W C P) : Prop where
  invoked : calls.map Prod.snd = s.shared.history.invoked
  inOrder : ∀ i, InOrder (ofWorker i calls) s (.worker i)

theorem recorded_step {calls : List (Fin W × P)} (hreach : SchedulerReachable cfg s)
    (h : Recorded calls s) (hstep : (schedulerProgram cfg).step t choice s = some s') :
    Recorded (calls ++ invocations s t s') s' where
  invoked := by rw [List.map_append, h.invoked, invocations_snd hreach hstep]
  inOrder i := by
    have hmore : ofWorker i (calls ++ invocations s t s')
        = ofWorker i calls ++ invokedBy (.worker i) s t s' := by
      rw [← ofWorker_invocations]
      unfold ofWorker
      rw [List.filter_append, List.map_append]
    rw [hmore]
    exact inOrder_step hreach (h.inOrder i) hstep

omit [DecidableEq C] [Fintype C] in
theorem recorded_initial (queue : TaskQueue P) :
    Recorded [] (schedulerInitial queue : SchedulerPool W C P) where
  invoked := rfl
  inOrder _ := ⟨[], rfl, List.nil_sublist _⟩

theorem recorded_of_run {queue : TaskQueue P} (hW : 0 < W)
    (hinit : taskQueueInit cfg.capacity true = (.ok, some queue))
    {ls : List (Thread W C × SchedulerChoice W C P)}
    (hrun : (schedulerProgram cfg).run ls (schedulerInitial queue) = some s) :
    Recorded ((schedulerProgram cfg).log invocations ls (schedulerInitial queue)) s := by
  have hboth := Program.log_of_steps invocations
    (J := fun calls s => SchedulerReachable cfg s ∧ Recorded calls s)
    (fun {u u' t i calls} ⟨hu, hcalls⟩ hstep =>
      ⟨hu.tail (.single ⟨t, i, hstep⟩), recorded_step hu hcalls hstep⟩)
    ⟨⟨hW, queue, hinit, .refl⟩, recorded_initial queue⟩ hrun
  exact hboth.2

/-- What was removed is the beginning of what was inserted. -/
theorem SchedulerReachable.removed_inserted (h : SchedulerReachable cfg s) :
    s.shared.queue.removed <+: s.shared.queue.inserted := by
  obtain ⟨f, habs, -⟩ := h.threads.abstracts
  rw [habs.history]
  exact List.prefix_append _ _

/-- What the workers hold and what they execute. -/
theorem SchedulerReachable.underway (h : SchedulerReachable cfg s) :
    (s.shared.queue.removed : Multiset P) = (s.shared.history.completed : Multiset P)
      + ∑ i : Fin W, ((s.pc (.worker i)).held + (s.pc (.worker i)).executing) := by
  have hexecuting := total_workers h.threads.runs SchedulerPc.executing (fun _ => rfl) fun _ => rfl
  have hheld := total_workers h.threads.runs SchedulerPc.held (fun _ => rfl) fun _ => rfl
  rw [h.accounts.removed, h.accounts.invoked, hexecuting, hheld, Finset.sum_add_distrib, add_assoc,
    add_comm (∑ i, (s.pc (.worker i)).executing)]

theorem QueuePc.removed_le (q : QueuePc P) : q.removed.card ≤ 1 := by
  have hreturn : ∀ (op : QueueOperation P) (r : QueueReturn P), (op.removed r).card ≤ 1 := by
    intro op r
    unfold QueueOperation.removed
    split <;> simp
  cases q with
  | unlock op r => exact hreturn op r
  | returned op r => exact hreturn op r
  | _ => exact Nat.zero_le 1

/-- A worker has one Task in hand at most. -/
theorem SchedulerPc.underway_le (pc : SchedulerPc W P) : (pc.held + pc.executing).card ≤ 1 := by
  cases pc with
  | worker i pc =>
    cases pc with
    | dequeue q =>
      show (q.removed + 0).card ≤ 1
      rw [add_zero]
      exact q.removed_le
    | _ => first | exact Nat.le_refl 1 | exact Nat.zero_le 1
  | _ => exact Nat.zero_le 1

/-- **The callbacks begin in the order of insertion, worker by worker.** In every run, whatever
submitters, workers and lifecycle calls do, each worker passes Tasks to the callback in the order
in which they were inserted in the queue; and if there is one worker, the Tasks passed to the
callback are the first ones inserted, in this order, none left out. -/
theorem dispatch_in_order {queue : TaskQueue P} (hW : 0 < W)
    (hinit : taskQueueInit cfg.capacity true = (.ok, some queue))
    {ls : List (Thread W C × SchedulerChoice W C P)}
    (hrun : (schedulerProgram cfg).run ls (schedulerInitial queue) = some s) :
    ((schedulerProgram cfg).log invocations ls (schedulerInitial queue)).map Prod.snd
        = s.shared.history.invoked ∧
      (∀ i,
        (ofWorker i ((schedulerProgram cfg).log invocations ls (schedulerInitial queue))).Sublist
        s.shared.queue.inserted) ∧
      (W = 1 → s.shared.history.invoked <+: s.shared.queue.inserted) := by
  have hreach : SchedulerReachable cfg s := ⟨hW, queue, hinit, Program.steps_of_run hrun⟩
  have hrecorded := recorded_of_run hW hinit hrun
  generalize (schedulerProgram cfg).log invocations ls (schedulerInitial queue) = calls at hrecorded
  refine ⟨hrecorded.invoked, fun i => ?_, ?_⟩
  · obtain ⟨held, -, hsublist⟩ := hrecorded.inOrder i
    exact ((List.sublist_append_left _ held).trans hsublist).trans hreach.removed_inserted.sublist
  · rintro rfl
    -- nothing is missing between what was invoked and what is held
    obtain ⟨held, hheld, hsublist⟩ := hrecorded.inOrder 0
    have hall : ofWorker 0 calls = s.shared.history.invoked := by
      rw [← hrecorded.invoked]
      unfold ofWorker
      rw [List.filter_eq_self.mpr fun call _ => decide_eq_true (Subsingleton.elim call.1 0)]
    rw [hall] at hsublist
    have hcount := congrArg Multiset.card hreach.accounts.removed
    rw [total_workers hreach.threads.runs SchedulerPc.held (fun _ => rfl) fun _ => rfl,
      Fintype.sum_subsingleton _ 0, ← hheld] at hcount
    have heq := hsublist.eq_of_length (by simpa using hcount.symm)
    exact (heq ▸ List.prefix_append _ held).trans hreach.removed_inserted

end Runs

/-- One Task is executed, and a second one has just been passed to the callback. -/
def twoTasksSchedule : SmallSchedule :=
  startSchedule ++ makes firstClient (.submit .submit (some 7)) 8 ++ executeSchedule
    ++ makes secondClient (.submit .submit (some 8)) 8 ++ advance soleWorker 7

theorem dispatch_in_order_two_tasks : ∃ s : SchedulerPool 1 (Fin 2) ℕ,
    (schedulerProgram reliableConfig).run twoTasksSchedule (schedulerInitial smallQueue) = some s ∧
      s.shared.history.invoked = [7, 8] ∧
      s.shared.history.invoked <+: s.shared.queue.inserted := by
  obtain ⟨s, hrun, hinvoked⟩ := Option.map_eq_some_iff.mp (show
    ((schedulerProgram reliableConfig).run twoTasksSchedule (schedulerInitial smallQueue)).map
      (fun s => s.shared.history.invoked) = some [7, 8] by decide +kernel)
  exact ⟨s, hrun, hinvoked, (dispatch_in_order Nat.one_pos (by decide) hrun).2.2 rfl⟩

section Backlog

variable [DecidableEq C] [Fintype C] {cfg : SchedulerConfig W} {s : SchedulerPool W C P}

/-- **The backlog is bounded.** In every reachable state no more Tasks than there are workers have
been removed from the queue and are not completed, so no more than the capacity and the number of
workers have been inserted and are not completed. -/
theorem backlog_bounded (h : SchedulerReachable cfg s) :
    s.shared.queue.removed.length ≤ s.shared.history.completed.length + W ∧
      s.shared.queue.inserted.length ≤ s.shared.history.completed.length + W + cfg.capacity := by
  obtain ⟨f, habs, hcapacity⟩ := h.threads.abstracts
  have hunderway := congrArg Multiset.card h.underway
  rw [Multiset.card_add, Multiset.coe_card, Multiset.coe_card, Multiset.card_sum] at hunderway
  have hworkers : ∑ i : Fin W,
      ((s.pc (.worker i)).held + (s.pc (.worker i)).executing).card ≤ W := by
    refine (Finset.sum_le_sum fun i _ => (s.pc (.worker i)).underway_le).trans_eq ?_
    simp
  refine ⟨by omega, ?_⟩
  have hcontents : f.contents.length ≤ cfg.capacity :=
    habs.ring.length_le.trans_eq (habs.capacity.trans hcapacity)
  rw [habs.history, List.length_append]
  omega

end Backlog

theorem backlog_bounded_tight : ∃ s : SchedulerPool 1 (Fin 2) ℕ,
    SchedulerReachable reliableConfig s ∧
      s.shared.queue.removed.length = s.shared.history.completed.length + 1 ∧
      s.shared.queue.inserted.length ≤ s.shared.history.completed.length + 1 + 1 := by
  obtain ⟨s, hs, hobs⟩ := reachable_of_run twoTasksSchedule
    (fun s => (s.shared.queue.removed, s.shared.history.completed)) (v := ([7, 8], [7]))
    (by decide +kernel)
  obtain ⟨hremoved, hcompleted⟩ := Prod.mk.inj hobs
  refine ⟨s, hs, ?_, (backlog_bounded hs).2⟩
  rw [hremoved, hcompleted]
  rfl

end SchedulingEngine
