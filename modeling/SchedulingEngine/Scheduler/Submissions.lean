import SchedulingEngine.Scheduler.Reliable

/-!
# Submissions around a shutdown (scheduler.c)

`scheduler_shutdown` closes two gates one after the other: `state` leaves `RUNNING` under
`lifecycle_mutex`, then `shutdown_requested` is set under the mutex of the queue.

- Behind the first gate nobody registers (`Gated`, `Refused`).
- A registered submission inserts its pointer before the second gate closes and answers
  `SCHEDULER_OK`, or it inserts nothing and says why (`CallPc.Submission`).
- Once the active submitters are gone, nothing is inserted any more (`Sealed`).
-/

namespace SchedulingEngine

open Concurrency

variable {W : ℕ} {C P : Type}

/-! ## Insertions -/

/-- The pointers that a step inserts, each with `shutdown_requested` before it. -/
def ConcurrentTaskQueue.insertions {T : Type} (q q' : ConcurrentTaskQueue T P) : List (P × Bool) :=
  (q'.inserted.drop q.inserted.length).map (·, q.shutdownRequested)

theorem ConcurrentTaskQueue.insertions_none {T : Type} {q q' : ConcurrentTaskQueue T P}
    (h : q'.inserted = q.inserted) : q.insertions q' = [] := by
  simp [insertions, h]

/-- How the queue refuses a submission. -/
def SubmitKind.Refuses (kind : SubmitKind) (r : ConcurrentTaskQueueResult) : Prop :=
  r = .errorShutdown ∨ kind = .trySubmit ∧ r = .errorFull

/-- A submission inside the queue that has inserted `done`. -/
def QueuePc.Submits (kind : SubmitKind) (task : P) (done : List (P × Bool)) : QueuePc P → Prop
  | .unlock _ r | .returned _ r =>
    r.result = .ok ∧ done = [(task, false)] ∨ kind.Refuses r.result ∧ done = []
  | _ => done = []

theorem QueuePc.submits_wake (kind : SubmitKind) (task : P) (done : List (P × Bool))
    (q : QueuePc P) : q.wake.Submits kind task done ↔ q.Submits kind task done := by
  cases q <;> exact Iff.rfl

theorem observe_refuses {kind : SubmitKind} {task : P} {f : ClosableFifo P} {r : QueueReturn P}
    (h : fifoStep (kind.operation task) f = some (r, f)) : kind.Refuses r.result := by
  have hgrow : ∀ f', f.insert task = some f' → f' ≠ f := by
    rintro f' hinsert rfl
    have hlength := congrArg List.length (ClosableFifo.insert_eq_some.mp hinsert).2.2.1
    simp at hlength
  cases kind with
  | submit =>
    simp only [SubmitKind.operation, fifoStep] at h
    cases hinsert : f.insert task with
    | some f' =>
      simp only [hinsert, Option.some.injEq, Prod.mk.injEq] at h
      exact absurd h.2 (hgrow f' hinsert)
    | none =>
      simp only [hinsert, Option.ite_none_right_eq_some, Option.some.injEq, Prod.mk.injEq] at h
      rw [← h.2.1]
      exact .inl rfl
  | trySubmit =>
    simp only [SubmitKind.operation, fifoStep] at h
    cases hinsert : f.insert task with
    | some f' =>
      simp only [hinsert, Option.some.injEq, Prod.mk.injEq] at h
      exact absurd h.2 (hgrow f' hinsert)
    | none =>
      simp only [hinsert, Option.some.injEq, Prod.mk.injEq] at h
      rw [← h.1]
      split
      · exact .inl rfl
      · exact .inr ⟨rfl, rfl⟩

section Queue

variable {T : Type} {cfg : QueueConfig} {t : T} {choice : QueueChoice T P}
  {q : ConcurrentTaskQueue T P} {f : ClosableFifo P} {pc : QueuePc P} {out : QueueSection T P}

/-- **A submission inserts its pointer once, into an open queue**, or not at all. -/
theorem QueueStepSpec.submits (h : QueueStepSpec cfg t choice q f pc out) (habs : Abstracts q f)
    (hwait : cfg.waitMayFail = false) {kind : SubmitKind} {task : P} {done : List (P × Bool)}
    (hop : pc.operation = some (kind.operation task)) (hleave : ∀ op r, pc ≠ .returned op r)
    (hdone : pc.Submits kind task done) :
    out.2.1.Submits kind task (done ++ q.insertions out.1) := by
  have hkeep : ∀ {out : QueueSection T P}, out.1.inserted = q.inserted →
      out.2.1.Submits kind task done →
      out.2.1.Submits kind task (done ++ q.insertions out.1) := by
    intro out hinserted hdone
    rwa [ConcurrentTaskQueue.insertions_none hinserted, List.append_nil]
  cases h with
  | call op => cases hop
  | callInvalid op => cases hop
  | enter hmutex henter hsec =>
    have hempty : done = [] := by cases henter <;> exact hdone
    obtain ⟨hoperation, -, -, hinserted, -⟩ := henter.accounts
    have hclosed := henter.closed
    have hsame := Option.some.inj (hop.symm.trans hoperation)
    subst hempty
    cases hsec with
    | wait w hopen hblocked =>
      exact ConcurrentTaskQueue.insertions_none ((beginWait_inserted w _).trans hinserted)
    -- the only section that inserts, and it inserts this Task
    | insert task' f' ring hop' hinsert habs' =>
      obtain rfl : task' = task := by
        rw [← hsame] at hop'
        cases kind <;> rcases hop' with hop' | hop' <;> cases hop' <;> rfl
      have hopen : q.shutdownRequested = false :=
        habs.closed.trans (ClosableFifo.insert_eq_some.mp hinsert).1
      refine .inl ⟨rfl, ?_⟩
      simp [ConcurrentTaskQueue.insertions, hinserted, hopen]
    | remove task' f' ring hop' hremove habs' =>
      rw [← hsame] at hop'
      cases kind <;> rcases hop' with hop' | hop' <;> cases hop'
    | close => cases kind <;> cases hsame
    -- refused
    | observe r hstep hshutdown =>
      rw [← hsame] at hstep
      exact .inr ⟨observe_refuses hstep, ConcurrentTaskQueue.insertions_none hinserted⟩
  | waitFailed w hfail hmutex => cases hwait.symm.trans hfail
  | sleep w hmutex => exact hkeep rfl hdone
  | spurious w => exact hkeep rfl hdone
  | unlock op r hmutex => exact hkeep rfl hdone
  | leave op r => exact absurd rfl (hleave op r)

/-- A closed queue only shrinks. -/
theorem QueueStepSpec.sealed (h : QueueStepSpec cfg t choice q f pc out) (habs : Abstracts q f)
    (hclosed : q.shutdownRequested = true) :
    out.1.inserted = q.inserted ∧ q.removed <+: out.1.removed := by
  cases h with
  | enter hmutex henter hsec =>
    obtain ⟨-, -, -, hinserted, hremoved⟩ := henter.accounts
    rw [← hinserted, ← hremoved]
    cases hsec with
    | wait w hopen hblocked => simp
    | insert task f' ring hop hinsert habs' =>
      have hopen := (ClosableFifo.insert_eq_some.mp hinsert).1
      cases hclosed.symm.trans (habs.closed.trans hopen)
    | remove task f' ring hop hremove habs' => exact ⟨rfl, _, rfl⟩
    | close => exact ⟨rfl, List.prefix_rfl⟩
    | observe r hstep hshutdown => exact ⟨rfl, List.prefix_rfl⟩
  | waitFailed w hfail hmutex => simp
  | _ => exact ⟨rfl, List.prefix_rfl⟩

end Queue

/-! ## A registered submission -/

/-- What a submission of `task` that inserted `done` may answer. -/
def SubmitKind.Answers (kind : SubmitKind) (task : P) (done : List (P × Bool))
    (r : SchedulerResult) : Prop :=
  r = .ok ∧ done = [(task, false)] ∨
    (r = .errorShutdown ∨ kind = .trySubmit ∧ r = .errorQueueFull) ∧ done = []

/-- A registered submission of `task` that has inserted `done`. -/
def CallPc.Submission (kind : SubmitKind) (task : P) (done : List (P × Bool)) : CallPc P → Prop
  | .registerUnlock kind' task' r => kind' = kind ∧ task' = task ∧ r = .ok ∧ done = []
  | .enqueue kind' task' q => kind' = kind ∧ task' = task ∧ q.Submits kind task done
  | .deregisterLock task' r | .deregisterUnlock task' r => task' = task ∧ kind.Answers task done r
  | .submitted r => kind.Answers task done r
  | _ => False

theorem CallPc.submission_wake (kind : SubmitKind) (task : P) (done : List (P × Bool))
    (pc : CallPc P) : pc.wake.Submission kind task done ↔ pc.Submission kind task done := by
  cases pc with
  | enqueue kind' task' q =>
    exact and_congr_right fun _ => and_congr_right fun _ => q.submits_wake kind task done
  | _ => exact Iff.rfl

/-- The call has its answer. -/
def CallPc.answered : CallPc P → Bool
  | .submitted _ => true
  | _ => false

theorem SubmitKind.answers_mapResult {kind : SubmitKind} {task : P} {done : List (P × Bool)}
    {op : QueueOperation P} {r : QueueReturn P}
    (h : (QueuePc.returned op r).Submits kind task done) :
    kind.Answers task done (kind.mapResult r.result) := by
  rcases h with ⟨hr, hdone⟩ | ⟨hr | ⟨rfl, hr⟩, hdone⟩
  · rw [hr]
    exact .inl ⟨by cases kind <;> rfl, hdone⟩
  · rw [hr]
    exact .inr ⟨.inl (by cases kind <;> rfl), hdone⟩
  · rw [hr]
    exact .inr ⟨.inr ⟨rfl, rfl⟩, hdone⟩

section Calls

variable [DecidableEq C] {cfg : SchedulerConfig W} {t : Thread W C}
  {choice : SchedulerChoice W C P} {sh : Scheduler W C P}

/-- **A registered submission answers by what it inserted.** -/
theorem CallStepSpec.submission {pc : CallPc P} {out : SchedulerStep W C P (CallPc P)}
    {f : ClosableFifo P} (h : CallStepSpec cfg t choice sh pc out) (habs : Abstracts sh.queue f)
    (hwait : cfg.waitMayFail = false) (hoperation : pc.queue.operation = pc.operation)
    (hregistered : pc.registered ≤ sh.lifecycle.activeSubmitterCount)
    (hpending : pc.answered = false) {kind : SubmitKind} {task : P} {done : List (P × Bool)}
    (hdone : pc.Submission kind task done) :
    out.2.1.Submission kind task (done ++ sh.queue.insertions out.1.queue) := by
  have hkeep : ∀ {out : SchedulerStep W C P (CallPc P)}, out.1.queue = sh.queue →
      out.2.1.Submission kind task done →
      out.2.1.Submission kind task (done ++ sh.queue.insertions out.1.queue) := by
    intro out hqueue hdone
    rwa [hqueue, ConcurrentTaskQueue.insertions_none rfl, List.append_nil]
  cases h with
  | registered kind' task' hheld => exact hkeep rfl ⟨hdone.1, hdone.2.1, hdone.2.2.2⟩
  | rejected kind' task' r hr hheld => exact absurd hdone.2.2.1 hr
  | enqueue kind' task' hq =>
    obtain ⟨rfl, rfl, hdone⟩ := hdone
    cases hq with
    | run hact hleave =>
      exact ⟨rfl, rfl, (queueAct_spec habs hact).submits habs hwait hoperation hleave hdone⟩
    | leave op r => exact hkeep rfl ⟨rfl, SubmitKind.answers_mapResult hdone⟩
  | deregister task' r hfree =>
    refine hkeep rfl ⟨hdone.1, ?_⟩
    rw [(deregisterSubmitter_active (l := (sh.lockLifecycle t).lifecycle) r hregistered).2]
    exact hdone.2
  | deregistered task' r hheld => exact hkeep rfl hdone.2
  | submitted r => cases hpending
  | _ => exact absurd hdone id

/-! ## Behind the gate -/

/-- What a submission does, as far as the gate is concerned. -/
inductive SubmissionEvent where
  | registers (r : SchedulerResult)
  | entersQueue
  | answers (r : SchedulerResult)
  deriving DecidableEq, Repr

/-- The event of a step of a submission. -/
def CallPc.event : CallPc P → CallPc P → List SubmissionEvent
  | .registerLock _ _, .registerUnlock _ _ r => [.registers r]
  | .enqueue _ _ _, _ => [.entersQueue]
  | .registerUnlock _ _ _, .submitted r | .deregisterUnlock _ _, .submitted r => [.answers r]
  | _, _ => []

/-- A call that is not registered. -/
def CallPc.Late : CallPc P → Prop
  | .registerUnlock _ _ r => r = .errorShutdown
  | .enqueue _ _ _ | .deregisterLock _ _ | .deregisterUnlock _ _ => False
  | _ => True

/-- Refused behind the gate. -/
def SubmissionEvent.Refused (e : SubmissionEvent) : Prop :=
  e = .registers .errorShutdown ∨ e = .answers .errorShutdown

/-- **Behind the gate a call registers with `SCHEDULER_ERROR_SHUTDOWN`** and answers it, and
does not enter the queue. -/
theorem CallStepSpec.late {pc : CallPc P} {out : SchedulerStep W C P (CallPc P)}
    (h : CallStepSpec cfg t choice sh pc out) (hgated : sh.Gated) (hlate : pc.Late) :
    out.2.1.Late ∧ ∀ e ∈ pc.event out.2.1, e.Refused := by
  cases h with
  | register kind task hfree =>
    have hresult : (registerSubmitter (sh.lockLifecycle t).lifecycle).2 = .errorShutdown := by
      have hstate : (sh.lockLifecycle t).lifecycle.state = sh.lifecycle.state := rfl
      rcases hgated with hgated | hgated <;> simp [registerSubmitter, hstate, hgated]
    refine ⟨hresult, ?_⟩
    rw [hresult]
    simp [CallPc.event, SubmissionEvent.Refused]
  | registered kind task hheld => cases hlate
  | rejected kind task r hr hheld =>
    obtain rfl : r = .errorShutdown := hlate
    exact ⟨trivial, by simp [CallPc.event, SubmissionEvent.Refused]⟩
  | enqueue kind task hq => exact absurd hlate id
  | deregister task r hfree => exact absurd hlate id
  | deregistered task r hheld => exact absurd hlate id
  | captureQueue temporary hq => cases hq <;> exact ⟨trivial, List.forall_mem_nil _⟩
  | _ => exact ⟨trivial, List.forall_mem_nil _⟩

/-- Behind the gate the active submitters only get fewer. -/
theorem CallStepSpec.active_le {pc : CallPc P} {out : SchedulerStep W C P (CallPc P)}
    (h : CallStepSpec cfg t choice sh pc out) (hstate : sh.lifecycle.state ≠ .running) :
    out.1.lifecycle.activeSubmitterCount ≤ sh.lifecycle.activeSubmitterCount := by
  cases h with
  | register kind task hfree =>
    exact Nat.le_of_eq (registerSubmitter_refused (l := (sh.lockLifecycle t).lifecycle) hstate).1
  | enqueue kind task hq => cases hq <;> exact Nat.le_refl _
  | deregister task r hfree =>
    by_cases hactive : 0 < sh.lifecycle.activeSubmitterCount
    · have hone := (deregisterSubmitter_active (l := (sh.lockLifecycle t).lifecycle) r hactive).1
      exact Nat.le_trans (Nat.le_succ _) (Nat.le_of_eq hone)
    · have hzero : (sh.lockLifecycle t).lifecycle.activeSubmitterCount = 0 :=
        Nat.eq_zero_of_not_pos hactive
      by_cases hr : r = .ok <;> simp [deregisterSubmitter, hr, hzero]
  | captureQueue temporary hq => cases hq <;> exact Nat.le_refl _
  | _ => exact Nat.le_refl _

end Calls

/-! ## Runs -/

/-- What thread `u` inserts at a step. -/
def submissionInsertions [DecidableEq C] (u : Thread W C) (s : SchedulerPool W C P) (t : Thread W C)
    (s' : SchedulerPool W C P) : List (P × Bool) :=
  if t = u then s.shared.queue.insertions s'.shared.queue else []

/-- What thread `u` does at a step as a submitter. -/
def submissionEvents [DecidableEq C] (u : Thread W C) (s : SchedulerPool W C P) (t : Thread W C)
    (s' : SchedulerPool W C P) : List SubmissionEvent :=
  if t = u then (s.pc u).toCall.event (s'.pc u).toCall else []

/-- Thread `u` stays in its call. -/
def StaysInCall (u : Thread W C) (s : SchedulerPool W C P) (t : Thread W C) : Prop :=
  t = u → (s.pc u).toCall.answered = false

instance [DecidableEq C] (u : Thread W C) (s : SchedulerPool W C P) (t : Thread W C) :
    Decidable (StaysInCall u s t) :=
  inferInstanceAs (Decidable (_ → _))

/-- Behind the gate with the queue closed and nobody registered. -/
structure Scheduler.Sealed (sh : Scheduler W C P) : Prop where
  gated : sh.Gated
  quiet : sh.Quiet
  closed : sh.Closed

/-- A call inside the queue is there for its own operation. -/
theorem SchedulerPc.toCall_operation {pc : SchedulerPc W P}
    (h : pc.queue.operation = pc.operation) :
    pc.toCall.queue.operation = pc.toCall.operation := by
  cases pc with
  | call pc => exact h
  | worker i pc =>
    cases pc with
    | callback task runningAccounted pc => exact h
    | _ => rfl
  | controller pc => rfl

/-- What holds of the controller that a shutdown has answered `SCHEDULER_OK`. -/
def ControllerPc.Seals (sh : Scheduler W C P) : ControllerPc P → Prop
  | .returned .shutdown .ok => sh.Sealed
  | .shutdownUnlock (some .ok) => sh.lifecycle.state = .stopped
  | .setStateUnlock .shutdown _ => False
  | _ => True

theorem ControllerPc.seals_wake (sh : Scheduler W C P) (pc : ControllerPc P) :
    pc.wake.Seals sh ↔ pc.Seals sh := by
  cases pc <;> exact Iff.rfl

theorem ControllerStepSpec.seals [DecidableEq C] {cfg : SchedulerConfig W}
    {choice : SchedulerChoice W C P} {sh : Scheduler W C P} {pc : ControllerPc P}
    {out : SchedulerStep W C P (ControllerPc P)} (h : ControllerStepSpec cfg choice sh pc out)
    (hphase : (pc.phase W).Ok sh) (hseals : pc.Seals sh) : out.2.1.Seals out.1 := by
  cases h with
  | call call pc hcall =>
    exact beginCall_elim (M := fun pc => pc.Seals sh) hcall trivial trivial trivial trivial trivial
  | callNull call => cases call <;> trivial
  | readyLock hfree hinit => exact readyTest_elim (M := fun pc => pc.Seals _) trivial trivial
  | readyAgain hfree hinit => exact readyTest_elim (M := fun pc => pc.Seals _) trivial trivial
  | abortQueue hq => cases hq <;> trivial
  | releaseIncomplete caller index result hindex =>
    exact afterRelease_elim (M := fun pc => pc.Seals _) fun _ _ _ => trivial
  | foldUnlock caller result hheld =>
    exact afterRelease_elim (M := fun pc => pc.Seals _) fun _ _ _ => trivial
  | setState state call r hfree =>
    cases call with
    | shutdown => cases state <;> exact absurd hphase id
    | _ => trivial
  | setStateUnlock call r hcall hheld =>
    cases call with
    | shutdown => exact absurd hseals id
    | _ => trivial
  | shutdownStopped hfree hstate => exact hstate
  -- a second `shutdown` answers OK with nobody inside any more
  | shutdownAnswered r hheld =>
    cases r with
    | ok =>
      obtain ⟨-, -, hclosed, hquiet⟩ := Scheduler.Settled.of_state hphase hseals
      exact ⟨.inr hseals, hquiet, hclosed⟩
    | _ => trivial
  | shutdownQueue hq => cases hq <;> trivial
  | drainLock caller hfree => exact drainTest_elim (M := fun pc => pc.Seals _) trivial trivial
  | drainAgain caller hfree => exact drainTest_elim (M := fun pc => pc.Seals _) trivial trivial
  -- the first one has waited for that
  | shutdownDrained result hheld =>
    cases result with
    | ok =>
      obtain ⟨⟨hstate, -⟩, -, hclosed, hquiet⟩ := hphase
      exact ⟨.inl hstate, hquiet, hclosed⟩
    | _ => trivial
  | join hfree hstate => exact drainTest_elim (M := fun pc => pc.Seals _) trivial trivial
  | _ => trivial

section Runs

variable [DecidableEq C] [Fintype C] {cfg : SchedulerConfig W} {t u : Thread W C}
  {choice : SchedulerChoice W C P} {s s' : SchedulerPool W C P}

theorem SchedulerReachable.submission_step (h : SchedulerReachable cfg s)
    (hwait : cfg.waitMayFail = false) (hstep : (schedulerProgram cfg).step t choice s = some s')
    (hcall : StaysInCall u s t) {kind : SubmitKind} {task : P} {done : List (P × Bool)}
    (hdone : (s.pc u).toCall.Submission kind task done) :
    (s'.pc u).toCall.Submission kind task (done ++ submissionInsertions u s t s') := by
  refine h.call_step u (fun pc => pc.submission_wake kind task _) hstep
    (fun hidle => absurd hidle id)
    (fun htu pc hpc => ?_) (fun out htu hspec hsh => ?_) hdone
  · rw [submissionInsertions, if_neg htu, List.append_nil]
    exact hpc
  · obtain ⟨f, habs, -⟩ := h.threads.abstracts
    have hoperation := SchedulerPc.toCall_operation (h.accounts.operation u)
    rw [submissionInsertions, if_pos htu, ← hsh]
    exact hspec.submission habs hwait hoperation (h.accounts.registered_le u) (hcall htu) hdone

/-- **A registered submission answers by what it inserted**, in every run. -/
theorem SchedulerReachable.submission (h : SchedulerReachable cfg s)
    (hwait : cfg.waitMayFail = false) {kind : SubmitKind} {task : P}
    (hregistered : (s.pc u).toCall = .registerUnlock kind task .ok)
    {ls : List (Thread W C × SchedulerChoice W C P)}
    (hcall : (schedulerProgram cfg).allowed (StaysInCall u) ls s = true)
    (hrun : (schedulerProgram cfg).run ls s = some s') {r : SchedulerResult}
    (hanswer : (s'.pc u).toCall = .submitted r) :
    kind.Answers task ((schedulerProgram cfg).log (submissionInsertions u) ls s) r := by
  have hlast := Program.log_invariant (p := schedulerProgram cfg) (submissionInsertions u)
    (J := fun done w => SchedulerReachable cfg w ∧ (w.pc u).toCall.Submission kind task done)
    (fun hJ hok hstep =>
      ⟨hJ.1.tail (.single ⟨_, _, hstep⟩), hJ.1.submission_step hwait hstep hok hJ.2⟩)
    ⟨h, by rw [hregistered]; exact ⟨rfl, rfl, rfl, rfl⟩⟩ hcall hrun
  have hdone := hlast.2
  rw [hanswer] at hdone
  exact hdone

theorem SchedulerReachable.late_step (h : SchedulerReachable cfg s) (hgated : s.shared.Gated)
    (hstep : (schedulerProgram cfg).step t choice s = some s') (hlate : (s.pc u).toCall.Late) :
    (s'.pc u).toCall.Late ∧ ∀ e ∈ submissionEvents u s t s', e.Refused := by
  have hevent : ∀ pc : CallPc P, (s.pc u).toCall.event pc.wake = (s.pc u).toCall.event pc := by
    intro pc
    generalize (s.pc u).toCall = upc
    cases upc <;> cases pc <;> rfl
  by_cases htu : t = u
  · simp only [submissionEvents, if_pos htu]
    refine h.call_step u (A := CallPc.Late)
      (B := fun pc => pc.Late ∧ ∀ e ∈ (s.pc u).toCall.event pc, e.Refused)
      (fun pc => ?_) hstep ?_ (fun hne => absurd htu hne)
      (fun out _ hspec _ => hspec.late hgated hlate) hlate
    · rw [hevent]
      cases pc <;> exact Iff.rfl
    · refine fun _ => ⟨trivial, ?_⟩
      generalize (s.pc u).toCall = upc at hlate
      cases upc with
      | enqueue kind task q => exact absurd hlate id
      | _ => exact nofun
  · rw [submissionEvents, if_neg htu]
    refine ⟨h.call_step u (A := CallPc.Late) (B := CallPc.Late) (fun pc => ?_) hstep id
      (fun _ _ => id) (fun out hne => absurd hne htu) hlate, nofun⟩
    cases pc <;> exact Iff.rfl

/-- The active submitters behind the gate. -/
theorem SchedulerReachable.active_le (h : SchedulerReachable cfg s) (hgated : s.shared.Gated)
    (hstep : (schedulerProgram cfg).step t choice s = some s') :
    s'.shared.lifecycle.activeSubmitterCount ≤ s.shared.lifecycle.activeSubmitterCount := by
  obtain ⟨pc, fx, hspec, -⟩ := h.threads.step_spec hstep
  obtain ⟨f, habs, -⟩ := h.threads.abstracts
  rcases hspec.call_cases with ⟨hidle, hidle'⟩ | ⟨out, hcall, hsh, -⟩
  · have hledger :=
      (hspec.ledger habs (h.accounts.operation t) (h.accounts.registered_le t)).registered
    unfold SchedulerPc.registered at hledger
    rw [hidle, hidle'] at hledger
    exact Nat.le_of_eq hledger
  · dsimp only at hsh
    rw [hsh]
    refine hcall.active_le ?_
    rcases hgated with hstate | hstate <;> rw [hstate] <;> nofun

/-- A closed queue stays closed and only shrinks. -/
theorem SchedulerReachable.queue_sealed (h : SchedulerReachable cfg s)
    (hstep : (schedulerProgram cfg).step t choice s = some s') (hclosed : s.shared.Closed) :
    s'.shared.Closed ∧ s'.shared.queue.inserted = s.shared.queue.inserted ∧
      s.shared.queue.removed <+: s'.shared.queue.removed := by
  obtain ⟨pc, fx, hspec, -⟩ := h.threads.step_spec hstep
  obtain ⟨f, habs, -⟩ := h.threads.abstracts
  have hmove := hspec.queueMove
  dsimp only at hmove
  cases hmove with
  | run hact hleave =>
    have hq := queueAct_spec habs hact
    exact ⟨hq.closed_stays hclosed, hq.sealed habs hclosed⟩
  | jump hqueue hq hq' hfx =>
    unfold Scheduler.Closed
    rw [hqueue]
    exact ⟨hclosed, rfl, List.prefix_rfl⟩

theorem SchedulerReachable.sealed_step (h : SchedulerReachable cfg s)
    (hjoin : cfg.joinMayFail = false) (hstep : (schedulerProgram cfg).step t choice s = some s')
    (hsealed : s.shared.Sealed) : s'.shared.Sealed where
  gated := h.gated_step hjoin hstep hsealed.gated
  quiet := Nat.le_zero.mp (hsealed.quiet ▸ h.active_le hsealed.gated hstep)
  closed := (h.queue_sealed hstep hsealed.closed).1

/-- **A shutdown that answered `SCHEDULER_OK` has sealed the scheduler.** -/
theorem SchedulerReachable.seals (h : SchedulerReachable cfg s) (hjoin : cfg.joinMayFail = false) :
    ∀ pc, s.pc .controller = .controller pc → pc.Seals s.shared := by
  refine h.invariant (I := fun s => ∀ pc, s.pc .controller = .controller pc → pc.Seals s.shared)
    (fun queue _ pc hpc => ?_) fun {u u' t choice} hu hI hstep => ?_
  · cases hpc
    trivial
  refine hu.controller_step (fun sh pc => pc.Seals sh) (fun sh pc => pc.seals_wake sh) hstep
    (fun pc ht hpc hseals => ?_) (fun pc out _ hpc hspec hsh hseals => ?_) hI
  · rcases hu.step_cases hstep with ⟨-, hframe⟩ | ⟨hcontroller, -⟩
    · unfold ControllerPc.Seals at hseals ⊢
      split at hseals
      · exact hu.sealed_step hjoin hstep hseals
      · exact hframe.state.trans hseals
      · exact hseals
      · trivial
    · exact absurd hcontroller ht
  · rw [← hsh]
    exact hspec.seals (hu.lifecycle.phase hpc) hseals

/-- **The submission gate.** Once `SHUTTING_DOWN` is assigned, the active submitters only get
fewer, and a call that has yet to register is refused with `SCHEDULER_ERROR_SHUTDOWN` and does
not enter the queue. A registered call answers `SCHEDULER_OK` exactly if it has inserted its
pointer, into the open queue, and otherwise inserts nothing. Once a shutdown has answered
`SCHEDULER_OK` nobody is active and nothing is inserted any more, so the contents only shrink. -/
theorem submission_gate (hreach : SchedulerReachable cfg s) (hwait : cfg.waitMayFail = false)
    (hjoin : cfg.joinMayFail = false) {ls : List (Thread W C × SchedulerChoice W C P)}
    (hrun : (schedulerProgram cfg).run ls s = some s') :
    (.shuttingDown ∈ s.shared.history.states →
      s'.shared.lifecycle.activeSubmitterCount ≤ s.shared.lifecycle.activeSubmitterCount ∧
      ∀ (u : Thread W C) (kind : SubmitKind) (task : P),
        (s.pc u).toCall = .registerLock kind task →
        ∀ e ∈ (schedulerProgram cfg).log (submissionEvents u) ls s,
          e = .registers .errorShutdown ∨ e = .answers .errorShutdown) ∧
    (∀ (u : Thread W C) (kind : SubmitKind) (task : P) (r : SchedulerResult),
      (s.pc u).toCall = .registerUnlock kind task .ok →
      (schedulerProgram cfg).allowed (StaysInCall u) ls s = true →
      (s'.pc u).toCall = .submitted r →
        (r = .ok ↔ (schedulerProgram cfg).log (submissionInsertions u) ls s = [(task, false)]) ∧
        (r ≠ .ok → (schedulerProgram cfg).log (submissionInsertions u) ls s = [] ∧
          (r = .errorShutdown ∨ kind = .trySubmit ∧ r = .errorQueueFull))) ∧
    (s.pc .controller = .controller (.returned .shutdown .ok) →
      s'.shared.lifecycle.activeSubmitterCount = 0 ∧
      s'.shared.queue.inserted = s.shared.queue.inserted ∧
      ∃ contents contents', s.shared.queue.queue.Represents contents ∧
        s'.shared.queue.queue.Represents contents' ∧ contents' <:+ contents) := by
  have hsteps := Program.steps_of_run hrun
  refine ⟨fun hstates => ?_, fun u kind task r hregistered hcall hanswer => ?_, fun hreturned => ?_⟩
  · have hgated := hreach.gated hjoin hstates
    constructor
    · refine (Program.Steps.invariant (I := fun w => SchedulerReachable cfg w ∧ w.shared.Gated ∧
        w.shared.lifecycle.activeSubmitterCount ≤ s.shared.lifecycle.activeSubmitterCount)
        hsteps ⟨hreach, hgated, Nat.le_refl _⟩ ?_).2.2
      rintro w w' - ⟨hw, hgated, hle⟩ ⟨t, choice, hstep⟩
      exact ⟨hw.tail (.single ⟨t, choice, hstep⟩), hw.gated_step hjoin hstep hgated,
        Nat.le_trans (hw.active_le hgated hstep) hle⟩
    · intro u kind task hregister
      have hallowed := Program.allowed_true (schedulerProgram cfg) ls s
      have hbefore : SchedulerReachable cfg s ∧ s.shared.Gated ∧ (s.pc u).toCall.Late ∧
          ∀ e ∈ ([] : List SubmissionEvent), e.Refused :=
        ⟨hreach, hgated, by rw [hregister]; trivial, nofun⟩
      have hlast := Program.log_invariant (submissionEvents u)
        (J := fun noted w => SchedulerReachable cfg w ∧ w.shared.Gated ∧
          (w.pc u).toCall.Late ∧ ∀ e ∈ noted, e.Refused)
        (fun {w w' t choice noted} hJ _ hstep => ?_) hbefore hallowed hrun
      · exact hlast.2.2.2
      · obtain ⟨hw, hgated, hlate, hnoted⟩ := hJ
        obtain ⟨hlate', hevents⟩ := hw.late_step hgated hstep hlate
        refine ⟨hw.tail (.single ⟨_, _, hstep⟩), hw.gated_step hjoin hstep hgated, hlate', ?_⟩
        exact fun e he => (List.mem_append.mp he).elim (hnoted e) (hevents e)
  · rcases hreach.submission hwait hregistered hcall hrun hanswer with ⟨rfl, hdone⟩ | ⟨hr, hdone⟩
    · exact ⟨⟨fun _ => hdone, fun _ => rfl⟩, fun hne => absurd rfl hne⟩
    · have hne : r ≠ .ok := by rcases hr with rfl | ⟨-, rfl⟩ <;> nofun
      refine ⟨⟨fun hok => absurd hok hne, fun hlog => ?_⟩, fun _ => ⟨hdone, hr⟩⟩
      rw [hdone] at hlog
      cases hlog
  · have hsealed : s.shared.Sealed := hreach.seals hjoin _ hreturned
    obtain ⟨hreach', hsealed', hinserted, hremoved⟩ := Program.Steps.invariant
      (I := fun w => SchedulerReachable cfg w ∧ w.shared.Sealed ∧
        w.shared.queue.inserted = s.shared.queue.inserted ∧
        s.shared.queue.removed <+: w.shared.queue.removed)
      hsteps ⟨hreach, hsealed, rfl, List.prefix_rfl⟩ (by
        rintro w w' - ⟨hw, hsealed, hinserted, hremoved⟩ ⟨t, choice, hstep⟩
        obtain ⟨-, hinserted', hremoved'⟩ := hw.queue_sealed hstep hsealed.closed
        exact ⟨hw.tail (.single ⟨t, choice, hstep⟩), hw.sealed_step hjoin hstep hsealed,
          hinserted'.trans hinserted, hremoved.trans hremoved'⟩)
    obtain ⟨f, habs, -⟩ := hreach.threads.abstracts
    obtain ⟨f', habs', -⟩ := hreach'.threads.abstracts
    refine ⟨hsealed'.quiet, hinserted, f.contents, f'.contents, habs.ring, habs'.ring, ?_⟩
    -- what was inserted is what was removed and what is queued
    obtain ⟨more, hmore⟩ := hremoved
    refine ⟨more, (List.append_right_inj s.shared.queue.removed).mp ?_⟩
    rw [← List.append_assoc, hmore, ← habs.history, ← hinserted, habs'.history]

end Runs

/-- Task 7 is submitted, client 1 stands before its registration, and a shutdown returns. -/
def gateSchedule : SmallSchedule :=
  startSchedule ++ makes firstClient (.submit .submit (some 7)) 8
    ++ makes secondClient (.submit .trySubmit (some 8)) 0
    ++ makes .controller (.lifecycle .shutdown true) 7

theorem submission_gate_after_shutdown :
    ∃ s s' : SchedulerPool 1 (Fin 2) ℕ, SchedulerReachable reliableConfig s ∧
      (schedulerProgram reliableConfig).run (advance (.client 1) 2 ++ advance (.worker 0) 3) s
        = some s' ∧
      (s'.pc (.client 1)).toCall = .submitted .errorShutdown ∧
      s'.shared.lifecycle.activeSubmitterCount = 0 ∧
      s'.shared.queue.inserted = s.shared.queue.inserted := by
  obtain ⟨s, hreach, hobs⟩ := reachable_of_run gateSchedule
    (fun s => (s.pc .controller, ((schedulerProgram reliableConfig).run
      (advance (.client 1) 2 ++ advance (.worker 0) 3) s).map fun s' => (s'.pc (.client 1)).toCall))
    (v := (.controller (.returned .shutdown .ok), some (.submitted .errorShutdown)))
    (by decide +kernel)
  obtain ⟨hreturned, hobs⟩ := Prod.mk.inj hobs
  obtain ⟨s', hrun, hanswer⟩ := Option.map_eq_some_iff.mp hobs
  obtain ⟨hactive, hinserted, -⟩ := (submission_gate hreach rfl rfl hrun).2.2 hreturned
  exact ⟨s, s', hreach, hrun, hanswer, hactive, hinserted⟩

end SchedulingEngine
