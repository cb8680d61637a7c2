import SchedulingEngine.Scheduler.FairRuns
import SchedulingEngine.Scheduler.Submissions

/-!
# Calls that return

In a fair execution:

- a capture, a `scheduler_try_submit`, and a `scheduler_submit` on a closed queue return
  (`prompt_call_returns`);
- once the state has left `RUNNING` for good and the queue is closed, the last active submitter
  leaves (`submitters_leave`);
- the workers of a closed queue finish, provided that callbacks return (`worker_finishes`).
-/

namespace SchedulingEngine

open Concurrency

variable {W : ℕ} {C P : Type}

/-! ## Queue calls that do not wait -/

/-- A bound on the steps of a queue call that does not go back to sleep. -/
def QueuePc.stepsLeft : QueuePc P → ℕ
  | .idle => 0
  | .returned _ _ => 1
  | .unlock _ _ => 2
  | .lock _ | .asleep _ | .woken _ => 3
  | .wait _ => 4

theorem QueuePc.stepsLeft_wake (q : QueuePc P) : q.wake.stepsLeft = q.stepsLeft := by
  cases q <;> rfl

/-- A step inside the queue that does not end up asleep has one step less to go. -/
theorem QueueStepSpec.nears {T : Type} {cfg : QueueConfig} {t : T} {choice : QueueChoice T P}
    {q : ConcurrentTaskQueue T P} {f : ClosableFifo P} {pc : QueuePc P} {out : QueueSection T P}
    (h : QueueStepSpec cfg t choice q f pc out) (habs : Abstracts q f) (hidle : pc ≠ .idle)
    (hawake : pc.asleepOn = none)
    (hprompt : q.shutdownRequested = true ∨ ∀ w : Waiter P, pc.operation ≠ some w.operation) :
    out.2.1.stepsLeft < pc.stepsLeft := by
  cases h with
  | call op => exact absurd rfl hidle
  | callInvalid op => exact absurd rfl hidle
  | @enter pc op q₀ out hmutex henter hspec =>
    have hop : pc.operation = some op ∧ pc.stepsLeft = 3 := by
      cases henter <;> exact ⟨rfl, rfl⟩
    rw [hop.2]
    cases hspec with
    | wait w hopen hblocked =>
      rcases hprompt with hclosed | hnever
      · rw [habs.closed, hopen] at hclosed
        cases hclosed
      · exact absurd hop.1 (hnever w)
    | _ => exact Nat.lt_succ_self 2
  | spurious w => cases w <;> cases hawake
  | _ => exact Nat.lt_succ_self _

/-- What counts the steps left outside the queue on top of those inside it. -/
theorem InsideQueueSpec.nears {π : Type} [DecidableEq C] {cfg : SchedulerConfig W}
    {t : Thread W C} {choice : SchedulerChoice W C P} {sh : Scheduler W C P} {f : ClosableFifo P}
    {inside : QueuePc P → π} {resume : QueueReturn P → π} {q : QueuePc P}
    {out : SchedulerStep W C P π} (h : InsideQueueSpec cfg t choice sh inside resume q out)
    (habs : Abstracts sh.queue f) (hidle : q ≠ .idle) (hawake : q.asleepOn = none)
    (hprompt : sh.Closed ∨ ∀ w : Waiter P, q.operation ≠ some w.operation) (rank : π → ℕ) (k : ℕ)
    (hinside : ∀ q, rank (inside q) = k + q.stepsLeft) (hresume : ∀ r, rank (resume r) ≤ k) :
    rank out.2.1 < rank (inside q) := by
  rw [hinside]
  cases h with
  | run hact hleave =>
    rw [hinside]
    exact Nat.add_lt_add_left ((queueAct_spec habs hact).nears habs hidle hawake hprompt) k
  | leave op r => exact Nat.lt_succ_of_le (hresume r)

/-! ## Submissions and captures -/

/-- Not a blocking submission, unless the queue is closed. -/
def CallPc.Prompt (sh : Scheduler W C P) : CallPc P → Prop
  | .registerLock .submit _ | .registerUnlock .submit _ _ | .enqueue .submit _ _ => sh.Closed
  | _ => True

theorem CallPc.prompt_wake (sh : Scheduler W C P) (pc : CallPc P) :
    pc.wake.Prompt sh ↔ pc.Prompt sh := by
  cases pc with
  | enqueue kind task q => cases kind <;> exact Iff.rfl
  | _ => exact Iff.rfl

/-- A call stays prompt, since a closed queue stays closed. -/
theorem CallPc.Prompt.closed {sh sh' : Scheduler W C P} {pc : CallPc P} (h : pc.Prompt sh)
    (hclosed : sh.Closed → sh'.Closed) : pc.Prompt sh' := by
  cases pc with
  | registerLock kind task => cases kind <;> first | exact hclosed h | trivial
  | registerUnlock kind task r => cases kind <;> first | exact hclosed h | trivial
  | enqueue kind task q => cases kind <;> first | exact hclosed h | trivial
  | _ => trivial

/-- In a closed queue every call is prompt. -/
theorem CallPc.prompt_of_closed {sh : Scheduler W C P} (hclosed : sh.Closed) (pc : CallPc P) :
    pc.Prompt sh := by
  cases pc with
  | registerLock kind task => cases kind <;> first | exact hclosed | trivial
  | registerUnlock kind task r => cases kind <;> first | exact hclosed | trivial
  | enqueue kind task q => cases kind <;> first | exact hclosed | trivial
  | _ => trivial

/-- A prompt call does not wait in the queue. -/
theorem CallPc.Prompt.never_waits {sh : Scheduler W C P} {pc : CallPc P} (h : pc.Prompt sh)
    (hoperation : pc.queue.operation = pc.operation) :
    sh.Closed ∨ ∀ w : Waiter P, pc.queue.operation ≠ some w.operation := by
  rw [hoperation]
  cases pc with
  | enqueue kind task q =>
    cases kind with
    | submit => exact .inl h
    | trySubmit => exact .inr fun w => by cases w <;> nofun
  | captureQueue temporary q => exact .inr fun w => by cases w <;> nofun
  | _ => exact .inr fun w => nofun

/-- A bound on the steps of a call that does not wait in the queue. -/
def CallPc.stepsLeft (W : ℕ) : CallPc P → ℕ
  | .idle | .submitted _ | .captured _ => 0
  | .registerLock _ _ => 9
  | .registerUnlock _ _ _ => 8
  | .enqueue _ _ q => 2 + q.stepsLeft
  | .deregisterLock _ _ => 2
  | .deregisterUnlock _ _ => 1
  | .captureLifecycleLock => 6 * W + 15
  | .captureLifecycleUnlock _ _ => 6 * W + 14
  | .captureWorkerLock _ => 6 * W + 13
  | .captureLoad _ index field => 6 * (W - index) + field.left + 5
  | .captureWorkerUnlock _ => 5
  | .captureQueue _ q => q.stepsLeft

theorem CallPc.stepsLeft_wake (pc : CallPc P) : pc.wake.stepsLeft W = pc.stepsLeft W := by
  cases pc with
  | enqueue kind task q => exact congrArg (2 + ·) q.stepsLeft_wake
  | captureQueue temporary q => exact q.stepsLeft_wake
  | _ => rfl

/-- **A call that does not wait in the queue comes closer to its return.** -/
theorem CallStepSpec.nears [DecidableEq C] {cfg : SchedulerConfig W} {t : Thread W C}
    {choice : SchedulerChoice W C P} {sh : Scheduler W C P} {f : ClosableFifo P} {pc : CallPc P}
    {out : SchedulerStep W C P (CallPc P)} (h : CallStepSpec cfg t choice sh pc out)
    (habs : Abstracts sh.queue f) (hoperation : pc.queue.operation = pc.operation)
    (hawake : pc.queue.asleepOn = none) (hinside : pc.inside = true) (hprompt : pc.Prompt sh) :
    out.2.1.Prompt sh ∧ out.2.1.stepsLeft W < pc.stepsLeft W := by
  have hwaits := hprompt.never_waits hoperation
  cases h with
  | submit kind task => cases hinside
  | submitNull => cases hinside
  | capture => cases hinside
  | submitted r => cases hinside
  | captured snapshot => cases hinside
  | register kind task hfree =>
    refine ⟨?_, Nat.lt_succ_self _⟩
    cases kind <;> exact hprompt
  | registered kind task hheld =>
    refine ⟨?_, Nat.lt_of_sub_pos (Nat.succ_pos 2)⟩
    cases kind <;> exact hprompt
  | rejected kind task r hr hheld => exact ⟨trivial, Nat.succ_pos _⟩
  | @enqueue kind task q out hq =>
    -- the queue's own steps come nearer to their end
    have hidle : q ≠ .idle := by
      rintro rfl
      cases hoperation
    refine ⟨?_, hq.nears habs hidle hawake hwaits (CallPc.stepsLeft W) 2 (fun _ => rfl)
      fun r => Nat.le_refl 2⟩
    cases hq with
    | run hact hleave => cases kind <;> exact hprompt
    | leave op r => trivial
  | deregister task r hfree => exact ⟨trivial, Nat.lt_succ_self _⟩
  | deregistered task r hheld => exact ⟨trivial, Nat.lt_succ_self _⟩
  | captureLifecycle hfree => exact ⟨trivial, Nat.lt_succ_self _⟩
  | captureNoWorkers temporary hheld =>
    refine ⟨trivial, ?_⟩
    show 3 < 6 * W + 14
    omega
  | captureLifecycleDone temporary hheld => exact ⟨trivial, Nat.lt_succ_self _⟩
  | captureWorker temporary hfree hinit hstarted =>
    refine ⟨trivial, ?_⟩
    show 6 * (W - 0) + 6 + 5 < 6 * W + 13
    omega
  | captureNoSlots temporary hfree hinit hstarted =>
    refine ⟨trivial, ?_⟩
    show 5 < 6 * W + 13
    omega
  -- six loads a slot, for at most `W` slots
  | captureLoad temporary index field next contexts hcontexts hnext =>
    have hlt := SlotField.left_next hnext
    refine ⟨trivial, ?_⟩
    show 6 * (W - index) + next.left + 5 < 6 * (W - index) + field.left + 5
    omega
  | captureNextSlot temporary index contexts hcontexts hindex =>
    have hlt := index.isLt
    refine ⟨trivial, ?_⟩
    show 6 * (W - (index + 1)) + 6 + 5 < 6 * (W - index) + 1 + 5
    omega
  | captureLastSlot temporary index contexts hcontexts hindex =>
    refine ⟨trivial, ?_⟩
    show 5 < 6 * (W - index) + 1 + 5
    omega
  | captureWorkerDone temporary hheld =>
    refine ⟨trivial, ?_⟩
    show 3 < 5
    omega
  | @captureQueue temporary q out hq =>
    have hidle : q ≠ .idle := by
      rintro rfl
      cases hoperation
    refine ⟨?_, hq.nears habs hidle hawake hwaits (CallPc.stepsLeft W) 0
      (fun _ => (Nat.zero_add _).symm) fun r => Nat.le_refl 0⟩
    cases hq <;> trivial

/-- Who is inside a submission or a capture is inside the scheduler, and not in a join. -/
theorem SchedulerPc.of_toCall_inside {pc : SchedulerPc W P} (h : pc.toCall.inside = true) :
    pc.inside = true ∧ pc.atJoin = false ∧ pc.queue = pc.toCall.queue ∧
      pc.asleepOn = pc.toCall.queue.asleepOn.map .queue := by
  cases pc with
  | call pc => exact ⟨h, rfl, rfl, rfl⟩
  | worker i pc =>
    cases pc with
    | callback task runningAccounted call => exact ⟨h, rfl, rfl, rfl⟩
    | _ => cases h
  | controller pc => cases h

/-- An operation that never waits is never asleep. -/
theorem QueuePc.awake_of_never_waits {q : QueuePc P}
    (h : ∀ w : Waiter P, q.operation ≠ some w.operation) : q.asleepOn = none := by
  cases q with
  | asleep w => exact absurd rfl (h w)
  | _ => rfl

section Calls

variable [DecidableEq C] [Fintype C] {cfg : SchedulerConfig W} {s s' : SchedulerPool W C P}
  {t u : Thread W C} {choice : SchedulerChoice W C P}

/-- A closed queue is not opened again. -/
theorem SchedulerReachable.closed_stays (h : SchedulerReachable cfg s)
    (hstep : (schedulerProgram cfg).step t choice s = some s') (hclosed : s.shared.Closed) :
    s'.shared.Closed :=
  (h.queue_sealed hstep hclosed).1

/-- So a prompt call is not asleep. -/
theorem SchedulerReachable.prompt_awake (h : SchedulerReachable cfg s)
    (hinside : (s.pc u).toCall.inside = true) (hprompt : (s.pc u).toCall.Prompt s.shared) :
    (s.pc u).toCall.queue.asleepOn = none := by
  rcases hprompt.never_waits (SchedulerPc.toCall_operation (h.accounts.operation u)) with
    hclosed | hnever
  · rw [← (SchedulerPc.of_toCall_inside hinside).2.2.1]
    exact h.closed_awake hclosed u
  · exact QueuePc.awake_of_never_waits hnever

/-- A step of the thread itself. -/
theorem SchedulerReachable.call_nears (h : SchedulerReachable cfg s)
    (hinside : (s.pc u).toCall.inside = true) (hprompt : (s.pc u).toCall.Prompt s.shared)
    (hstep : (schedulerProgram cfg).step u choice s = some s') :
    (s'.pc u).toCall.Prompt s'.shared ∧
      (s'.pc u).toCall.stepsLeft W < (s.pc u).toCall.stepsLeft W := by
  obtain ⟨f, habs, -⟩ := h.threads.abstracts
  refine h.call_step u (A := fun pc => pc = (s.pc u).toCall)
    (B := fun pc => pc.Prompt s'.shared ∧ pc.stepsLeft W < (s.pc u).toCall.stepsLeft W)
    (fun pc => ?_) hstep (fun hidle => ?_) (fun hne => absurd rfl hne) (fun out _ hspec _ => ?_) rfl
  · rw [CallPc.prompt_wake, CallPc.stepsLeft_wake]
  · rw [← hidle] at hinside
    cases hinside
  · obtain ⟨hprompt', hlt⟩ := hspec.nears habs
      (SchedulerPc.toCall_operation (h.accounts.operation u)) (h.prompt_awake hinside hprompt)
      hinside hprompt
    exact ⟨hprompt'.closed (h.closed_stays hstep), hlt⟩

variable {e : Execution (schedulerProgram (C := C) (P := P) cfg)}

/-- **A call that does not wait in the queue returns**, in every fair execution. -/
theorem prompt_call_returns (hfair : e.Fair Runnable) (h : SchedulerReachable cfg (e.state 0))
    {n : ℕ} (hprompt : ((e.state n).pc u).toCall.Prompt (e.state n).shared) :
    ∃ m, n ≤ m ∧ ((e.state m).pc u).toCall.inside = false := by
  cases hinside : ((e.state n).pc u).toCall.inside with
  | false => exact ⟨n, Nat.le_refl n, hinside⟩
  | true =>
    refine hfair.reaches
      (fun s => SchedulerReachable cfg s ∧ (s.pc u).toCall.inside = true ∧
        (s.pc u).toCall.Prompt s.shared)
      (fun s => (s.pc u).toCall.inside = false) (fun s => (s.pc u).toCall.stepsLeft W) (t := u)
      ?_ ?_ ?_ ⟨h.execution n, hinside, hprompt⟩
    · rintro v i s s' hv ⟨hs, hinside, hprompt⟩ hstep
      obtain ⟨hin, -, -, hasleep⟩ := SchedulerPc.of_toCall_inside hinside
      rw [hs.prompt_awake hinside hprompt] at hasleep
      have hsame := Program.step_stays hasleep (SchedulerPc.started_of_inside hin) hv hstep
      rw [hsame]
      exact .inr ⟨⟨hs.tail (.single ⟨v, i, hstep⟩), hinside,
        hprompt.closed (hs.closed_stays hstep)⟩, Nat.le_refl _⟩
    · rintro i s s' ⟨hs, hinside, hprompt⟩ hstep
      obtain ⟨hprompt', hlt⟩ := hs.call_nears hinside hprompt hstep
      cases hinside' : (s'.pc u).toCall.inside with
      | false => exact .inl rfl
      | true => exact .inr ⟨⟨hs.tail (.single ⟨u, i, hstep⟩), rfl, hprompt'⟩, hlt⟩
    · intro k hregion hstill
      obtain ⟨hs, hinside, hprompt⟩ := hregion k (Nat.le_refl k)
      obtain ⟨hin, hjoin, -, hasleep⟩ := SchedulerPc.of_toCall_inside hinside
      rw [hs.prompt_awake hinside hprompt] at hasleep
      exact unblocked_again hfair h hin hasleep hjoin hstill

end Calls

/-! ## Active submitters -/

/-- The state has left `RUNNING` for good: nobody is admitted any more. -/
def Scheduler.Barred (sh : Scheduler W C P) : Prop :=
  sh.lifecycle.state = .shuttingDown ∨ sh.lifecycle.state = .stopped ∨ sh.lifecycle.state = .failed

/-- Nobody is let in by a barred scheduler. -/
theorem Scheduler.Barred.not_running {sh : Scheduler W C P} (h : sh.Barred) :
    sh.lifecycle.state ≠ .running := by
  rcases h with hstate | hstate | hstate <;> rw [hstate] <;> nofun

/-- Who was not let in is not counted as an active submitter. -/
theorem CallPc.registered_eq_zero {pc : CallPc P} (h : pc.admitted = false) :
    pc.registered = 0 := by
  cases pc with
  | registerUnlock kind task r => cases r <;> first | rfl | cases h
  | enqueue kind task q => cases h
  | deregisterLock task r => cases h
  | _ => rfl

/-- Who has been admitted is inside its submission. -/
theorem CallPc.inside_of_admitted {pc : CallPc P} (h : pc.admitted = true) : pc.inside = true := by
  cases pc <;> first | rfl | cases h

/-- The states after `RUNNING` do not lead back to it. -/
theorem ControllerStepSpec.barred [DecidableEq C] {cfg : SchedulerConfig W}
    {choice : SchedulerChoice W C P} {sh : Scheduler W C P} {pc : ControllerPc P}
    {out : SchedulerStep W C P (ControllerPc P)} (h : ControllerStepSpec cfg choice sh pc out)
    (hphase : (pc.phase W).Ok sh) (hbarred : sh.Barred) : out.1.Barred := by
  have hnot : ∀ state, state ≠ .shuttingDown → state ≠ .stopped → state ≠ .failed →
      sh.lifecycle.state ≠ state := by
    rintro state h₁ h₂ h₃ rfl
    exact hbarred.elim h₁ fun h => h.elim h₂ h₃
  cases h with
  | start hfree hstate => exact absurd hstate (hnot _ nofun nofun nofun)
  | allocationFailed sh' hsh hfail =>
    subst hsh
    exact hbarred
  | allocated sh' hsh hthreads hcontexts hsize =>
    subst hsh
    exact hbarred
  | run hfree => exact absurd hphase.1 (hnot _ nofun nofun nofun)
  | abortQueue hq => cases hq <;> exact hbarred
  | setState state call r hfree =>
    cases state with
    | stopped => exact .inr (.inl rfl)
    | shuttingDown => exact .inl rfl
    | failed => exact .inr (.inr rfl)
    | initialized =>
      cases call with
      | start => exact absurd hphase.1 (hnot _ nofun nofun nofun)
      | _ => exact absurd hphase id
    | _ => exact absurd hphase id
  | shutdownRunning hfree hstate => exact .inl rfl
  | shutdownQueue hq => cases hq <;> exact hbarred
  | _ => exact hbarred

section Submitters

variable [DecidableEq C] [Fintype C] {cfg : SchedulerConfig W} {s s' : SchedulerPool W C P}
  {t u : Thread W C} {choice : SchedulerChoice W C P}

/-- So a scheduler that is barred stays barred. -/
theorem SchedulerReachable.barred_stays (h : SchedulerReachable cfg s)
    (hstep : (schedulerProgram cfg).step t choice s = some s') (hbarred : s.shared.Barred) :
    s'.shared.Barred := by
  rcases h.step_cases hstep with ⟨-, hframe⟩ | ⟨-, pc, pc', fx, hpc, hspec, -⟩
  · unfold Scheduler.Barred
    rw [hframe.state]
    exact hbarred
  · exact hspec.barred (h.lifecycle.phase hpc) hbarred

/-- Nobody is admitted behind the gate. -/
theorem SchedulerReachable.unadmitted_stays (h : SchedulerReachable cfg s)
    (hstep : (schedulerProgram cfg).step t choice s = some s') (hbarred : s.shared.Barred)
    (hadmitted : (s.pc u).admitted = false) : (s'.pc u).admitted = false := by
  obtain ⟨pc, fx, hspec, hfx⟩ := h.threads.step_spec hstep
  have hblind : (schedulerProgram (C := C) (P := P) cfg).Blind (SchedulerPc.admitted (W := W)) :=
    schedulerProgram_blind SchedulerPc.admitted_wake fun _ => rfl
  obtain ⟨hself, hothers⟩ := Program.step_blind hblind hfx
  by_cases hu : u = t
  · subst hu
    rw [hself]
    cases hafter : pc.admitted with
    | false => rfl
    | true =>
      rcases hspec.admits hafter with hbefore | hstate
      · rw [hadmitted] at hbefore
        cases hbefore
      · exact absurd hstate hbarred.not_running
  · rw [hothers u hu]
    exact hadmitted

/-- When nobody is inside, no submitter is active. -/
theorem SchedulerReachable.quiet_of_unadmitted (h : SchedulerReachable cfg s)
    (hadmitted : ∀ u, (s.pc u).admitted = false) : s.shared.Quiet := by
  unfold Scheduler.Quiet
  rw [h.accounts.registered]
  exact Finset.sum_eq_zero fun u _ => CallPc.registered_eq_zero (hadmitted u)

variable {e : Execution (schedulerProgram (C := C) (P := P) cfg)}

/-- From one state of an execution to every later one. -/
theorem SchedulerReachable.barred_lasts (h : SchedulerReachable cfg (e.state 0)) {n m : ℕ}
    (hnm : n ≤ m) (hbarred : (e.state n).shared.Barred) : (e.state m).shared.Barred :=
  h.lasts (I := fun s => s.shared.Barred) SchedulerReachable.barred_stays hnm hbarred

/-- **The last active submitter leaves**, once the gate and the queue are closed, and nobody is
admitted after it. -/
theorem submitters_leave (hfair : e.Fair Runnable) (h : SchedulerReachable cfg (e.state 0)) {n : ℕ}
    (hbarred : (e.state n).shared.Barred) (hclosed : (e.state n).shared.Closed) :
    ∃ m, n ≤ m ∧ ∀ k, m ≤ k → ∀ u, ((e.state k).pc u).admitted = false := by
  have hkept : ∀ u {k m}, n ≤ k → k ≤ m → ((e.state k).pc u).admitted = false →
      ((e.state m).pc u).admitted = false := fun u k m hk hm hadmitted =>
    (h.lasts (I := fun s => s.shared.Barred ∧ (s.pc u).admitted = false)
      (fun hs hstep hkept =>
        ⟨hs.barred_stays hstep hkept.1, hs.unadmitted_stays hstep hkept.1 hkept.2⟩)
      hm ⟨h.barred_lasts hk hbarred, hadmitted⟩).2
  obtain ⟨m, hm, hall⟩ :=
    e.reaches_all (Q := fun u s => (s.pc u).admitted = false) hkept fun u => by
    obtain ⟨m, hm, hreturned⟩ := prompt_call_returns hfair h (u := u) (n := n)
      (CallPc.prompt_of_closed hclosed _)
    refine ⟨m, hm, Bool.eq_false_iff.mpr fun hadmitted => ?_⟩
    rw [CallPc.inside_of_admitted hadmitted] at hreturned
    cases hreturned
  exact ⟨m, hm, fun k hk u => hkept u hm hk (hall u)⟩

end Submitters

/-! ## Workers -/

/-- In a callback, whatever the callback does. -/
def WorkerPc.calling : WorkerPc P → Bool
  | .callback _ _ _ => true
  | _ => false

def SchedulerPc.calling : SchedulerPc W P → Bool
  | .worker _ pc => pc.calling
  | _ => false

theorem SchedulerPc.calling_wake (pc : SchedulerPc W P) : pc.wake.calling = pc.calling := by
  cases pc with
  | worker i pc => cases pc <;> rfl
  | _ => rfl

/-- A bound on the steps of a worker of a closed queue up to its end or to the return of its
callback. -/
def WorkerPc.stepsLeft : WorkerPc P → ℕ
  | .finished _ => 0
  | .exitUnlock _ => 1
  | .exitLock _ | .callback _ _ _ => 2
  | .queueShutdown q _ => 2 + q.stepsLeft
  | .invoke _ _ => 3
  | .accountRunning _ => 4
  | .accountStarted _ => 5
  | .accountDequeued _ => 6
  | .dequeue q => 6 + q.stepsLeft
  | .registerUnlock | .accountRunningDone => 11
  | .notCreated | .entry | .accountResult _ _ => 12

def SchedulerPc.workerStepsLeft : SchedulerPc W P → ℕ
  | .worker _ pc => pc.stepsLeft
  | _ => 0

theorem SchedulerPc.workerStepsLeft_wake (pc : SchedulerPc W P) :
    pc.wake.workerStepsLeft = pc.workerStepsLeft := by
  cases pc with
  | worker i pc =>
    cases pc with
    | dequeue q => exact congrArg (6 + ·) q.stepsLeft_wake
    | queueShutdown q r => exact congrArg (2 + ·) q.stepsLeft_wake
    | _ => rfl
  | _ => rfl

/-- The Tasks inserted in the queue whose callbacks have not returned. -/
def Scheduler.backlog (sh : Scheduler W C P) : ℕ :=
  sh.queue.inserted.length - sh.history.completed.length

section Steps

variable [DecidableEq C] {cfg : SchedulerConfig W} {t : Thread W C}
  {choice : SchedulerChoice W C P} {sh : Scheduler W C P} {f : ClosableFifo P}

/-- No call completes a Task. -/
theorem CallStepSpec.completed {pc : CallPc P} {out : SchedulerStep W C P (CallPc P)}
    (h : CallStepSpec cfg t choice sh pc out) :
    out.1.history.completed = sh.history.completed := by
  cases h with
  | enqueue kind task hq => rw [hq.frame]
  | captureQueue temporary hq => rw [hq.frame]
  | _ => rfl

/-- A worker outside its callback completes nothing and comes closer to its end. -/
theorem WorkerStepSpec.nears {i : Fin W} {pc : WorkerPc P} {out : SchedulerStep W C P (WorkerPc P)}
    (h : WorkerStepSpec cfg t choice sh i pc out) (habs : Abstracts sh.queue f)
    (hoperation : (SchedulerPc.worker i pc).queue.operation = (SchedulerPc.worker i pc).operation)
    (hclosed : sh.Closed) (hawake : pc.queue.asleepOn = none) (hcalling : pc.calling = false) :
    out.1.history.completed = sh.history.completed ∧ out.2.1.stepsLeft < pc.stepsLeft := by
  cases h with
  | @dequeue q out hq =>
    have hidle : q ≠ .idle := by
      rintro rfl
      cases hoperation
    refine ⟨by rw [hq.frame], hq.nears habs hidle hawake (.inl hclosed) WorkerPc.stepsLeft 6
      (fun _ => rfl) fun r => ?_⟩
    rcases afterDequeue_cases r with hpc | hpc | ⟨task, -, hpc⟩ <;> rw [hpc] <;>
      simp [WorkerPc.stepsLeft, QueuePc.stepsLeft]
  | @queueShutdown r q out hq =>
    have hidle : q ≠ .idle := by
      rintro rfl
      cases hoperation
    exact ⟨by rw [hq.frame], hq.nears habs hidle hawake (.inl hclosed) WorkerPc.stepsLeft 2
      (fun _ => rfl) fun r => Nat.le_refl 2⟩
  | callbackReturns task runningAccounted succeeded => cases hcalling
  | call task runningAccounted hcall => cases hcalling
  | _ => exact ⟨rfl, by simp [WorkerPc.stepsLeft, QueuePc.stepsLeft]⟩

/-- A callback goes on or its Task is completed. -/
theorem WorkerStepSpec.called {i : Fin W} {pc : WorkerPc P} {out : SchedulerStep W C P (WorkerPc P)}
    (h : WorkerStepSpec cfg t choice sh i pc out) (hcalling : pc.calling = true) :
    out.2.1.calling = true ∧ out.1.history.completed = sh.history.completed ∨
      out.2.1.stepsLeft = 12 ∧ out.1.queue = sh.queue ∧
        ∃ task, out.1.history.completed = sh.history.completed ++ [task] := by
  cases h with
  | callbackReturns task runningAccounted succeeded => exact .inr ⟨rfl, rfl, task, rfl⟩
  | call task runningAccounted hcall => exact .inl ⟨rfl, hcall.completed⟩
  | _ => cases hcalling

/-- And the controller completes none. -/
theorem ControllerStepSpec.completed {pc : ControllerPc P}
    {out : SchedulerStep W C P (ControllerPc P)} (h : ControllerStepSpec cfg choice sh pc out) :
    out.1.history.completed = sh.history.completed := by
  cases h with
  | allocationFailed sh' hsh => rw [hsh]; rfl
  | allocated sh' hsh => rw [hsh]; rfl
  | abortQueue hq => rw [hq.frame]
  | shutdownQueue hq => rw [hq.frame]
  | _ => rfl

/-- A completed Task stays completed. -/
theorem SchedulerStepSpec.completed_le {pc : SchedulerPc W P}
    {out : SchedulerStep W C P (SchedulerPc W P)} (h : SchedulerStepSpec cfg choice sh t pc out) :
    sh.history.completed.length ≤ out.1.history.completed.length := by
  cases h with
  | call c h => rw [h.completed]
  | worker i h =>
    cases h with
    | callbackReturns task runningAccounted succeeded =>
      rw [List.length_append]
      exact Nat.le_add_right _ _
    | call task runningAccounted hcall => rw [hcall.completed]
    | dequeue hq => rw [hq.frame]
    | queueShutdown r hq => rw [hq.frame]
    | _ => exact Nat.le_refl _
  | controller h => rw [h.completed]

end Steps

section Workers

variable [DecidableEq C] [Fintype C] {cfg : SchedulerConfig W} {s s' : SchedulerPool W C P}
  {t u : Thread W C} {choice : SchedulerChoice W C P} {i : Fin W}

omit [Fintype C] in
theorem calling_blind :
    (schedulerProgram (C := C) (P := P) cfg).Blind (SchedulerPc.calling (W := W)) :=
  schedulerProgram_blind SchedulerPc.calling_wake fun _ => rfl

omit [Fintype C] in
theorem workerStepsLeft_blind :
    (schedulerProgram (C := C) (P := P) cfg).Blind (SchedulerPc.workerStepsLeft (W := W)) :=
  schedulerProgram_blind SchedulerPc.workerStepsLeft_wake fun _ => rfl

/-- While a callback runs its Task has not been completed. -/
theorem SchedulerReachable.completed_lt (h : SchedulerReachable cfg s)
    (hcalling : (s.pc u).calling = true) :
    s.shared.history.completed.length < s.shared.queue.inserted.length := by
  obtain ⟨f, habs, -⟩ := h.threads.abstracts
  have hexecuting : 0 < (Program.total SchedulerPc.executing s.pc).card := by
    rw [Program.total_eq_add _ _ u, Multiset.card_add]
    generalize s.pc u = pc at hcalling
    cases pc with
    | worker i pc =>
      cases pc with
      | callback task runningAccounted call => exact Nat.lt_add_right _ Nat.one_pos
      | _ => cases hcalling
    | _ => cases hcalling
  have hinvoked := congrArg Multiset.card h.accounts.invoked
  have hremoved := congrArg Multiset.card h.accounts.removed
  have hinserted := congrArg List.length habs.history
  simp only [Multiset.card_add, Multiset.coe_card, List.length_append]
    at hinvoked hremoved hinserted
  omega

/-- A worker that was created stays created. -/
theorem SchedulerReachable.created_stays (h : SchedulerReachable cfg s)
    (hstep : (schedulerProgram cfg).step t choice s = some s')
    (hcreated : (i : ℕ) < s.shared.worker.createdWorkerCount) :
    (i : ℕ) < s'.shared.worker.createdWorkerCount :=
  Nat.lt_of_lt_of_le hcreated (h.grows hstep).staff.1

/-- The backlog of a closed queue does not grow. -/
theorem SchedulerReachable.backlog_le (h : SchedulerReachable cfg s)
    (hstep : (schedulerProgram cfg).step t choice s = some s') (hclosed : s.shared.Closed) :
    s'.shared.backlog ≤ s.shared.backlog := by
  obtain ⟨pc, fx, hspec, -⟩ := h.threads.step_spec hstep
  unfold Scheduler.backlog
  rw [(h.queue_sealed hstep hclosed).2.1]
  exact Nat.sub_le_sub_left hspec.completed_le _

/-- What is left to do before worker `i` of a closed queue has finished. -/
def workLeft (i : Fin W) (s : SchedulerPool W C P) : ℕ :=
  12 * s.shared.backlog + (s.pc (.worker i)).workerStepsLeft

/-- Behind the callback there are two steps to the next dequeue. -/
theorem WorkerPc.stepsLeft_of_calling {pc : WorkerPc P} (h : pc.calling = true) :
    pc.stepsLeft = 2 := by
  cases pc <;> first | rfl | cases h

/-- The steps of the worker itself bring it closer to its end, except for those inside a
callback. -/
theorem SchedulerReachable.works (h : SchedulerReachable cfg s) (hclosed : s.shared.Closed)
    (hstep : (schedulerProgram cfg).step (.worker i) choice s = some s') :
    workLeft i s' < workLeft i s ∨
      workLeft i s' = workLeft i s ∧ (s.pc (.worker i)).calling = true ∧
        (s'.pc (.worker i)).calling = true := by
  obtain ⟨pc', fx, hspec, hfx⟩ := h.threads.step_spec hstep
  obtain ⟨f, habs, -⟩ := h.threads.abstracts
  obtain ⟨pc, hpc⟩ := h.threads.workerPc i
  have hlt := h.completed_lt (u := .worker i)
  have hoperation := h.accounts.operation (.worker i)
  have hawake := h.closed_awake hclosed (.worker i)
  have hinserted := (h.queue_sealed hstep hclosed).2.1
  unfold workLeft Scheduler.backlog
  rw [hinserted, (Program.step_blind workerStepsLeft_blind hfx).1,
    (Program.step_blind calling_blind hfx).1]
  rw [hpc] at hspec hlt hoperation hawake ⊢
  generalize hout : (s'.shared, pc', fx) = out at hspec
  cases hspec with
  | @worker i pc out hworker =>
    obtain ⟨hsh, hrest⟩ := Prod.mk.inj hout
    obtain ⟨rfl, rfl⟩ := Prod.mk.inj hrest
    rw [hsh]
    cases hcalling : pc.calling with
    -- outside the callback every step is one of the last twelve before the next dequeue
    | false =>
      obtain ⟨hcompleted, hless⟩ := hworker.nears habs hoperation hclosed hawake hcalling
      left
      rw [hcompleted]
      exact Nat.add_lt_add_left hless _
    | true =>
      have hbefore : (SchedulerPc.worker i pc : SchedulerPc W P).workerStepsLeft = 2 :=
        WorkerPc.stepsLeft_of_calling hcalling
      rcases hworker.called hcalling with ⟨hcalling', hcompleted⟩ | ⟨hsteps, -, task, hcompleted⟩
      · have hafter : (SchedulerPc.worker i out.2.1 : SchedulerPc W P).workerStepsLeft = 2 :=
          WorkerPc.stepsLeft_of_calling hcalling'
        rw [hcompleted, hbefore, hafter]
        exact .inr ⟨rfl, hcalling, hcalling'⟩
      · have hafter : (SchedulerPc.worker i out.2.1 : SchedulerPc W P).workerStepsLeft = 12 :=
          hsteps
        -- the callback returns, which is one Task less to complete
        have hfewer := hlt hcalling
        left
        rw [hcompleted, hbefore, hafter, List.length_append, List.length_singleton]
        omega

/-- The steps of the other threads do not disturb it. -/
theorem SchedulerReachable.work_kept (h : SchedulerReachable cfg s) (hclosed : s.shared.Closed)
    (ht : t ≠ .worker i) (hstep : (schedulerProgram cfg).step t choice s = some s') :
    workLeft i s' ≤ workLeft i s ∧
      (s'.pc (.worker i)).calling = (s.pc (.worker i)).calling := by
  obtain ⟨pc', fx, -, hfx⟩ := h.threads.step_spec hstep
  refine ⟨?_, (Program.step_blind calling_blind hfx).2 _ (Ne.symm ht)⟩
  unfold workLeft
  rw [(Program.step_blind workerStepsLeft_blind hfx).2 _ (Ne.symm ht)]
  exact Nat.add_le_add_right (Nat.mul_le_mul_left 12 (h.backlog_le hstep hclosed)) _

variable {e : Execution (schedulerProgram (C := C) (P := P) cfg)}

/-- Every callback returns. -/
def CallbacksReturn (e : Execution (schedulerProgram (C := C) (P := P) cfg)) : Prop :=
  ∀ u n, ((e.state n).pc u).calling = true → ∃ m, n ≤ m ∧ ((e.state m).pc u).calling = false

/-- A created worker that neither runs a callback nor has finished is inside, and awake if the
queue is closed. -/
theorem SchedulerReachable.worker_inside (h : SchedulerReachable cfg s) (hclosed : s.shared.Closed)
    (hcreated : (i : ℕ) < s.shared.worker.createdWorkerCount)
    (hcalling : (s.pc (.worker i)).calling = false)
    (hrunning : (s.pc (.worker i)).isFinished = false) :
    (s.pc (.worker i)).inside = true ∧ (s.pc (.worker i)).asleepOn = none ∧
      (s.pc (.worker i)).atJoin = false := by
  have hawake := h.closed_awake hclosed (.worker i)
  obtain ⟨pc, hpc⟩ := h.threads.workerPc i
  have hnew := (h.lifecycle.worker hpc).created
  rw [hpc] at hcalling hrunning hawake ⊢
  refine ⟨?_, congrArg (Option.map SchedulerCondition.queue) hawake, rfl⟩
  cases pc with
  | notCreated => exact absurd (hnew.mp rfl) (Nat.not_le.mpr hcreated)
  | finished r => cases hrunning
  | callback task runningAccounted call => cases hcalling
  | _ => rfl

/-- **The workers of a closed queue finish**, in every fair execution whose callbacks return. -/
theorem worker_finishes (hfair : e.Fair Runnable) (hreturn : CallbacksReturn e)
    (h : SchedulerReachable cfg (e.state 0)) {n : ℕ} (hclosed : (e.state n).shared.Closed)
    (hcreated : (i : ℕ) < (e.state n).shared.worker.createdWorkerCount) :
    ∃ m, n ≤ m ∧ ((e.state m).pc (.worker i)).isFinished = true := by
  refine e.descends
    (fun s => SchedulerReachable cfg s ∧ s.shared.Closed ∧
      (i : ℕ) < s.shared.worker.createdWorkerCount)
    (fun s => (s.pc (.worker i)).isFinished = true) (workLeft i) ?_ ?_
    ⟨h.execution n, hclosed, hcreated⟩
  · rintro t choice s s' ⟨hs, hclosed, hcreated⟩ hstep
    refine .inr ⟨⟨hs.tail (.single ⟨t, choice, hstep⟩), hs.closed_stays hstep hclosed,
      hs.created_stays hstep hcreated⟩, ?_⟩
    by_cases ht : t = .worker i
    · subst ht
      exact (hs.works hclosed hstep).elim Nat.le_of_lt fun hsame => hsame.1.le
    · exact (hs.work_kept hclosed ht hstep).1
  · intro n hstands
    by_contra hnever
    -- no callback runs any more: it would not return
    have hcalling : ∀ m, n ≤ m → ((e.state m).pc (.worker i)).calling = false := by
      intro m hm
      by_contra hcalls
      have hcalls : ∀ k, m ≤ k → ((e.state k).pc (.worker i)).calling = true := by
        intro k hk
        induction k, hk using Nat.le_induction with
        | base => exact Bool.eq_true_of_not_eq_false hcalls
        | succ k hk ih =>
          obtain ⟨⟨hs, hclosed, -⟩, hrank⟩ := hstands k (hm.trans hk)
          rcases e.next_cases k with ⟨t, choice, -, hstep⟩ | hsame
          · by_cases ht : t = .worker i
            · subst ht
              rcases hs.works hclosed hstep with hlt | ⟨-, -, hcalls'⟩
              · rw [hrank, (hstands (k + 1) (Nat.le_succ_of_le (hm.trans hk))).2] at hlt
                exact absurd hlt (Nat.lt_irrefl _)
              · exact hcalls'
            · rw [(hs.work_kept hclosed ht hstep).2]
              exact ih
          · rw [hsame]
            exact ih
      obtain ⟨k, hk, hreturned⟩ := hreturn _ m (hcalls m (Nat.le_refl m))
      rw [hcalls k hk] at hreturned
      cases hreturned
    -- so sooner or later the worker acts
    obtain ⟨m, hm, hacts⟩ := hfair.acts (t := .worker i) (n := n) fun hstill k hk => by
      obtain ⟨⟨hs, hclosed, hcreated⟩, -⟩ := hstands k hk
      obtain ⟨hinside, hawake, hjoin⟩ := hs.worker_inside hclosed hcreated (hcalling k hk)
        (Bool.eq_false_iff.mpr fun hfinished => hnever ⟨k, hk, hfinished⟩)
      exact unblocked_again hfair h hinside hawake hjoin fun k' hk' => hstill k' (hk.trans hk')
    obtain ⟨choice, hstep⟩ := hacts.step
    obtain ⟨⟨hs, hclosed, -⟩, hrank⟩ := hstands m hm
    rcases hs.works hclosed hstep with hlt | ⟨-, hcalls, -⟩
    · rw [hrank, (hstands (m + 1) (Nat.le_succ_of_le hm)).2] at hlt
      exact absurd hlt (Nat.lt_irrefl _)
    · rw [hcalling m hm] at hcalls
      cases hcalls

end Workers

end SchedulingEngine
