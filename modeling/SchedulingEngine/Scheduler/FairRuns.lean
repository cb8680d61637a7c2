import SchedulingEngine.Concurrency.Locks
import SchedulingEngine.Scheduler.Progress

/-!
# Fair runs of the scheduler

In a fair execution a thread that is again and again not blocked goes on. There:

- every mutex is free again and again, since the critical sections are finite
  (`mutex_free_again`);
- so a thread that neither sleeps nor joins does not stand still (`unblocked_again`);
- and who holds a mutex gives it back after finitely many steps (`SchedulerStepSpec.leaves`).
-/

namespace SchedulingEngine

open Concurrency

variable {W : ℕ} {C P : Type}

/-- Inside the scheduler and not blocked. -/
def Runnable (s : SchedulerPool W C P) (u : Thread W C) : Prop :=
  (s.pc u).inside = true ∧ ¬Blocked s u

/-! ## Critical sections -/

/-- The atomic loads of a slot, from `field` on. -/
def SlotField.left : SlotField → ℕ
  | .dequeued => 6
  | .callbackStarted => 5
  | .callbackSucceeded => 4
  | .callbackFailed => 3
  | .currentlyRunning => 2
  | .accountingOverflow => 1

/-- A bound on the loads before `worker_mutex` is given back. -/
def CallPc.loadsLeft (W : ℕ) : CallPc P → ℕ
  | .captureLoad _ index field => 6 * (W - index) + field.left
  | _ => 0

def SchedulerPc.loadsLeft (pc : SchedulerPc W P) : ℕ := pc.toCall.loadsLeft W

theorem SchedulerPc.loadsLeft_wake (pc : SchedulerPc W P) : pc.wake.loadsLeft = pc.loadsLeft := by
  unfold SchedulerPc.loadsLeft
  rw [SchedulerPc.toCall_wake]
  cases pc.toCall <;> rfl

/-- The next field of a slot is nearer to its end. -/
theorem SlotField.left_next {field next : SlotField} (h : field.next = some next) :
    next.left < field.left := by
  cases field <;> cases h <;> decide

section Sections

variable [DecidableEq C] {cfg : SchedulerConfig W} {t : Thread W C}
  {choice : SchedulerChoice W C P} {sh : Scheduler W C P} {m : SchedulerMutex} {f : ClosableFifo P}

/-- Who is about to give the queue's mutex back does so in one step. -/
theorem QueueStepSpec.releases {T : Type} {cfg : QueueConfig} {t : T} {choice : QueueChoice T P}
    {q : ConcurrentTaskQueue T P} {pc : QueuePc P} {out : QueueSection T P}
    (h : QueueStepSpec cfg t choice q f pc out) (hreleases : pc.releases = true) :
    out.2.1.releases = false := by
  cases h with
  | enter hmutex henter hspec => cases henter <;> cases hreleases
  | sleep w hmutex => rfl
  | unlock op r hmutex => rfl
  | _ => cases hreleases

/-- The mutex that a thread inside a queue call holds. -/
theorem InsideQueueSpec.leaves {π : Type} {inside : QueuePc P → π} {resume : QueueReturn P → π}
    {q : QueuePc P} {out : SchedulerStep W C P π} (holding : π → Option SchedulerMutex)
    (h : InsideQueueSpec cfg t choice sh inside resume q out) (habs : Abstracts sh.queue f)
    (hinside : ∀ q, holding (inside q) = if q.releases then some .queue else none)
    (hholding : holding (inside q) = some m) : holding out.2.1 = none := by
  rw [hinside] at hholding
  cases h with
  | run hact hleave =>
    obtain ⟨hreleases, -⟩ := Option.ite_none_right_eq_some.mp hholding
    rw [hinside, (queueAct_spec habs hact).releases hreleases]
    rfl
  | leave op r => cases hholding

/-- A call gives its mutex back in one step, or is one load of a slot nearer to that. -/
theorem CallStepSpec.leaves {pc : CallPc P} {out : SchedulerStep W C P (CallPc P)}
    (h : CallStepSpec cfg t choice sh pc out) (habs : Abstracts sh.queue f)
    (hholding : pc.holding = some m) :
    out.2.1.holding = none ∨ out.2.1.holding = some m ∧ out.2.1.loadsLeft W < pc.loadsLeft W := by
  cases h with
  | registered kind task hheld => exact .inl rfl
  | enqueue kind task hq => exact .inl (hq.leaves CallPc.holding habs (fun _ => rfl) hholding)
  | captureQueue temporary hq =>
    exact .inl (hq.leaves CallPc.holding habs (fun _ => rfl) hholding)
  | captureLoad temporary index field next contexts hcontexts hnext =>
    exact .inr ⟨hholding, Nat.add_lt_add_left (SlotField.left_next hnext) _⟩
  | captureNextSlot temporary index contexts hcontexts hindex =>
    have hlt := index.isLt
    refine .inr ⟨hholding, ?_⟩
    show 6 * (W - (index + 1)) + 6 < 6 * (W - index) + 1
    omega
  | captureLastSlot temporary index contexts hcontexts hindex =>
    exact .inr ⟨hholding, Nat.succ_pos _⟩
  | _ => first | exact .inl rfl | cases hholding

/-- A worker gives `worker_mutex` back in one step. -/
theorem WorkerStepSpec.leaves {i : Fin W} {pc : WorkerPc P} {out : SchedulerStep W C P (WorkerPc P)}
    (h : WorkerStepSpec cfg t choice sh i pc out) (habs : Abstracts sh.queue f)
    (hholding : pc.holding = some m) :
    out.2.1.holding = none ∨ out.2.1.holding = some m ∧
      (SchedulerPc.worker i out.2.1).loadsLeft < (SchedulerPc.worker i pc).loadsLeft := by
  cases h with
  | dequeue hq => exact .inl (hq.leaves WorkerPc.holding habs (fun _ => rfl) hholding)
  | call task runningAccounted hcall => exact hcall.leaves habs hholding
  | queueShutdown r hq => exact .inl (hq.leaves WorkerPc.holding habs (fun _ => rfl) hholding)
  | _ => first | exact .inl rfl | cases hholding

/-- So does the controller with each of its mutexes. -/
theorem ControllerStepSpec.leaves {pc : ControllerPc P} {out : SchedulerStep W C P (ControllerPc P)}
    (h : ControllerStepSpec cfg choice sh pc out) (habs : Abstracts sh.queue f)
    (hholding : pc.releases = some m) : out.2.1.releases = none := by
  cases h with
  | abortQueue hq => exact hq.leaves ControllerPc.releases habs (fun _ => rfl) hholding
  | foldUnlock caller result hheld =>
    exact afterRelease_elim (M := fun pc => pc.releases = none) fun _ _ _ => rfl
  | shutdownQueue hq => exact hq.leaves ControllerPc.releases habs (fun _ => rfl) hholding
  | _ => first | rfl | cases hholding

/-- **A critical section is finite**: each of its steps leaves it or comes closer to its end. -/
theorem SchedulerStepSpec.leaves {pc : SchedulerPc W P}
    {out : SchedulerStep W C P (SchedulerPc W P)}
    (h : SchedulerStepSpec cfg choice sh t pc out) (habs : Abstracts sh.queue f)
    (hholding : pc.holding = some m) :
    out.2.1.holding = none ∨ out.2.1.holding = some m ∧ out.2.1.loadsLeft < pc.loadsLeft := by
  cases h with
  | call c h => exact h.leaves habs hholding
  | worker i h => exact h.leaves habs hholding
  | controller h => exact .inl (h.leaves habs hholding)

end Sections

/-! ## Threads that stand still -/

section Runs

variable [DecidableEq C] [Fintype C] {cfg : SchedulerConfig W} {s s' : SchedulerPool W C P}
  {t u : Thread W C} {choice : SchedulerChoice W C P} {m : SchedulerMutex}

omit [Fintype C] in
theorem loadsLeft_blind :
    (schedulerProgram (C := C) (P := P) cfg).Blind (SchedulerPc.loadsLeft (W := W)) :=
  schedulerProgram_blind SchedulerPc.loadsLeft_wake fun _ => rfl

/-- Nobody wakes up with a mutex. -/
theorem SchedulerPc.holding_wake (pc : SchedulerPc W P) : pc.wake.holding = pc.holding := by
  have hqueue : ∀ q : QueuePc P, q.wake.releases = q.releases := by
    intro q
    cases q <;> rfl
  have hcall : ∀ call : CallPc P, call.wake.holding = call.holding := by
    intro call
    cases call with
    | enqueue kind task q => simp only [CallPc.wake, CallPc.holding, CallPc.releases, hqueue]
    | captureQueue temporary q => simp only [CallPc.wake, CallPc.holding, CallPc.releases, hqueue]
    | _ => rfl
  cases pc with
  | call pc => exact hcall pc
  | worker i pc =>
    cases pc with
    | dequeue q => simp only [SchedulerPc.wake, WorkerPc.wake, SchedulerPc.holding,
        WorkerPc.holding, WorkerPc.releases, hqueue]
    | queueShutdown q r => simp only [SchedulerPc.wake, WorkerPc.wake, SchedulerPc.holding,
        WorkerPc.holding, WorkerPc.releases, hqueue]
    | callback task runningAccounted call => exact hcall call
    | _ => rfl
  | controller pc =>
    cases pc with
    | abortQueue q => simp only [SchedulerPc.wake, ControllerPc.wake, SchedulerPc.holding,
        ControllerPc.releases, hqueue]
    | shutdownQueue q => simp only [SchedulerPc.wake, ControllerPc.wake, SchedulerPc.holding,
        ControllerPc.releases, hqueue]
    | _ => rfl

omit [Fintype C] in
theorem holding_blind :
    (schedulerProgram (C := C) (P := P) cfg).Blind (SchedulerPc.holding (W := W)) :=
  schedulerProgram_blind SchedulerPc.holding_wake fun _ => rfl

/-- The owner of a mutex gives it back or comes closer to that. -/
theorem SchedulerReachable.owner_acts (h : SchedulerReachable cfg s)
    (howner : s.shared.owner m = some t)
    (hstep : (schedulerProgram cfg).step t choice s = some s') :
    s'.shared.owner m = none ∨
      s'.shared.owner m = some t ∧ (s'.pc t).loadsLeft < (s.pc t).loadsLeft := by
  have h' := h.tail (.single ⟨t, choice, hstep⟩)
  obtain ⟨pc, fx, hspec, hfx⟩ := h.threads.step_spec hstep
  obtain ⟨f, habs, -⟩ := h.threads.abstracts
  obtain ⟨hself, hothers⟩ := Program.step_blind holding_blind hfx
  obtain ⟨hloads, -⟩ := Program.step_blind loadsLeft_blind hfx
  rcases hspec.leaves habs ((h.owner_iff t m).mp howner) with hnone | ⟨hkeeps, hlt⟩
  · -- nobody else can have taken it in this step
    cases howner' : s'.shared.owner m with
    | none => exact .inl rfl
    | some v =>
      have hholding := (h'.owner_iff v m).mp howner'
      by_cases hv : v = t
      · subst hv
        rw [hself, hnone] at hholding
        cases hholding
      · rw [hothers v hv, ← h.owner_iff, howner] at hholding
        exact absurd (Option.some.inj hholding).symm hv
  · refine .inr ⟨(h'.owner_iff t m).mpr (hself.trans hkeeps), ?_⟩
    rw [hloads]
    exact hlt

/-- Nobody else takes it from the owner. -/
theorem SchedulerReachable.owner_stays (h : SchedulerReachable cfg s)
    (howner : s.shared.owner m = some u) (htu : t ≠ u)
    (hstep : (schedulerProgram cfg).step t choice s = some s') :
    s'.shared.owner m = some u ∧ (s'.pc u).loadsLeft = (s.pc u).loadsLeft := by
  have h' := h.tail (.single ⟨t, choice, hstep⟩)
  obtain ⟨pc, fx, hspec, hfx⟩ := h.threads.step_spec hstep
  refine ⟨?_, (Program.step_blind loadsLeft_blind hfx).2 u (Ne.symm htu)⟩
  rw [h'.owner_iff, (Program.step_blind holding_blind hfx).2 u (Ne.symm htu), ← h.owner_iff]
  exact howner

omit [Fintype C] in
/-- A worker inside the scheduler was started. -/
theorem SchedulerPc.started_of_inside {pc : SchedulerPc W P} (h : pc.inside = true) :
    (schedulerProgram (C := C) (P := P) cfg).dormant pc = false := by
  cases pc with
  | worker i pc => cases pc <;> first | rfl | cases h
  | _ => rfl

variable {e : Execution (schedulerProgram (C := C) (P := P) cfg)}

/-- All states of an execution are reachable if the first is. -/
theorem SchedulerReachable.execution (h : SchedulerReachable cfg (e.state 0)) (n : ℕ) :
    SchedulerReachable cfg (e.state n) :=
  h.tail (e.steps (Nat.zero_le n))

/-- What every step from a reachable state keeps, lasts. -/
theorem SchedulerReachable.lasts (h : SchedulerReachable cfg (e.state 0))
    {I : SchedulerPool W C P → Prop}
    (hstep : ∀ {t choice s s'}, SchedulerReachable cfg s →
      (schedulerProgram cfg).step t choice s = some s' → I s → I s')
    {n m : ℕ} (hnm : n ≤ m) (hn : I (e.state n)) : I (e.state m) :=
  (e.stays (I := fun s => SchedulerReachable cfg s ∧ I s)
    (fun {t choice _ _} hs hnext =>
      ⟨hs.1.tail (.single ⟨t, choice, hnext⟩), hstep hs.1 hnext hs.2⟩)
    hnm ⟨h.execution n, hn⟩).2

/-- **Every mutex is free again and again.** -/
theorem mutex_free_again (hfair : e.Fair Runnable) (h : SchedulerReachable cfg (e.state 0))
    (m : SchedulerMutex) (n : ℕ) : ∃ k, n ≤ k ∧ (e.state k).shared.owner m = none := by
  refine hfair.free_again (SchedulerReachable cfg) (fun s => s.shared.owner m) SchedulerPc.loadsLeft
    (fun hs hstep => hs.tail (.single ⟨_, _, hstep⟩))
    (fun hs howner hstep => hs.owner_acts howner hstep)
    (fun hs howner htu hstep => hs.owner_stays howner htu hstep) (fun {s t} hs howner => ?_)
    (h.execution n)
  -- who holds a mutex is not blocked
  have hholding := (hs.owner_iff t m).mp howner
  refine ⟨SchedulerPc.inside_of_holding hholding, fun hblocked => ?_⟩
  rw [hblocked.holding] at hholding
  cases hholding

/-- A thread that does not act from where it stands stays there. -/
theorem pc_stands {n : ℕ} (hinside : ((e.state n).pc u).inside = true)
    (hawake : ((e.state n).pc u).asleepOn = none)
    (hstill : ∀ k, n ≤ k → (e.state k).pc u = (e.state n).pc u → ¬e.Acts u k) {k : ℕ} (hk : n ≤ k) :
    (e.state k).pc u = (e.state n).pc u :=
  Execution.stands hawake (SchedulerPc.started_of_inside hinside) hstill hk

/-- **A thread that neither sleeps nor joins is not blocked for ever.** -/
theorem unblocked_again (hfair : e.Fair Runnable) (h : SchedulerReachable cfg (e.state 0)) {n : ℕ}
    (hinside : ((e.state n).pc u).inside = true) (hawake : ((e.state n).pc u).asleepOn = none)
    (hjoin : ((e.state n).pc u).atJoin = false) (hstill : ∀ k, n ≤ k → ¬e.Acts u k) :
    ∃ k, n ≤ k ∧ Runnable (e.state k) u := by
  -- the only thing it may wait for is the mutex that it is about to take
  obtain ⟨k, hk, hfree⟩ : ∃ k, n ≤ k ∧ ∀ m, ((e.state n).pc u).acquires = some m →
      (e.state k).shared.owner m = none := by
    cases hacquires : ((e.state n).pc u).acquires with
    | none => exact ⟨n, Nat.le_refl n, nofun⟩
    | some m =>
      obtain ⟨k, hk, hfree⟩ := mutex_free_again hfair h m n
      refine ⟨k, hk, fun m' hm' => ?_⟩
      rw [← Option.some.inj hm']
      exact hfree
  have hsame := pc_stands hinside hawake (fun k hk _ => hstill k hk) hk
  refine ⟨k, hk, by rw [hsame]; exact hinside, fun hblocked => ?_⟩
  cases hblocked with
  | asleep c hasleep =>
    rw [hsame, hawake] at hasleep
    cases hasleep
  | mutex m hacquires hheld =>
    rw [hsame] at hacquires
    exact hheld (hfree m hacquires)
  | join i hawaits hrunning =>
    rw [hsame] at hawaits
    generalize (e.state n).pc u = pc at hawaits hjoin
    cases pc with
    | controller pc => cases pc <;> first | exact hawaits.elim | cases hjoin
    | _ => exact hawaits.elim

end Runs

end SchedulingEngine
