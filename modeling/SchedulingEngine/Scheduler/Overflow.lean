import SchedulingEngine.Scheduler.Dispatch
import SchedulingEngine.Scheduler.Rest
import SchedulingEngine.Scheduler.TrueCounts

/-!
# Which counters cannot overflow (scheduler.c)

The flag of the lifecycle domain is raised by the submission that `submitted_count` has no room
for, since every accepted or rejected one was counted as submitted before
(`SchedulerReachable.submitted_full`). And while no Task has left the queue the workers have
counted nothing, so that only failures could overflow their domain
(`SchedulerReachable.worker_exact`).
-/

namespace SchedulingEngine

open Concurrency

variable {W : ℕ} {C P : Type}

/-! ## Submissions -/

section Sections

variable {T : Type} {l : LifecycleDomain T}

end Sections

section Runs

variable [DecidableEq C] [Fintype C] {cfg : SchedulerConfig W} {t u : Thread W C}
  {choice : SchedulerChoice W C P} {s s' : SchedulerPool W C P}

end Runs

/-! ## Workers without a Task -/

theorem SchedulerPc.fed_wake (pc : SchedulerPc W P) : pc.wake.fed = pc.fed := by
  cases pc with
  | worker i pc => cases pc <;> rfl
  | _ => rfl

section Fed

variable [DecidableEq C] {cfg : SchedulerConfig W} {t : Thread W C}
  {choice : SchedulerChoice W C P} {sh : Scheduler W C P} {s s' : SchedulerPool W C P}

/-- A worker is fed by the dequeue that hands it a Task. -/
theorem SchedulerStepSpec.fed {pc : SchedulerPc W P}
    {out : SchedulerStep W C P (SchedulerPc W P)} (h : SchedulerStepSpec cfg choice sh t pc out)
    (hfed : out.2.1.fed = true) : pc.fed = true ∨ Multiset.card out.2.1.held ≠ 0 := by
  cases h with
  | call c h => cases hfed
  | controller h => cases hfed
  | worker i h =>
    cases h with
    | dequeue hq =>
      cases hq with
      | run hact hleave => cases hfed
      | leave op r =>
        rcases afterDequeue_cases r with hpc | hpc | ⟨task, -, hpc⟩
        · exact absurd hfed (by simp [hpc, SchedulerPc.fed, WorkerPc.fed])
        · exact absurd hfed (by simp [hpc, SchedulerPc.fed, WorkerPc.fed])
        · exact .inr (by simp [hpc, SchedulerPc.held, WorkerPc.held])
    | queueShutdown r hq => cases hq <;> cases hfed
    | _ => first | exact .inl rfl | cases hfed

end Fed

section Runs

variable [DecidableEq C] [Fintype C] {cfg : SchedulerConfig W} {t u : Thread W C}
  {choice : SchedulerChoice W C P} {s s' : SchedulerPool W C P}

/-- Before the first Task is removed, nobody has one and nothing is counted. -/
structure Unfed (n : Tally W) (s : SchedulerPool W C P) : Prop where
  fed : ∀ u, (s.pc u).fed = false
  stages : ∀ i k, n.stages i k = 0

theorem unfed_step {n : Tally W} (hreach : SchedulerReachable cfg s) (h : Unfed n s)
    (hstep : (schedulerProgram cfg).step t choice s = some s')
    (hremoved : s'.shared.queue.removed = []) :
    Unfed ((accountEvents s t s').foldl Tally.record n) s' := by
  obtain ⟨pc, fx, hspec, hfx⟩ := hreach.threads.step_spec hstep
  have hfedBlind : (schedulerProgram (C := C) (P := P) cfg).Blind SchedulerPc.fed :=
    schedulerProgram_blind SchedulerPc.fed_wake fun _ => rfl
  have hheldBlind : (schedulerProgram (C := C) (P := P) cfg).Blind SchedulerPc.held :=
    schedulerProgram_blind SchedulerPc.held_wake fun _ => rfl
  obtain ⟨hacting, hothers⟩ := Program.step_blind hfedBlind hfx
  refine ⟨fun u => ?_, fun i k => ?_⟩
  · by_cases hu : u = t
    · subst hu
      rw [hacting]
      refine Bool.eq_false_iff.mpr fun hfed => ?_
      rcases hspec.fed hfed with hbefore | hheld
      · cases (h.fed u).symm.trans hbefore
      · -- what it holds was removed from the queue
        have hlaw := (hreach.tail (.single ⟨_, _, hstep⟩)).accounts.removed
        rw [hremoved] at hlaw
        have hsum := (add_eq_zero.mp hlaw.symm).2
        have hzero := Finset.sum_eq_zero_iff.mp hsum u (Finset.mem_univ u)
        rw [(Program.step_blind hheldBlind hfx).1] at hzero
        exact hheld (Multiset.card_eq_zero.mpr hzero)
    · rw [hothers u hu]
      exact h.fed u
  · rw [Tally.stages_foldl fun e he => accountEvents_unfed (h.fed t) he]
    exact h.stages i k

/-- **While no Task has left the queue, the worker domain is exact**, unless a count of failures
is full. -/
theorem SchedulerReachable.worker_exact (h : SchedulerReachable cfg s)
    (hremoved : s.shared.queue.removed = [])
    (hfailures : ∀ k, FailureCount.counter s.shared.worker k < uint64Max) :
    s.shared.worker.Exact := by
  obtain ⟨hW, queue, hinit, hsteps⟩ := h
  obtain ⟨ls, hrun⟩ := hsteps.exists_run
  obtain ⟨-, hbook⟩ := logbookInv_of_run hinit hW hrun
  have hunfed : Unfed (logbookOf cfg ls (schedulerInitial queue)).now s := by
    unfold logbookOf
    rw [Logbook.now_foldl]
    refine (Program.log_of_steps accountEvents (J := fun noted s => SchedulerReachable cfg s ∧
      (s.shared.queue.removed = [] → Unfed (noted.foldl Tally.record {}) s))
      (fun hJ hstep => ⟨hJ.1.tail (.single ⟨_, _, hstep⟩), fun hremoved' => ?_⟩)
      ⟨⟨hW, queue, hinit, .refl⟩, fun _ => ⟨?_, fun _ _ => rfl⟩⟩ hrun).2 hremoved
    · have hbefore := List.prefix_nil.mp (hremoved' ▸ hJ.1.removed_grows hstep)
      rw [List.foldl_append]
      exact unfed_step hJ.1 (hJ.2 hbefore) hstep hremoved'
    · rintro (_ | i | c) <;> rfl
  generalize logbookOf cfg ls (schedulerInitial queue) = b at hbook hunfed
  have hnone : ∀ i, ¬∃ k, uint64Max < b.now.stages i k := by
    rintro i ⟨k, hk⟩
    rw [hunfed.stages i k] at hk
    exact Nat.not_lt_zero _ hk
  constructor
  · refine Bool.eq_false_iff.mpr fun hflag => ?_
    rcases hbook.kept.overflow.mp hflag with ⟨k, hk⟩ | ⟨-, k, hk⟩
    · have hvalue : FailureCount.counter s.shared.worker k = min uint64Max (b.now.failures k) :=
        hbook.kept.failures k
      have hlt := hfailures k
      omega
    · have hzero : b.now.total k = 0 := Finset.sum_eq_zero fun i _ => hunfed.stages i k
      rw [hzero] at hk
      exact Nat.not_lt_zero _ hk
  · intro contexts hcontexts i
    exact Bool.eq_false_iff.mpr fun hflag =>
      hnone i ((hbook.kept.slots contexts hcontexts i).flag.mp hflag)

end Runs

end SchedulingEngine
