import SchedulingEngine.Scheduler.Releases

/-!
# What a join leaves behind (scheduler.c)

- `ControllerPc.Outstanding`: `all_joined` is cleared only if a handle is left.
- `Scheduler.Fresh`: until a `release_workers` has failed, every started worker has its handle.
- `ControllerPc.Answers`: what `scheduler_join` answers, and under which state.
- `Course`: after a shutdown the crew stays complete until `scheduler_join` folds the slots.
-/

namespace SchedulingEngine

open Concurrency

variable {W : ℕ} {C P : Type}

/-! ## What a call leaves behind -/

/-- Inside `release_workers`, or about to assign the state after it. -/
def ControllerPc.inRelease : ControllerPc P → Bool
  | .releaseJoin _ _ _ _ | .releaseLock _ _ _ _ _ | .releaseUnlock _ _ _ _ _ | .foldLock _ _
  | .foldUnlock _ _ | .setStateLock .failed _ _ | .setStateLock .stopped _ _ => true
  | _ => false

/-- `all_joined` is cleared only where a handle is left behind. -/
def ControllerPc.Outstanding (c : Crew W) : ControllerPc P → Prop
  | .releaseJoin _ index _ allJoined => allJoined = false → ∃ i : Fin W, (i : ℕ) < index ∧ c.Holds i
  | .releaseLock _ index event _ allJoined | .releaseUnlock _ index event _ allJoined =>
    allJoined = false →
      ∃ i : Fin W, ((i : ℕ) < index ∨ event = .nativeFailed ∧ (i : ℕ) = index) ∧ c.Holds i
  | .setStateLock .failed .join _ => ∃ i, c.Holds i
  | _ => True

/-- Until a `release_workers` has failed, no handle is destroyed outside of it. -/
def Scheduler.Fresh (sh : Scheduler W C P) (pc : ControllerPc P) : Prop :=
  sh.lifecycle.state ≠ .failed → pc.inRelease = false →
    ∀ i : Fin W, (i : ℕ) < sh.worker.startedWorkerCount → sh.crew.Holds i

/-- What `scheduler_join` answers, and the state it leaves. -/
def ControllerPc.Answers (waitMayFail : Bool) (state : SchedulerState) : ControllerPc P → Prop
  | .drainUnlock .join false => waitMayFail = true
  | .setStateLock .failed .join r => r = .errorSystem
  | .setStateUnlock .join r => state = .failed ∧ r = .errorSystem ∨ state = .stopped
  | .joinUnlock _ =>
    state = .stopped ∨ state ≠ .stopped ∧ state ≠ .shuttingDown ∧ state ≠ .failed
  | .returned .join r =>
    r = .errorInvalidArgument ∨ waitMayFail = true ∨ (state = .failed ∧ r = .errorSystem) ∨
      state = .stopped ∨ state ≠ .stopped ∧ state ≠ .shuttingDown ∧ state ≠ .failed
  | _ => True

theorem ControllerPc.outstanding_wake (c : Crew W) (pc : ControllerPc P) :
    pc.wake.Outstanding c ↔ pc.Outstanding c := by
  cases pc <;> exact Iff.rfl

theorem ControllerPc.inRelease_wake (pc : ControllerPc P) : pc.wake.inRelease = pc.inRelease := by
  cases pc <;> rfl

theorem ControllerPc.answers_wake (waitMayFail : Bool) (state : SchedulerState)
    (pc : ControllerPc P) : pc.wake.Answers waitMayFail state ↔ pc.Answers waitMayFail state := by
  cases pc <;> exact Iff.rfl

section Left

variable [DecidableEq C] {cfg : SchedulerConfig W} {choice : SchedulerChoice W C P}
  {sh sh' : Scheduler W C P} {pc pc' : ControllerPc P}

omit [DecidableEq C] in
theorem afterRelease_inRelease (sh : Scheduler W C P) (caller : ReleaseCaller)
    (result : SchedulerResult) :
    (afterRelease sh caller result : ControllerPc P).inRelease = true := by
  unfold afterRelease
  cases caller with
  | abort => rfl
  | join =>
    dsimp only
    split <;> rfl

omit [DecidableEq C] in
theorem afterRelease_not_bare (sh : Scheduler W C P) (caller : ReleaseCaller)
    (result : SchedulerResult) :
    (afterRelease sh caller result : ControllerPc P).phase W ≠ .bare := by
  unfold afterRelease
  cases caller with
  | abort => nofun
  | join =>
    dsimp only
    split <;> nofun

theorem ControllerStepSpec.outstanding {out : SchedulerStep W C P (ControllerPc P)}
    (h : ControllerStepSpec cfg choice sh pc out) (hphase : (pc.phase W).Ok sh)
    (hout : pc.Outstanding sh.crew) : out.2.1.Outstanding out.1.crew := by
  cases h with
  | call call pc hcall =>
    exact beginCall_elim (M := ControllerPc.Outstanding sh.crew) hcall trivial trivial trivial
      trivial trivial
  | readyLock hfree hinit => exact readyTest_elim (M := ControllerPc.Outstanding _) trivial trivial
  | readyAgain hfree hinit => exact readyTest_elim (M := ControllerPc.Outstanding _) trivial trivial
  | abortQueue hq =>
    cases hq with
    | run hact hleave => trivial
    | leave op r => exact nofun
  | releaseSkip caller i result allJoined hindex hskip =>
    intro hall
    obtain ⟨j, hj, hholds⟩ := hout hall
    exact ⟨j, Nat.lt_succ_of_lt hj, hholds⟩
  -- a worker whose join fails keeps its handle
  | releaseNativeFailed caller i result allJoined hfail hindex hhandle =>
    exact fun _ => ⟨i, .inr ⟨rfl, rfl⟩, hindex, hhandle⟩
  | releaseInjected caller i result allJoined faultPlan workerResult hfault hindex hhandle =>
    intro hall
    obtain ⟨j, hj, hholds⟩ := hout hall
    exact ⟨j, .inl hj, hholds⟩
  -- and keeps it while the handles of others are destroyed
  | releaseFailedWorker caller i result allJoined faultPlan workerResult hresult hindex hhandle =>
    intro hall
    obtain ⟨j, hj, hholds⟩ := hout hall
    have hne : j ≠ i := by
      rintro rfl
      exact absurd hj (Nat.lt_irrefl _)
    exact ⟨j, Nat.lt_succ_of_lt hj, ((sh.holds_destroyThread rfl).2 j hne).mpr hholds⟩
  | releaseJoined caller i result allJoined faultPlan hindex hhandle =>
    intro hall
    obtain ⟨j, hj, hholds⟩ := hout hall
    exact ⟨j, .inl hj, hholds⟩
  -- so at the end a handle is left, and `join` fails
  | releaseIncomplete caller index result hindex =>
    obtain ⟨j, -, hholds⟩ := hout rfl
    cases caller with
    | abort => trivial
    | join =>
      obtain ⟨-, threads, hthreads, -⟩ := id hholds
      have hsome : sh.worker.threads.isSome = true := by
        rw [show sh.worker.threads = _ from hthreads]
        rfl
      show (if _ then _ else _ : ControllerPc P).Outstanding _
      rw [if_pos hsome]
      exact ⟨j, hholds⟩
  | releaseLock caller index event result allJoined hfree hinit =>
    cases event <;> exact hout
  | releaseUnlockFailed caller i result allJoined hheld =>
    intro hall
    obtain ⟨j, hj, hholds⟩ := hout hall
    refine ⟨j, ?_, hholds⟩
    rcases hj with hj | ⟨-, hj⟩ <;> omega
  | releaseUnlock caller i event result allJoined hevent hheld =>
    intro hall
    obtain ⟨j, hj, hholds⟩ := hout hall
    have hlt : (j : ℕ) < i := hj.resolve_right fun hfailed => hevent hfailed.1
    have hne : j ≠ i := by
      rintro rfl
      exact absurd hlt (Nat.lt_irrefl _)
    exact ⟨j, Nat.lt_succ_of_lt hlt,
      ((sh.unlockWorker.holds_destroyThread rfl).2 j hne).mpr hholds⟩
  | foldUnlock caller result hheld =>
    have hnone : sh.worker.threads = none := hphase.2.1.threads
    unfold afterRelease
    cases caller with
    | abort => trivial
    | join =>
      rw [hnone]
      trivial
  | shutdownQueue hq => cases hq <;> trivial
  | drainLock caller hfree => exact drainTest_elim (M := ControllerPc.Outstanding _) trivial trivial
  | drainAgain caller hfree =>
    exact drainTest_elim (M := ControllerPc.Outstanding _) trivial trivial
  | join hfree hstate => exact drainTest_elim (M := ControllerPc.Outstanding _) trivial trivial
  | joinDrained hheld => exact nofun
  | _ => trivial

theorem ControllerStepSpec.answers {out : SchedulerStep W C P (ControllerPc P)}
    (h : ControllerStepSpec cfg choice sh pc out) (hphase : (pc.phase W).Ok sh)
    (hans : pc.Answers cfg.waitMayFail sh.lifecycle.state) :
    out.2.1.Answers cfg.waitMayFail out.1.lifecycle.state := by
  cases h with
  | call call pc hcall =>
    exact beginCall_elim (M := ControllerPc.Answers _ _) hcall trivial trivial
      trivial trivial trivial
  | callNull call =>
    cases call with
    | join => exact .inl rfl
    | _ => trivial
  | readyLock hfree hinit => exact readyTest_elim (M := ControllerPc.Answers _ _) trivial trivial
  | readyAgain hfree hinit => exact readyTest_elim (M := ControllerPc.Answers _ _) trivial trivial
  | abortQueue hq => cases hq <;> trivial
  -- with a handle left `join` answers an error and sets `FAILED`
  | releaseIncomplete caller index result hindex =>
    cases caller with
    | abort => trivial
    | join =>
      show (if _ then _ else _ : ControllerPc P).Answers _ _
      split <;> first | rfl | trivial
  | foldUnlock caller result hheld =>
    cases caller with
    | abort => trivial
    | join =>
      show (if _ then _ else _ : ControllerPc P).Answers _ _
      split <;> first | rfl | trivial
  | setState state call r hfree =>
    cases call with
    | join =>
      cases state with
      | failed => exact .inl ⟨rfl, hans⟩
      | stopped => exact .inr rfl
      | _ => exact hphase.elim
    | _ => trivial
  | setStateUnlock call r hcall hheld =>
    cases call with
    | join => exact absurd rfl hcall
    | _ => trivial
  | joinAnswered r hheld => exact .inr (.inr (hans.imp id .inl))
  | shutdownQueue hq => cases hq <;> trivial
  | drainLock caller hfree =>
    cases caller <;> exact drainTest_elim (M := ControllerPc.Answers _ _) trivial trivial
  | drainAgain caller hfree =>
    cases caller <;> exact drainTest_elim (M := ControllerPc.Answers _ _) trivial trivial
  | join hfree hstate => exact drainTest_elim (M := ControllerPc.Answers _ _) trivial trivial
  -- the other error of `join` is a wait that fails
  | drainFailed caller hfree hfail =>
    cases caller with
    | join => exact hfail
    | _ => trivial
  | joinFailed hheld => exact .inr (.inl hans)
  | joinStopped hfree hstate => exact .inl hstate
  | joinRefused hfree hstate => exact .inr hstate
  | joinUnlock answer hheld => exact .inr (.inr (.inr hans))
  | _ => trivial

/-- **The handles are all there** until a join has gone through them. -/
theorem ControllerStepSpec.fresh {out : SchedulerStep W C P (ControllerPc P)}
    (h : ControllerStepSpec cfg choice sh pc out) (hphase : (pc.phase W).Ok sh)
    (hfresh : sh.Fresh pc) : out.1.Fresh out.2.1 := by
  have hkeep : ∀ {sh' : Scheduler W C P} {pc' : ControllerPc P}, sh'.crew = sh.crew →
      sh'.lifecycle.state = sh.lifecycle.state → pc.inRelease = false → sh'.Fresh pc' := by
    intro sh' pc' hcrew hstate hrelease hfailed _ i hi
    have hstarted : sh'.worker.startedWorkerCount = sh.worker.startedWorkerCount :=
      congrArg Crew.startedWorkerCount hcrew
    rw [hcrew]
    exact hfresh (hstate ▸ hfailed) hrelease i (hstarted ▸ hi)
  cases h with
  | call call pc hcall =>
    exact beginCall_elim (M := sh.Fresh) hcall (hkeep rfl rfl rfl) (hkeep rfl rfl rfl)
      (hkeep rfl rfl rfl) (hkeep rfl rfl rfl) (hkeep rfl rfl rfl)
  | start hfree hstate =>
    intro _ _ i hi
    have hzero : sh.worker.startedWorkerCount = 0 :=
      (Scheduler.Settled.of_state hphase hstate).1.started
    have hlt : (i : ℕ) < sh.worker.startedWorkerCount := hi
    omega
  | allocationFailed sh' hsh hfail =>
    subst hsh
    intro _ _ i hi
    have hlt : (i : ℕ) < sh.worker.startedWorkerCount := hi
    rw [show sh.worker.startedWorkerCount = 0 from hphase.2.1.started] at hlt
    exact absurd hlt (Nat.not_lt_zero _)
  | allocated sh' hsh hthreads hcontexts hsize =>
    subst hsh
    intro _ _ i hi
    have hlt : (i : ℕ) < sh.worker.startedWorkerCount := hi
    rw [show sh.worker.startedWorkerCount = 0 from hphase.2.1.started] at hlt
    exact absurd hlt (Nat.not_lt_zero _)
  | syncInitFailed mutexInitialized hmutex hfail =>
    intro _ _ i hi
    have hlt : (i : ℕ) < sh.worker.startedWorkerCount := hi
    rw [show sh.worker.startedWorkerCount = 0 from hphase.2.1.started] at hlt
    exact absurd hlt (Nat.not_lt_zero _)
  | createFailed i faultPlan hfree hinit hfail => exact hkeep (creating_crew sh i) rfl rfl
  | created i faultPlan hfree hinit =>
    obtain ⟨hstate, hpopulated, -⟩ := hphase
    obtain ⟨threads, hthreads⟩ := Option.isSome_iff_exists.mp hpopulated.threads
    intro _ _ j hj
    have hstarted : sh.worker.startedWorkerCount = i := hpopulated.started
    have hlt : (j : ℕ) < sh.worker.startedWorkerCount + 1 := hj
    refine ⟨hj, _, congrArg (Option.map _) hthreads, ?_⟩
    by_cases hji : j = i
    · subst hji
      exact Function.update_self _ _ _
    · have hne : (j : ℕ) ≠ i := fun heq => hji (Fin.ext heq)
      obtain ⟨-, threads', hthreads', hheld⟩ := hfresh (by rw [hstate]; nofun) rfl j (by omega)
      cases hthreads.symm.trans hthreads'
      exact (Function.update_of_ne hji _ _).trans hheld
  | readyLock hfree hinit =>
    exact readyTest_elim (M := Scheduler.Fresh _) (hkeep rfl rfl rfl) (hkeep rfl rfl rfl)
  | readyAgain hfree hinit =>
    exact readyTest_elim (M := Scheduler.Fresh _) (hkeep rfl rfl rfl) (hkeep rfl rfl rfl)
  | run hfree =>
    exact fun _ _ i hi => hfresh (by rw [hphase.1]; nofun) rfl i hi
  | abortQueue hq =>
    rw [hq.frame]
    cases hq <;> exact hkeep rfl rfl rfl
  | releaseIncomplete caller index result hindex =>
    exact fun _ hrelease => nomatch (afterRelease_inRelease sh caller _).symm.trans hrelease
  | releaseDone caller index result hindex => exact fun _ hrelease => nomatch hrelease
  | foldUnlock caller result hheld =>
    exact fun _ hrelease => nomatch (afterRelease_inRelease sh caller _).symm.trans hrelease
  | setState state call r hfree =>
    -- before `FAILED` there is nobody left, or nobody was started
    intro hfailed _ i hi
    have hlt : (i : ℕ) < sh.worker.startedWorkerCount := hi
    have hzero : sh.worker.startedWorkerCount = 0 := by
      cases state with
      | failed => exact absurd rfl hfailed
      | initialized =>
        cases call with
        | start => exact hphase.2.1.started
        | _ => exact hphase.elim
      | stopped =>
        cases call with
        | join => exact hphase.2.1.started
        | _ => exact hphase.elim
      | _ => exact hphase.elim
    omega
  | shutdownRunning hfree hstate =>
    exact fun _ _ i hi => hfresh (by rw [hstate]; nofun) rfl i hi
  | shutdownQueue hq =>
    rw [hq.frame]
    cases hq <;> exact hkeep rfl rfl rfl
  | drainLock caller hfree =>
    exact drainTest_elim (M := Scheduler.Fresh _) (hkeep rfl rfl rfl) (hkeep rfl rfl rfl)
  | drainAgain caller hfree =>
    exact drainTest_elim (M := Scheduler.Fresh _) (hkeep rfl rfl rfl) (hkeep rfl rfl rfl)
  | join hfree hstate =>
    exact drainTest_elim (M := Scheduler.Fresh _) (hkeep rfl rfl rfl) (hkeep rfl rfl rfl)
  | releaseSkip => exact fun _ hrelease => nomatch hrelease
  | releaseNativeFailed => exact fun _ hrelease => nomatch hrelease
  | releaseInjected => exact fun _ hrelease => nomatch hrelease
  | releaseFailedWorker => exact fun _ hrelease => nomatch hrelease
  | releaseJoined => exact fun _ hrelease => nomatch hrelease
  | releaseLock => exact fun _ hrelease => nomatch hrelease
  | releaseUnlockFailed => exact fun _ hrelease => nomatch hrelease
  | releaseUnlock => exact fun _ hrelease => nomatch hrelease
  | fold => exact fun _ hrelease => nomatch hrelease
  | _ => exact hkeep rfl rfl rfl

end Left

/-! ## After a shutdown -/

/-- Between the fold and the assignment of `STOPPED`. -/
def ControllerPc.folded : ControllerPc P → Bool
  | .foldUnlock _ _ | .setStateLock .stopped _ _ => true
  | _ => false

/-- Before or while there are arrays to fold. -/
def Scheduler.Unreleased (sh : Scheduler W C P) (pc : ControllerPc P) : Prop :=
  sh.lifecycle.state = .initialized ∨ pc.phase W = .bare ∨ sh.worker.threads.isSome = true

/-- The course of a scheduler that was shut down: its crew is complete until a join folds the
slots, and a join that leaves `FAILED` leaves a handle. -/
structure Course (es : List ReleaseEvent) (sh : Scheduler W C P) (pc : ControllerPc P) : Prop where
  created : sh.worker.createdWorkerCount = W
  state : sh.lifecycle.state = .shuttingDown ∨ sh.lifecycle.state = .failed ∨
    sh.lifecycle.state = .stopped
  gone : sh.worker.threads = none ↔ sh.lifecycle.state = .stopped ∨ pc.folded = true
  left : sh.lifecycle.state = .failed → pc.inRelease = false → ∃ i, sh.crew.Holds i
  folds : sh.worker.threads = none → foldCount es = 1

theorem foldCount_append (es es' : List ReleaseEvent) :
    foldCount (es ++ es') = foldCount es + foldCount es' :=
  List.count_append

theorem ControllerPc.foldCount_releases {sh : Scheduler W C P} {pc pc' : ControllerPc P}
    (h : ∀ caller r, pc ≠ .foldLock caller r) : foldCount (pc.releaseSteps sh pc') = 0 := by
  unfold ControllerPc.releaseSteps
  split
  · rename_i event _ _
    cases event <;> rfl
  · split <;> rfl
  · split <;> rfl
  · split <;> rfl
  · exact absurd rfl (h _ _)
  · rfl

section Course

variable [DecidableEq C] {cfg : SchedulerConfig W} {choice : SchedulerChoice W C P}
  {sh sh' : Scheduler W C P} {es : List ReleaseEvent} {pc pc' : ControllerPc P}

/-- The arrays are folded once, and do not come back. -/
theorem ControllerStepSpec.unfolded {out : SchedulerStep W C P (ControllerPc P)}
    (h : ControllerStepSpec cfg choice sh pc out) (hphase : (pc.phase W).Ok sh)
    (hes : sh.Unreleased pc → foldCount es = 0) (hout : out.1.Unreleased out.2.1) :
    foldCount (es ++ pc.releaseSteps sh out.2.1) = 0 := by
  -- every step but the fold has nothing to note, so it has to come from such a state
  have hback : ∀ {pc'}, (∀ caller r, pc ≠ .foldLock caller r) → sh.Unreleased pc →
      foldCount (es ++ pc.releaseSteps sh pc') = 0 := by
    intro pc' hnot hunfolded
    rw [foldCount_append, hes hunfolded, ControllerPc.foldCount_releases hnot]
  have hkeep : ∀ {pc'}, (∀ caller r, pc ≠ .foldLock caller r) → pc'.phase W ≠ .bare →
      sh.lifecycle.state = .initialized ∨ pc'.phase W = .bare ∨
        sh.worker.threads.isSome = true →
      foldCount (es ++ pc.releaseSteps sh pc') = 0 := by
    intro pc' hnot hphase' hunfolded
    refine hback hnot ?_
    rcases hunfolded with hinit | hbare | hsome
    · exact .inl hinit
    · exact absurd hbare hphase'
    · exact .inr (.inr hsome)
  cases h with
  | call call pc hcall =>
    exact beginCall_elim (M := fun pc => sh.Unreleased pc →
      foldCount (es ++ ControllerPc.releaseSteps sh .idle pc) = 0) hcall (hkeep nofun nofun)
      (hkeep nofun nofun) (hkeep nofun nofun) (hkeep nofun nofun) (hkeep nofun nofun) hout
  | start hfree hstate => exact hback nofun (.inl hstate)
  | startUnlock hheld => exact hback nofun (.inr (.inl rfl))
  | sizeGuard hsize => exact hback nofun (.inr (.inl rfl))
  | allocationFailed sh' hsh hfail => exact hback nofun (.inr (.inl rfl))
  | allocated sh' hsh hthreads hcontexts hsize => exact hback nofun (.inr (.inl rfl))
  | syncInitFailed mutexInitialized hmutex hfail =>
    exact hback nofun (.inr (.inr hphase.2.1.threads))
  | createFailed i faultPlan hfree hinit hfail => exact hkeep nofun nofun hout
  | created i faultPlan hfree hinit => exact hback nofun (.inr (.inr hphase.2.1.threads))
  | readyLock hfree hinit =>
    exact hback nofun (.inr (.inr hphase.2.1.threads))
  | readyAgain hfree hinit =>
    exact hback nofun (.inr (.inr hphase.2.1.threads))
  | run hfree => exact hback nofun (.inr (.inr hphase.2.1.threads))
  | releaseFailedWorker caller i result allJoined faultPlan workerResult hresult hindex hhandle =>
    obtain ⟨threads, hthreads, -⟩ := hhandle
    exact hback nofun (.inr (.inr (by rw [hthreads]; rfl)))
  | releaseIncomplete caller index result hindex =>
    exact hkeep nofun (afterRelease_not_bare sh caller _) hout
  | releaseLock caller index event result allJoined hfree hinit =>
    cases event <;> exact hkeep nofun nofun hout
  | releaseUnlock caller i event result allJoined hevent hheld =>
    refine hkeep nofun nofun (hout.imp id (.imp id fun hsome => ?_))
    rwa [show (destroyThread sh.unlockWorker.worker i).threads.isSome = sh.worker.threads.isSome
      from Option.isSome_map] at hsome
  | fold caller result worker hfree hinit hfold =>
    obtain ⟨_, _, _, _, _, rfl⟩ := foldWorkers_frame hfold
    rcases hout with hstate | hbare | hsome
    · have hstate : sh.lifecycle.state = .initialized := hstate
      have hreleased : sh.ReleasedBy caller := hphase.1
      cases caller with
      | abort => cases hstate.symm.trans hreleased
      | join => rcases hreleased with h | h <;> cases hstate.symm.trans h
    · cases hbare
    · cases hsome
  | foldUnlock caller result hheld => exact hkeep nofun (afterRelease_not_bare sh caller _) hout
  | setState state call r hfree =>
    rcases hout with hstate | hbare | hsome
    · obtain rfl : state = .initialized := hstate
      cases call with
      | start => exact hback nofun (.inr (.inl rfl))
      | _ => exact hphase.elim
    · cases hbare
    · exact hback nofun (.inr (.inr hsome))
  | shutdownRunning hfree hstate =>
    exact hback nofun (.inr (.inr (Scheduler.Settled.of_state hphase hstate).1.threads))
  | abortQueue hq =>
    obtain ⟨k, hpopulated⟩ := hphase.2.1
    exact hback nofun (.inr (.inr hpopulated.threads))
  | shutdownQueue hq => exact hback nofun (.inr (.inr hphase.2.1.threads))
  | drainLock caller hfree =>
    exact drainTest_elim (M := fun pc => sh.Unreleased pc →
      foldCount (es ++ ControllerPc.releaseSteps sh (.drainLock _) pc) = 0) (hkeep nofun nofun)
      (hkeep nofun nofun) hout
  | drainAgain caller hfree =>
    exact drainTest_elim (M := fun pc => sh.Unreleased pc →
      foldCount (es ++ ControllerPc.releaseSteps sh (.drainWoken _) pc) = 0) (hkeep nofun nofun)
      (hkeep nofun nofun) hout
  | join hfree hstate =>
    exact drainTest_elim (M := fun pc => sh.Unreleased pc →
      foldCount (es ++ ControllerPc.releaseSteps sh .joinLock pc) = 0) (hkeep nofun nofun)
      (hkeep nofun nofun) hout
  | _ => exact hkeep nofun nofun hout

omit [DecidableEq C] in
/-- A step that leaves crew and state alone. -/
theorem Course.keep {es' : List ReleaseEvent} (h : Course es sh pc) (hcrew : sh'.crew = sh.crew)
    (hstate : sh'.lifecycle.state = sh.lifecycle.state) (hfolded : pc'.folded = pc.folded)
    (hrelease : pc'.inRelease = false → pc.inRelease = false) (hes' : foldCount es' = 0) :
    Course (es ++ es') sh' pc' := by
  have hthreads : sh'.worker.threads = sh.worker.threads := congrArg Crew.threads hcrew
  refine ⟨(congrArg Crew.createdWorkerCount hcrew).trans h.created, ?_, ?_, ?_, ?_⟩
  · rw [hstate]
    exact h.state
  · rw [hthreads, hstate, hfolded]
    exact h.gone
  · rw [hstate, hcrew]
    exact fun hfailed hnot => h.left hfailed (hrelease hnot)
  · intro hnone
    rw [foldCount_append, h.folds (hthreads ▸ hnone), hes']

omit [DecidableEq C] in
/-- A handle destroyed. -/
theorem Course.destroy {es' : List ReleaseEvent} (h : Course es sh pc) {i : Fin W}
    (hworker : sh'.worker = destroyThread sh.worker i)
    (hstate : sh'.lifecycle.state = sh.lifecycle.state) (hfolded : pc'.folded = pc.folded)
    (hrelease : pc'.inRelease = true) (hes' : foldCount es' = 0) : Course (es ++ es') sh' pc' := by
  have hthreads : sh'.worker.threads = none ↔ sh.worker.threads = none := by
    rw [hworker]
    exact Option.map_eq_none_iff
  refine ⟨?_, ?_, ?_, ?_, ?_⟩
  · rw [hworker]
    exact h.created
  · rw [hstate]
    exact h.state
  · rw [hthreads, hstate, hfolded]
    exact h.gone
  · exact fun _ hnot => nomatch hrelease.symm.trans hnot
  · intro hnone
    rw [foldCount_append, h.folds (hthreads.mp hnone), hes']

/-- **One step of a lifecycle call after a shutdown.** -/
theorem ControllerStepSpec.course {out : SchedulerStep W C P (ControllerPc P)}
    (h : ControllerStepSpec cfg choice sh pc out) (hphase : (pc.phase W).Ok sh)
    (hleft : pc.Outstanding sh.crew) (hunreleased : sh.Unreleased pc → foldCount es = 0)
    (hcourse : .shuttingDown ∈ sh.history.states → Course es sh pc)
    (hmem : .shuttingDown ∈ out.1.history.states) :
    Course (es ++ pc.releaseSteps sh out.2.1) out.1 out.2.1 := by
  have hstate : .shuttingDown ∈ sh.history.states → sh.lifecycle.state ≠ .starting ∧
      sh.lifecycle.state ≠ .initialized ∧ sh.lifecycle.state ≠ .running := by
    intro hmem
    rcases (hcourse hmem).state with hstate | hstate | hstate <;> rw [hstate] <;>
      exact ⟨nofun, nofun, nofun⟩
  have hkeep : ∀ {sh' : Scheduler W C P} {pc' : ControllerPc P}, sh'.crew = sh.crew →
      sh'.lifecycle.state = sh.lifecycle.state → sh'.history.states = sh.history.states →
      .shuttingDown ∈ sh'.history.states →
      (∀ caller r, pc ≠ .foldLock caller r) → pc'.folded = pc.folded →
      (pc'.inRelease = false → pc.inRelease = false) →
      Course (es ++ pc.releaseSteps sh pc') sh' pc' := by
    intro sh' pc' hcrew hsame hstates hmem hnot hfolded hrelease
    exact (hcourse (hstates ▸ hmem)).keep hcrew hsame hfolded hrelease
      (ControllerPc.foldCount_releases hnot)
  cases h with
  | call call pc hcall =>
    exact beginCall_elim
      (M := fun pc => Course (es ++ ControllerPc.releaseSteps sh .idle pc) sh pc) hcall
      (hkeep rfl rfl rfl hmem nofun rfl id) (hkeep rfl rfl rfl hmem nofun rfl id)
      (hkeep rfl rfl rfl hmem nofun rfl id) (hkeep rfl rfl rfl hmem nofun rfl id)
      (hkeep rfl rfl rfl hmem nofun rfl id)
  | start hfree hinit =>
    rcases List.mem_append.mp hmem with hmem | hmem
    · exact absurd hinit (hstate hmem).2.1
    · cases List.mem_singleton.mp hmem
  | allocationFailed sh' hsh hfail =>
    subst hsh
    exact absurd hphase.1 (hstate hmem).1
  | allocated sh' hsh hthreads hcontexts hsize =>
    subst hsh
    exact absurd hphase.1 (hstate hmem).1
  | syncInitFailed mutexInitialized hmutex hfail => exact absurd hphase.1 (hstate hmem).1
  | createFailed i faultPlan hfree hinit hfail => exact absurd hphase.1 (hstate hmem).1
  | created i faultPlan hfree hinit => exact absurd hphase.1 (hstate hmem).1
  | readyLock hfree hinit => exact absurd hphase.1 (hstate hmem).1
  | readyAgain hfree hinit => exact absurd hphase.1 (hstate hmem).1
  | run hfree =>
    rcases List.mem_append.mp hmem with hmem | hmem
    · exact absurd hphase.1 (hstate hmem).1
    · cases List.mem_singleton.mp hmem
  | abortQueue hq =>
    have hmem' : .shuttingDown ∈ sh.history.states := by
      rw [hq.frame] at hmem
      exact hmem
    exact absurd hphase.1 (hstate hmem').1
  | releaseNativeFailed => exact hkeep rfl rfl rfl hmem nofun rfl fun hnot => nomatch hnot
  | releaseSkip => exact hkeep rfl rfl rfl hmem nofun rfl fun hnot => nomatch hnot
  | releaseInjected => exact hkeep rfl rfl rfl hmem nofun rfl fun hnot => nomatch hnot
  | releaseFailedWorker caller i result allJoined faultPlan workerResult hresult hindex hhandle =>
    exact (hcourse hmem).destroy rfl rfl rfl rfl (ControllerPc.foldCount_releases nofun)
  | releaseJoined => exact hkeep rfl rfl rfl hmem nofun rfl fun hnot => nomatch hnot
  | releaseDone => exact hkeep rfl rfl rfl hmem nofun rfl fun hnot => nomatch hnot
  | releaseIncomplete caller index result hindex =>
    obtain ⟨i, -, -, threads, hthreads, -⟩ := hleft rfl
    have hsome : sh.worker.threads.isSome = true := by
      rw [show sh.worker.threads = _ from hthreads]
      rfl
    refine hkeep rfl rfl rfl hmem nofun ?_ fun hnot =>
      nomatch (afterRelease_inRelease sh caller _).symm.trans hnot
    unfold afterRelease
    cases caller with
    | abort => rfl
    | join =>
      dsimp only
      rw [if_pos hsome]
      rfl
  | releaseLock caller index event result allJoined hfree hinit =>
    cases event <;> exact hkeep rfl rfl rfl hmem nofun rfl fun hnot => nomatch hnot
  | releaseUnlockFailed => exact hkeep rfl rfl rfl hmem nofun rfl fun hnot => nomatch hnot
  | releaseUnlock caller i event result allJoined hevent hheld =>
    have hc : Course es sh.unlockWorker (.releaseUnlock caller i event result allJoined) := by
      rw [← List.append_nil es]
      exact (hcourse hmem).keep rfl rfl rfl id rfl
    exact hc.destroy rfl rfl rfl rfl (ControllerPc.foldCount_releases nofun)
  | fold caller result worker hfree hinit hfold =>
    obtain ⟨_, _, _, _, _, rfl⟩ := foldWorkers_frame hfold
    have hc := hcourse hmem
    -- `scheduler_join` is the caller, and the arrays are still there
    have hthere : sh.worker.threads.isSome = true := by
      rw [Option.isSome_iff_ne_none, ne_eq, hc.gone]
      rintro (hstopped | hfolded)
      · have hreleased : sh.ReleasedBy caller := hphase.1
        cases caller with
        | abort => cases hstopped.symm.trans hreleased
        | join => rcases hreleased with h | h <;> cases hstopped.symm.trans h
      · cases hfolded
    refine ⟨hc.created, hc.state, iff_of_true rfl (.inr rfl), fun _ hnot => (nomatch hnot), ?_⟩
    intro _
    rw [foldCount_append, hunreleased (.inr (.inr hthere))]
    rfl
  | foldUnlock caller result hheld =>
    have hnone : sh.worker.threads = none := hphase.2.1.threads
    cases caller with
    | abort => exact absurd hphase.1 (hstate hmem).1
    | join =>
      refine hkeep rfl rfl rfl hmem nofun ?_ fun hnot =>
        nomatch (afterRelease_inRelease sh .join _).symm.trans hnot
      show (if _ then _ else _ : ControllerPc P).folded = true
      rw [hnone]
      rfl
  | setState state call r hfree =>
    have hstates : .shuttingDown ∈ sh.history.states := by
      rcases List.mem_append.mp hmem with hmem | hmem
      · exact hmem
      · cases List.mem_singleton.mp hmem
        exact hphase.elim
    have hc := hcourse hstates
    have hnone : foldCount (es ++ []) = foldCount es := congrArg foldCount (List.append_nil es)
    cases state with
    | initialized =>
      cases call with
      | start => exact absurd hphase.1 (hstate hstates).1
      | _ => exact hphase.elim
    | failed =>
      cases call with
      | start => exact absurd hphase.1 (hstate hstates).1
      | join =>
        obtain ⟨i, hlt, threads, hthreads, hheld⟩ := hleft
        have hsome : sh.worker.threads ≠ none := by
          rw [show sh.worker.threads = _ from hthreads]
          nofun
        refine ⟨hc.created, .inr (.inl rfl), iff_of_false hsome ?_, ?_,
          fun hnone => absurd hnone hsome⟩
        · rintro (hstopped | hfolded)
          · cases hstopped
          · cases hfolded
        · exact fun _ _ => ⟨i, hlt, threads, hthreads, hheld⟩
      | _ => exact hphase.elim
    | stopped =>
      cases call with
      | join =>
        have hgone : sh.worker.threads = none := hphase.2.1.threads
        exact ⟨hc.created, .inr (.inr rfl), iff_of_true hgone (.inl rfl), nofun,
          fun _ => hnone.trans (hc.folds hgone)⟩
      | _ => exact hphase.elim
    | _ => exact hphase.elim
  | shutdownRunning hfree hrunning =>
    have hpopulated := (Scheduler.Settled.of_state hphase hrunning).1
    have hsome : sh.worker.threads ≠ none := Option.isSome_iff_ne_none.mp hpopulated.threads
    refine ⟨hpopulated.created, .inl rfl, iff_of_false hsome ?_, nofun,
      fun hnone => absurd hnone hsome⟩
    rintro (hstopped | hfolded)
    · cases hstopped
    · cases hfolded
  | shutdownQueue hq =>
    rw [hq.frame] at hmem ⊢
    cases hq <;> exact hkeep rfl rfl rfl hmem nofun rfl id
  | drainLock caller hfree =>
    exact drainTest_elim
      (M := fun pc => Course (es ++ ControllerPc.releaseSteps sh (.drainLock _) pc) _ pc)
      (hkeep rfl rfl rfl hmem nofun rfl id) (hkeep rfl rfl rfl hmem nofun rfl id)
  | drainAgain caller hfree =>
    exact drainTest_elim
      (M := fun pc => Course (es ++ ControllerPc.releaseSteps sh (.drainWoken _) pc) _ pc)
      (hkeep rfl rfl rfl hmem nofun rfl id) (hkeep rfl rfl rfl hmem nofun rfl id)
  | join hfree hjoin =>
    exact drainTest_elim
      (M := fun pc => Course (es ++ ControllerPc.releaseSteps sh .joinLock pc) _ pc)
      (hkeep rfl rfl rfl hmem nofun rfl id) (hkeep rfl rfl rfl hmem nofun rfl id)
  | joinDrained hheld => exact hkeep rfl rfl rfl hmem nofun rfl fun hnot => nomatch hnot
  | _ => exact hkeep rfl rfl rfl hmem nofun rfl id

end Course

end SchedulingEngine
