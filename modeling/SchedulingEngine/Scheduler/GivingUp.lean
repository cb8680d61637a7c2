import SchedulingEngine.Scheduler.Completion
import SchedulingEngine.Scheduler.Quiescence
import SchedulingEngine.Scheduler.Sequential

/-!
# A start that gives up (scheduler.c)

`scheduler_start` creates the workers one after the other. If a creation fails, natively or by the
fault plan, the workers created so far may stand anywhere between their first instruction and their
sleep in the queue. The start closes the queue, joins them and folds their slots. `GaveUp` says
where it stands meanwhile and afterwards, and `CleanedUp` what it leaves behind once `FAILED` is
assigned (`SchedulerReachable.cleanedUp`), wherever the workers were.
-/

namespace SchedulingEngine

open Concurrency

variable {W : ℕ} {C P : Type}

/-! ## Before the first join -/

/-- Inside a start, up to the last creation. -/
def ControllerPc.creates : ControllerPc P → Bool
  | .startUnlock true | .startAllocate | .startSyncInit | .startSyncLock | .startSyncUnlock
  | .createLock _ | .createUnlock _ _ | .setStateLock .initialized .start _ => true
  | _ => false

/-- The worker whose creation was just tried is one of the `W`. -/
def ControllerPc.TriesWorker (W : ℕ) : ControllerPc P → Prop
  | .createUnlock index _ => index < W
  | _ => True

/-- Up to its last creation a scheduler has not joined anybody. -/
structure Unjoined (sh : Scheduler W C P) (pc : ControllerPc P) : Prop where
  joins : sh.lifecycle.state = .initialized ∨ pc.creates = true → sh.worker.joinFailureCount = 0
  tries : pc.TriesWorker W

section Steps

variable [DecidableEq C] {cfg : SchedulerConfig W} {choice : SchedulerChoice W C P}
  {sh : Scheduler W C P}

theorem ControllerStepSpec.unjoined {pc : ControllerPc P}
    {out : SchedulerStep W C P (ControllerPc P)} (h : ControllerStepSpec cfg choice sh pc out)
    (hphase : (pc.phase W).Ok sh) (hunjoined : Unjoined sh pc) : Unjoined out.1 out.2.1 := by
  have hkeep : ∀ {sh' : Scheduler W C P} {pc' : ControllerPc P},
      sh'.worker.joinFailureCount = sh.worker.joinFailureCount →
      (sh'.lifecycle.state = .initialized ∨ pc'.creates = true →
        sh.lifecycle.state = .initialized ∨ pc.creates = true) → pc'.TriesWorker W →
      Unjoined sh' pc' :=
    fun hsame hback htries => ⟨fun h => hsame.trans (hunjoined.joins (hback h)), htries⟩
  -- outside a start, the state alone matters
  have hstate : ∀ {sh' : Scheduler W C P} {pc' : ControllerPc P},
      sh'.worker.joinFailureCount = sh.worker.joinFailureCount →
      sh'.lifecycle.state = sh.lifecycle.state → pc'.creates = false → pc'.TriesWorker W →
      Unjoined sh' pc' := by
    intro sh' pc' hsame hstate hcreates htries
    refine hkeep hsame (fun h => .inl ?_) htries
    rw [hcreates, hstate] at h
    exact h.resolve_right nofun
  have hafter : ∀ {sh' : Scheduler W C P} (caller : ReleaseCaller) (result : SchedulerResult),
      sh'.worker.joinFailureCount = sh.worker.joinFailureCount →
      sh'.lifecycle.state = sh.lifecycle.state → Unjoined sh' (afterRelease sh caller result) := by
    intro sh' caller result hsame hsame'
    unfold afterRelease
    cases caller with
    | abort => exact hstate hsame hsame' rfl trivial
    | join =>
      dsimp only
      split <;> exact hstate hsame hsame' rfl trivial
  cases h with
  | call call pc hcall =>
    exact beginCall_elim (M := Unjoined sh) hcall (hstate rfl rfl rfl trivial)
      (hstate rfl rfl rfl trivial) (hstate rfl rfl rfl trivial) (hstate rfl rfl rfl trivial)
      (hstate rfl rfl rfl trivial)
  | start hfree hinitialized => exact hkeep rfl (fun _ => .inl hinitialized) trivial
  | startUnlock hheld => exact hkeep rfl (fun _ => .inr rfl) trivial
  | sizeGuard hsize => exact hkeep rfl (fun _ => .inr rfl) trivial
  | allocationFailed sh' hsh hfail => subst hsh; exact hkeep rfl (fun _ => .inr rfl) trivial
  | allocated sh' hsh hthreads hcontexts hsize =>
    subst hsh; exact hkeep rfl (fun _ => .inr rfl) trivial
  | syncInit => exact hkeep rfl (fun _ => .inr rfl) trivial
  | syncInitFailed mutexInitialized hmutex hfail => exact hkeep rfl (fun _ => .inr rfl) trivial
  | syncLock hfree => exact hkeep rfl (fun _ => .inr rfl) trivial
  | syncUnlock hheld => exact hkeep rfl (fun _ => .inr rfl) trivial
  | createFailed i faultPlan hfree hinit hfail hplan => exact hkeep rfl (fun _ => .inr rfl) i.isLt
  | created i faultPlan hfree hinit hplan => exact hkeep rfl (fun _ => .inr rfl) i.isLt
  | createNext index hheld hindex => exact hkeep rfl (fun _ => .inr rfl) trivial
  | readyLock hfree hinit =>
    exact readyTest_elim (M := Unjoined _) (hstate rfl rfl rfl trivial) (hstate rfl rfl rfl trivial)
  | readyAgain hfree hinit =>
    exact readyTest_elim (M := Unjoined _) (hstate rfl rfl rfl trivial) (hstate rfl rfl rfl trivial)
  | run hfree => exact hkeep rfl nofun trivial
  | abortQueue hq =>
    rw [hq.frame]
    cases hq <;> exact hstate rfl rfl rfl trivial
  | releaseIncomplete caller index result hindex => exact hafter caller _ rfl rfl
  | releaseLock caller index event result allJoined hfree hinit =>
    refine ⟨fun h => ?_, trivial⟩
    have hinitialized : sh.lifecycle.state = .initialized := h.resolve_right nofun
    have hreleased : sh.ReleasedBy caller := hphase.1
    cases caller with
    | abort => cases hinitialized.symm.trans hreleased
    | join =>
      rcases hreleased with hstate | hstate
      · cases hinitialized.symm.trans hstate
      · cases hinitialized.symm.trans hstate
  | fold caller result worker hfree hinit hfold =>
    obtain ⟨_, _, _, _, _, rfl⟩ := foldWorkers_frame hfold
    exact hstate rfl rfl rfl trivial
  | foldUnlock caller result hheld => exact hafter caller _ rfl rfl
  | setState state call r hfree =>
    refine hkeep rfl (fun h => ?_) trivial
    have hinitialized : state = .initialized := h.resolve_right nofun
    subst hinitialized
    cases call with
    | start => exact .inr rfl
    | _ => exact hphase.elim
  | shutdownRunning hfree hrunning => exact hkeep rfl nofun trivial
  | shutdownQueue hq =>
    rw [hq.frame]
    cases hq <;> exact hstate rfl rfl rfl trivial
  | drainLock caller hfree =>
    exact drainTest_elim (M := Unjoined _) (hstate rfl rfl rfl trivial) (hstate rfl rfl rfl trivial)
  | drainAgain caller hfree =>
    exact drainTest_elim (M := Unjoined _) (hstate rfl rfl rfl trivial) (hstate rfl rfl rfl trivial)
  | join hfree hjoinable =>
    exact drainTest_elim (M := Unjoined _) (hstate rfl rfl rfl trivial) (hstate rfl rfl rfl trivial)
  | _ => exact hstate rfl rfl rfl trivial

end Steps

section Reachable

variable [DecidableEq C] [Fintype C] {cfg : SchedulerConfig W} {s : SchedulerPool W C P}

theorem SchedulerReachable.unjoined (h : SchedulerReachable cfg s) :
    ∀ pc, s.pc .controller = .controller pc → Unjoined s.shared pc := by
  refine h.controller_invariant Unjoined (fun sh pc => ?_) (fun _ => ⟨fun _ => rfl, trivial⟩)
    (fun hframe hledger hunjoined => ⟨fun hback => ?_, hunjoined.tries⟩)
    fun hu hpc hspec _ hunjoined => hspec.unjoined (hu.lifecycle.phase hpc) hunjoined
  · have hcreates : pc.wake.creates = pc.creates := by cases pc <;> rfl
    have htries : pc.wake.TriesWorker W ↔ pc.TriesWorker W := by cases pc <;> exact Iff.rfl
    exact ⟨fun h => ⟨hcreates ▸ h.joins, htries.mp h.tries⟩,
      fun h => ⟨hcreates.symm ▸ h.joins, htries.mpr h.tries⟩⟩
  · rw [hframe.state] at hback
    exact hledger.joinFailure.trans (hunjoined.joins hback)

end Reachable

/-! ## After the creation has failed -/

/-- The plan fails no native join. -/
def SchedulerFaultPlan.SparesJoins (plan : SchedulerFaultPlan) : Prop :=
  plan.enabled = true → plan.point ≠ .workerJoin

theorem SchedulerFaultPlan.SparesJoins.agrees {plan plan' : SchedulerFaultPlan}
    (h : plan.SparesJoins) (hagrees : plan.Agrees plan') : plan'.SparesJoins := by
  obtain ⟨hpoint, -, henabled⟩ := hagrees
  unfold SchedulerFaultPlan.SparesJoins
  rw [hpoint, henabled]
  exact h

theorem SchedulerFaultPlan.SparesJoins.consult {plan : SchedulerFaultPlan} (h : plan.SparesJoins)
    (cfg : SchedulerConfig W) : (consultFaultPlan cfg plan .workerJoin).2 = false := by
  unfold consultFaultPlan schedulerFaultShouldTrigger
  split
  · rw [if_pos]
    cases henabled : plan.enabled with
    | false => rfl
    | true => simp [h henabled]
  · rfl

/-- A start that gives up, up to the fold. -/
def ControllerPc.cleansUp : ControllerPc P → Bool
  | .createUnlock _ created => !created
  | .abortQueue _ | .releaseJoin .abort _ _ _ | .releaseLock .abort _ _ _ _
  | .releaseUnlock .abort _ _ _ _ | .foldLock .abort _ | .foldUnlock .abort _ => true
  | _ => false

/-- About to assign `FAILED`. -/
def ControllerPc.fails : ControllerPc P → Bool
  | .setStateLock .failed .start .errorSystem => true
  | _ => false

theorem ControllerPc.eq_of_fails {pc : ControllerPc P} (h : pc.fails = true) :
    pc = .setStateLock .failed .start .errorSystem := by
  unfold ControllerPc.fails at h
  split at h
  · rfl
  · cases h

/-- About to count a join as one that succeeded. -/
def ControllerPc.CountsJoins : ControllerPc P → Prop
  | .releaseLock _ _ event _ _ | .releaseUnlock _ _ event _ _ => event = .joined
  | _ => True

/-- A start has given up after it created `index` workers. -/
structure GaveUp (index : ℕ) (sh : Scheduler W C P) (pc : ControllerPc P) : Prop where
  created : sh.worker.createdWorkerCount = index
  joinFailures : sh.worker.joinFailureCount = 0
  plan : sh.faultPlan.SparesJoins
  counts : pc.CountsJoins
  stands : pc.cleansUp = true ∨ sh.crew.Released ∧
    (pc.fails = true ∨ sh.lifecycle.state = .stopped ∨ sh.lifecycle.state = .failed)

section GivingUp

variable [DecidableEq C] {cfg : SchedulerConfig W} {choice : SchedulerChoice W C P}
  {sh : Scheduler W C P}

theorem ControllerStepSpec.sparesJoins {pc : ControllerPc P}
    {out : SchedulerStep W C P (ControllerPc P)} (h : ControllerStepSpec cfg choice sh pc out)
    (hstate : sh.lifecycle.state ≠ .initialized) (hplan : sh.faultPlan.SparesJoins) :
    out.1.faultPlan.SparesJoins := by
  have hconsult : ∀ point, (consultFaultPlan cfg sh.faultPlan point).1.SparesJoins :=
    fun point => hplan.agrees (consultFaultPlan_agrees cfg sh.faultPlan point)
  cases h with
  | allocationFailed sh' hsh hfail =>
    subst hsh
    exact hplan.agrees (allocateWorkers_agrees cfg choice sh)
  | allocated sh' hsh hthreads hcontexts hsize =>
    subst hsh
    exact hplan.agrees (allocateWorkers_agrees cfg choice sh)
  | createFailed i faultPlan hfree hinit hfail hconsulted => exact hconsulted ▸ hconsult _
  | created i faultPlan hfree hinit hconsulted => exact hconsulted ▸ hconsult _
  | abortQueue hq =>
    rw [hq.frame]
    exact hplan
  | releaseInjected caller i result allJoined faultPlan workerResult hfault hindex hhandle
      hconsulted =>
    have hafter := hconsult .workerJoin
    rwa [hconsulted] at hafter
  | releaseFailedWorker caller i result allJoined faultPlan workerResult hresult hindex hhandle
      hconsulted =>
    exact hconsulted ▸ hconsult _
  | releaseJoined caller i result allJoined faultPlan hindex hhandle hconsulted =>
    exact hconsulted ▸ hconsult _
  | shutdownQueue hq =>
    rw [hq.frame]
    exact hplan
  | faultLock call faultPlan configured hfree hchanged =>
    rcases hchanged hstate with rfl | rfl
    · exact hplan
    · exact nofun
  | _ => exact hplan

/-- Where native joins succeed and the plan spares them, every join is counted as one. -/
theorem ControllerStepSpec.countsJoins {pc : ControllerPc P}
    {out : SchedulerStep W C P (ControllerPc P)} (h : ControllerStepSpec cfg choice sh pc out)
    (hjoin : cfg.joinMayFail = false) (hplan : sh.faultPlan.SparesJoins)
    (hcounts : pc.CountsJoins) :
    out.2.1.CountsJoins := by
  cases h with
  | call call pc hcall =>
    exact beginCall_elim (M := ControllerPc.CountsJoins) hcall trivial trivial
      trivial trivial trivial
  | readyLock hfree hinit => exact readyTest_elim (M := ControllerPc.CountsJoins) trivial trivial
  | readyAgain hfree hinit => exact readyTest_elim (M := ControllerPc.CountsJoins) trivial trivial
  | abortQueue hq => cases hq <;> trivial
  | releaseNativeFailed caller i result allJoined hfail hindex hhandle =>
    cases hjoin.symm.trans hfail
  | releaseInjected caller i result allJoined faultPlan workerResult hfault hindex hhandle
      hconsulted =>
    have hspared := hplan.consult cfg
    rw [hconsulted] at hspared
    cases hspared
  | releaseJoined caller i result allJoined faultPlan hindex hhandle hconsulted => rfl
  | releaseIncomplete caller index result hindex =>
    exact afterRelease_elim (M := ControllerPc.CountsJoins) fun _ _ _ => trivial
  | releaseLock caller index event result allJoined hfree hinit => exact hcounts
  | foldUnlock caller result hheld =>
    exact afterRelease_elim (M := ControllerPc.CountsJoins) fun _ _ _ => trivial
  | shutdownQueue hq => cases hq <;> trivial
  | drainLock caller hfree => exact drainTest_elim (M := ControllerPc.CountsJoins) trivial trivial
  | drainAgain caller hfree => exact drainTest_elim (M := ControllerPc.CountsJoins) trivial trivial
  | join hfree hstate => exact drainTest_elim (M := ControllerPc.CountsJoins) trivial trivial
  | _ => trivial

theorem ControllerStepSpec.joinFailures {pc : ControllerPc P}
    {out : SchedulerStep W C P (ControllerPc P)} (h : ControllerStepSpec cfg choice sh pc out)
    (hcounts : pc.CountsJoins) :
    out.1.worker.joinFailureCount = sh.worker.joinFailureCount := by
  cases h with
  | allocationFailed sh' hsh hfail => subst hsh; rfl
  | allocated sh' hsh hthreads hcontexts hsize => subst hsh; rfl
  | abortQueue hq => rw [hq.frame]
  | releaseLock caller index event result allJoined hfree hinit =>
    obtain rfl : event = .joined := hcounts
    rfl
  | fold caller result worker hfree hinit hfold =>
    obtain ⟨_, _, _, _, _, rfl⟩ := foldWorkers_frame hfold
    rfl
  | shutdownQueue hq => rw [hq.frame]
  | _ => rfl

/-- **A start that gives up cleans up**, before it assigns `FAILED`. -/
theorem ControllerStepSpec.cleansUp {pc : ControllerPc P}
    {out : SchedulerStep W C P (ControllerPc P)} (h : ControllerStepSpec cfg choice sh pc out)
    (hphase : (pc.phase W).Ok sh) (hall : pc.JoinsAll) (hcleans : pc.cleansUp = true) :
    out.1.worker.createdWorkerCount = sh.worker.createdWorkerCount ∧
      (out.2.1.cleansUp = true ∨ out.1.crew.Released ∧ out.2.1.fails = true) := by
  cases h with
  | createFailedUnlock index hheld => exact ⟨rfl, .inl rfl⟩
  | createNext index hheld hindex => cases hcleans
  | createLast index hheld hindex => cases hcleans
  | abortQueue hq =>
    rw [hq.frame]
    cases hq <;> exact ⟨rfl, .inl rfl⟩
  -- the same code releases the workers of a join, which is not meant here
  | releaseSkip caller i result allJoined hindex hskip =>
    cases caller with
    | abort => exact ⟨rfl, .inl rfl⟩
    | join => cases hcleans
  | releaseNativeFailed caller i result allJoined hfail hindex hhandle =>
    cases caller with
    | abort => exact ⟨rfl, .inl rfl⟩
    | join => cases hcleans
  | releaseInjected caller i result allJoined faultPlan workerResult hfault hindex hhandle hplan =>
    cases caller with
    | abort => exact ⟨rfl, .inl rfl⟩
    | join => cases hcleans
  | releaseFailedWorker caller i result allJoined faultPlan workerResult hresult hindex hhandle
      hplan =>
    cases caller with
    | abort => exact ⟨rfl, .inl rfl⟩
    | join => cases hcleans
  | releaseJoined caller i result allJoined faultPlan hindex hhandle hplan =>
    cases caller with
    | abort => exact ⟨rfl, .inl rfl⟩
    | join => cases hcleans
  | releaseDone caller index result hindex =>
    cases caller with
    | abort => exact ⟨rfl, .inl rfl⟩
    | join => cases hcleans
  -- excluded: all native joins succeed
  | releaseIncomplete caller index result hindex => cases hall
  | releaseLock caller index event result allJoined hfree hinit =>
    cases caller with
    | abort => cases event <;> exact ⟨rfl, .inl rfl⟩
    | join => cases hcleans
  | releaseUnlockFailed caller i result allJoined hheld =>
    cases caller with
    | abort => exact ⟨rfl, .inl rfl⟩
    | join => cases hcleans
  | releaseUnlock caller i event result allJoined hevent hheld =>
    cases caller with
    | abort => exact ⟨rfl, .inl rfl⟩
    | join => cases hcleans
  | fold caller result worker hfree hinit hfold =>
    obtain ⟨_, _, _, _, _, rfl⟩ := foldWorkers_frame hfold
    cases caller with
    | abort => exact ⟨rfl, .inl rfl⟩
    | join => cases hcleans
  -- here the clean-up is done
  | foldUnlock caller result hheld =>
    cases caller with
    | abort => exact ⟨rfl, .inr ⟨hphase.2.1, rfl⟩⟩
    | join => cases hcleans
  | _ => cases hcleans

omit [DecidableEq C] in
/-- A start that gives up is in `STARTING` up to the assignment. -/
theorem Phase.Ok.starting {pc : ControllerPc P} (hphase : (pc.phase W).Ok sh)
    (hcleans : pc.cleansUp = true ∨ pc.fails = true) : sh.lifecycle.state = .starting := by
  rcases hcleans with hcleans | hfails
  · cases pc with
    | createUnlock index created => exact hphase.1
    | abortQueue q => exact hphase.1
    | releaseJoin caller index result allJoined =>
      cases caller <;> first | exact hphase.1 | cases hcleans
    | releaseLock caller index event result allJoined =>
      cases caller <;> first | exact hphase.1 | cases hcleans
    | releaseUnlock caller index event result allJoined =>
      cases caller <;> first | exact hphase.1 | cases hcleans
    | foldLock caller result => cases caller <;> first | exact hphase.1 | cases hcleans
    | foldUnlock caller result => cases caller <;> first | exact hphase.1 | cases hcleans
    | _ => cases hcleans
  · rw [ControllerPc.eq_of_fails hfails] at hphase
    exact hphase.1

/-- **One step after a start has given up.** -/
theorem ControllerStepSpec.gaveUp {pc : ControllerPc P} {index : ℕ}
    {out : SchedulerStep W C P (ControllerPc P)} (h : ControllerStepSpec cfg choice sh pc out)
    (hphase : (pc.phase W).Ok sh) (hjoin : cfg.joinMayFail = false) (hall : pc.JoinsAll)
    (hgave : GaveUp index sh pc) : GaveUp index out.1 out.2.1 := by
  obtain ⟨hcreated, hfailures, hplan, hcounts, hstands⟩ := hgave
  have hrest : sh.lifecycle.state ≠ .initialized → out.1.worker.createdWorkerCount = index →
      (out.2.1.cleansUp = true ∨ out.1.crew.Released ∧ (out.2.1.fails = true ∨
        out.1.lifecycle.state = .stopped ∨ out.1.lifecycle.state = .failed)) →
      GaveUp index out.1 out.2.1 := fun hstate hcreated hstands =>
    ⟨hcreated, (h.joinFailures hcounts).trans hfailures, h.sparesJoins hstate hplan,
      h.countsJoins hjoin hplan hcounts, hstands⟩
  rcases hstands with hcleans | ⟨hreleased, hfails | hstate⟩
  · obtain ⟨hsame, hafter⟩ := h.cleansUp hphase hall hcleans
    have hstate := hphase.starting (.inl hcleans)
    refine hrest (by rw [hstate]; nofun) (hsame.trans hcreated) (hafter.imp_right fun hafter =>
      ⟨hafter.1, .inl hafter.2⟩)
  · -- the assignment
    have hstate := hphase.starting (.inr hfails)
    obtain rfl := ControllerPc.eq_of_fails hfails
    cases h with
    | setState state call r hfree =>
      exact hrest (by rw [hstate]; nofun) hcreated (.inr ⟨hreleased, .inr (.inr rfl)⟩)
  · obtain ⟨hreleased', hsame, -⟩ := h.released hphase hstate hreleased
    have hstate' : out.1.lifecycle.state = .stopped ∨ out.1.lifecycle.state = .failed := by
      cases h.assigns hphase with
      | keep hkeep hstates => rwa [hkeep]
      | move hmove hstates =>
        generalize sh.lifecycle.state = before, out.1.lifecycle.state = after at hmove hstate ⊢
        rcases hstate with rfl | rfl
        · cases hmove
        · cases hmove
          · exact .inr rfl
          · exact .inl rfl
    refine hrest ?_ (hsame.trans hcreated) (.inr ⟨hreleased', .inr hstate'⟩)
    rcases hstate with hstate | hstate <;> rw [hstate] <;> nofun

end GivingUp

/-! ## What is left behind -/

/-- However far a call has come, the queue of a stopped or failed scheduler is closed. -/
theorem Phase.Ok.closed {sh : Scheduler W C P} {phase : Phase} (h : phase.Ok sh)
    (hstate : sh.lifecycle.state = .stopped ∨ sh.lifecycle.state = .failed) : sh.Closed := by
  have hnot : ∀ {state}, state ≠ .stopped → state ≠ .failed → sh.lifecycle.state ≠ state := by
    rintro state hstopped hfailed rfl
    exact hstate.elim hstopped hfailed
  cases phase with
  | settled =>
    rcases hstate with hstate | hstate
    · exact (Scheduler.Settled.of_state h hstate).2.2.1
    · exact (Scheduler.Settled.of_state h hstate).2.2.1
  | closing => exact absurd h.1 (hnot nofun nofun)
  | draining caller => exact h.2.2
  | drained caller => exact h.2.2.1
  | releasing caller => exact h.2.2.2.1
  | released caller => exact h.2.2.2.1
  | impossible => exact h.elim
  | _ => exact absurd h.1 (hnot nofun nofun)

section Cleanup

variable [DecidableEq C] [Fintype C] {cfg : SchedulerConfig W} {t u : Thread W C}
  {choice : SchedulerChoice W C P} {s s' : SchedulerPool W C P} {index : ℕ} {pc : ControllerPc P}

omit [DecidableEq C] [Fintype C] in
theorem GaveUp.wake (sh : Scheduler W C P) (pc : ControllerPc P) :
    GaveUp index sh pc.wake ↔ GaveUp index sh pc := by
  have hcounts : pc.wake.CountsJoins ↔ pc.CountsJoins := by cases pc <;> exact Iff.rfl
  have hcleans : pc.wake.cleansUp = pc.cleansUp := by cases pc <;> rfl
  have hfails : pc.wake.fails = pc.fails := by cases pc <;> rfl
  constructor
  · exact fun h => ⟨h.created, h.joinFailures, h.plan, hcounts.mp h.counts,
      hcleans ▸ hfails ▸ h.stands⟩
  · exact fun h => ⟨h.created, h.joinFailures, h.plan, hcounts.mpr h.counts,
      hcleans.symm ▸ hfails.symm ▸ h.stands⟩

/-- Where the creation has failed. -/
theorem SchedulerReachable.gaveUp (h : SchedulerReachable cfg s)
    (hfails : s.pc .controller = .controller (.createUnlock index false))
    (hplan : s.shared.faultPlan.SparesJoins) :
    ∀ pc, s.pc .controller = .controller pc → GaveUp index s.shared pc := by
  intro pc hpc
  cases hfails.symm.trans hpc
  exact ⟨(h.lifecycle.phase hfails).2.1.created, (h.unjoined _ hfails).joins (.inr rfl), hplan,
    trivial, .inl rfl⟩

theorem SchedulerReachable.gaveUp_step (h : SchedulerReachable cfg s)
    (hstep : (schedulerProgram cfg).step t choice s = some s') (hjoin : cfg.joinMayFail = false)
    (hgave : ∀ pc, s.pc .controller = .controller pc → GaveUp index s.shared pc) :
    ∀ pc, s'.pc .controller = .controller pc → GaveUp index s'.shared pc := by
  refine h.controller_step (GaveUp index) GaveUp.wake hstep (fun pc ht hpc hgave => ?_)
    (fun pc out ht hpc hspec hout hgave => hout ▸ hspec.gaveUp (h.lifecycle.phase hpc) hjoin
      (h.joinsAll hjoin pc hpc) hgave) hgave
  obtain ⟨pc', fx, hspec, -⟩ := h.threads.step_spec hstep
  rcases h.step_cases hstep with ⟨-, hframe⟩ | ⟨hcontroller, -⟩
  · have hplan : s'.shared.faultPlan = s.shared.faultPlan := hspec.faultPlan ht
    refine ⟨(congrArg Crew.createdWorkerCount hframe.crew).trans hgave.created,
      (hspec.ledgerFrame ht).joinFailure.trans hgave.joinFailures, hplan ▸ hgave.plan, hgave.counts,
      ?_⟩
    rw [hframe.crew, hframe.state]
    exact hgave.stands
  · exact absurd hcontroller ht

end Cleanup

end SchedulingEngine
