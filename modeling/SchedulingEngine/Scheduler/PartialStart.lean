import SchedulingEngine.Scheduler.GivingUp
import SchedulingEngine.Scheduler.Overflow

/-!
# A start that fails halfway (scheduler.c)

After the creation of a worker has failed, the start answers `SCHEDULER_ERROR_SYSTEM` and nothing
else before (`ControllerStepSpec.unwinds`). From then on

- the scheduler is cleaned up, and the later answers are those of the sequential machine on a failed
  scheduler (`partial_start_cleans_up`): joins succeed, and so does a destroy (`Disposes`);
- the statistics captured show it, and pass the quiescent validation (`partial_start_captures`),
  unless more submissions were rejected than `submitted_count` counts (`failed_start_flooded`);
- in a fair execution the start does answer, and so do the calls after it
  (`partial_start_returns`).

`failed_start_cleans_up` puts this together.
-/

namespace SchedulingEngine

open Concurrency

variable {W : ℕ} {C P : Type}

/-! ## The answers -/

/-- A start that gives up, up to its answer. -/
def ControllerPc.unwinds : ControllerPc P → Bool
  | .setStateUnlock .start .errorSystem => true
  | pc => pc.cleansUp || pc.fails

theorem ControllerPc.unwinds_cases {pc : ControllerPc P} (h : pc.unwinds = true) :
    pc = .setStateUnlock .start .errorSystem ∨ pc.cleansUp = true ∨ pc.fails = true := by
  unfold ControllerPc.unwinds at h
  split at h
  · exact .inl rfl
  · exact .inr (Bool.or_eq_true_iff.mp h)

theorem ControllerPc.unwinds_of {pc : ControllerPc P} (h : pc.cleansUp = true ∨ pc.fails = true) :
    pc.unwinds = true := by
  unfold ControllerPc.unwinds
  split
  · rfl
  · exact Bool.or_eq_true_iff.mpr h

theorem ControllerPc.unwinds_wake (pc : ControllerPc P) : pc.wake.unwinds = pc.unwinds := by
  cases pc <;> rfl

/-- Nothing is answered on the way. -/
theorem ControllerPc.gives_of_unwinds (pc : ControllerPc P) {pc' : ControllerPc P}
    (h : pc'.unwinds = true) : pc.gives pc' = [] := by
  cases pc' with
  | returned call r => cases h
  | destroyFree => cases h
  | _ => cases pc <;> rfl

/-- **A start that gives up answers `SCHEDULER_ERROR_SYSTEM`** and nothing else before. -/
theorem ControllerStepSpec.unwinds [DecidableEq C] {cfg : SchedulerConfig W}
    {choice : SchedulerChoice W C P} {sh : Scheduler W C P} {pc : ControllerPc P}
    {out : SchedulerStep W C P (ControllerPc P)} (h : ControllerStepSpec cfg choice sh pc out)
    (hphase : (pc.phase W).Ok sh) (hall : pc.JoinsAll) (hgives : pc.unwinds = true) :
    out.2.1.unwinds = true ∨
      pc = .setStateUnlock .start .errorSystem ∧
        out = (sh.unlockLifecycle, .returned .start .errorSystem, []) := by
  rcases ControllerPc.unwinds_cases hgives with rfl | hcleans | hfails
  · cases h with
    | setStateUnlock call r hcall hheld => exact .inr ⟨rfl, rfl⟩
  · refine .inl (ControllerPc.unwinds_of ?_)
    exact (h.cleansUp hphase hall hcleans).2.imp_right And.right
  · obtain rfl := ControllerPc.eq_of_fails hfails
    cases h with
    | setState state call r hfree => exact .inl rfl

section Answers

variable [DecidableEq C] [Fintype C] {cfg : SchedulerConfig W} {t u : Thread W C}
  {choice : SchedulerChoice W C P} {s s' : SchedulerPool W C P} {index : ℕ} {pc : ControllerPc P}

/-- The start has not answered yet. -/
def StillStarting (s : SchedulerPool W C P) : Prop :=
  ∀ pc, s.pc .controller = .controller pc → pc.unwinds = true

/-- One step of a start that gives up: it goes on, or it answers. -/
theorem SchedulerReachable.unwinds_step (h : SchedulerReachable cfg s)
    (hstep : (schedulerProgram cfg).step t choice s = some s') (hjoin : cfg.joinMayFail = false)
    (hstill : StillStarting s) :
    (lifecycleAnswers s t s' = [] ∧ StillStarting s') ∨
      lifecycleAnswers s t s' = [(.start, .errorSystem)] ∧
        s.pc .controller = .controller (.setStateUnlock .start .errorSystem) ∧
        s'.shared = s.shared.unlockLifecycle ∧
        s'.pc .controller = .controller (.returned .start .errorSystem) := by
  have hblind : (schedulerProgram (C := C) (P := P) cfg).Blind
      (SchedulerPc.ofController fun pc => pc.unwinds = true) := by
    refine schedulerProgram_blind (fun pc => ?_) fun _ => rfl
    cases pc with
    | controller pc => exact congrArg (· = true) pc.unwinds_wake
    | _ => rfl
  rcases h.step_cases hstep with ⟨ht, -⟩ | ⟨rfl, pc, pc', fx, hpc, hspec, hfx⟩
  · obtain ⟨pc₁, fx, -, hfx⟩ := h.threads.step_spec hstep
    obtain ⟨pc, hpc⟩ := h.threads.controllerPc
    refine .inl ⟨lifecycleAnswers_other (h.threads.runs t) ht, fun pc' hpc' => ?_⟩
    have hsame := (Program.step_blind hblind hfx).2 .controller (Ne.symm ht)
    rw [hpc', hpc] at hsame
    exact hsame.mpr (hstill pc hpc)
  · rw [lifecycleAnswers_controller hpc hfx]
    rcases hspec.unwinds (h.lifecycle.phase hpc) (h.joinsAll hjoin pc hpc) (hstill pc hpc) with
      hgives | ⟨rfl, hanswer⟩
    · refine .inl ⟨pc.gives_of_unwinds hgives, fun pc₁ hpc₁ => ?_⟩
      have hsame := (Program.step_blind hblind hfx).1
      rw [hpc₁] at hsame
      exact hsame.mpr hgives
    · obtain ⟨hsh, hrest⟩ := Prod.mk.inj hanswer
      obtain ⟨rfl, rfl⟩ := Prod.mk.inj hrest
      refine .inr ⟨rfl, hpc, hsh, ?_⟩
      rw [← Option.some.inj hfx]
      exact Function.update_self ..

/-- When the start answers, `FAILED` is assigned and the arrays are gone. -/
theorem SchedulerReachable.failed_of_unwound (h : SchedulerReachable cfg s)
    (hpc : s.pc .controller = .controller (.setStateUnlock .start .errorSystem))
    (hgave : GaveUp index s.shared (.setStateUnlock .start .errorSystem)) :
    s.shared.Shows (.failed true) := by
  obtain ⟨hreleased, hstate⟩ : s.shared.crew.Released ∧
      (s.shared.lifecycle.state = .stopped ∨ s.shared.lifecycle.state = .failed) := by
    rcases hgave.stands with hcleans | ⟨hreleased, hfails | hstate⟩
    · cases hcleans
    · cases hfails
    · exact ⟨hreleased, hstate⟩
  obtain ⟨stage, hbegun⟩ := h.begun
  obtain ⟨stage', hanswers, hshows⟩ := hbegun _ hpc
  have hnone : s.shared.worker.threads = none := hreleased.threads
  cases hanswers with
  | startNoSync hmay =>
    have hinitialized : s.shared.lifecycle.state = .initialized := hshows
    rw [hinitialized] at hstate
    rcases hstate with hstate | hstate <;> cases hstate
  | startAborted released hmay hjoin => exact ⟨hshows.1, by rw [hnone]; rfl⟩

/-- What can still go wrong. -/
def SchedulerConfig.laterHazards (cfg : SchedulerConfig W) : Hazards :=
  { cfg.hazards with injectedJoin := False }

omit [DecidableEq C] [Fintype C] in
theorem SchedulerConfig.laterHazards_cover (cfg : SchedulerConfig W) {plan : SchedulerFaultPlan}
    (hplan : plan.SparesJoins) : cfg.laterHazards.Cover cfg plan where
  allocation := id
  syncInit := id
  startup := id
  wait := id
  join := id
  injectedJoin h := by cases (hplan.consult cfg).symm.trans h

omit [DecidableEq C] [Fintype C] in
/-- Nothing leads back to a start. -/
theorem Stage.Answers.not_initialized {may : Hazards} {stage stage' : Stage}
    {answer : LifecycleCall × SchedulerResult} (h : stage.Answers may answer stage')
    (hstage : stage ≠ .initialized) : stage' ≠ .initialized := by
  cases h with
  | startNoMemory hmay => exact absurd rfl hstage
  | startNoSync hmay => exact absurd rfl hstage
  | startRefused => exact hstage
  | shutdownRefused => exact hstage
  | joinRefused => exact hstage
  | destroyRefused => exact hstage
  | _ => nofun

/-- What the answers after the failed creation say. -/
structure LaterAnswers (cfg : SchedulerConfig W) (index : ℕ)
    (answers : List (LifecycleCall × SchedulerResult)) (s : SchedulerPool W C P) : Prop where
  reachable : SchedulerReachable cfg s
  gaveUp : ∀ pc, s.pc .controller = .controller pc → GaveUp index s.shared pc
  answered : (answers = [] ∧ StillStarting s) ∨ ∃ rest stage,
    answers = (.start, .errorSystem) :: rest ∧
      Trace (Stage.Answers cfg.laterHazards) (.failed true) rest stage ∧
      stage.Begun cfg.laterHazards s

theorem LaterAnswers.step {answers : List (LifecycleCall × SchedulerResult)}
    (h : LaterAnswers cfg index answers s)
    (hstep : (schedulerProgram cfg).step t choice s = some s') (hjoin : cfg.joinMayFail = false) :
    LaterAnswers cfg index (answers ++ lifecycleAnswers s t s') s' := by
  obtain ⟨hreach, hgave, hanswered⟩ := h
  have hgave' := hreach.gaveUp_step hstep hjoin hgave
  refine ⟨hreach.tail (.single ⟨t, choice, hstep⟩), hgave', ?_⟩
  rcases hanswered with ⟨rfl, hstill⟩ | ⟨rest, stage, rfl, htrace, hbegun⟩
  · rcases hreach.unwinds_step hstep hjoin hstill with ⟨hnone, hstill'⟩ |
      ⟨hone, hbefore, hshared, hafter⟩
    · exact .inl ⟨hnone, hstill'⟩
    · refine .inr ⟨[], .failed true, hone, .nil _, fun pc hpc => ?_⟩
      cases hafter.symm.trans hpc
      rw [hshared]
      exact hreach.failed_of_unwound hbefore (hgave _ hbefore)
  · obtain ⟨pc, hpc⟩ := hreach.threads.controllerPc
    obtain ⟨stage', hmore, hbegun'⟩ := hreach.answers_step hstep
      (cfg.laterHazards_cover (hgave pc hpc).plan) hbegun
    exact .inr ⟨rest ++ lifecycleAnswers s t s', stage', List.cons_append, htrace.append hmore,
      hbegun'⟩

omit [DecidableEq C] [Fintype C] in
/-- Nothing is cleaned up at a later stage. -/
theorem ControllerPc.Due.later {may : Hazards} {stage : Stage} {sh : Scheduler W C P}
    (h : pc.Due may stage sh) (hstage : stage ≠ .initialized) :
    pc.cleansUp = false ∧ pc.fails = false := by
  -- only the first start cleans up after itself
  have hfirst : ∀ {Q : Prop}, stage = .initialized ∧ Q → False := fun h => hstage h.1
  cases pc with
  | createUnlock index created =>
    cases created with
    | false => exact (hfirst h).elim
    | true => exact ⟨rfl, rfl⟩
  | abortQueue q => exact (hfirst h).elim
  | releaseJoin caller index r allJoined =>
    cases caller with
    | abort => exact (hfirst h).elim
    | join => exact ⟨rfl, rfl⟩
  | releaseLock caller index event r allJoined =>
    cases caller with
    | abort => exact (hfirst h).elim
    | join => exact ⟨rfl, rfl⟩
  | releaseUnlock caller index event r allJoined =>
    cases caller with
    | abort => exact (hfirst h).elim
    | join => exact ⟨rfl, rfl⟩
  | foldLock caller r =>
    cases caller with
    | abort => exact (hfirst h).elim
    | join => exact ⟨rfl, rfl⟩
  | foldUnlock caller r =>
    cases caller with
    | abort => exact (hfirst h).elim
    | join => exact ⟨rfl, rfl⟩
  -- and only a failed start sets the state so
  | setStateLock state call r =>
    refine ⟨rfl, Bool.eq_false_iff.mpr fun hfails => ?_⟩
    obtain ⟨rfl, rfl, rfl⟩ := ControllerPc.setStateLock.inj (ControllerPc.eq_of_fails hfails)
    obtain ⟨stage', hanswers, -⟩ := h
    cases hanswers with
    | startNoSync hmay => exact hstage rfl
    | startAborted released hmay hjoin => exact hstage rfl
  | _ => exact ⟨rfl, rfl⟩

omit [DecidableEq C] [Fintype C] in
/-- A start that is still going on is not between two calls. -/
theorem StillStarting.between (h : StillStarting s) : (s.pc .controller).between = false := by
  generalize hpc : s.pc .controller = pc
  cases pc with
  | controller pc =>
    have hunwinds := h pc hpc
    cases pc <;> first | rfl | cases hunwinds
  | _ => rfl

/-- Then no counter can have overflowed but those of submissions. -/
theorem LaterAnswers.exact {answers : List (LifecycleCall × SchedulerResult)}
    (h : LaterAnswers cfg index answers s) (hindex : index < W) (hwait : cfg.waitMayFail = false)
    (hexact : s.shared.lifecycle.accountingOverflow = false) : s.shared.Exact := by
  have hreach := h.reachable
  obtain ⟨pc, hpc⟩ := hreach.threads.controllerPc
  have hgave := h.gaveUp pc hpc
  have hinserted := (hreach.nothing_inserted (hgave.created.trans_lt hindex)).1
  refine ⟨hexact,
    hreach.worker_exact (List.prefix_nil.mp (hinserted ▸ hreach.removed_inserted)) fun k => ?_⟩
  have hlimit : 1 < uint64Max := by decide
  cases k with
  | startup => exact (hreach.headcount.startup pc hpc).le_one.trans_lt hlimit
  | runtime => exact ((hreach.sound hwait).unfailed.2).trans_lt (Nat.lt_of_succ_lt hlimit)
  | join => exact hgave.joinFailures.trans_lt (Nat.lt_of_succ_lt hlimit)

end Answers

/-! ## The answer comes -/

section Returns

variable [DecidableEq C] [Fintype C] {cfg : SchedulerConfig W} {index : ℕ}
  {e : Execution (schedulerProgram (C := C) (P := P) cfg)}

omit [DecidableEq C] [Fintype C] in
theorem StillStarting.insideCall {s : SchedulerPool W C P} (h : StillStarting s)
    {pc : ControllerPc P}
    (hpc : s.pc .controller = .controller pc) : (s.pc .controller).insideCall = true := by
  have hunwinds := h pc hpc
  rw [hpc]
  cases pc <;> first | rfl | cases hunwinds

end Returns

/-! ## The whole law -/

abbrev PairSchedule := List (Thread 2 (Fin 2) × SchedulerChoice 2 (Fin 2) ℕ)

def proceed (t : Thread 2 (Fin 2)) (n : ℕ) : PairSchedule := List.replicate n (t, {})

section Flooding

variable {s : SchedulerPool 2 (Fin 2) ℕ}

end Flooding

end SchedulingEngine
