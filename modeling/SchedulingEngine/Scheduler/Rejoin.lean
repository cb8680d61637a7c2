import SchedulingEngine.Scheduler.Joining
import SchedulingEngine.Scheduler.TrueCounts

/-!
# Joining again (scheduler.c)

The events of `release_workers` over whole runs, and the snapshots around the fold.
-/

namespace SchedulingEngine

open Concurrency

variable {W : ℕ} {C P : Type}

/-! ## Runs -/

/-- What the log of the events says of the scheduler. -/
structure JoinInv (es : List ReleaseEvent) (sh : Scheduler W C P) (pc : ControllerPc P) : Prop where
  passages : Passages es sh pc
  unreleased : sh.Unreleased pc → foldCount es = 0
  course : .shuttingDown ∈ sh.history.states → Course es sh pc

theorem ControllerPc.passage_wake (index : ℕ) (pc : ControllerPc P) :
    pc.wake.passage index = pc.passage index := by
  cases pc <;> rfl

theorem ControllerPc.folded_wake (pc : ControllerPc P) : pc.wake.folded = pc.folded := by
  cases pc <;> rfl

theorem ControllerPc.releaseSteps_wake (sh : Scheduler W C P) (pc pc' : ControllerPc P) :
    pc.releaseSteps sh pc'.wake = pc.releaseSteps sh pc' := by
  cases pc' <;> cases pc <;> rfl

section Runs

variable [DecidableEq C] [Fintype C] {cfg : SchedulerConfig W} {t : Thread W C}
  {choice : SchedulerChoice W C P} {s s' : SchedulerPool W C P} {es : List ReleaseEvent}

omit [DecidableEq C] [Fintype C] in
/-- The invariant sees of the scheduler its state, its crew and the count of joined workers. -/
theorem JoinInv.congr {sh sh' : Scheduler W C P} {pc pc' : ControllerPc P} (h : JoinInv es sh pc)
    (hcrew : sh'.crew = sh.crew) (hstate : sh'.lifecycle.state = sh.lifecycle.state)
    (hstates : sh'.history.states = sh.history.states)
    (hjoined : sh'.worker.joinedWorkerCount = sh.worker.joinedWorkerCount)
    (hpassage : ∀ index, pc'.passage index = pc.passage index)
    (hphase : pc'.phase W = pc.phase W) (hfolded : pc'.folded = pc.folded)
    (hrelease : pc'.inRelease = pc.inRelease) : JoinInv es sh' pc' := by
  refine ⟨?_, fun hout => h.unreleased ?_, fun hmem => ?_⟩
  · have hkeep := h.passages.keep hcrew hjoined hpassage
    rwa [List.append_nil] at hkeep
  · rcases hout with hinit | hbare | hsome
    · exact .inl (hstate ▸ hinit)
    · exact .inr (.inl (hphase ▸ hbare))
    · exact .inr (.inr ((congrArg (Option.isSome ∘ Crew.threads) hcrew).symm.trans hsome))
  · rw [← List.append_nil es]
    exact (h.course (hstates ▸ hmem)).keep hcrew hstate hfolded (fun hnot => hrelease ▸ hnot) rfl

omit [DecidableEq C] [Fintype C] in
theorem JoinInv.wake (es : List ReleaseEvent) (sh : Scheduler W C P) (pc : ControllerPc P) :
    JoinInv es sh pc.wake ↔ JoinInv es sh pc := by
  have hphase : pc.wake.phase W = pc.phase W := by cases pc <;> rfl
  constructor
  · exact fun h => h.congr rfl rfl rfl rfl (fun index => (pc.passage_wake index).symm) hphase.symm
      pc.folded_wake.symm pc.inRelease_wake.symm
  · exact fun h => h.congr rfl rfl rfl rfl (fun index => pc.passage_wake index) hphase
      pc.folded_wake pc.inRelease_wake

theorem SchedulerReachable.outstanding (h : SchedulerReachable cfg s) :
    ∀ pc, s.pc .controller = .controller pc → pc.Outstanding s.shared.crew := by
  refine h.controller_invariant (fun sh pc => pc.Outstanding sh.crew)
    (fun sh pc => pc.outstanding_wake sh.crew) (fun _ => trivial) (fun hframe _ hout => ?_)
    fun hu hpc hspec _ hout => hspec.outstanding (hu.lifecycle.phase hpc) hout
  rwa [hframe.crew]

theorem SchedulerReachable.answers (h : SchedulerReachable cfg s) :
    ∀ pc, s.pc .controller = .controller pc →
      pc.Answers cfg.waitMayFail s.shared.lifecycle.state := by
  refine h.controller_invariant (fun sh pc => pc.Answers cfg.waitMayFail sh.lifecycle.state)
    (fun sh pc => pc.answers_wake _ _) (fun _ => trivial) (fun hframe _ hans => ?_)
    fun hu hpc hspec _ hans => hspec.answers (hu.lifecycle.phase hpc) hans
  rwa [hframe.state]

theorem SchedulerReachable.fresh (h : SchedulerReachable cfg s) :
    ∀ pc, s.pc .controller = .controller pc → s.shared.Fresh pc := by
  refine h.controller_invariant Scheduler.Fresh (fun sh pc => ?_) (fun _ _ _ i hi => ?_)
    (fun hframe _ hfresh => ?_) fun hu hpc hspec _ hfresh => hspec.fresh
    (hu.lifecycle.phase hpc) hfresh
  · unfold Scheduler.Fresh
    rw [pc.inRelease_wake]
  · exact absurd hi (Nat.not_lt_zero _)
  · unfold Scheduler.Fresh
    have hstarted : _ = _ := congrArg Crew.startedWorkerCount hframe.crew
    dsimp only [Scheduler.crew] at hstarted
    rw [hframe.state, hframe.crew, hstarted]
    exact hfresh

omit [DecidableEq C] [Fintype C] in
theorem releaseEvents_other (hruns : t.Runs (s.pc t)) (ht : t ≠ .controller) :
    releaseEvents s t s' = [] := by
  unfold releaseEvents
  generalize s.pc t = pc at hruns
  cases pc with
  | controller pc =>
    cases t with
    | controller => exact absurd rfl ht
    | _ => exact hruns.elim
  | _ => rfl

theorem releaseEvents_controller {pc pc' : ControllerPc P} {fx : List (SchedulerEffect W C)}
    (hpc : s.pc .controller = .controller pc)
    (hfx : (schedulerProgram cfg).applyEffects
      (Function.update s.pc .controller (.controller pc')) fx = some s'.pc) :
    releaseEvents s .controller s' = pc.releaseSteps s.shared pc' := by
  have hblind : (schedulerProgram (C := C) (P := P) cfg).Blind
      ((s.pc .controller).releaseSteps s.shared) := by
    rw [hpc]
    refine schedulerProgram_blind (fun pc' => ?_) fun _ => rfl
    cases pc' with
    | controller pc' => exact ControllerPc.releaseSteps_wake s.shared pc pc'
    | _ => rfl
  have hsame := (Program.step_blind hblind hfx).1
  rw [hpc] at hsame
  unfold releaseEvents
  rw [hpc]
  exact hsame

omit [Fintype C] in
theorem joinInv_blind (es : List ReleaseEvent) (sh : Scheduler W C P) :
    (schedulerProgram (C := C) (P := P) cfg).Blind fun
      | .controller pc => JoinInv es sh pc
      | _ => True := by
  refine schedulerProgram_blind (fun pc => ?_) fun _ => rfl
  cases pc with
  | controller pc => exact propext (JoinInv.wake es sh pc)
  | _ => rfl

/-- **One step keeps the log of the releases true.** -/
theorem joinInv_step (hreach : SchedulerReachable cfg s)
    (hstep : (schedulerProgram cfg).step t choice s = some s')
    (h : ∀ pc, s.pc .controller = .controller pc → JoinInv es s.shared pc) :
    ∀ pc, s'.pc .controller = .controller pc →
      JoinInv (es ++ releaseEvents s t s') s'.shared pc := by
  intro pc' hpc'
  obtain ⟨pc, hpc⟩ := hreach.threads.controllerPc
  rcases hreach.step_cases hstep with ⟨ht, hframe⟩ | ⟨rfl, pc₀, pc₁, fx, hpc₀, hspec, hfx⟩
  · obtain ⟨pc₁, fx, hspec, hfx⟩ := hreach.threads.step_spec hstep
    rw [releaseEvents_other (hreach.threads.runs t) ht, List.append_nil]
    have hafter : JoinInv es s'.shared pc :=
      (h pc hpc).congr hframe.crew hframe.state (hspec.states ht) (hspec.ledgerFrame ht).joined
        (fun _ => rfl) rfl rfl rfl
    have hsame := (Program.step_blind (joinInv_blind es s'.shared) hfx).2 .controller (Ne.symm ht)
    rw [hpc', hpc] at hsame
    exact hsame.mpr hafter
  · have hinv := h pc₀ hpc₀
    have hphase := hreach.lifecycle.phase hpc₀
    have hgone := hreach.lifecycle.threads .controller
    rw [hpc₀] at hgone
    have hafter : JoinInv (es ++ pc₀.releaseSteps s.shared pc₁) s'.shared pc₁ :=
      ⟨hspec.passages hphase hgone.2 (hreach.headcount.joined pc₀ hpc₀).handle hinv.passages,
        hspec.unfolded hphase hinv.unreleased,
        hspec.course hphase (hreach.outstanding pc₀ hpc₀) hinv.unreleased hinv.course⟩
    rw [releaseEvents_controller hpc₀ hfx]
    have hsame := (Program.step_blind
      (joinInv_blind (es ++ pc₀.releaseSteps s.shared pc₁) s'.shared) hfx).1
    rw [hpc'] at hsame
    exact hsame.mpr hafter

/-- The workers whose native join succeeded have finished, with OK if the result was accepted. -/
def JoinsFinished (es : List ReleaseEvent) (s : SchedulerPool W C P) : Prop :=
  ∀ (i : Fin W) outcome, .nativeJoined i outcome ∈ es →
    ∃ r, s.pc (.worker i) = .worker i (.finished r) ∧ (outcome = .accepted → r = .ok) ∧
      (outcome = .rejected → r ≠ .ok)

/-- A finished worker keeps its result. -/
theorem SchedulerReachable.finished_step (h : SchedulerReachable cfg s)
    (hstep : (schedulerProgram cfg).step t choice s = some s') {i : Fin W} {r : WorkerResult}
    (hfinished : s.pc (.worker i) = .worker i (.finished r)) :
    s'.pc (.worker i) = .worker i (.finished r) := by
  obtain ⟨pc, fx, hspec, hfx⟩ := h.threads.step_spec hstep
  have ht : (Thread.worker i : Thread W C) ≠ t := by
    rintro rfl
    have hnot := hspec.not_finished
    rw [hfinished] at hnot
    cases hnot
  have hsame := (Program.step_blind schedulerFinished_blind hfx).2 _ ht
  have hreach' : SchedulerReachable cfg s' := h.tail (.single ⟨_, _, hstep⟩)
  obtain ⟨wpc, hwpc⟩ := hreach'.threads.workerPc i
  rw [hfinished, hwpc] at hsame
  rw [hwpc]
  cases wpc with
  | finished r' => cases hsame; rfl
  | _ => cases hsame

theorem joinsFinished_step (hreach : SchedulerReachable cfg s)
    (hstep : (schedulerProgram cfg).step t choice s = some s') (h : JoinsFinished es s) :
    JoinsFinished (es ++ releaseEvents s t s') s' := by
  intro i outcome hmem
  rcases List.mem_append.mp hmem with hmem | hmem
  · obtain ⟨r, hfinished, hok, hfailed⟩ := h i outcome hmem
    exact ⟨r, hreach.finished_step hstep hfinished, hok, hfailed⟩
  · rcases hreach.step_cases hstep with ⟨ht, -⟩ | ⟨rfl, pc, pc', fx, hpc, hspec, hfx⟩
    · rw [releaseEvents_other (hreach.threads.runs t) ht] at hmem
      cases hmem
    · rw [releaseEvents_controller hpc hfx] at hmem
      obtain ⟨r, hawait, hok, hfailed⟩ := hspec.joined_awaits hmem
      refine ⟨r, hreach.finished_step hstep ?_, hok, hfailed⟩
      have hresult := Program.applyEffects_await schedulerFinished_blind hfx hawait
      have hne : (Thread.worker i : Thread W C) ≠ .controller := nofun
      rw [Function.update_of_ne hne] at hresult
      obtain ⟨wpc, hwpc⟩ := hreach.threads.workerPc i
      rw [hwpc] at hresult ⊢
      cases wpc with
      | finished r' => cases hresult; rfl
      | _ => cases hresult

/-- The events of `release_workers` in a run. -/
def releaseLog (cfg : SchedulerConfig W) (ls : List (Thread W C × SchedulerChoice W C P))
    (s : SchedulerPool W C P) : List ReleaseEvent :=
  (schedulerProgram cfg).log releaseEvents ls s

/-- **The log of the releases is true after every run.** -/
theorem joinInv_of_run {queue : TaskQueue P}
    (hinit : taskQueueInit cfg.capacity true = (.ok, some queue)) (hW : 0 < W)
    {ls : List (Thread W C × SchedulerChoice W C P)}
    (hrun : (schedulerProgram cfg).run ls (schedulerInitial queue) = some s) :
    (∀ pc, s.pc .controller = .controller pc →
      JoinInv (releaseLog cfg ls (schedulerInitial queue)) s.shared pc) ∧
    JoinsFinished (releaseLog cfg ls (schedulerInitial queue)) s := by
  have hlast : SchedulerReachable cfg s ∧ _ := Program.log_of_steps releaseEvents
    (J := fun noted s => SchedulerReachable cfg s ∧
      (∀ pc, s.pc .controller = .controller pc → JoinInv noted s.shared pc) ∧ JoinsFinished noted s)
    (fun hJ hstep => ⟨hJ.1.tail (.single ⟨_, _, hstep⟩), joinInv_step hJ.1 hstep hJ.2.1,
      joinsFinished_step hJ.1 hstep hJ.2.2⟩)
    ⟨⟨hW, queue, hinit, .refl⟩, ?_, nofun⟩ hrun
  · exact hlast.2
  · rintro pc ⟨⟩
    refine ⟨⟨?_, ?_, fun _ _ => rfl, (Finset.sum_const_zero).symm⟩, fun _ => rfl, ?_⟩
    · rintro i ⟨-, threads, hthreads, -⟩
      cases hthreads
    · exact fun i hi => absurd hi (Nat.not_lt_zero _)
    · intro hmem
      cases hmem with
      | tail _ hmem => cases hmem

end Runs

/-! ## Snapshots of counts that stand still -/

theorem Tally.Le.antisymm {n n' : Tally W} (h : n.Le n') (h' : n'.Le n) : n = n' := by
  obtain ⟨submissions, failures, stages⟩ := n
  obtain ⟨submissions', failures', stages'⟩ := n'
  obtain rfl : submissions = submissions' :=
    funext fun k => Nat.le_antisymm (h.submissions k) (h'.submissions k)
  obtain rfl : failures = failures' :=
    funext fun k => Nat.le_antisymm (h.failures k) (h'.failures k)
  obtain rfl : stages = stages' :=
    funext₂ fun i k => Nat.le_antisymm (h.stages i k) (h'.stages i k)
  rfl

theorem Tally.read_self (n : Tally W) (e : AccountEvent W C) : n.read n e = n := by
  cases e with
  | loads u i field =>
    have hsame : (fun k => if k.field = field then n.stages i k else n.stages i k) = n.stages i :=
      funext fun k => ite_self _
    show { n with stages := Function.update n.stages i _ } = n
    rw [hsame, Function.update_eq_self]
  | _ => rfl

theorem Tally.readFlags_self (n : Tally W) (e : AccountEvent W C) :
    Tally.readFlags n.stages n e = n.stages := by
  cases e with
  | loads u i field =>
    cases field with
    | accountingOverflow => exact Function.update_eq_self _ _
    | _ => rfl
  | _ => rfl

section Still

variable [DecidableEq C] [Fintype C] {cfg : SchedulerConfig W} {t u v : Thread W C}
  {choice : SchedulerChoice W C P} {s s' : SchedulerPool W C P} {b : Logbook W C} {n : Tally W}

/-- What a thread has copied of the counts as they are. -/
def Logbook.Current (b : Logbook W C) (n : Tally W) (v : Thread W C) : Prop :=
  b.copied v = n ∧ b.flagged v = n.stages

omit [Fintype C] in
/-- While the counts stand still, reads change nothing. -/
theorem Logbook.Current.foldl {es : List (AccountEvent W C)} (h : b.Current n v) (hnow : b.now = n)
    (hstill : es.foldl Tally.record n = n) : (es.foldl Logbook.record b).Current n v := by
  induction es generalizing b with
  | nil => exact h
  | cons e es ih =>
    have hle : (n.record e).Le ((e :: es).foldl Tally.record n) := Tally.le_foldl es _
    rw [hstill] at hle
    have hfirst : n.record e = n := hle.antisymm (n.le_record e)
    rw [List.foldl_cons, hfirst] at hstill
    obtain ⟨hcopied, hflagged⟩ := h
    refine ih ⟨?_, ?_⟩ ?_ hstill
    · show (if e.reader = some v then (b.copied v).read b.now e else b.copied v) = n
      rw [hcopied, hnow, Tally.read_self, ite_self]
    · show (if e.reader = some v then Tally.readFlags (b.flagged v) b.now e else b.flagged v) = _
      rw [hflagged, hnow, Tally.readFlags_self, ite_self]
    · exact (congrArg (Tally.record · e) hnow).trans hfirst

/-- A capture begins with its own copy of the lifecycle domain. -/
theorem SchedulerReachable.capture_begins (h : SchedulerReachable cfg s)
    (hstep : (schedulerProgram cfg).step t choice s = some s')
    (hbefore : (s.pc v).toCall.capturing = false) (hafter : (s'.pc v).toCall.capturing = true) :
    t = v ∧ (s.pc v).toCall = .captureLifecycleLock := by
  refine h.call_step v (A := fun pc => pc.capturing = false)
    (B := fun pc => pc.capturing = true → t = v ∧ (s.pc v).toCall = .captureLifecycleLock)
    (fun pc => ?_) hstep nofun (fun _ pc hpc hcapturing => nomatch hpc.symm.trans hcapturing) ?_
    hbefore hafter
  · rw [show pc.wake.capturing = pc.capturing by cases pc <;> rfl]
  · intro out ht hcall hout hcapturing
    refine ⟨ht, ?_⟩
    generalize (s.pc v).toCall = pc at hcall hbefore
    cases hcall with
    | captureLifecycle hfree => rfl
    | enqueue kind task hq => cases hq <;> cases hcapturing
    | _ => first | (cases hbefore; done) | cases hcapturing

/-- A capture that begins while the counts stand still copies them. -/
theorem Logbook.current_step (hreach : SchedulerReachable cfg s)
    (hstep : (schedulerProgram cfg).step t choice s = some s') (hnow : b.now = n)
    (hstill : (accountEvents s t s').foldl Tally.record n = n)
    (hv : (s.pc v).toCall.capturing = true → b.Current n v)
    (hafter : (s'.pc v).toCall.capturing = true) :
    ((accountEvents s t s').foldl Logbook.record b).Current n v := by
  cases hbefore : (s.pc v).toCall.capturing with
  | true => exact (hv hbefore).foldl hnow hstill
  | false =>
    obtain ⟨rfl, hpc⟩ := hreach.capture_begins hstep hbefore hafter
    have hevents : accountEvents s t s' = [.copiesLifecycle t] := by
      rw [accountEvents_toCall (hreach.threads.runs t) (by rw [hpc]; nofun), hpc]
      rfl
    rw [hevents]
    refine ⟨?_, ?_⟩
    · show (if some t = some t then b.now else _) = n
      rw [if_pos rfl, hnow]
    · show (if some t = some t then b.now.stages else _) = n.stages
      rw [if_pos rfl, hnow]

/-- The same over a run. -/
theorem Logbook.current_run (hreach : SchedulerReachable cfg s)
    {ls : List (Thread W C × SchedulerChoice W C P)}
    (hrun : (schedulerProgram cfg).run ls s = some s') (hnow : b.now = n)
    (hstill : ((schedulerProgram cfg).log accountEvents ls s).foldl Tally.record n = n)
    (hv : (s.pc v).toCall.capturing = true → b.Current n v)
    (hafter : (s'.pc v).toCall.capturing = true) :
    (((schedulerProgram cfg).log accountEvents ls s).foldl Logbook.record b).Current n v := by
  induction ls generalizing s b with
  | nil =>
    cases hrun
    exact hv hafter
  | cons l ls ih =>
    obtain ⟨s₁, hstep, hrun⟩ := Option.bind_eq_some_iff.mp hrun
    simp only [Program.log, hstep, Option.elim_some, List.foldl_append] at hstill ⊢
    have hle := Tally.le_foldl ((schedulerProgram cfg).log accountEvents ls s₁)
      ((accountEvents s l.1 s₁).foldl Tally.record n)
    rw [hstill] at hle
    have hfirst : (accountEvents s l.1 s₁).foldl Tally.record n = n :=
      hle.antisymm (Tally.le_foldl _ _)
    rw [hfirst] at hstill
    refine ih (hreach.tail (.single ⟨_, _, hstep⟩)) hrun ?_ hstill ?_
    · rw [Logbook.now_foldl, hnow, hfirst]
    · exact fun hcapturing => Logbook.current_step hreach hstep hnow hfirst hv hcapturing

omit [DecidableEq C] [Fintype C] in
/-- A worker that has a Task has not finished. -/
theorem unfed_of_finished (hruns : t.Runs (s.pc t))
    (hfinished : ∀ i, (s.pc (.worker i)).isFinished = true) : (s.pc t).fed = false := by
  cases t with
  | worker i =>
    have hdone := hfinished i
    generalize s.pc (.worker i) = pc at hruns hdone
    cases pc with
    | worker j pc =>
      cases pc with
      | finished => rfl
      | _ => cases hdone
    | _ => exact hruns.elim
  | client c =>
    generalize s.pc (.client c) = pc at hruns
    cases pc with
    | call pc => rfl
    | _ => exact hruns.elim
  | controller =>
    generalize s.pc .controller = pc at hruns
    cases pc with
    | controller pc => rfl
    | _ => exact hruns.elim

theorem stages_still (hreach : SchedulerReachable cfg s)
    (hfinished : ∀ i, (s.pc (.worker i)).isFinished = true) (m : Tally W)
    {ls : List (Thread W C × SchedulerChoice W C P)}
    (hrun : (schedulerProgram cfg).run ls s = some s') :
    (((schedulerProgram cfg).log accountEvents ls s).foldl Tally.record m).stages = m.stages := by
  refine Tally.stages_foldl ?_ m
  refine (Program.log_of_steps accountEvents
    (J := fun noted s => SchedulerReachable cfg s ∧
      (∀ i, (s.pc (.worker i)).isFinished = true) ∧ ∀ e ∈ noted, e.isStage = false)
    (fun {v v' t choice noted} hJ hstep => ?_) ⟨hreach, hfinished, nofun⟩ hrun).2.2
  obtain ⟨hv, hdone, hnoted⟩ := hJ
  refine ⟨hv.tail (.single ⟨_, _, hstep⟩), fun i => finished_stays hv.threads hstep (hdone i), ?_⟩
  intro e he
  rcases List.mem_append.mp he with he | he
  · exact hnoted e he
  · exact accountEvents_unfed (unfed_of_finished (hv.threads.runs _) hdone) he

/-- **Two snapshots of the same counts say the same**, whether the slots were folded between
them or not. -/
theorem SchedulerSnapshot.Reports.agree {a a' : SchedulerSnapshot}
    {flagged : Fin W → WorkerCount → ℕ}
    (h : a.Reports n flagged) (h' : a'.Reports n flagged) :
    (∀ k : WorkerCount, k.captured a = k.captured a') ∧
      a.overflowDetected = a'.overflowDetected := by
  constructor
  · intro k
    rw [h.counts k, h'.counts k]
  · rw [Bool.eq_iff_iff, h.overflow, h'.overflow]

end Still

/-! ## Joins -/

/-- **What holds of the joins of a scheduler that was shut down**, with `es` what
`release_workers` did so far.

- `once`, `waited`: a native join succeeds at most once for a worker, after the worker has
  finished; a handle is destroyed at most once and only after that, and the worker is counted
  at most once and only if its result was accepted.
- `outstanding`, `answered`: while a native join is outstanding the arrays stay, nothing is
  folded, and a join ends in `FAILED`.
- `folded`, `between`: the slots are folded at most once, after the last native join and in the
  call that made it, which moves to `STOPPED`.
- `retry`: from `FAILED` a join goes on to `release_workers`. -/
structure Rejoins [DecidableEq C] [Fintype C] (cfg : SchedulerConfig W) (es : List ReleaseEvent)
    (s : SchedulerPool W C P) : Prop where
  once : ∀ i : Fin W, (recordOf es i).joined ≤ 1 ∧
    (recordOf es i).destroyed ≤ (recordOf es i).joined ∧
    (recordOf es i).accepted ≤ (recordOf es i).joined ∧
    (recordOf es i).counted ≤ (recordOf es i).accepted
  waited : JoinsFinished es s
  handles : ∀ threads, s.shared.worker.threads = some threads →
    ∀ i : Fin W, threads i = true ↔ (recordOf es i).destroyed = 0
  counted : s.shared.worker.joinedWorkerCount = ∑ i : Fin W, (recordOf es i).counted
  outstanding : ∀ i : Fin W, (recordOf es i).joined = 0 →
    s.shared.worker.threads.isSome = true ∧ s.shared.worker.workerContexts.isSome = true ∧
      foldCount es = 0 ∧ (∀ k : WorkerCount, k.folded s.shared.worker = 0) ∧
      s.shared.lifecycle.state ≠ .stopped
  answered : ∀ r, s.pc .controller = .controller (.returned .join r) → cfg.waitMayFail = false →
    r ≠ .errorInvalidArgument →
    ((∃ i : Fin W, (recordOf es i).joined = 0) →
      s.shared.lifecycle.state = .failed ∧ r = .errorSystem) ∧
    ((∀ i : Fin W, (recordOf es i).joined = 1) → s.shared.lifecycle.state = .stopped)
  folded : foldCount es ≤ 1 ∧ (foldCount es = 1 ↔ s.shared.worker.workerContexts = none) ∧
    (foldCount es = 1 → ∀ i : Fin W, (recordOf es i).joined = 1 ∧ (recordOf es i).destroyed = 1 ∧
      (recordOf es i).counted = (recordOf es i).accepted)
  between : ∀ pc, s.pc .controller = .controller pc → pc.inRelease = false →
    ((∀ i : Fin W, (recordOf es i).joined = 1) ↔ s.shared.lifecycle.state = .stopped) ∧
    (foldCount es = 1 ↔ s.shared.lifecycle.state = .stopped) ∧
    s.shared.worker.joinedWorkerCount = ∑ i : Fin W, (recordOf es i).accepted
  retry : s.shared.lifecycle.state = .failed → s.pc .controller = .controller .joinLock →
    s.shared.lifecycle.mutex = none → ∀ choice, ∃ s',
      (schedulerProgram cfg).step .controller choice s = some s' ∧
      s'.pc .controller = .controller (.drainUnlock .join true)

theorem ControllerPc.passage_bounds (index : ℕ) (pc : ControllerPc P) :
    (pc.passage index).joined ≤ 1 ∧ (pc.passage index).destroyed = 0 ∧
      (pc.passage index).accepted ≤ (pc.passage index).joined ∧
      (pc.passage index).counted ≤ (pc.passage index).accepted := by
  unfold ControllerPc.passage
  split
  · split <;> simp
  · split <;> simp
  · split <;> simp
  · split <;> simp
  · simp

theorem ControllerPc.folded_inRelease {pc : ControllerPc P} (h : pc.folded = true) :
    pc.inRelease = true := by
  unfold ControllerPc.folded at h
  split at h
  · rfl
  · rfl
  · cases h

theorem ControllerPc.passage_outside {pc : ControllerPc P} (h : pc.inRelease = false) (index : ℕ) :
    pc.passage index = {} := by
  cases pc with
  | releaseLock caller i event result allJoined => cases h
  | releaseUnlock caller i event result allJoined => cases h
  | _ => rfl

section Joins

variable [DecidableEq C] [Fintype C] {cfg : SchedulerConfig W} {s : SchedulerPool W C P}
  {es : List ReleaseEvent} {pc : ControllerPc P}

omit [DecidableEq C] [Fintype C] in
/-- A worker has its handle, or everything behind it. -/
theorem JoinInv.record {sh : Scheduler W C P} (h : JoinInv es sh pc)
    (hmem : .shuttingDown ∈ sh.history.states) (i : Fin W) :
    (sh.crew.Holds i ∧ recordOf es i = pc.passage i) ∨
      (¬sh.crew.Holds i ∧ (recordOf es i).Complete) := by
  by_cases hi : sh.crew.Holds i
  · exact .inl ⟨hi, h.passages.held i hi⟩
  · exact .inr ⟨hi, h.passages.gone i (i.isLt.trans_eq (h.course hmem).created.symm) hi⟩

omit [DecidableEq C] [Fintype C] in
theorem Crew.Holds.threads {sh : Scheduler W C P} {i : Fin W} (h : sh.crew.Holds i) :
    sh.worker.threads.isSome = true := by
  obtain ⟨-, threads, hthreads, -⟩ := h
  rw [show sh.worker.threads = _ from hthreads]
  rfl

omit [DecidableEq C] [Fintype C] in
/-- A worker whose native join is outstanding has its handle. -/
theorem JoinInv.holds {sh : Scheduler W C P} (h : JoinInv es sh pc)
    (hmem : .shuttingDown ∈ sh.history.states) {i : Fin W} (hi : (recordOf es i).joined = 0) :
    sh.crew.Holds i := by
  rcases h.record hmem i with ⟨hheld, -⟩ | ⟨-, hjoined, -⟩
  · exact hheld
  · cases hi.symm.trans hjoined

omit [DecidableEq C] [Fintype C] in
/-- Without the array of the handles every worker has everything behind it. -/
theorem JoinInv.complete {sh : Scheduler W C P} (h : JoinInv es sh pc)
    (hmem : .shuttingDown ∈ sh.history.states) (hnone : sh.worker.threads = none) (i : Fin W) :
    (recordOf es i).Complete := by
  rcases h.record hmem i with ⟨hheld, -⟩ | ⟨-, hcomplete⟩
  · have hsome := hheld.threads
    rw [hnone] at hsome
    cases hsome
  · exact hcomplete

/-- Outside of `release_workers` a handle is left unless the state is `STOPPED`. -/
theorem SchedulerReachable.left_between (h : SchedulerReachable cfg s) (hW : 0 < W)
    (hpc : s.pc .controller = .controller pc) (hinv : JoinInv es s.shared pc)
    (hmem : .shuttingDown ∈ s.shared.history.states) (hrelease : pc.inRelease = false)
    (hstate : s.shared.lifecycle.state ≠ .stopped) : ∃ i, s.shared.crew.Holds i := by
  have hc := hinv.course hmem
  rcases hc.state with hshutting | hfailed | hstopped
  · have hnone : s.shared.worker.threads ≠ none := by
      rw [ne_eq, hc.gone]
      rintro (hstopped | hfolded)
      · exact hstate hstopped
      · cases (ControllerPc.folded_inRelease hfolded).symm.trans hrelease
    have harrays := (h.lifecycle.phase hpc).arrays
    have hstarted := (h.lifecycle.phase hpc).started_eq
      (harrays.trans (Option.isSome_iff_ne_none.mpr hnone))
    refine ⟨⟨0, hW⟩, h.fresh pc hpc (by rw [hshutting]; nofun) hrelease _ ?_⟩
    rw [hstarted, hc.created]
    exact hW
  · exact hc.left hfailed hrelease
  · exact absurd hstopped hstate

/-- Outside of `release_workers` every native join has succeeded if and only if the state is
`STOPPED`. -/
theorem SchedulerReachable.joined_between (h : SchedulerReachable cfg s) (hW : 0 < W)
    (hpc : s.pc .controller = .controller pc) (hinv : JoinInv es s.shared pc)
    (hmem : .shuttingDown ∈ s.shared.history.states) (hrelease : pc.inRelease = false) :
    (∀ i : Fin W, (recordOf es i).joined = 1) ↔ s.shared.lifecycle.state = .stopped := by
  constructor
  · intro hall
    by_contra hstate
    obtain ⟨i, hheld⟩ := h.left_between hW hpc hinv hmem hrelease hstate
    have hone := hall i
    rw [hinv.passages.held i hheld, ControllerPc.passage_outside hrelease] at hone
    cases hone
  · exact fun hstopped i => (hinv.complete hmem ((hinv.course hmem).gone.mpr (.inl hstopped)) i).1

/-- From `FAILED` a join finds nobody registered, and goes on. -/
theorem SchedulerReachable.join_retries (h : SchedulerReachable cfg s)
    (hfailed : s.shared.lifecycle.state = .failed)
    (hpc : s.pc .controller = .controller .joinLock) (hfree : s.shared.lifecycle.mutex = none)
    (choice : SchedulerChoice W C P) :
    ∃ s', (schedulerProgram cfg).step .controller choice s = some s' ∧
      s'.pc .controller = .controller (.drainUnlock .join true) := by
  have hquiet : s.shared.lifecycle.activeSubmitterCount = 0 :=
    (Scheduler.Settled.of_state (h.lifecycle.phase hpc) hfailed).2.2.2
  have hact : (schedulerProgram cfg).act .controller choice s.shared (s.pc .controller)
      = some (s.shared.lockLifecycle .controller, .controller (.drainUnlock .join true), []) := by
    rw [hpc]
    show (controllerAct cfg choice s.shared .joinLock).map _ = _
    simp only [controllerAct, hfree, hfailed, drainTest, hquiet, ne_eq, not_true_eq_false,
      ↓reduceIte, Option.map_some]
  refine ⟨⟨s.shared.lockLifecycle .controller, Function.update s.pc .controller _⟩,
    Program.step_eq_some.mpr ⟨_, _, hact, rfl⟩, by simp⟩

/-- **The joins of a scheduler that was shut down.** -/
theorem SchedulerReachable.rejoins (h : SchedulerReachable cfg s) (hW : 0 < W)
    (hpc : s.pc .controller = .controller pc) (hinv : JoinInv es s.shared pc)
    (hfinished : JoinsFinished es s) {n : Tally W} (hkept : n.Kept s.shared.books)
    (hmem : .shuttingDown ∈ s.shared.history.states) : Rejoins cfg es s := by
  have hphase := h.lifecycle.phase hpc
  have hc := hinv.course hmem
  have hrecord := hinv.record hmem
  have hcomplete := hinv.complete hmem
  have harrays : s.shared.worker.workerContexts = none ↔ s.shared.worker.threads = none := by
    rw [← Option.isNone_iff_eq_none, ← Option.isNone_iff_eq_none, ← Option.not_isSome,
      ← Option.not_isSome, hphase.arrays]
  have hunreleased : s.shared.worker.threads ≠ none → foldCount es = 0 :=
    fun hsome => hinv.unreleased (.inr (.inr (Option.isSome_iff_ne_none.mpr hsome)))
  -- the slots are folded when the handles are freed, and only then
  have hfolds : foldCount es = 1 ↔ s.shared.worker.threads = none := by
    constructor
    · intro hone
      by_contra hsome
      cases hone.symm.trans (hunreleased hsome)
    · exact hc.folds
  refine
    { once := fun i => ?_
      waited := hfinished
      handles := fun threads hthreads i => ?_
      counted := hinv.passages.counted
      outstanding := fun i hi => ?_
      answered := fun r hreturned hwait hnull => ?_
      folded := ⟨?_, hfolds.trans harrays.symm, fun hone i => ?_⟩
      between := fun pc' hpc' hrelease => ?_
      retry := h.join_retries }
  · rcases hrecord i with ⟨-, hr⟩ | ⟨-, hjoined, haccepted, hcounted, hdestroyed⟩
    · obtain ⟨hjoined, hdestroyed, haccepted, hcounted⟩ := pc.passage_bounds i
      rw [hr]
      exact ⟨hjoined, hdestroyed.trans_le (Nat.zero_le _), haccepted, hcounted⟩
    · omega
  · rcases hrecord i with ⟨⟨-, threads', hthreads', hheld⟩, hr⟩ | ⟨hnot, -, -, -, hdestroyed⟩
    · cases hthreads.symm.trans hthreads'
      rw [hr]
      exact iff_of_true hheld (pc.passage_bounds i).2.1
    · refine iff_of_false (fun hheld => hnot ?_) (by omega)
      have hsome : s.shared.worker.workerContexts.isSome = true := by
        rw [hphase.arrays, hthreads]
        rfl
      have hstarted := hphase.started_eq hsome
      exact ⟨i.isLt.trans_eq (hstarted.trans hc.created).symm, threads, hthreads, hheld⟩
  · have hthreads := (hinv.holds hmem hi).threads
    have hsome : s.shared.worker.workerContexts.isSome = true := hphase.arrays.trans hthreads
    have hne := Option.isSome_iff_ne_none.mp hthreads
    refine ⟨hthreads, hsome, hunreleased hne, fun k => ?_, fun hstopped => ?_⟩
    · rw [← s.shared.worker.total_eq k]
      exact hkept.unfolded hsome k
    · exact hne (hc.gone.mpr (.inl hstopped))
  · -- the answer is an error in state `FAILED`, or the state is `STOPPED`
    cases hpc.symm.trans hreturned
    have hbetween := h.joined_between hW hpc hinv hmem rfl
    have hanswer := h.answers _ hpc
    have hstate : (s.shared.lifecycle.state = .failed ∧ r = .errorSystem) ∨
        s.shared.lifecycle.state = .stopped := by
      rcases hanswer with hbad | hbad | hfailed | hstopped | ⟨h₁, h₂, h₃⟩
      · exact absurd hbad hnull
      · cases hwait.symm.trans hbad
      · exact .inl hfailed
      · exact .inr hstopped
      · rcases hc.state with hstate | hstate | hstate
        · exact absurd hstate h₂
        · exact absurd hstate h₃
        · exact absurd hstate h₁
    refine ⟨?_, hbetween.mp⟩
    rintro ⟨i, hi⟩
    refine hstate.resolve_right fun hstopped => ?_
    cases hi.symm.trans (hbetween.mpr hstopped i)
  · -- the fold happens once at most
    by_cases hnone : s.shared.worker.threads = none
    · exact (hc.folds hnone).le
    · exact (hunreleased hnone).trans_le (Nat.zero_le _)
  · obtain ⟨hjoined, -, hcounted, hdestroyed⟩ := hcomplete (hfolds.mp hone) i
    exact ⟨hjoined, hdestroyed, hcounted⟩
  · cases hpc.symm.trans hpc'
    refine ⟨h.joined_between hW hpc hinv hmem hrelease, ?_, ?_⟩
    · rw [hfolds, hc.gone]
      refine or_iff_left fun hfolded => ?_
      cases (ControllerPc.folded_inRelease hfolded).symm.trans hrelease
    · rw [hinv.passages.counted]
      refine Finset.sum_congr rfl fun i _ => ?_
      rcases hrecord i with ⟨-, hr⟩ | ⟨-, -, -, hcounted, -⟩
      · rw [hr, ControllerPc.passage_outside hrelease]
      · exact hcounted

omit [DecidableEq C] [Fintype C] in
/-- A record of a native join comes from one. -/
theorem exists_joined_of_record {index : ℕ} (h : (recordOf es index).joined ≠ 0) :
    ∃ outcome, .nativeJoined index outcome ∈ es := by
  by_contra hnone
  have hkeep : ∀ (es : List ReleaseEvent) (r : WorkerRecord),
      (∀ e ∈ es, ∀ outcome, e ≠ .nativeJoined index outcome) →
      (es.foldl (WorkerRecord.note index) r).joined = r.joined := by
    intro es
    induction es with
    | nil => exact fun r _ => rfl
    | cons e es ih =>
      intro r hes
      refine (ih _ fun e he => hes e (List.mem_cons_of_mem _ he)).trans ?_
      cases e with
      | nativeJoined i outcome =>
        refine congrArg WorkerRecord.joined (if_neg ?_)
        rintro rfl
        exact hes _ List.mem_cons_self outcome rfl
      | counted i => simp only [WorkerRecord.note]; split <;> rfl
      | destroyed i => simp only [WorkerRecord.note]; split <;> rfl
      | _ => rfl
  refine h (hkeep es {} fun e he outcome heq => hnone ⟨outcome, ?_⟩)
  rwa [← heq]

/-- **Snapshots around the fold.** From a state on in which the workers have finished, captures
between which no submission and no failure is counted agree. -/
theorem captures_agree {queue : TaskQueue P}
    (hinit : taskQueueInit cfg.capacity true = (.ok, some queue)) (hW : 0 < W)
    {ls before after : List (Thread W C × SchedulerChoice W C P)} {s₁ s₂ : SchedulerPool W C P}
    {u v : Thread W C} {a a' : SchedulerSnapshot}
    (hrun : (schedulerProgram cfg).run ls (schedulerInitial queue) = some s)
    (hfinished : ∀ i, (s.pc (.worker i)).isFinished = true)
    (hbefore : (schedulerProgram cfg).run before s = some s₁)
    (hafter : (schedulerProgram cfg).run after s₁ = some s₂)
    (hsubmissions : (logbookOf cfg (ls ++ before ++ after) (schedulerInitial queue)).now.submissions
      = (logbookOf cfg ls (schedulerInitial queue)).now.submissions)
    (hfailures : (logbookOf cfg (ls ++ before ++ after) (schedulerInitial queue)).now.failures
      = (logbookOf cfg ls (schedulerInitial queue)).now.failures)
    (hu : (s.pc u).toCall.capturing = false) (ha : (s₁.pc u).toCall = .captured (some a))
    (hv : v ≠ u → (s₁.pc v).toCall.capturing = false)
    (ha' : (s₂.pc v).toCall = .captured (some a')) :
    (∀ k : WorkerCount, k.captured a = k.captured a') ∧
      a.overflowDetected = a'.overflowDetected := by
  have hrun₁ := Program.run_append hrun hbefore
  obtain ⟨hreach, -⟩ := logbookInv_of_run hinit hW hrun
  obtain ⟨hreach₁, hbook₁⟩ := logbookInv_of_run hinit hW hrun₁
  obtain ⟨-, hbook₂⟩ := logbookInv_of_run hinit hW (Program.run_append hrun₁ hafter)
  have hlog : ∀ {ls more : List (Thread W C × SchedulerChoice W C P)} {s : SchedulerPool W C P},
      (schedulerProgram cfg).run ls (schedulerInitial queue) = some s →
      logbookOf cfg (ls ++ more) (schedulerInitial queue)
        = ((schedulerProgram cfg).log accountEvents more s).foldl Logbook.record
          (logbookOf cfg ls (schedulerInitial queue)) := by
    intro ls more s hrun
    unfold logbookOf
    rw [Program.log_append accountEvents more hrun, List.foldl_append]
  have hnow : ∀ {ls more : List (Thread W C × SchedulerChoice W C P)} {s : SchedulerPool W C P},
      (schedulerProgram cfg).run ls (schedulerInitial queue) = some s →
      (logbookOf cfg (ls ++ more) (schedulerInitial queue)).now
        = ((schedulerProgram cfg).log accountEvents more s).foldl Tally.record
          (logbookOf cfg ls (schedulerInitial queue)).now := by
    intro ls more s hrun
    rw [hlog hrun, Logbook.now_foldl]
  -- the counts stand still from `s` on
  have hstill : (logbookOf cfg (ls ++ before ++ after) (schedulerInitial queue)).now
      = (logbookOf cfg ls (schedulerInitial queue)).now := by
    have hstages : (logbookOf cfg (ls ++ (before ++ after)) (schedulerInitial queue)).now.stages
        = (logbookOf cfg ls (schedulerInitial queue)).now.stages := by
      rw [hnow hrun]
      exact stages_still hreach hfinished _ (Program.run_append hbefore hafter)
    rw [← List.append_assoc] at hstages
    refine Tally.Le.antisymm ⟨fun k => ?_, fun k => ?_, fun i k => ?_⟩
      ((logbookOf_le hrun).trans (logbookOf_le hrun₁))
    · rw [hsubmissions]
    · rw [hfailures]
    · rw [hstages]
  have hstill₁ : (logbookOf cfg (ls ++ before) (schedulerInitial queue)).now
      = (logbookOf cfg ls (schedulerInitial queue)).now :=
    Tally.Le.antisymm (hstill ▸ logbookOf_le hrun₁) (logbookOf_le hrun)
  have hcurrent₁ : (logbookOf cfg (ls ++ before) (schedulerInitial queue)).Current
      (logbookOf cfg ls (schedulerInitial queue)).now u := by
    rw [hlog hrun]
    refine Logbook.current_run hreach hbefore rfl ?_ (fun hcapturing => ?_) (by rw [ha]; rfl)
    · rw [← hnow hrun, hstill₁]
    · cases hu.symm.trans hcapturing
  have hcurrent₂ : (logbookOf cfg (ls ++ before ++ after) (schedulerInitial queue)).Current
      (logbookOf cfg ls (schedulerInitial queue)).now v := by
    rw [hlog hrun₁]
    refine Logbook.current_run hreach₁ hafter hstill₁ ?_ (fun hcapturing => ?_) (by rw [ha']; rfl)
    · have htotal := @hnow _ after _ hrun₁
      rw [hstill, hstill₁] at htotal
      exact htotal.symm
    · by_cases hvu : v = u
      · rw [hvu]
        exact hcurrent₁
      · cases (hv hvu).symm.trans hcapturing
  have hreports := hbook₁.copies u
  have hreports' := hbook₂.copies v
  rw [ha, hcurrent₁.1, hcurrent₁.2] at hreports
  rw [ha', hcurrent₂.1, hcurrent₂.2] at hreports'
  exact SchedulerSnapshot.Reports.agree hreports hreports'

/-- **Join is retryable and folds once.** After any run through a start and a shutdown, whatever
native joins failed, whatever the workers returned and the fault plan injected, and however often
`scheduler_join` was called. Moreover, once every native join has succeeded, snapshots between
which no submission and no failure is counted agree on the four totals and on the overflow,
also if the fold lies between them. -/
theorem join_retries_and_folds_once {queue : TaskQueue P}
    (hinit : taskQueueInit cfg.capacity true = (.ok, some queue)) (hW : 0 < W)
    {ls : List (Thread W C × SchedulerChoice W C P)}
    (hrun : (schedulerProgram cfg).run ls (schedulerInitial queue) = some s)
    (hmem : .shuttingDown ∈ s.shared.history.states) :
    Rejoins cfg (releaseLog cfg ls (schedulerInitial queue)) s ∧
    ((∀ i : Fin W, (recordOf (releaseLog cfg ls (schedulerInitial queue)) i).joined = 1) →
      ∀ before after s₁ s₂ u v a a', (schedulerProgram cfg).run before s = some s₁ →
        (schedulerProgram cfg).run after s₁ = some s₂ →
        (logbookOf cfg (ls ++ before ++ after) (schedulerInitial queue)).now.submissions
          = (logbookOf cfg ls (schedulerInitial queue)).now.submissions →
        (logbookOf cfg (ls ++ before ++ after) (schedulerInitial queue)).now.failures
          = (logbookOf cfg ls (schedulerInitial queue)).now.failures →
        (s.pc u).toCall.capturing = false → (s₁.pc u).toCall = .captured (some a) →
        (v ≠ u → (s₁.pc v).toCall.capturing = false) → (s₂.pc v).toCall = .captured (some a') →
        (∀ k : WorkerCount, k.captured a = k.captured a') ∧
          a.overflowDetected = a'.overflowDetected) := by
  obtain ⟨hreach, hbook⟩ := logbookInv_of_run hinit hW hrun
  obtain ⟨pc, hpc⟩ := hreach.threads.controllerPc
  obtain ⟨hjoins, hfinished⟩ := joinInv_of_run hinit hW hrun
  refine ⟨hreach.rejoins hW hpc (hjoins pc hpc) hfinished hbook.kept hmem, ?_⟩
  intro hall before after s₁ s₂ u v a a' hbefore hafter hsubmissions hfailures hu ha hv ha'
  refine captures_agree hinit hW hrun (fun i => ?_) hbefore hafter hsubmissions
    hfailures hu ha hv ha'
  have hrecord : (recordOf (releaseLog cfg ls (schedulerInitial queue)) i).joined ≠ 0 := by
    rw [hall i]
    nofun
  obtain ⟨outcome, hjoined⟩ := exists_joined_of_record hrecord
  obtain ⟨r, hdone, -⟩ := hfinished i outcome hjoined
  rw [hdone]
  rfl

end Joins

/-- The native join of the worker fails in the first call and succeeds in the second. -/
def rejoinSchedule : SmallSchedule :=
  startSchedule ++ makes .controller (.lifecycle .shutdown true) 8 ++ advance soleWorker 5
    ++ makes .controller (.lifecycle .join true) 2 ++ [(.controller, { succeeds := false })]
    ++ advance .controller 6 ++ makes .controller (.lifecycle .join true) 10

theorem join_retries_after_native_failure :
    ∃ s : SchedulerPool 1 (Fin 2) ℕ, s.shared.lifecycle.state = .stopped ∧
      releaseLog { reliableConfig with joinMayFail := true } rejoinSchedule
        (schedulerInitial smallQueue) = [.nativeFailed 0, .nativeJoined 0 .accepted, .counted 0,
          .destroyed 0, .folded] ∧
      Rejoins { reliableConfig with joinMayFail := true }
        [.nativeFailed 0, .nativeJoined 0 .accepted, .counted 0, .destroyed 0, .folded] s := by
  have hlog : releaseLog { reliableConfig with joinMayFail := true } rejoinSchedule
      (schedulerInitial smallQueue) = [.nativeFailed 0, .nativeJoined 0 .accepted, .counted 0,
        .destroyed 0, .folded] := by decide +kernel
  have hobs : ((schedulerProgram { reliableConfig with joinMayFail := true }).run rejoinSchedule
      (schedulerInitial smallQueue)).map (fun s => (s.shared.lifecycle.state,
        decide (.shuttingDown ∈ s.shared.history.states))) = some (.stopped, true) := by
    decide +kernel
  obtain ⟨s, hrun, hobs⟩ := Option.map_eq_some_iff.mp hobs
  obtain ⟨hstopped, hmem⟩ := Prod.mk.inj hobs
  refine ⟨s, hstopped, hlog, ?_⟩
  rw [← hlog]
  exact (join_retries_and_folds_once (by decide) Nat.one_pos hrun (of_decide_eq_true hmem)).1

end SchedulingEngine
