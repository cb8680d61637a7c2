import Mathlib.Data.Fintype.BigOperators
import SchedulingEngine.Scheduler.Workers

/-!
# The lifecycle invariant

`LifecycleInv` joins the phase of the controller's call, what holds of each worker and
the counts of workers, and holds in every reachable state
(`SchedulerReachable.lifecycle`), whatever the backend refuses.
-/

namespace SchedulingEngine

open Concurrency

variable {W : ℕ} {C P : Type}

/-- What holds of a thread at its program counter. -/
def ThreadOk (sh : Scheduler W C P) : Thread W C → SchedulerPc W P → Prop
  | .controller, .controller pc => (pc.phase W).Ok sh ∧ pc.HandlesGone sh.crew
  | .worker i, .worker _ pc => WorkerOk sh i pc
  | _, _ => True

theorem ControllerPc.phase_wake (pc : ControllerPc P) : pc.wake.phase W = pc.phase W := by
  cases pc <;> rfl

theorem ControllerPc.handlesGone_wake (c : Crew W) (pc : ControllerPc P) :
    pc.wake.HandlesGone c = pc.HandlesGone c := by
  cases pc <;> rfl

/-- A wakeup moves a thread within its operation. -/
theorem ThreadOk.wake (sh : Scheduler W C P) (u : Thread W C) (pc : SchedulerPc W P) :
    ThreadOk sh u pc.wake ↔ ThreadOk sh u pc := by
  cases u with
  | controller =>
    cases pc with
    | controller pc =>
      show (pc.wake.phase W).Ok sh ∧ _ ↔ _
      rw [pc.phase_wake, pc.handlesGone_wake]
      exact Iff.rfl
    | _ => exact Iff.rfl
  | worker i =>
    cases pc with
    | worker j pc => exact WorkerOk.wake pc
    | _ => exact Iff.rfl
  | client c => cases pc <;> exact Iff.rfl

section Invariant

variable [DecidableEq C] [Fintype C] {cfg : SchedulerConfig W} {t : Thread W C}
  {choice : SchedulerChoice W C P} {s s' : SchedulerPool W C P}

/-- What holds of a scheduler and its threads in every reachable state. -/
structure LifecycleInv (s : SchedulerPool W C P) : Prop where
  answered : ∀ u, (s.pc u).queue.Answered s.shared.queue
  threads : ∀ u, ThreadOk s.shared u (s.pc u)
  joining : ∀ i : Fin W, (s.pc .controller).joining = some (i : ℕ) →
    (s.pc (.worker i)).isFinished = true
  active : s.shared.worker.activeWorkerCount = Program.total SchedulerPc.active s.pc
  ready : s.shared.Unfolded →
    s.shared.worker.readyWorkerCount = Program.total SchedulerPc.ready s.pc

omit [DecidableEq C] in
/-- The sum of a weight that only workers carry. -/
theorem total_workers {M : Type} [AddCommMonoid M] (hruns : ∀ u : Thread W C, u.Runs (s.pc u))
    (w : SchedulerPc W P → M) (hcontroller : ∀ pc, w (.controller pc) = 0)
    (hcall : ∀ pc, w (.call pc) = 0) :
    Program.total w s.pc = ∑ i : Fin W, w (s.pc (.worker i)) := by
  have hzero : ∀ u : Thread W C, (∀ i, u ≠ .worker i) → w (s.pc u) = 0 := by
    intro u hu
    have hrun := hruns u
    cases u with
    | controller =>
      cases hpc : s.pc .controller with
      | controller pc => exact hcontroller pc
      | _ => rw [hpc] at hrun; exact hrun.elim
    | worker i => exact absurd rfl (hu i)
    | client c =>
      cases hpc : s.pc (.client c) with
      | call pc => exact hcall pc
      | _ => rw [hpc] at hrun; exact hrun.elim
  unfold Program.total
  rw [← (Thread.equiv W C).sum_comp, Fintype.sum_sum_type, Fintype.sum_sum_type]
  have h₁ : ∑ x : Unit, w (s.pc (Thread.equiv W C (.inl x))) = 0 :=
    Finset.sum_eq_zero fun x _ => hzero _ nofun
  have h₂ : ∑ c : C, w (s.pc (Thread.equiv W C (.inr (.inr c)))) = 0 :=
    Finset.sum_eq_zero fun c _ => hzero _ nofun
  rw [h₁, h₂, zero_add, add_zero]
  rfl

omit [DecidableEq C] in
/-- The invariant holds after `scheduler_init`. -/
theorem lifecycleInv_initial (queue : TaskQueue P) :
    LifecycleInv (schedulerInitial queue : SchedulerPool W C P) := by
  refine ⟨?_, ?_, ?_, ?_, ?_⟩
  · rintro (_ | i | c) <;> trivial
  · rintro (_ | i | c)
    · exact ⟨⟨⟨rfl, rfl, rfl, rfl⟩, ⟨rfl, rfl⟩, nofun, rfl⟩, trivial⟩
    · exact .notCreated (Nat.zero_le _) (Nat.zero_le _) nofun
    · trivial
  · exact nofun
  · exact (total_initial queue SchedulerPc.active rfl (fun _ => rfl) rfl).symm
  · exact fun _ => (total_initial queue SchedulerPc.ready rfl (fun _ => rfl) rfl).symm

/-! ## One step -/

omit [Fintype C] in
/-- Outside the queue there is no step of the queue. -/
theorem queue_run_idle {sh : Scheduler W C P} {queue : ConcurrentTaskQueue (Thread W C) P}
    {q q' : QueuePc P} {fx : List (QueueEffect (Thread W C))}
    (hact : queueAct cfg.queue t choice.queue sh.queue q = some (queue, q', fx)) : q ≠ .idle := by
  rintro rfl
  cases hact

/-- What an answer said of the queue stays true. -/
theorem answered_step (hinv : ThreadInv cfg s)
    (h : ∀ u, (s.pc u).queue.Answered s.shared.queue)
    (hstep : (schedulerProgram cfg).step t choice s = some s') :
    ∀ u, (s'.pc u).queue.Answered s'.shared.queue := by
  obtain ⟨pc, fx, hspec, hfx⟩ := hinv.step_spec hstep
  obtain ⟨f, habs, -⟩ := hinv.abstracts
  have hmove := hspec.queueMove
  refine Program.forall_step
    (fun _ (sh : Scheduler W C P) (pc : SchedulerPc W P) => pc.queue.Answered sh.queue)
    ?_ hfx ?_ ?_ h
  · intro u sh
    refine schedulerProgram_blind (fun pc => ?_) fun _ => rfl
    rw [SchedulerPc.queue_wake, QueuePc.answered_wake]
  · have hself := h t
    dsimp only at hmove ⊢
    generalize (s.pc t).queue = q at hmove hself
    generalize pc.queue = q' at hmove ⊢
    cases hmove with
    | run hact hleave => exact (queueAct_spec habs hact).answered habs (queue_run_idle hact) hself
    | jump hqueue hq hq' hout => rcases hq' with rfl | ⟨op, rfl⟩ <;> trivial
  · intro u hu hother
    dsimp only at hmove
    generalize (s.pc t).queue = q at hmove
    generalize pc.queue = q' at hmove
    cases hmove with
    | run hact hleave => exact (queueAct_spec habs hact).answered_stays habs hother
    | jump hqueue hq hq' hout => exact hqueue ▸ hother

omit [Fintype C] in
theorem isFinished_blind :
    (schedulerProgram (C := C) (P := P) cfg).Blind SchedulerPc.isFinished :=
  schedulerProgram_blind SchedulerPc.isFinished_wake fun _ => rfl

omit [Fintype C] in
/-- A finished worker takes no step. -/
theorem SchedulerStepSpec.not_finished {sh : Scheduler W C P} {pc : SchedulerPc W P}
    {out : SchedulerStep W C P (SchedulerPc W P)} (h : SchedulerStepSpec cfg choice sh t pc out) :
    pc.isFinished = false := by
  cases h with
  | call c h => rfl
  | worker i h => cases h <;> rfl
  | controller h => rfl

/-- A finished worker stays finished. -/
theorem finished_stays (hinv : ThreadInv cfg s)
    (hstep : (schedulerProgram cfg).step t choice s = some s') {u : Thread W C}
    (hfinished : (s.pc u).isFinished = true) : (s'.pc u).isFinished = true := by
  obtain ⟨pc, fx, hspec, hfx⟩ := hinv.step_spec hstep
  obtain ⟨-, hother⟩ := Program.step_blind isFinished_blind hfx
  have hut : u ≠ t := by
    rintro rfl
    rw [hspec.not_finished] at hfinished
    cases hfinished
  rw [hother u hut]
  exact hfinished

section Threads

variable {sh : Scheduler W C P} {f : ClosableFifo P} {pc : SchedulerPc W P}
  {out : SchedulerStep W C P (SchedulerPc W P)}

omit [Fintype C] in
/-- The acting thread. -/
theorem SchedulerStepSpec.threadOk (h : SchedulerStepSpec cfg choice sh t pc out)
    (habs : Abstracts sh.queue f) (hanswered : pc.queue.Answered sh.queue)
    (hoperation : pc.queue.operation = pc.operation) (hok : ThreadOk sh t pc) :
    ThreadOk out.1 t out.2.1 := by
  cases h with
  | call c h => trivial
  | worker i h => exact h.ok habs hanswered hoperation hok
  | controller h => exact ⟨h.phase hanswered hoperation hok.1, h.handlesGone hok.2⟩

omit [Fintype C] in
/-- The threads that a step starts. -/
theorem SchedulerStepSpec.threadOk_spawned (h : SchedulerStepSpec cfg choice sh t pc out)
    (habs : Abstracts sh.queue f) (hok : ThreadOk sh t pc) {u : Thread W C}
    (hspawn : .spawn u ∈ out.2.2) {a : SchedulerPc W P}
    (hdormant : (schedulerProgram (C := C) cfg).dormant a = true) :
    ThreadOk out.1 u ((schedulerProgram (C := C) cfg).start a) := by
  cases h with
  | call c h => exact absurd hspawn (h.no_spawn habs u)
  | worker i h => exact absurd hspawn (h.no_spawn habs u)
  | controller h =>
    obtain ⟨i, rfl, hentry⟩ := h.spawned habs hok.1 hspawn
    cases a with
    | worker j pc =>
      cases pc with
      | notCreated => exact hentry
      | _ => cases hdormant
    | _ => cases hdormant

omit [Fintype C] in
/-- The other threads. -/
theorem SchedulerStepSpec.threadOk_other (h : SchedulerStepSpec cfg choice sh t pc out)
    (habs : Abstracts sh.queue f) (hoperation : pc.queue.operation = pc.operation)
    (hself : ThreadOk sh t pc) {u : Thread W C} (hu : u ≠ t) {upc : SchedulerPc W P}
    (hjoin : ∀ i : Fin W, u = .worker i →
      (pc.joining = some (i : ℕ) ∨ ∃ r, .await (.worker i) r ∈ out.2.2) → upc.isFinished = true)
    (hspawn : .spawn u ∉ out.2.2) (hok : ThreadOk sh u upc) : ThreadOk out.1 u upc := by
  -- a lifecycle call is not disturbed, and neither is a worker
  have hframe : Frame sh out.1 → (∀ i, u = .worker i → WorkerFrame i sh out.1) →
      ThreadOk out.1 u upc := by
    intro hframe hworkers
    cases u with
    | controller =>
      cases upc with
      | controller pc => exact ⟨hframe.ok hok.1, hframe.crew ▸ hok.2⟩
      | _ => trivial
    | worker i =>
      cases upc with
      | worker j pc => exact WorkerOk.frame hok (hworkers i rfl)
      | _ => trivial
    | client c => cases upc <;> trivial
  cases h with
  | call c h => exact hframe (h.frame habs hoperation) fun i _ => h.workerFrame habs i
  | worker i h =>
    refine hframe (h.frame habs hoperation ?_) fun j hj => h.workerFrame ?_ habs
    · have hnot := mt hself.created.mpr h.created
      omega
    · rintro rfl
      exact hu hj
  | controller h =>
    cases u with
    | controller => exact absurd rfl hu
    | worker i =>
      cases upc with
      | worker j pc =>
        exact h.workers habs hself.1 hself.2 hok (fun hj => hjoin i rfl (.inl hj))
          (fun r hr => hjoin i rfl (.inr ⟨r, hr⟩)) hspawn
      | _ => trivial
    | client c => cases upc <;> trivial

omit [Fintype C] in
/-- A worker counts itself in and out, and nobody else does. -/
theorem SchedulerStepSpec.headCount (h : SchedulerStepSpec cfg choice sh t pc out)
    (habs : Abstracts sh.queue f) (hoperation : pc.queue.operation = pc.operation)
    (hself : ThreadOk sh t pc) (hactive : pc.active ≤ sh.worker.activeWorkerCount)
    (hzero : sh.worker.createdWorkerCount = 0 → sh.worker.readyWorkerCount = 0) :
    HeadCount sh out.1 pc out.2.1 := by
  cases h with
  | call c h =>
    obtain ⟨h₁, h₂⟩ := h.counts
    exact ⟨h₁, .congr (h.frame habs hoperation).crew, fun _ => h₂⟩
  | worker i h =>
    have hpositive : 0 < sh.worker.createdWorkerCount := by
      have hnot := mt hself.created.mpr h.created
      omega
    exact h.headCount hself (h.frame habs hoperation hpositive).crew hactive
  | controller h => exact h.headCount hself.1 hzero

omit [Fintype C] in
/-- The controller is past a native join only if the worker has finished. -/
theorem SchedulerStepSpec.joining (h : SchedulerStepSpec cfg choice sh t pc out) {i : Fin W}
    (hjoining : out.2.1.joining = some (i : ℕ)) :
    pc.joining = some (i : ℕ) ∨ ∃ r, .await (.worker i) r ∈ out.2.2 := by
  cases h with
  | call c h => cases hjoining
  | worker j h => cases hjoining
  | controller h => exact h.joining hjoining

end Threads

omit [Fintype C] in
theorem schedulerFinished_blind :
    (schedulerProgram (C := C) (P := P) cfg).Blind (schedulerProgram (C := C) cfg).finished := by
  refine schedulerProgram_blind (fun pc => ?_) fun _ => rfl
  cases pc with
  | worker i pc => cases pc <;> rfl
  | _ => rfl

/-- A worker that a step of another thread awaits has finished. -/
theorem awaited_finished {pc : SchedulerPc W P} {fx : List (SchedulerEffect W C)}
    (hfx : (schedulerProgram cfg).applyEffects (Function.update s.pc t pc) fx = some s'.pc)
    {u : Thread W C} (hu : u ≠ t) {r : WorkerResult} (hawait : .await u r ∈ fx) :
    (s.pc u).isFinished = true := by
  have hfinished := Program.applyEffects_await schedulerFinished_blind hfx hawait
  rw [Function.update_of_ne hu] at hfinished
  cases hpc : s.pc u with
  | worker i wpc =>
    rw [hpc] at hfinished
    cases wpc with
    | finished r' => rfl
    | _ => cases hfinished
  | _ =>
    rw [hpc] at hfinished
    cases hfinished

/-- One worker is among the active ones. -/
theorem LifecycleInv.active_le (h : LifecycleInv s) (u : Thread W C) :
    (s.pc u).active ≤ s.shared.worker.activeWorkerCount := by
  rw [h.active, Program.total_eq_add _ _ u]
  exact Nat.le_add_right _ _

/-- The controller runs the controller's code. -/
theorem ThreadInv.controllerPc (hinv : ThreadInv cfg s) :
    ∃ pc, s.pc .controller = .controller pc := by
  have hrun := hinv.runs .controller
  cases hpc : s.pc .controller with
  | controller pc => exact ⟨pc, rfl⟩
  | _ => rw [hpc] at hrun; exact hrun.elim

/-- And a worker runs a worker's. -/
theorem ThreadInv.workerPc (hinv : ThreadInv cfg s) (i : Fin W) :
    ∃ pc, s.pc (.worker i) = .worker i pc := by
  have hrun := hinv.runs (.worker i)
  cases hpc : s.pc (.worker i) with
  | worker j pc =>
    rw [hpc] at hrun
    obtain rfl : i = j := hrun
    exact ⟨pc, rfl⟩
  | _ => rw [hpc] at hrun; exact hrun.elim

omit [DecidableEq C] in
/-- Where the controller is, its phase holds. -/
theorem LifecycleInv.phase (h : LifecycleInv s) {pc : ControllerPc P}
    (hpc : s.pc .controller = .controller pc) : (pc.phase W).Ok s.shared := by
  have hok := h.threads .controller
  rw [hpc] at hok
  exact hok.1

omit [DecidableEq C] in
/-- Where a worker is, its condition holds. -/
theorem LifecycleInv.worker (h : LifecycleInv s) {i : Fin W} {pc : WorkerPc P}
    (hpc : s.pc (.worker i) = .worker i pc) : WorkerOk s.shared i pc := by
  have hok := h.threads (.worker i)
  rw [hpc] at hok
  exact hok

/-- Before a worker is created none is ready. -/
theorem LifecycleInv.ready_zero (hinv : ThreadInv cfg s) (h : LifecycleInv s)
    (hcreated : s.shared.worker.createdWorkerCount = 0) :
    s.shared.worker.readyWorkerCount = 0 := by
  rw [h.ready (.inl hcreated), total_workers hinv.runs _ (fun _ => rfl) fun _ => rfl]
  refine Finset.sum_eq_zero fun i _ => ?_
  obtain ⟨pc, hpc⟩ := hinv.workerPc i
  have hnot := (h.worker hpc).created.mpr (hcreated.trans_le (Nat.zero_le _))
  rw [hpc, hnot]
  rfl

/-- **One step keeps the lifecycle invariant.** -/
theorem lifecycleInv_step (hinv : ThreadInv cfg s) (haccounts : Accounts s) (h : LifecycleInv s)
    (hstep : (schedulerProgram cfg).step t choice s = some s') : LifecycleInv s' := by
  obtain ⟨pc, fx, hspec, hfx⟩ := hinv.step_spec hstep
  obtain ⟨f, habs, -⟩ := hinv.abstracts
  have hoperation := haccounts.operation t
  have hself := h.threads t
  have hcounts := hspec.headCount habs hoperation hself (h.active_le t) (h.ready_zero hinv)
  -- only the controller joins, and it is no worker
  have hjoined : ∀ i : Fin W, .worker i ≠ t →
      ((s.pc t).joining = some (i : ℕ) ∨ ∃ r, .await (.worker i) r ∈ fx) →
      (s.pc (.worker i)).isFinished = true := by
    rintro i hi (hjoining | ⟨r, hawait⟩)
    · have ht : t = .controller := by
        have hrun := hinv.runs t
        generalize s.pc t = pc₀ at hjoining hrun
        cases t <;> cases pc₀ <;> first | rfl | exact hrun.elim | cases hjoining
      exact h.joining i (ht ▸ hjoining)
    · exact awaited_finished hfx hi hawait
  refine ⟨answered_step hinv h.answered hstep, ?_, ?_, ?_, ?_⟩
  · refine Program.forall_step_spawn (fun u sh pc => ThreadOk sh u pc)
      (fun u sh a c _ => ThreadOk.wake sh u a) hfx ?_ ?_ ?_ h.threads
    · exact hspec.threadOk habs (h.answered t) hoperation hself
    · exact fun u hspawn a hdormant => hspec.threadOk_spawned habs hself hspawn hdormant
    · intro u hu hspawn hok
      refine hspec.threadOk_other habs hoperation hself hu ?_ hspawn hok
      rintro i rfl hjoining
      exact hjoined i hu hjoining
  · intro i hjoining
    refine finished_stays hinv hstep ?_
    obtain ⟨hsame, hother⟩ := Program.step_blind
      (schedulerProgram_blind SchedulerPc.joining_wake fun _ => rfl) hfx
    by_cases ht : t = .controller
    · subst ht
      rw [hsame] at hjoining
      exact hjoined i nofun (hspec.joining hjoining)
    · rw [hother .controller (Ne.symm ht)] at hjoining
      exact h.joining i hjoining
  · exact Program.sum_step (fun sh : Scheduler W C P => sh.worker.activeWorkerCount)
      (schedulerProgram_blind SchedulerPc.active_wake fun _ => rfl) hfx hcounts.active h.active
  · intro hunfolded
    refine Program.sum_step (fun sh : Scheduler W C P => sh.worker.readyWorkerCount)
      (schedulerProgram_blind SchedulerPc.ready_wake ?_) hfx (hcounts.ready hunfolded)
      (h.ready (hcounts.unfolded hunfolded))
    exact fun _ => rfl

/-- **The lifecycle invariant holds in every reachable state.** -/
theorem SchedulerReachable.lifecycle (h : SchedulerReachable cfg s) : LifecycleInv s :=
  h.invariant (fun queue _ => lifecycleInv_initial queue)
    fun hu => lifecycleInv_step hu.threads hu.accounts

/-- A step is a step of the controller, or leaves the data of its call alone. -/
theorem SchedulerReachable.step_cases (h : SchedulerReachable cfg s)
    (hstep : (schedulerProgram cfg).step t choice s = some s') :
    (t ≠ .controller ∧ Frame s.shared s'.shared) ∨
      (t = .controller ∧ ∃ pc pc' fx, s.pc .controller = .controller pc ∧
        ControllerStepSpec cfg choice s.shared pc (s'.shared, pc', fx) ∧
        (schedulerProgram cfg).applyEffects
          (Function.update s.pc .controller (.controller pc')) fx = some s'.pc) := by
  obtain ⟨pc', fx, hspec, hfx⟩ := h.threads.step_spec hstep
  obtain ⟨f, habs, -⟩ := h.threads.abstracts
  have hoperation := h.accounts.operation t
  have hself := h.lifecycle.threads t
  generalize hpc : s.pc t = pc at hspec hoperation hself
  generalize hout : (s'.shared, pc', fx) = out at hspec
  cases hspec with
  | call c h =>
    obtain ⟨hsh, -⟩ := Prod.mk.inj hout
    rw [hsh]
    exact .inl ⟨nofun, h.frame habs hoperation⟩
  | worker i h =>
    obtain ⟨hsh, -⟩ := Prod.mk.inj hout
    rw [hsh]
    refine .inl ⟨nofun, h.frame habs hoperation ?_⟩
    have hnot := mt hself.created.mpr h.created
    omega
  | controller h =>
    obtain ⟨hsh, hrest⟩ := Prod.mk.inj hout
    obtain ⟨rfl, rfl⟩ := Prod.mk.inj hrest
    refine .inr ⟨rfl, _, _, _, hpc, ?_, hfx⟩
    rw [hsh]
    exact h

/-- An assertion about the controller's counter, as one about every counter. -/
def SchedulerPc.ofController (A : ControllerPc P → Prop) : SchedulerPc W P → Prop
  | .controller pc => A pc
  | _ => True

/-- **Controller rule**: an assertion about the controller's counter that does not see
wakeups survives a step if the steps of the others do not disturb it and those of the
controller, which take the results of finished workers only, re-establish it. -/
theorem SchedulerReachable.controller_step_awaits (h : SchedulerReachable cfg s)
    (A : Scheduler W C P → ControllerPc P → Prop) (hwake : ∀ sh pc, A sh pc.wake ↔ A sh pc)
    (hstep : (schedulerProgram cfg).step t choice s = some s')
    (hother : ∀ pc, t ≠ .controller → s.pc .controller = .controller pc → A s.shared pc →
      A s'.shared pc)
    (hself : ∀ pc (out : SchedulerStep W C P (ControllerPc P)), t = .controller →
      s.pc .controller = .controller pc → ControllerStepSpec cfg choice s.shared pc out →
      (∀ i r, .await (.worker i) r ∈ out.2.2 → s.pc (.worker i) = .worker i (.finished r)) →
      out.1 = s'.shared → A s.shared pc → A s'.shared out.2.1)
    (hbefore : ∀ pc, s.pc .controller = .controller pc → A s.shared pc) :
    ∀ pc, s'.pc .controller = .controller pc → A s'.shared pc := by
  intro pc' hpc'
  obtain ⟨pc, hpc⟩ := h.threads.controllerPc
  have hblind : (schedulerProgram (C := C) (P := P) cfg).Blind
      (SchedulerPc.ofController (A s'.shared)) := by
    refine schedulerProgram_blind (fun pc => ?_) fun _ => rfl
    cases pc with
    | controller pc => exact propext (hwake s'.shared pc)
    | _ => rfl
  rcases h.step_cases hstep with ⟨ht, -⟩ | ⟨rfl, pc₀, pc₁, fx, hpc₀, hspec, hfx⟩
  · obtain ⟨pc₁, fx, -, hfx⟩ := h.threads.step_spec hstep
    have hsame := (Program.step_blind hblind hfx).2 .controller (Ne.symm ht)
    rw [hpc', hpc] at hsame
    exact hsame.mpr (hother pc ht hpc (hbefore pc hpc))
  · have hsame := (Program.step_blind hblind hfx).1
    rw [hpc'] at hsame
    refine hsame.mpr (hself pc₀ _ rfl hpc₀ hspec (fun i r hawait => ?_) rfl (hbefore pc₀ hpc₀))
    have hfinished := Program.applyEffects_await schedulerFinished_blind hfx hawait
    have hne : (Thread.worker i : Thread W C) ≠ .controller := by simp
    rw [Function.update_of_ne hne] at hfinished
    obtain ⟨wpc, hwpc⟩ := h.threads.workerPc i
    rw [hwpc] at hfinished ⊢
    cases wpc with
    | finished r' => cases hfinished; rfl
    | _ => cases hfinished

/-- The same, whatever the results of the workers. -/
theorem SchedulerReachable.controller_step (h : SchedulerReachable cfg s)
    (A : Scheduler W C P → ControllerPc P → Prop) (hwake : ∀ sh pc, A sh pc.wake ↔ A sh pc)
    (hstep : (schedulerProgram cfg).step t choice s = some s')
    (hother : ∀ pc, t ≠ .controller → s.pc .controller = .controller pc → A s.shared pc →
      A s'.shared pc)
    (hself : ∀ pc (out : SchedulerStep W C P (ControllerPc P)), t = .controller →
      s.pc .controller = .controller pc → ControllerStepSpec cfg choice s.shared pc out →
      out.1 = s'.shared → A s.shared pc → A s'.shared out.2.1)
    (hbefore : ∀ pc, s.pc .controller = .controller pc → A s.shared pc) :
    ∀ pc, s'.pc .controller = .controller pc → A s'.shared pc :=
  h.controller_step_awaits A hwake hstep hother
    (fun pc out ht hpc hspec _ => hself pc out ht hpc hspec) hbefore

/-- **Call rule**: an assertion about the submission or capture of one thread, before and
after a step. -/
theorem SchedulerReachable.call_step (h : SchedulerReachable cfg s) (u : Thread W C)
    {A B : CallPc P → Prop} (hwake : ∀ pc, B pc.wake ↔ B pc)
    (hstep : (schedulerProgram cfg).step t choice s = some s') (hidle : A .idle → B .idle)
    (hother : t ≠ u → ∀ pc, A pc → B pc)
    (hself : ∀ out : SchedulerStep W C P (CallPc P), t = u →
      CallStepSpec cfg u choice s.shared (s.pc u).toCall out → out.1 = s'.shared → B out.2.1)
    (hbefore : A (s.pc u).toCall) : B (s'.pc u).toCall := by
  obtain ⟨pc, fx, hspec, hfx⟩ := h.threads.step_spec hstep
  have hblind : (schedulerProgram (C := C) (P := P) cfg).Blind
      fun pc : SchedulerPc W P => B pc.toCall := by
    refine schedulerProgram_blind (fun pc => ?_) fun _ => rfl
    rw [SchedulerPc.toCall_wake]
    exact propext (hwake _)
  obtain ⟨hacting, hothers⟩ := Program.step_blind hblind hfx
  by_cases htu : t = u
  · subst htu
    refine hacting.mpr ?_
    rcases hspec.call_cases with ⟨hpc, hpc'⟩ | ⟨out, hcall, hsh, hpc'⟩
    · dsimp only at hpc'
      rw [hpc']
      rw [hpc] at hbefore
      exact hidle hbefore
    · dsimp only at hpc'
      rw [hpc']
      exact hself out rfl hcall hsh.symm
  · exact (hothers u (Ne.symm htu)).mpr (hother htu _ hbefore)

end Invariant

end SchedulingEngine
