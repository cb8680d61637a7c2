import SchedulingEngine.Scheduler.Monotone

/-!
# The running callbacks of a snapshot (scheduler.c)

`currently_running_count` is no count of events: each worker's slot holds 1 while its
callback runs, and a capture adds up what the slots hold when it loads them. `gaugesOf`
notes, for the capture of each thread, how many callbacks each worker was running at the
load of its slot, and `captured_running` says that a snapshot reports the sum.
-/

namespace SchedulingEngine

open Concurrency

variable {W : ℕ} {C P : Type}

/-! ## What the captures saw running -/

/-- A capture begins, or loads `currently_running_count` of the slot of worker `i` while that
runs so many callbacks. -/
inductive GaugeEvent (W : ℕ) (C : Type) where
  | begins (u : Thread W C)
  | loads (u : Thread W C) (i : Fin W) (running : ℕ)

/-- The callbacks that a thread runs and counts as running. -/
def SchedulerPc.running : SchedulerPc W P → ℕ
  | .worker _ pc => pc.running
  | _ => 0

/-- The steps of a capture that the events are about. -/
def CallPc.readsGauge : CallPc P → Bool
  | .captureLifecycleLock | .captureLoad _ _ .currentlyRunning => true
  | _ => false

/-- The events of a step of thread `t`. -/
def gaugeEvents (s : SchedulerPool W C P) (t : Thread W C) (_ : SchedulerPool W C P) :
    List (GaugeEvent W C) :=
  match (s.pc t).toCall with
  | .captureLifecycleLock => [.begins t]
  | .captureLoad _ index .currentlyRunning =>
    if h : index < W then [.loads t ⟨index, h⟩ (s.pc (.worker ⟨index, h⟩)).running] else []
  | _ => []

section Gauges

variable [DecidableEq C]

def recordGauge (gauges : Thread W C → Fin W → ℕ) : GaugeEvent W C → Thread W C → Fin W → ℕ
  | .begins u => Function.update gauges u fun _ => 0
  | .loads u i running => Function.update gauges u (Function.update (gauges u) i running)

/-- What the last capture of each thread saw running in a run from `scheduler_init` on: nothing
in a slot that it has not loaded. -/
def gaugesOf [Fintype C] (cfg : SchedulerConfig W) (ls : List (Thread W C × SchedulerChoice W C P))
    (s : SchedulerPool W C P) : Thread W C → Fin W → ℕ :=
  ((schedulerProgram cfg).log gaugeEvents ls s).foldl recordGauge fun _ _ => 0

end Gauges

/-- A capture at `field` of slot `index` has yet to load the gauge of slot `i`. -/
def SlotField.gaugeUnread (field : SlotField) (index : ℕ) (i : Fin W) : Prop :=
  index < (i : ℕ) ∨ index = (i : ℕ) ∧ field ≠ .accountingOverflow

/-- What a capture has added up of the gauges that it saw. -/
def CallPc.Gauged (gauges : Fin W → ℕ) : CallPc P → Prop
  | .captureLifecycleUnlock temporary _ | .captureWorkerLock temporary =>
    temporary.currentlyRunningCount = 0 ∧ ∀ i, gauges i = 0
  | .captureLoad temporary index field => temporary.currentlyRunningCount = ∑ i, gauges i ∧
      ∀ i : Fin W, field.gaugeUnread index i → gauges i = 0
  | .captureWorkerUnlock temporary | .captureQueue temporary _ | .captured (some temporary) =>
    temporary.currentlyRunningCount = ∑ i, gauges i
  | _ => True

theorem CallPc.gauged_wake (gauges : Fin W → ℕ) (pc : CallPc P) :
    pc.wake.Gauged gauges ↔ pc.Gauged gauges := by
  cases pc <;> exact Iff.rfl

/-- Nothing seen is nothing added up. -/
theorem sum_gauges_zero {gauges : Fin W → ℕ} {count : ℕ}
    (h : count = 0 ∧ ∀ i, gauges i = 0) : count = ∑ i, gauges i :=
  h.1.trans (Finset.sum_eq_zero fun i _ => h.2 i).symm

/-- The load of one gauge more. -/
theorem sum_update_gauge {gauges : Fin W → ℕ} {i : Fin W} (hzero : gauges i = 0) (running : ℕ) :
    ∑ j, Function.update gauges i running j = ∑ j, gauges j + running := by
  rw [Finset.sum_update_of_mem (Finset.mem_univ i), Nat.add_comm,
    ← Finset.add_sum_erase _ gauges (Finset.mem_univ i), hzero, Nat.zero_add,
    Finset.sdiff_singleton_eq_erase]

/-! ## One step -/

section Step

variable [DecidableEq C] {cfg : SchedulerConfig W} {t : Thread W C}
  {choice : SchedulerChoice W C P} {sh : Scheduler W C P} {gauges gauges' : Fin W → ℕ}

/-- The capture itself, which sees `gauges'` where it saw `gauges`. -/
theorem CallStepSpec.gauged {pc : CallPc P} {out : SchedulerStep W C P (CallPc P)}
    (h : CallStepSpec cfg t choice sh pc out)
    (hbegins : pc = .captureLifecycleLock → ∀ i, gauges' i = 0)
    (hloads : ∀ temporary (index : Fin W) contexts,
      pc = .captureLoad temporary index .currentlyRunning →
      sh.worker.workerContexts = some contexts →
      gauges' = Function.update gauges index (contexts index).currentlyRunningCount ∧
        temporary.currentlyRunningCount + (contexts index).currentlyRunningCount ≤ uint64Max)
    (hkeeps : pc.readsGauge = false → gauges' = gauges)
    (hgauged : pc.Gauged gauges) : out.2.1.Gauged gauges' := by
  cases h with
  | captureLifecycle hfree => exact ⟨rfl, hbegins rfl⟩
  -- without workers nothing is loaded and the sum is zero
  | captureNoWorkers temporary hheld =>
    obtain rfl := hkeeps rfl
    exact sum_gauges_zero hgauged
  | captureLifecycleDone temporary hheld =>
    obtain rfl := hkeeps rfl
    exact hgauged
  | captureWorker temporary hfree hinit hstarted =>
    obtain rfl := hkeeps rfl
    exact ⟨sum_gauges_zero hgauged, fun i _ => hgauged.2 i⟩
  | captureNoSlots temporary hfree hinit hstarted =>
    obtain rfl := hkeeps rfl
    exact sum_gauges_zero hgauged
  | captureLoad temporary index field next contexts hcontexts hnext =>
    obtain ⟨hsum, hunread⟩ := hgauged
    cases field with
    -- the only load that the gauges see
    | currentlyRunning =>
      cases hnext
      obtain ⟨hseen, hfits⟩ := hloads temporary index contexts rfl hcontexts
      have hzero : gauges index = 0 := hunread index (.inr ⟨rfl, nofun⟩)
      rw [hseen]
      refine ⟨?_, fun i hi => ?_⟩
      · have hroom := Nat.le_trans (Nat.le_add_right _ _) hfits
        rw [sum_update_gauge hzero, ← hsum]
        exact (addSaturating_eq _ _ hroom).1.trans (Nat.min_eq_right hfits)
      · -- only the slots after this one are left
        rcases hi with hlt | ⟨-, hne⟩
        · have hne : i ≠ index := Fin.ne_of_gt hlt
          rw [Function.update_of_ne hne]
          exact hunread i (.inl hlt)
        · exact absurd rfl hne
    | accountingOverflow => cases hnext
    | _ =>
      cases hnext
      obtain rfl := hkeeps rfl
      refine ⟨hsum, fun i hi => hunread i (hi.imp_right fun h => ⟨h.1, nofun⟩)⟩
  | captureNextSlot temporary index contexts hcontexts hindex =>
    obtain rfl := hkeeps rfl
    refine ⟨hgauged.1, fun i hi => hgauged.2 i (.inl ?_)⟩
    rcases hi with hlt | ⟨heq, -⟩ <;> omega
  | captureLastSlot temporary index contexts hcontexts hindex =>
    obtain rfl := hkeeps rfl
    exact hgauged.1
  | captureWorkerDone temporary hheld =>
    obtain rfl := hkeeps rfl
    exact hgauged
  | captureQueue temporary hq =>
    obtain rfl := hkeeps rfl
    cases hq with
    | run hact hleave => exact hgauged
    | leave op r =>
      cases r with
      | snapshot value =>
        cases value with
        | none => trivial
        | some value => exact hgauged
      | _ => trivial
  | enqueue kind task hq => cases hq <;> trivial
  | _ => trivial

end Step

/-! ## Runs -/

section Runs

variable [DecidableEq C] [Fintype C] {cfg : SchedulerConfig W} {t : Thread W C}
  {choice : SchedulerChoice W C P} {s s' : SchedulerPool W C P}
  {gauges : Thread W C → Fin W → ℕ}

omit [Fintype C] in
/-- What the step of thread `t` adds to what it saw. -/
theorem recordGauge_self (gauges : Thread W C → Fin W → ℕ) :
    ((s.pc t).toCall = .captureLifecycleLock →
      (gaugeEvents s t s').foldl recordGauge gauges t = fun _ => 0) ∧
    (∀ temporary (index : Fin W), (s.pc t).toCall = .captureLoad temporary index .currentlyRunning →
      (gaugeEvents s t s').foldl recordGauge gauges t
        = Function.update (gauges t) index (s.pc (.worker index)).running) ∧
    ((s.pc t).toCall.readsGauge = false →
      (gaugeEvents s t s').foldl recordGauge gauges t = gauges t) := by
  unfold gaugeEvents
  refine ⟨fun hpc => ?_, fun temporary index hpc => ?_, fun hkeeps => ?_⟩
  · rw [hpc]
    exact Function.update_self _ _ _
  · rw [hpc]
    dsimp only
    rw [dif_pos index.isLt]
    exact Function.update_self _ _ _
  · split
    · rename_i hpc
      rw [hpc] at hkeeps
      cases hkeeps
    · rename_i temporary index hpc
      rw [hpc] at hkeeps
      cases hkeeps
    · rfl

omit [Fintype C] in
/-- The steps of others show a capture nothing. -/
theorem recordGauge_other {u : Thread W C} (hu : t ≠ u) (gauges : Thread W C → Fin W → ℕ) :
    (gaugeEvents s t s').foldl recordGauge gauges u = gauges u := by
  unfold gaugeEvents
  split
  · exact Function.update_of_ne (Ne.symm hu) _ _
  · split
    · exact Function.update_of_ne (Ne.symm hu) _ _
    · rfl
  · rfl

/-- **One step keeps the sums true.** -/
theorem gauged_step (hreach : SchedulerReachable cfg s)
    (hstep : (schedulerProgram cfg).step t choice s = some s')
    (h : ∀ u, (s.pc u).toCall.Gauged (gauges u)) (u : Thread W C) :
    (s'.pc u).toCall.Gauged ((gaugeEvents s t s').foldl recordGauge gauges u) := by
  refine hreach.call_step u (A := fun pc => pc.Gauged (gauges u))
    (fun pc => pc.gauged_wake _) hstep (fun _ => trivial) ?_ ?_ (h u)
  · intro hu pc hpc
    rwa [recordGauge_other hu]
  · rintro out rfl hcall -
    obtain ⟨hbegins, hloads, hkeeps⟩ := recordGauge_self gauges
    refine hcall.gauged (fun hpc i => congrFun (hbegins hpc) i) ?_ hkeeps (h t)
    intro temporary index contexts hpc hcontexts
    -- what the slot holds is what its worker runs
    obtain ⟨wpc, hwpc⟩ := hreach.threads.workerPc index
    rw [hreach.running_count hwpc hcontexts]
    refine ⟨?_, ?_⟩
    · rw [hloads temporary index hpc, hwpc]
      rfl
    · rw [← hreach.running_count hwpc hcontexts]
      exact hreach.running_fits hpc hcontexts

/-- **A snapshot reports the callbacks that its capture saw running.** -/
theorem captured_running {queue : TaskQueue P}
    (hinit : taskQueueInit cfg.capacity true = (.ok, some queue)) (hW : 0 < W)
    {ls : List (Thread W C × SchedulerChoice W C P)}
    (hrun : (schedulerProgram cfg).run ls (schedulerInitial queue) = some s) {u : Thread W C}
    {a : SchedulerSnapshot} (hcaptured : (s.pc u).toCall = .captured (some a)) :
    a.currentlyRunningCount = ∑ i, gaugesOf cfg ls (schedulerInitial queue) u i := by
  have hgauged := (Program.log_of_steps gaugeEvents (J := fun noted s => SchedulerReachable cfg s ∧
    ∀ u, (s.pc u).toCall.Gauged (noted.foldl recordGauge (fun _ _ => 0) u))
    (fun hJ hstep => ⟨hJ.1.tail (.single ⟨_, _, hstep⟩), fun u => ?_⟩)
    ⟨⟨hW, queue, hinit, .refl⟩, ?_⟩ hrun).2 u
  · rw [hcaptured] at hgauged
    exact hgauged
  · rw [List.foldl_append]
    exact gauged_step hJ.1 hstep hJ.2 u
  · rintro (_ | i | c) <;> trivial

end Runs

end SchedulingEngine
