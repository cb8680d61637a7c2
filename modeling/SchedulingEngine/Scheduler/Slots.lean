import SchedulingEngine.Scheduler.Counters

/-!
# The slots of the workers

A worker counts a Task three times: as dequeued, as started, and by its outcome. Between
two of these stores its slot is ahead by one (`SlotBalanced`), and the totals of the
workers that are gone agree (`FoldedBalanced`). `SlotInv` says so in every reachable state
in which no counter has overflowed.
-/

namespace SchedulingEngine

open Concurrency

variable {W : ℕ} {C P : Type}

/-- What worker `i` has counted in its slot, if it has one. -/
def Scheduler.slotCount (sh : Scheduler W C P) (i : Fin W) (k : WorkerCount) : ℕ :=
  (sh.slot i).elim 0 k.slot

theorem Scheduler.slotCount_some {sh : Scheduler W C P} {contexts : Fin W → WorkerContext}
    (hcontexts : sh.worker.workerContexts = some contexts) (i : Fin W) (k : WorkerCount) :
    sh.slotCount i k = k.slot (contexts i) := by
  unfold slotCount slot
  rw [hcontexts]
  rfl

theorem Scheduler.slotCount_none {sh : Scheduler W C P}
    (hcontexts : sh.worker.workerContexts = none) (i : Fin W) (k : WorkerCount) :
    sh.slotCount i k = 0 := by
  unfold slotCount slot
  rw [hcontexts]
  rfl

/-- A total is what was folded and what the slots hold. -/
theorem Scheduler.counted_eq (sh : Scheduler W C P) (k : WorkerCount) :
    sh.worker.counted k = k.folded sh.worker + ∑ i, sh.slotCount i k := by
  unfold WorkerDomain.counted
  cases hcontexts : sh.worker.workerContexts with
  | none => simp only [Option.elim_none, slotCount_none hcontexts, Finset.sum_const_zero]
  | some contexts => simp only [Option.elim_some, slotCount_some hcontexts]

/-- Counted as dequeued, and not as started. -/
def WorkerPc.unstarted : WorkerPc P → ℕ
  | .accountStarted _ => 1
  | _ => 0

/-- Counted as started, with the outcome not counted. -/
def WorkerPc.unfinished : WorkerPc P → ℕ
  | .accountRunning _ | .invoke _ _ | .callback _ _ _ | .accountResult _ _ => 1
  | _ => 0

/-- The slot of a worker at `pc`. -/
structure SlotBalanced (sh : Scheduler W C P) (i : Fin W) (pc : WorkerPc P) : Prop where
  started : sh.slotCount i .dequeued = sh.slotCount i .started + pc.unstarted
  finished : sh.slotCount i .started
    = sh.slotCount i .succeeded + sh.slotCount i .failed + pc.unfinished

/-- The totals of the workers that are gone. -/
structure FoldedBalanced {T : Type} (w : WorkerDomain W T) : Prop where
  started : w.dequeuedCount = w.callbackStartedCount
  finished : w.callbackStartedCount = w.successfulCallbackCount + w.failedCallbackCount
  bounded : w.callbackStartedCount ≤ uint64Max

theorem WorkerPc.unstarted_of_dead {pc : WorkerPc P} (h : pc.alive = false) :
    pc.unstarted = 0 ∧ pc.unfinished = 0 := by
  cases pc with
  | notCreated => exact ⟨rfl, rfl⟩
  | finished r => exact ⟨rfl, rfl⟩
  | _ => cases h

/-! ## What one step does to a slot -/

section Steps

variable {cfg : SchedulerConfig W} {t : Thread W C} {choice : SchedulerChoice W C P}
  {sh : Scheduler W C P} {f : ClosableFifo P}

theorem storeSlot_slotCount {i : Fin W} {g : WorkerContext → WorkerContext} {n : WorkerCount → ℕ}
    (hsome : sh.worker.workerContexts.isSome = true)
    (hg : ∀ context, (g context).accountingOverflow = false → context.accountingOverflow = false ∧
      ∀ k : WorkerCount, k.slot (g context) = k.slot context + n k)
    (hexact : (storeSlot i sh g).worker.Exact) (k : WorkerCount) :
    (storeSlot i sh g).slotCount i k = sh.slotCount i k + n k := by
  obtain ⟨contexts, hcontexts⟩ := Option.isSome_iff_exists.mp hsome
  have hcontexts' : (storeSlot i sh g).worker.workerContexts
      = some (Function.update contexts i (g (contexts i))) := by
    simp [storeSlot, setContext, hcontexts]
  have hflag := hexact.slots _ hcontexts' i
  rw [Function.update_self] at hflag
  rw [Scheduler.slotCount_some hcontexts', Function.update_self, Scheduler.slotCount_some hcontexts]
  exact (hg (contexts i) hflag).2 k

variable [DecidableEq C]

/-- A worker counts in its own slot. -/
theorem WorkerStepSpec.slotCount {i : Fin W} {pc : WorkerPc P}
    {out : SchedulerStep W C P (WorkerPc P)} (h : WorkerStepSpec cfg t choice sh i pc out)
    (habs : Abstracts sh.queue f) (hexact : out.1.worker.Exact) (k : WorkerCount) :
    out.1.slotCount i k = sh.slotCount i k + pc.stores k := by
  have hsame : ∀ {sh' : Scheduler W C P}, sh'.slot i = sh.slot i → (∀ k, pc.stores k = 0) →
      sh'.slotCount i k = sh.slotCount i k + pc.stores k := by
    intro sh' hslot hstores
    rw [hstores, Nat.add_zero]
    exact congrArg (fun slot => Option.elim slot 0 k.slot) hslot
  cases h with
  | dequeue hq => exact hsame (hq.workerFrame habs i).slot fun k => by cases k <;> rfl
  -- each store counts its stage in the worker's own slot
  | accountDequeued task hcontexts =>
    exact (storeSlot_slotCount hcontexts accountDequeued_counts hexact k).trans
      (by cases k <;> rfl)
  | accountStarted task hcontexts =>
    exact (storeSlot_slotCount hcontexts accountStarted_counts hexact k).trans (by cases k <;> rfl)
  | accountRunning task contexts hcontexts =>
    exact (storeSlot_slotCount (by rw [hcontexts]; rfl) accountRunning_counts hexact k).trans
      (by cases k <;> rfl)
  | call task runningAccounted hcall =>
    exact hsame (hcall.workerFrame habs i).slot fun k => by cases k <;> rfl
  | accountResult succeeded hcontexts =>
    exact (storeSlot_slotCount hcontexts (accountResult_counts succeeded) hexact k).trans
      (by cases succeeded <;> cases k <;> rfl)
  | accountResultOnly succeeded hcontexts =>
    exact (storeSlot_slotCount hcontexts (accountResult_counts succeeded) hexact k).trans
      (by cases succeeded <;> cases k <;> rfl)
  | accountRunningDone hcontexts =>
    exact (storeSlot_slotCount hcontexts accountRunningDone_counts hexact k).trans
      (by cases k <;> rfl)
  | queueShutdown r hq => exact hsame (hq.workerFrame habs i).slot fun k => by cases k <;> rfl
  | exit r hfree hinit =>
    obtain ⟨active, failures, overflow, failure, hexit⟩ :=
      recordWorkerExit_frame (sh.lockWorker t).worker r
    refine hsame ?_ fun k => by cases k <;> rfl
    dsimp only
    rw [hexit]
    rfl
  | _ => exact hsame rfl fun k => by cases k <;> rfl

/-- The stages of a Task, in order. -/
theorem WorkerStepSpec.stages {i : Fin W} {pc : WorkerPc P} {out : SchedulerStep W C P (WorkerPc P)}
    (h : WorkerStepSpec cfg t choice sh i pc out) :
    pc.unstarted + pc.stores .dequeued = pc.stores .started + out.2.1.unstarted ∧
      pc.unfinished + pc.stores .started
        = pc.stores .succeeded + pc.stores .failed + out.2.1.unfinished := by
  cases h with
  | dequeue hq =>
    cases hq with
    | run hact hleave => exact ⟨rfl, rfl⟩
    | leave op r =>
      rcases afterDequeue_cases r with hpc | hpc | ⟨task, -, hpc⟩ <;> rw [hpc] <;> exact ⟨rfl, rfl⟩
  | accountResult succeeded hcontexts => cases succeeded <;> exact ⟨rfl, rfl⟩
  | accountResultOnly succeeded hcontexts => cases succeeded <;> exact ⟨rfl, rfl⟩
  | queueShutdown r hq => cases hq <;> exact ⟨rfl, rfl⟩
  | _ => exact ⟨rfl, rfl⟩

/-- A lifecycle call leaves a slot as it is, or makes or frees the slots of workers that do
not run. -/
theorem ControllerStepSpec.slotCount {pc : ControllerPc P}
    {out : SchedulerStep W C P (ControllerPc P)} (h : ControllerStepSpec cfg choice sh pc out)
    (hphase : (pc.phase W).Ok sh) (hgone : pc.HandlesGone sh.crew) (i : Fin W) :
    (∀ k, out.1.slotCount i k = sh.slotCount i k) ∨
      (∀ k, out.1.slotCount i k = 0) ∧
        ∀ wpc : WorkerPc P, WorkerOk sh i wpc → wpc.alive = false := by
  -- most steps leave the slot alone
  have hsame : ∀ {sh' : Scheduler W C P}, sh'.slot i = sh.slot i →
      (∀ k, sh'.slotCount i k = sh.slotCount i k) ∨ (∀ k, sh'.slotCount i k = 0) ∧
        ∀ wpc : WorkerPc P, WorkerOk sh i wpc → wpc.alive = false :=
    fun hslot => .inl fun k => congrArg (fun slot => Option.elim slot 0 k.slot) hslot
  -- a slot goes away with workers that are not there yet, or are gone
  have hnone : sh.worker.createdWorkerCount = 0 →
      ∀ wpc : WorkerPc P, WorkerOk sh i wpc → wpc.alive = false := by
    intro hcreated wpc hok
    rw [hok.created.mpr (hcreated.trans_le (Nat.zero_le _))]
    rfl
  -- a creation writes the index and no count
  have hcreating : ∀ {sh' : Scheduler W C P} {j : Fin W}, sh'.slot i
      = (if i = j then (sh.slot j).map fun context =>
          { context with scheduler := true, workerIndex := (j : ℕ) } else sh.slot i) →
      ∀ k, sh'.slotCount i k = sh.slotCount i k := by
    intro sh' j hslot k
    unfold Scheduler.slotCount
    rw [hslot]
    split
    · rename_i hij
      subst hij
      cases sh.slot i with
      | none => rfl
      | some context => cases k <;> rfl
    · rfl
  cases h with
  | allocationFailed sh' hsh hfail =>
    subst hsh
    exact .inr ⟨fun k => Scheduler.slotCount_none rfl i k, hnone hphase.2.1.created⟩
  | allocated sh' hsh hthreads hcontexts =>
    subst hsh
    refine .inr ⟨fun k => ?_, hnone hphase.2.1.created⟩
    rw [Scheduler.slotCount_some hcontexts]
    cases k <;> rfl
  | syncInitFailed mutexInitialized hmutex hfail =>
    exact .inr ⟨fun k => Scheduler.slotCount_none rfl i k, hnone hphase.2.1.created⟩
  | createFailed j faultPlan hfree hinit hfail => exact .inl (hcreating (creating_slot sh i j))
  | created j faultPlan hfree hinit => exact .inl (hcreating (creating_slot sh i j))
  | releaseLock caller index event result allJoined hfree hinit => cases event <;> exact hsame rfl
  | fold caller result worker hfree hinit hfold =>
    obtain ⟨_, _, _, _, _, rfl⟩ := foldWorkers_frame hfold
    exact .inr ⟨fun k => Scheduler.slotCount_none rfl i k,
      fun wpc hok => hok.not_alive hphase.2.1 hgone⟩
  | abortQueue hq => rw [hq.frame]; exact hsame rfl
  | shutdownQueue hq => rw [hq.frame]; exact hsame rfl
  | _ => exact hsame rfl

/-! ## What one step does to the folded totals -/

omit [DecidableEq C] in
theorem addSaturating_le {target value : ℕ} {overflow : Bool} (h : target ≤ uint64Max) :
    (addSaturating target value overflow).1 ≤ uint64Max := by
  unfold addSaturating
  split
  · exact Nat.le_refl _
  · rename_i hroom
    show target + value ≤ uint64Max
    omega

theorem foldl_foldContext_bounded {T : Type} (contexts : Fin W → WorkerContext) (is : List (Fin W))
    {w : WorkerDomain W T} (h : w.callbackStartedCount ≤ uint64Max) :
    (is.foldl (fun w i => foldContext w (contexts i)) w).callbackStartedCount ≤ uint64Max := by
  induction is generalizing w with
  | nil => exact h
  | cons i is ih => exact ih (addSaturating_le h)

/-- The fold of slots that are balanced. -/
theorem foldWorkers_balanced {T : Type} {w w' : WorkerDomain W T} (hfold : foldWorkers w = some w')
    (hslots : ∀ contexts, w.workerContexts = some contexts → ∀ i,
      (contexts i).dequeuedCount = (contexts i).callbackStartedCount ∧
        (contexts i).callbackStartedCount
        = (contexts i).callbackSucceededCount + (contexts i).callbackFailedCount)
    (hexact : w'.Exact) (h : FoldedBalanced w) : FoldedBalanced w' := by
  unfold foldWorkers at hfold
  dsimp only at hfold
  cases hcontexts : w.workerContexts with
  | none =>
    rw [hcontexts] at hfold
    simp only [Option.ite_none_right_eq_some, Option.some.injEq] at hfold
    obtain ⟨-, rfl⟩ := hfold
    exact ⟨h.started, h.finished, h.bounded⟩
  | some contexts =>
    rw [hcontexts] at hfold
    cases hfold
    obtain ⟨-, -, hsum⟩ := foldl_foldContext_counts contexts _ hexact.totals
    have hslots := hslots contexts hcontexts
    generalize (List.finRange W).take w.startedWorkerCount = is at hsum ⊢
    refine ⟨?_, ?_, foldl_foldContext_bounded contexts is h.bounded⟩
    · have hcongr : (is.map fun i => WorkerCount.dequeued.slot (contexts i)).sum
          = (is.map fun i => WorkerCount.started.slot (contexts i)).sum :=
        congrArg List.sum (List.map_congr_left fun i _ => (hslots i).1)
      exact (hsum .dequeued).trans ((congrArg₂ (· + ·) h.started hcongr).trans (hsum .started).symm)
    · have hcongr : (is.map fun i => WorkerCount.started.slot (contexts i)).sum
          = (is.map fun i => WorkerCount.succeeded.slot (contexts i)).sum
            + (is.map fun i => WorkerCount.failed.slot (contexts i)).sum := by
        rw [← List.sum_map_add]
        exact congrArg List.sum (List.map_congr_left fun i _ => (hslots i).2)
      have hsums := congrArg₂ (· + ·) (hsum .succeeded) (hsum .failed)
      refine (hsum .started).trans (Eq.trans ?_ hsums.symm)
      rw [hcongr]
      show w.callbackStartedCount + _ = w.successfulCallbackCount + _ + (w.failedCallbackCount + _)
      rw [h.finished]
      exact Nat.add_add_add_comm _ _ _ _

omit [DecidableEq C] in
/-- Where nothing is folded the totals stand. -/
theorem FoldedBalanced.congr {T : Type} {w w' : WorkerDomain W T} (h : FoldedBalanced w)
    (hfolded : ∀ k : WorkerCount, k.folded w' = k.folded w) : FoldedBalanced w' where
  started := (hfolded .dequeued).trans (h.started.trans (hfolded .started).symm)
  finished := by
    have hsum := congrArg₂ (· + ·) (hfolded .succeeded) (hfolded .failed)
    exact (hfolded .started).trans (h.finished.trans hsum.symm)
  bounded := (hfolded .started).trans_le h.bounded

theorem CallStepSpec.folded {pc : CallPc P} {out : SchedulerStep W C P (CallPc P)}
    (h : CallStepSpec cfg t choice sh pc out) (k : WorkerCount) :
    k.folded out.1.worker = k.folded sh.worker := by
  cases h with
  | enqueue kind task hq => rw [hq.frame]
  | captureQueue temporary hq => rw [hq.frame]
  | _ => cases k <;> rfl

/-- Only `release_workers` folds. -/
theorem WorkerStepSpec.folded {i : Fin W} {pc : WorkerPc P} {out : SchedulerStep W C P (WorkerPc P)}
    (h : WorkerStepSpec cfg t choice sh i pc out) (k : WorkerCount) :
    k.folded out.1.worker = k.folded sh.worker := by
  cases h with
  | dequeue hq => rw [hq.frame]
  | call task runningAccounted hcall => exact hcall.folded k
  | queueShutdown r hq => rw [hq.frame]
  | exit r hfree hinit =>
    obtain ⟨active, failures, overflow, failure, hexit⟩ :=
      recordWorkerExit_frame (sh.lockWorker t).worker r
    dsimp only
    rw [hexit]
    cases k <;> rfl
  | _ => cases k <;> rfl

theorem ControllerStepSpec.foldedBalanced {pc : ControllerPc P}
    {out : SchedulerStep W C P (ControllerPc P)} (h : ControllerStepSpec cfg choice sh pc out)
    (hphase : (pc.phase W).Ok sh) (hgone : pc.HandlesGone sh.crew)
    (hslots : ∀ i, ∃ wpc : WorkerPc P, WorkerOk sh i wpc ∧ SlotBalanced sh i wpc)
    (hexact : out.1.worker.Exact) (hfolded : FoldedBalanced sh.worker) :
    FoldedBalanced out.1.worker := by
  cases h with
  | allocationFailed sh' hsh hfail =>
    subst hsh; exact ⟨hfolded.started, hfolded.finished, hfolded.bounded⟩
  | allocated sh' hsh hthreads hcontexts =>
    subst hsh
    exact ⟨hfolded.started, hfolded.finished, hfolded.bounded⟩
  | releaseLock caller index event result allJoined hfree hinit =>
    refine hfolded.congr fun k => ?_
    cases event <;> cases k <;> rfl
  | fold caller result worker hfree hinit hfold =>
    refine foldWorkers_balanced hfold ?_ hexact
      (hfolded.congr fun k => by cases k <;> rfl)
    intro contexts hcontexts i
    -- the workers are gone, so their slots are balanced without them
    obtain ⟨wpc, hok, hbalanced⟩ := hslots i
    obtain ⟨h₁, h₂⟩ := WorkerPc.unstarted_of_dead (hok.not_alive hphase.2.1 hgone)
    have hstarted := hbalanced.started
    have hfinished := hbalanced.finished
    rw [h₁] at hstarted
    rw [h₂] at hfinished
    have hcontexts' : sh.worker.workerContexts = some contexts := hcontexts
    simp only [Scheduler.slotCount_some hcontexts'] at hstarted hfinished
    exact ⟨hstarted, hfinished⟩
  | abortQueue hq => rw [hq.frame]; exact hfolded
  | shutdownQueue hq => rw [hq.frame]; exact hfolded
  | _ => exact ⟨hfolded.started, hfolded.finished, hfolded.bounded⟩

/-- **What one step does to the slot of worker `i`**: it counts what the worker itself is
about to count, or the slot is made or freed while the worker does not run. -/
theorem SchedulerStepSpec.slotCount {pc : SchedulerPc W P}
    {out : SchedulerStep W C P (SchedulerPc W P)} (h : SchedulerStepSpec cfg choice sh t pc out)
    (habs : Abstracts sh.queue f) (hself : ThreadOk sh t pc) (hexact : out.1.worker.Exact)
    (i : Fin W) :
    (∀ k, out.1.slotCount i k = sh.slotCount i k + if t = .worker i then pc.stores k else 0) ∨
      (∀ k, out.1.slotCount i k = 0) ∧ t ≠ .worker i ∧
        ∀ wpc : WorkerPc P, WorkerOk sh i wpc → wpc.alive = false := by
  have hframe : ∀ {sh' : Scheduler W C P}, WorkerFrame i sh sh' → t ≠ .worker i → ∀ k,
      sh'.slotCount i k = sh.slotCount i k + if t = .worker i then pc.stores k else 0 := by
    intro sh' hframe ht k
    rw [if_neg ht]
    exact congrArg (fun slot => Option.elim slot 0 k.slot) hframe.slot
  cases h with
  | call c h => exact .inl (hframe (h.workerFrame habs i) nofun)
  | worker j h =>
    by_cases hij : i = j
    · subst hij
      refine .inl fun k => ?_
      rw [if_pos rfl]
      exact h.slotCount habs hexact k
    · refine .inl (hframe (h.workerFrame hij habs) ?_)
      rintro ⟨⟩
      exact hij rfl
  | controller h =>
    rcases h.slotCount hself.1 hself.2 i with hsame | ⟨hzero, hdead⟩
    · exact .inl fun k => (hsame k).trans (Nat.add_zero _).symm
    · exact .inr ⟨hzero, nofun, hdead⟩

/-- The totals of the workers that are gone stay balanced. -/
theorem SchedulerStepSpec.foldedBalanced {pc : SchedulerPc W P}
    {out : SchedulerStep W C P (SchedulerPc W P)} (h : SchedulerStepSpec cfg choice sh t pc out)
    (hself : ThreadOk sh t pc)
    (hslots : ∀ i, ∃ wpc : WorkerPc P, WorkerOk sh i wpc ∧ SlotBalanced sh i wpc)
    (hexact : out.1.worker.Exact) (hfolded : FoldedBalanced sh.worker) :
    FoldedBalanced out.1.worker := by
  cases h with
  | call c h => exact hfolded.congr h.folded
  | worker j h => exact hfolded.congr h.folded
  | controller h => exact h.foldedBalanced hself.1 hself.2 hslots hexact hfolded

def SchedulerPc.stages : SchedulerPc W P → ℕ × ℕ
  | .worker _ pc => (pc.unstarted, pc.unfinished)
  | _ => (0, 0)

theorem SchedulerPc.stages_wake (pc : SchedulerPc W P) : pc.wake.stages = pc.stages := by
  cases pc with
  | worker i pc => cases pc <;> rfl
  | _ => rfl

/-- A thread goes through the stages of a Task in order. -/
theorem SchedulerStepSpec.stages {pc : SchedulerPc W P}
    {out : SchedulerStep W C P (SchedulerPc W P)} (h : SchedulerStepSpec cfg choice sh t pc out) :
    pc.stages.1 + pc.stores .dequeued = pc.stores .started + out.2.1.stages.1 ∧
      pc.stages.2 + pc.stores .started
        = pc.stores .succeeded + pc.stores .failed + out.2.1.stages.2 := by
  cases h with
  | call c h => exact ⟨rfl, rfl⟩
  | worker i h => exact h.stages
  | controller h => exact ⟨rfl, rfl⟩

end Steps

/-! ## Reachable states -/

section Reachable

variable [DecidableEq C] [Fintype C] {cfg : SchedulerConfig W} {t : Thread W C}
  {choice : SchedulerChoice W C P} {s s' : SchedulerPool W C P}

/-- As long as no counter has overflowed, slots and totals are balanced. -/
structure SlotInv (s : SchedulerPool W C P) : Prop where
  slots : s.shared.worker.Exact → ∀ i wpc, s.pc (.worker i) = .worker i wpc →
    SlotBalanced s.shared i wpc
  folded : s.shared.worker.Exact → FoldedBalanced s.shared.worker

omit [DecidableEq C] [Fintype C] in
theorem slotInv_initial (queue : TaskQueue P) :
    SlotInv (schedulerInitial queue : SchedulerPool W C P) := by
  refine ⟨?_, fun _ => ⟨rfl, rfl, Nat.zero_le _⟩⟩
  rintro - i wpc ⟨⟩
  exact ⟨rfl, rfl⟩

/-- **One step keeps the slots and the totals balanced.** -/
theorem slotInv_step (hreach : SchedulerReachable cfg s) (h : SlotInv s)
    (hstep : (schedulerProgram cfg).step t choice s = some s') : SlotInv s' := by
  obtain ⟨pc, fx, hspec, hfx⟩ := hreach.threads.step_spec hstep
  obtain ⟨f, habs, -⟩ := hreach.threads.abstracts
  have hself := hreach.lifecycle.threads t
  have hexact : s'.shared.worker.Exact → s.shared.worker.Exact :=
    fun hexact' => (hspec.tallies hself hreach.spareSlots hexact').1
  refine ⟨?_, ?_⟩
  · intro hexact' i wpc' hwpc'
    obtain ⟨wpc, hwpc⟩ := hreach.threads.workerPc i
    have hbalanced := h.slots (hexact hexact') i wpc hwpc
    obtain ⟨hstagesSelf, hstagesOther⟩ := Program.step_blind
      (schedulerProgram_blind SchedulerPc.stages_wake fun _ => rfl) hfx
    rcases hspec.slotCount habs hself hexact' i with hcount | ⟨hzero, ht, hdead⟩
    · by_cases ht : t = .worker i
      · subst ht
        -- the worker itself: what it counts is the stage that it leaves
        obtain ⟨h₁, h₂⟩ := hspec.stages
        simp only [if_true] at hcount
        rw [hwpc'] at hstagesSelf
        have hunstarted : wpc'.unstarted = pc.stages.1 := congrArg Prod.fst hstagesSelf
        have hunfinished : wpc'.unfinished = pc.stages.2 := congrArg Prod.snd hstagesSelf
        rw [hwpc] at h₁ h₂ hcount
        have hstarted := hbalanced.started
        have hfinished := hbalanced.finished
        constructor
        · rw [hcount, hcount, hunstarted]
          dsimp only [SchedulerPc.stages, SchedulerPc.stores] at h₁ ⊢
          omega
        · rw [hcount, hcount, hcount, hunfinished]
          dsimp only [SchedulerPc.stages, SchedulerPc.stores] at h₂ ⊢
          omega
      · have hsame := hstagesOther (.worker i) (Ne.symm ht)
        rw [hwpc', hwpc] at hsame
        obtain ⟨hunstarted, hunfinished⟩ := Prod.mk.inj hsame
        simp only [if_neg ht, Nat.add_zero] at hcount
        constructor
        · rw [hcount, hcount, hunstarted]
          exact hbalanced.started
        · rw [hcount, hcount, hcount, hunfinished]
          exact hbalanced.finished
    · have hsame := hstagesOther (.worker i) (Ne.symm ht)
      rw [hwpc', hwpc] at hsame
      obtain ⟨hunstarted, hunfinished⟩ := Prod.mk.inj hsame
      obtain ⟨h₁, h₂⟩ := WorkerPc.unstarted_of_dead (hdead wpc (hreach.lifecycle.worker hwpc))
      constructor
      · rw [hzero, hzero, hunstarted, h₁]
      · rw [hzero, hzero, hzero, hunfinished, h₂]
  · intro hexact'
    refine hspec.foldedBalanced hself (fun i => ?_) hexact' (h.folded (hexact hexact'))
    obtain ⟨wpc, hwpc⟩ := hreach.threads.workerPc i
    exact ⟨wpc, hreach.lifecycle.worker hwpc, h.slots (hexact hexact') i wpc hwpc⟩

theorem SchedulerReachable.slots (h : SchedulerReachable cfg s) : SlotInv s :=
  h.invariant (fun queue _ => slotInv_initial queue) slotInv_step

/-- What a slot says, whatever its worker is doing. -/
theorem SchedulerReachable.slot_ordered (h : SchedulerReachable cfg s)
    (hexact : s.shared.worker.Exact) (i : Fin W) :
    s.shared.slotCount i .started ≤ s.shared.slotCount i .dequeued ∧
      s.shared.slotCount i .succeeded + s.shared.slotCount i .failed
        ≤ s.shared.slotCount i .started := by
  obtain ⟨wpc, hwpc⟩ := h.threads.workerPc i
  obtain ⟨hstarted, hfinished⟩ := h.slots.slots hexact i wpc hwpc
  omega

end Reachable

end SchedulingEngine
