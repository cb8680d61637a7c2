import Mathlib.Algebra.BigOperators.Fin
import SchedulingEngine.Scheduler.ExactlyOnce

/-!
# The counters of a scheduler

What the saturating counters say as long as none of them has overflowed. A submission
is counted under `lifecycle_mutex` when it registers and when it deregisters; a Task is
counted by the worker that holds it, with one atomic store for each stage of its
execution (`WorkerCount`), into a slot that `release_workers` folds into the totals when
it frees the workers.

`WorkerDomain.counted` is a total with the slots that are not folded yet.
`SchedulerStepSpec.counted` says that it moves at the store of its stage and at no other
step; `Counters` relates the totals to the histories in every reachable state.
-/

namespace SchedulingEngine

open Concurrency

variable {W : ℕ} {C P : Type}

/-- The stages of a Task that a worker counts. -/
inductive WorkerCount where
  | dequeued
  | started
  | succeeded
  | failed
  deriving DecidableEq, Repr

instance : Fintype WorkerCount where
  elems := {.dequeued, .started, .succeeded, .failed}
  complete k := by cases k <;> decide

namespace WorkerCount

/-- In the slot of a worker. -/
def slot : WorkerCount → WorkerContext → ℕ
  | .dequeued, context => context.dequeuedCount
  | .started, context => context.callbackStartedCount
  | .succeeded, context => context.callbackSucceededCount
  | .failed, context => context.callbackFailedCount

/-- In the totals of the workers that are gone. -/
def folded {T : Type} : WorkerCount → WorkerDomain W T → ℕ
  | .dequeued, w => w.dequeuedCount
  | .started, w => w.callbackStartedCount
  | .succeeded, w => w.successfulCallbackCount
  | .failed, w => w.failedCallbackCount

end WorkerCount

/-- A slot as it was allocated has counted nothing. -/
theorem WorkerContext.Untouched.slot_eq_zero {context : WorkerContext} (h : context.Untouched)
    (k : WorkerCount) : k.slot context = 0 := by
  obtain ⟨h₁, h₂, h₃, h₄, -⟩ := h
  cases k with
  | dequeued => exact h₁
  | started => exact h₂
  | succeeded => exact h₃
  | failed => exact h₄

namespace WorkerDomain

variable {T : Type}

/-- The folded total and the slots of the workers that are there. -/
def counted (w : WorkerDomain W T) (k : WorkerCount) : ℕ :=
  k.folded w + w.workerContexts.elim 0 fun contexts => ∑ i, k.slot (contexts i)

/-- No counter of the workers has overflowed. -/
structure Exact (w : WorkerDomain W T) : Prop where
  totals : w.accountingOverflow = false
  slots : ∀ contexts, w.workerContexts = some contexts → ∀ i,
    (contexts i).accountingOverflow = false

instance (w : WorkerDomain W T) : Decidable w.Exact :=
  decidable_of_iff (w.accountingOverflow = false ∧ ∀ i, (w.workerContexts.all fun contexts =>
      (contexts i).accountingOverflow = false) = true) <| by
    constructor
    · rintro ⟨htotals, hslots⟩
      refine ⟨htotals, fun contexts hcontexts i => ?_⟩
      simpa [hcontexts] using hslots i
    · rintro ⟨htotals, hslots⟩
      refine ⟨htotals, fun i => ?_⟩
      cases hcontexts : w.workerContexts with
      | none => rfl
      | some contexts => simpa using hslots contexts hcontexts i

end WorkerDomain

/-- About to count this stage of a Task. -/
def WorkerPc.stores : WorkerPc P → WorkerCount → ℕ
  | .accountDequeued _, .dequeued | .accountStarted _, .started
  | .accountResult _ true, .succeeded | .accountResult _ false, .failed => 1
  | _, _ => 0

def SchedulerPc.stores : SchedulerPc W P → WorkerCount → ℕ
  | .worker _ pc => pc.stores
  | _ => fun _ => 0

/-! ## The stores of a worker -/

section Stores

variable {T : Type} {w w' : WorkerDomain W T}

/-- A step that leaves the slots and the folded totals alone. -/
theorem WorkerDomain.counted_congr (hcontexts : w'.workerContexts = w.workerContexts)
    (hfolded : ∀ k : WorkerCount, k.folded w' = k.folded w) (k : WorkerCount) :
    w'.counted k = w.counted k := by
  unfold counted
  rw [hcontexts, hfolded]

/-- A store to the slot of worker `i`, by an update that counts the stages `n`. -/
theorem setContext_counted {i : Fin W} {g : WorkerContext → WorkerContext} {n : WorkerCount → ℕ}
    (hsome : w.workerContexts.isSome = true)
    (hg : ∀ context, (g context).accountingOverflow = false →
      context.accountingOverflow = false ∧ ∀ k : WorkerCount,
        k.slot (g context) = k.slot context + n k)
    (hexact : (setContext w i g).Exact) :
    w.Exact ∧ ∀ k, (setContext w i g).counted k = w.counted k + n k := by
  obtain ⟨contexts, hcontexts⟩ := Option.isSome_iff_exists.mp hsome
  have hcontexts' : (setContext w i g).workerContexts
      = some (Function.update contexts i (g (contexts i))) := by
    simp [setContext, hcontexts]
  have hslot := hexact.slots _ hcontexts'
  have hself := hg (contexts i) (by simpa using hslot i)
  constructor
  · refine ⟨hexact.totals, fun contexts₁ h₁ j => ?_⟩
    cases hcontexts.symm.trans h₁
    by_cases hji : j = i
    · exact hji ▸ hself.1
    · simpa [hji] using hslot j
  · intro k
    have hsum := Program.total_update k.slot contexts i (g (contexts i))
    unfold Program.total at hsum
    rw [hself.2 k] at hsum
    unfold WorkerDomain.counted
    rw [hcontexts', hcontexts]
    dsimp only [Option.elim]
    rw [show k.folded (setContext w i g) = k.folded w by cases k <;> rfl]
    omega

/-- Each of the worker's stores counts one stage, unless it overflows. -/
theorem accountDequeued_counts (context : WorkerContext)
    (h : (accountDequeued context).accountingOverflow = false) :
    context.accountingOverflow = false ∧ ∀ k : WorkerCount,
      k.slot (accountDequeued context) = k.slot context + if k = .dequeued then 1 else 0 := by
  obtain ⟨hflag, hcount⟩ := incrementSingleWriterAtomic_exact h
  refine ⟨hflag, fun k => ?_⟩
  cases k with
  | dequeued => exact congrArg Prod.fst hcount
  | _ => rfl

/-- This one counts a callback that starts. -/
theorem accountStarted_counts (context : WorkerContext)
    (h : (accountStarted context).accountingOverflow = false) :
    context.accountingOverflow = false ∧ ∀ k : WorkerCount,
      k.slot (accountStarted context) = k.slot context + if k = .started then 1 else 0 := by
  obtain ⟨hflag, hcount⟩ := incrementSingleWriterAtomic_exact h
  refine ⟨hflag, fun k => ?_⟩
  cases k with
  | started => exact congrArg Prod.fst hcount
  | _ => rfl

/-- The running count is none of the stages. -/
theorem accountRunning_counts (context : WorkerContext)
    (h : (accountRunning context).1.accountingOverflow = false) :
    context.accountingOverflow = false ∧ ∀ k : WorkerCount,
      k.slot (accountRunning context).1 = k.slot context + 0 :=
  ⟨(incrementSingleWriterAtomic_exact h).1, fun k => by cases k <;> rfl⟩

/-- An outcome is a success or a failure. -/
theorem accountResult_counts (succeeded : Bool) (context : WorkerContext)
    (h : (accountResult succeeded context).accountingOverflow = false) :
    context.accountingOverflow = false ∧ ∀ k : WorkerCount,
      k.slot (accountResult succeeded context)
        = k.slot context + if k = (if succeeded then .succeeded else .failed) then 1 else 0 := by
  cases succeeded with
  | true =>
    obtain ⟨hflag, hcount⟩ := incrementSingleWriterAtomic_exact h
    refine ⟨hflag, fun k => ?_⟩
    cases k with
    | succeeded => exact congrArg Prod.fst hcount
    | _ => rfl
  | false =>
    obtain ⟨hflag, hcount⟩ := incrementSingleWriterAtomic_exact h
    refine ⟨hflag, fun k => ?_⟩
    cases k with
    | failed => exact congrArg Prod.fst hcount
    | _ => rfl

/-- The running count goes down again, and no stage is counted. -/
theorem accountRunningDone_counts (context : WorkerContext)
    (h : (accountRunningDone context).accountingOverflow = false) :
    context.accountingOverflow = false ∧ ∀ k : WorkerCount,
      k.slot (accountRunningDone context) = k.slot context + 0 :=
  ⟨h, fun k => by cases k <;> rfl⟩

end Stores

/-! ## The fold -/

section Fold

variable {T : Type} {w w' : WorkerDomain W T}

/-- A slot folded without overflow. -/
theorem foldContext_counts {context : WorkerContext}
    (h : (foldContext w context).accountingOverflow = false) :
    w.accountingOverflow = false ∧ context.accountingOverflow = false ∧
      ∀ k : WorkerCount, k.folded (foldContext w context) = k.folded w + k.slot context := by
  obtain ⟨hflag, hcontext⟩ := Bool.or_eq_false_iff.mp h
  obtain ⟨hflag, hfailed⟩ := addSaturating_exact hflag
  obtain ⟨hflag, hsucceeded⟩ := addSaturating_exact hflag
  obtain ⟨hflag, hstarted⟩ := addSaturating_exact hflag
  obtain ⟨hflag, hdequeued⟩ := addSaturating_exact hflag
  refine ⟨hflag, hcontext, fun k => ?_⟩
  cases k with
  | dequeued => exact hdequeued
  | started => exact hstarted
  | succeeded => exact hsucceeded
  | failed => exact hfailed

/-- Slots folded one after the other without overflow. -/
theorem foldl_foldContext_counts (contexts : Fin W → WorkerContext) (is : List (Fin W))
    (h : (is.foldl (fun w i => foldContext w (contexts i)) w).accountingOverflow = false) :
    w.accountingOverflow = false ∧ (∀ i ∈ is, (contexts i).accountingOverflow = false) ∧
      ∀ k : WorkerCount, k.folded (is.foldl (fun w i => foldContext w (contexts i)) w)
        = k.folded w + (is.map fun i => k.slot (contexts i)).sum := by
  induction is generalizing w with
  | nil => exact ⟨h, nofun, fun _ => rfl⟩
  | cons i is ih =>
    obtain ⟨hflag, hrest, hsum⟩ := ih h
    obtain ⟨hw, hi, hfirst⟩ := foldContext_counts hflag
    refine ⟨hw, ?_, fun k => ?_⟩
    · intro j hj
      rcases List.mem_cons.mp hj with rfl | hj
      · exact hi
      · exact hrest j hj
    · rw [List.foldl_cons, hsum, hfirst, List.map_cons, List.sum_cons, Nat.add_assoc]

/-- The workers beyond the first `n` carry nothing. -/
theorem sum_take_finRange (n : ℕ) (v : Fin W → ℕ) (hzero : ∀ i : Fin W, n ≤ (i : ℕ) → v i = 0) :
    (((List.finRange W).take n).map v).sum = ∑ i, v i := by
  have hdrop : (((List.finRange W).drop n).map v).sum = 0 := by
    refine List.sum_eq_zero fun m hm => ?_
    obtain ⟨i, hi, rfl⟩ := List.mem_map.mp hm
    obtain ⟨j, hj, rfl⟩ := List.mem_iff_getElem.mp hi
    exact hzero _ (by simp)
  rw [Fin.sum_univ_def, ← List.take_append_drop n (List.finRange W),
    List.map_append, List.sum_append,
    hdrop, Nat.add_zero, List.take_append_drop]

/-- The fold moves the slots into the totals. -/
theorem foldWorkers_counted (hfold : foldWorkers w = some w')
    (huntouched : ∀ contexts, w.workerContexts = some contexts → ∀ i : Fin W,
      w.startedWorkerCount ≤ (i : ℕ) → (contexts i).Untouched)
    (hexact : w'.Exact) : w.Exact ∧ ∀ k, w'.counted k = w.counted k := by
  unfold foldWorkers at hfold
  dsimp only at hfold
  cases hcontexts : w.workerContexts with
  | none =>
    rw [hcontexts] at hfold
    simp only [Option.ite_none_right_eq_some, Option.some.injEq] at hfold
    obtain ⟨-, rfl⟩ := hfold
    refine ⟨⟨hexact.totals, by simp [hcontexts]⟩, WorkerDomain.counted_congr hcontexts.symm ?_⟩
    intro k
    cases k <;> rfl
  | some contexts =>
    rw [hcontexts] at hfold
    cases hfold
    obtain ⟨hflag, hslots, hsum⟩ := foldl_foldContext_counts contexts _ hexact.totals
    have huntouched := huntouched contexts hcontexts
    refine ⟨⟨hflag, fun contexts₁ h₁ i => ?_⟩, fun k => ?_⟩
    · cases hcontexts.symm.trans h₁
      by_cases hi : (i : ℕ) < w.startedWorkerCount
      · have hlt : (i : ℕ) < min w.startedWorkerCount (List.finRange W).length := by simp [hi]
        exact hslots i (List.mem_take_iff_getElem.mpr ⟨i, hlt, List.getElem_finRange _⟩)
      · exact (huntouched i (Nat.not_lt.mp hi)).2.2.2.2
    · have hzero : ∀ i : Fin W, w.startedWorkerCount ≤ (i : ℕ) → k.slot (contexts i) = 0 :=
        fun i hi => (huntouched i hi).slot_eq_zero k
      have htotal := hsum k
      rw [sum_take_finRange _ (fun i => k.slot (contexts i)) hzero] at htotal
      unfold WorkerDomain.counted
      rw [hcontexts]
      refine Eq.trans ?_ htotal
      cases k <;> rfl

end Fold

/-! ## What one step counts -/

/-- A step of a thread at `pc`: as long as no counter overflows, the totals move at the
stores of a worker and nowhere else. -/
def Tallies (sh sh' : Scheduler W C P) (pc : SchedulerPc W P) : Prop :=
  sh'.worker.Exact → sh.worker.Exact ∧ ∀ k, sh'.worker.counted k = sh.worker.counted k + pc.stores k

/-- The slots of the workers that were never created. -/
def Scheduler.SpareSlots (sh : Scheduler W C P) : Prop :=
  ∀ contexts, sh.worker.workerContexts = some contexts → ∀ i : Fin W,
    sh.worker.createdWorkerCount ≤ (i : ℕ) → (contexts i).Untouched

section Steps

variable {cfg : SchedulerConfig W} {t : Thread W C} {choice : SchedulerChoice W C P}
  {sh sh' : Scheduler W C P} {pc : SchedulerPc W P}

/-- A step that counts nothing. -/
theorem Tallies.idle (hcontexts : sh'.worker.workerContexts = sh.worker.workerContexts)
    (hflag : sh'.worker.accountingOverflow = false → sh.worker.accountingOverflow = false)
    (hfolded : ∀ k : WorkerCount, k.folded sh'.worker = k.folded sh.worker)
    (hstores : ∀ k, pc.stores k = 0) : Tallies sh sh' pc := by
  intro hexact
  refine ⟨⟨hflag hexact.totals, hcontexts ▸ hexact.slots⟩, fun k => ?_⟩
  rw [hstores, WorkerDomain.counted_congr hcontexts hfolded]
  rfl

/-- A step outside the worker domain. -/
theorem Tallies.same (hworker : sh'.worker = sh.worker) (hstores : ∀ k, pc.stores k = 0) :
    Tallies sh sh' pc :=
  .idle (by rw [hworker]) (by rw [hworker]; exact id) (by rw [hworker]; exact fun _ => rfl) hstores

/-- Slots that count nothing, before or after they are there. -/
theorem WorkerDomain.counted_untouched {T : Type} {w : WorkerDomain W T}
    {contexts : Fin W → WorkerContext} (hcontexts : w.workerContexts = some contexts)
    (h : ∀ i, (contexts i).Untouched) (k : WorkerCount) : w.counted k = k.folded w := by
  unfold counted
  rw [hcontexts]
  dsimp only [Option.elim]
  rw [Finset.sum_eq_zero fun i _ => (h i).slot_eq_zero k, Nat.add_zero]

/-- Without slots the totals count for all. -/
theorem WorkerDomain.counted_none {T : Type} {w : WorkerDomain W T}
    (hcontexts : w.workerContexts = none) (k : WorkerCount) : w.counted k = k.folded w := by
  unfold counted
  rw [hcontexts]
  rfl

/-- An exit does not lower the flag. -/
theorem recordWorkerExit_flag {T : Type} (w : WorkerDomain W T) (r : WorkerResult)
    (h : (recordWorkerExit w r).1.accountingOverflow = false) : w.accountingOverflow = false := by
  unfold recordWorkerExit at h
  dsimp only at h
  split at h <;> split at h
  · exact (incrementSaturating_exact (incrementSaturating_exact h).1).1
  · exact (incrementSaturating_exact h).1
  · exact (incrementSaturating_exact h).1
  · exact h

variable [DecidableEq C]

/-- A call leaves the totals of the workers alone. -/
theorem CallStepSpec.tallies {pc : CallPc P} {out : SchedulerStep W C P (CallPc P)}
    (h : CallStepSpec cfg t choice sh pc out) {pc₀ : SchedulerPc W P}
    (hstores : ∀ k, pc₀.stores k = 0) : Tallies sh out.1 pc₀ := by
  cases h with
  | enqueue kind task hq => rw [hq.frame]; exact .same rfl hstores
  | captureQueue temporary hq => rw [hq.frame]; exact .same rfl hstores
  | captureWorker temporary hfree hinit hstarted =>
    exact .idle rfl id (fun k => by cases k <;> rfl) hstores
  | captureNoSlots temporary hfree hinit hstarted =>
    exact .idle rfl id (fun k => by cases k <;> rfl) hstores
  | captureWorkerDone temporary hheld => exact .idle rfl id (fun k => by cases k <;> rfl) hstores
  | _ => exact .same rfl hstores

/-- **A worker counts where it stores.** -/
theorem WorkerStepSpec.tallies {i : Fin W} {pc : WorkerPc P}
    {out : SchedulerStep W C P (WorkerPc P)}
    (h : WorkerStepSpec cfg t choice sh i pc out) : Tallies sh out.1 (.worker i pc) := by
  -- a store counts what the place of the worker says it counts
  have hstore : ∀ {g : WorkerContext → WorkerContext} {n : WorkerCount → ℕ},
      sh.worker.workerContexts.isSome = true →
      (∀ context, (g context).accountingOverflow = false → context.accountingOverflow = false ∧
        ∀ k : WorkerCount, k.slot (g context) = k.slot context + n k) →
      (∀ k, n k = pc.stores k) → Tallies sh (storeSlot i sh g) (.worker i pc) := by
    intro g n hsome hg hn hexact
    obtain ⟨hbefore, hcount⟩ := setContext_counted hsome hg hexact
    exact ⟨hbefore, fun k => (hcount k).trans (congrArg (_ + ·) (hn k))⟩
  cases h with
  | register hcontexts hfree hinit =>
    exact .idle rfl id (fun k => by cases k <;> rfl) fun k => by cases k <;> rfl
  | registered hheld => exact .idle rfl id (fun k => by cases k <;> rfl) fun k => by cases k <;> rfl
  | dequeue hq => rw [hq.frame]; exact .same rfl fun k => by cases k <;> rfl
  | accountDequeued task hcontexts =>
    exact hstore hcontexts accountDequeued_counts fun k => by cases k <;> rfl
  | accountStarted task hcontexts =>
    exact hstore hcontexts accountStarted_counts fun k => by cases k <;> rfl
  | accountRunning task contexts hcontexts =>
    exact hstore (by rw [hcontexts]; rfl) accountRunning_counts fun k => by cases k <;> rfl
  -- the calls of a callback count submissions, not stages
  | call task runningAccounted hcall => exact hcall.tallies fun k => by cases k <;> rfl
  | accountResult succeeded hcontexts =>
    exact hstore hcontexts (accountResult_counts succeeded) fun k => by
      cases succeeded <;> cases k <;> rfl
  | accountResultOnly succeeded hcontexts =>
    exact hstore hcontexts (accountResult_counts succeeded) fun k => by
      cases succeeded <;> cases k <;> rfl
  | accountRunningDone hcontexts =>
    exact hstore hcontexts accountRunningDone_counts fun k => by cases k <;> rfl
  | queueShutdown r hq => rw [hq.frame]; exact .same rfl fun k => by cases k <;> rfl
  -- an exit counts failures, and may raise the flag but not lower it
  | exit r hfree hinit =>
    obtain ⟨active, failures, overflow, failure, hexit⟩ :=
      recordWorkerExit_frame (sh.lockWorker t).worker r
    refine .idle ?_ (recordWorkerExit_flag (sh.lockWorker t).worker r) ?_
      fun k => by cases k <;> rfl
    · dsimp only
      rw [hexit]
      rfl
    · intro k
      dsimp only
      rw [hexit]
      cases k <;> rfl
  | exited r hheld => exact .idle rfl id (fun k => by cases k <;> rfl) fun k => by cases k <;> rfl
  | _ => exact .same rfl fun k => by cases k <;> rfl

/-- Lifecycle calls count nothing: the fold moves the slots into the totals. -/
theorem ControllerStepSpec.tallies {pc : ControllerPc P}
    {out : SchedulerStep W C P (ControllerPc P)} (h : ControllerStepSpec cfg choice sh pc out)
    (hphase : (pc.phase W).Ok sh) (hspare : sh.SpareSlots) : Tallies sh out.1 (.controller pc) := by
  have hcreating : ∀ {i : Fin W}, sh.crew.contexts = true → (creating sh i).Exact →
      sh.worker.Exact ∧ ∀ k, (creating sh i).counted k = sh.worker.counted k := by
    intro i hsome hexact
    have hlocked : ∀ k, (sh.lockWorker .controller).worker.counted k = sh.worker.counted k := by
      refine WorkerDomain.counted_congr rfl fun k => ?_
      cases k <;> rfl
    -- the slot is given its identity, and counts as before
    have hidentity : ∀ context : WorkerContext, context.accountingOverflow = false →
        context.accountingOverflow = false ∧ ∀ k : WorkerCount,
          k.slot { context with scheduler := true, workerIndex := i } = k.slot context + 0 :=
      fun context hflag => ⟨hflag, fun k => by cases k <;> rfl⟩
    obtain ⟨hsh, hcount⟩ := setContext_counted (w := (sh.lockWorker .controller).worker) hsome
      hidentity hexact
    exact ⟨⟨hsh.totals, hsh.slots⟩, fun k => (hcount k).trans (hlocked k)⟩
  cases h with
  | allocationFailed sh' hsh hfail =>
    subst hsh
    have hnone : sh.worker.workerContexts = none :=
      Option.isSome_eq_false_iff.mp hphase.2.1.contexts |> Option.isNone_iff_eq_none.mp
    exact .idle hnone.symm id (fun k => by cases k <;> rfl) fun _ => rfl
  | allocated sh' hsh hthreads hcontexts =>
    subst hsh
    have hnone : sh.worker.workerContexts = none :=
      Option.isSome_eq_false_iff.mp hphase.2.1.contexts |> Option.isNone_iff_eq_none.mp
    intro hexact
    refine ⟨⟨hexact.totals, by simp [hnone]⟩, fun k => ?_⟩
    rw [WorkerDomain.counted_untouched hcontexts fun _ => ⟨rfl, rfl, rfl, rfl, rfl⟩,
      WorkerDomain.counted_none hnone]
    cases k <;> rfl
  | syncInitFailed mutexInitialized hmutex hfail =>
    obtain ⟨contexts, hcontexts⟩ := Option.isSome_iff_exists.mp hphase.2.1.contexts
    have hzero : sh.worker.createdWorkerCount = 0 := hphase.2.1.created
    have huntouched := fun i => hspare contexts hcontexts i (by rw [hzero]; exact Nat.zero_le _)
    intro hexact
    refine ⟨⟨hexact.totals, fun contexts₁ h₁ i => ?_⟩, fun k => ?_⟩
    · cases hcontexts.symm.trans h₁
      exact (huntouched i).2.2.2.2
    · rw [WorkerDomain.counted_untouched hcontexts huntouched, WorkerDomain.counted_none rfl]
      cases k <;> rfl
  | createFailed i faultPlan hfree hinit hfail =>
    intro hexact
    have hbefore : (creating sh i).Exact :=
      ⟨(incrementSaturating_exact hexact.totals).1, hexact.slots⟩
    obtain ⟨hsh, hcount⟩ := hcreating hphase.2.1.contexts hbefore
    refine ⟨hsh, fun k => Eq.trans (WorkerDomain.counted_congr ?_ ?_ k) (hcount k)⟩
    · rfl
    · intro k
      cases k <;> rfl
  | created i faultPlan hfree hinit =>
    intro hexact
    obtain ⟨hsh, hcount⟩ := hcreating hphase.2.1.contexts ⟨hexact.totals, hexact.slots⟩
    refine ⟨hsh, fun k => Eq.trans (WorkerDomain.counted_congr ?_ ?_ k) (hcount k)⟩
    · rfl
    · intro k
      cases k <;> rfl
  | releaseLock caller index event result allJoined hfree hinit =>
    cases event with
    | joined => exact .idle rfl id (fun k => by cases k <;> rfl) fun _ => rfl
    | _ =>
      exact .idle rfl (fun h => (incrementSaturating_exact h).1) (fun k => by cases k <;> rfl)
        fun _ => rfl
  | fold caller result worker hfree hinit hfold =>
    intro hexact
    have huntouched : ∀ contexts, sh.worker.workerContexts = some contexts → ∀ i : Fin W,
        sh.worker.startedWorkerCount ≤ (i : ℕ) → (contexts i).Untouched := by
      intro contexts hcontexts i hi
      refine hspare contexts hcontexts i ?_
      rcases hphase.2.1 with hreleased | ⟨k, hpopulated⟩
      · have hnone : sh.worker.workerContexts.isSome = false := hreleased.contexts
        rw [hcontexts] at hnone
        cases hnone
      · have hstarted : sh.worker.startedWorkerCount = k := hpopulated.started
        have hcreated : sh.worker.createdWorkerCount = k := hpopulated.created
        omega
    obtain ⟨hbefore, hcount⟩ := foldWorkers_counted hfold huntouched hexact
    refine ⟨⟨hbefore.totals, hbefore.slots⟩, fun k => (hcount k).trans ?_⟩
    show _ = sh.worker.counted k
    refine WorkerDomain.counted_congr ?_ ?_ k
    · rfl
    · intro k
      cases k <;> rfl
  | abortQueue hq => rw [hq.frame]; exact .same rfl fun _ => rfl
  | shutdownQueue hq => rw [hq.frame]; exact .same rfl fun _ => rfl
  | _ => exact .idle rfl id (fun k => by cases k <;> rfl) fun _ => rfl

/-- **One step counts what its thread is about to count.** -/
theorem SchedulerStepSpec.tallies {out : SchedulerStep W C P (SchedulerPc W P)}
    (h : SchedulerStepSpec cfg choice sh t pc out) (hself : ThreadOk sh t pc)
    (hspare : sh.SpareSlots) : Tallies sh out.1 pc := by
  cases h with
  | call c h => exact h.tallies fun _ => rfl
  | worker i h => exact h.tallies
  | controller h => exact h.tallies hself.1 hspare

end Steps

/-! ## Submissions -/

/-- Every submission is accepted, rejected or active. -/
def LifecycleDomain.Balanced {T : Type} (l : LifecycleDomain T) : Prop :=
  l.submittedCount = l.acceptedCount + l.rejectedCount + l.activeSubmitterCount

/-- A registration balances its submission by an active submitter or a rejection. -/
theorem registerSubmitter_counts {T : Type} {l : LifecycleDomain T}
    (h : (registerSubmitter l).1.accountingOverflow = false) :
    l.accountingOverflow = false ∧ (registerSubmitter l).1.acceptedCount = l.acceptedCount ∧
      (l.Balanced → (registerSubmitter l).1.Balanced) := by
  unfold LifecycleDomain.Balanced
  unfold registerSubmitter at h ⊢
  dsimp only at h ⊢
  split at h
  · rename_i hstate
    obtain ⟨hflag, hrejected⟩ := incrementSaturating_exact h
    obtain ⟨hflag, hsubmitted⟩ := incrementSaturating_exact hflag
    rw [if_pos hstate]
    refine ⟨hflag, rfl, fun hbalanced => ?_⟩
    show (incrementSaturating _ _).1
      = l.acceptedCount + (incrementSaturating _ _).1 + l.activeSubmitterCount
    rw [hsubmitted, hrejected]
    omega
  · rename_i hstate
    obtain ⟨hflag, hsubmitted⟩ := incrementSaturating_exact h
    rw [if_neg hstate]
    refine ⟨hflag, rfl, fun hbalanced => ?_⟩
    show (incrementSaturating _ _).1
      = l.acceptedCount + l.rejectedCount + (l.activeSubmitterCount + 1)
    rw [hsubmitted]
    omega

/-- A deregistration balances the active submitter by its answer. -/
theorem deregisterSubmitter_counts {T : Type} {l : LifecycleDomain T} {r : SchedulerResult}
    (hpos : 0 < l.activeSubmitterCount)
    (h : (deregisterSubmitter l r).1.accountingOverflow = false) :
    l.accountingOverflow = false ∧
      (deregisterSubmitter l r).1.acceptedCount = l.acceptedCount + (if r = .ok then 1 else 0) ∧
      (l.Balanced → (deregisterSubmitter l r).1.Balanced) := by
  have hne : l.activeSubmitterCount ≠ 0 := Nat.ne_of_gt hpos
  unfold LifecycleDomain.Balanced
  unfold deregisterSubmitter at h ⊢
  by_cases hr : r = .ok
  · simp only [hr, if_true, hne, if_false] at h ⊢
    obtain ⟨hflag, haccepted⟩ := incrementSaturating_exact h
    refine ⟨hflag, haccepted, fun hbalanced => ?_⟩
    rw [haccepted, hbalanced]
    omega
  · simp only [hr, if_false, hne] at h ⊢
    obtain ⟨hflag, hrejected⟩ := incrementSaturating_exact h
    refine ⟨hflag, rfl, fun hbalanced => ?_⟩
    rw [hrejected, hbalanced]
    omega

/-- What a step does to the counts of submissions, as long as they do not overflow. -/
def Submits (sh sh' : Scheduler W C P) (pc pc' : SchedulerPc W P) : Prop :=
  sh'.lifecycle.accountingOverflow = false → sh.lifecycle.accountingOverflow = false ∧
    (sh.lifecycle.Balanced → sh'.lifecycle.Balanced) ∧
    sh'.lifecycle.acceptedCount + (sh.history.accepted.length + pc.reported)
      = sh.lifecycle.acceptedCount + (sh'.history.accepted.length + pc'.reported)

/-- Counted as dequeued, and not yet passed to the callback. -/
def WorkerPc.pending : WorkerPc P → ℕ
  | .accountStarted _ | .accountRunning _ | .invoke _ _ => 1
  | _ => 0

def SchedulerPc.pending : SchedulerPc W P → ℕ
  | .worker _ pc => pc.pending
  | _ => 0

theorem SchedulerPc.pending_wake (pc : SchedulerPc W P) : pc.wake.pending = pc.pending := by
  cases pc with
  | worker i pc => cases pc <;> rfl
  | _ => rfl

section Submissions

variable [DecidableEq C] {cfg : SchedulerConfig W} {t : Thread W C}
  {choice : SchedulerChoice W C P} {sh : Scheduler W C P}

/-- A submission moves from registered to accepted or rejected. -/
theorem CallStepSpec.submits {wrap : CallPc P → SchedulerPc W P}
    (hwrap : Wraps wrap) {pc : CallPc P}
    {out : SchedulerStep W C P (CallPc P)} (h : CallStepSpec cfg t choice sh pc out)
    (hactive : pc.registered ≤ sh.lifecycle.activeSubmitterCount) :
    Submits sh out.1 (wrap pc) (wrap out.2.1) := by
  unfold Submits SchedulerPc.reported
  rw [hwrap.toCall, hwrap.toCall]
  cases h with
  -- counted as submitted, and active or rejected
  | register kind task hfree =>
    intro hflag
    obtain ⟨hflag, haccepted, hbalanced⟩ :=
      registerSubmitter_counts (l := (sh.lockLifecycle t).lifecycle) hflag
    exact ⟨hflag, hbalanced, congrArg (· + _) haccepted⟩
  | enqueue kind task hq =>
    rw [hq.frame]
    refine fun hflag => ⟨hflag, id, ?_⟩
    cases hq <;> rfl
  -- counted as accepted or rejected, and no longer active
  | deregister task r hfree =>
    intro hflag
    obtain ⟨hflag, haccepted, hbalanced⟩ :=
      deregisterSubmitter_counts (l := (sh.lockLifecycle t).lifecycle) hactive hflag
    obtain ⟨-, hresult⟩ :=
      deregisterSubmitter_active (l := (sh.lockLifecycle t).lifecycle) r hactive
    refine ⟨hflag, hbalanced, ?_⟩
    dsimp only
    rw [haccepted, hresult]
    show sh.lifecycle.acceptedCount + _ + (_ + 0) = sh.lifecycle.acceptedCount + _
    cases r with
    | ok =>
      show sh.lifecycle.acceptedCount + 1 + (_ + 0) = sh.lifecycle.acceptedCount + (_ + 1)
      omega
    | _ => rfl
  -- the Task enters the history when its call returns
  | deregistered task r hheld =>
    refine fun hflag => ⟨hflag, id, ?_⟩
    cases r with
    | ok =>
      show _ + (_ + 1) = _ + ((sh.history.accepted ++ [task]).length + 0)
      rw [List.length_append]
      rfl
    | _ => rfl
  | captureQueue temporary hq =>
    rw [hq.frame]
    refine fun hflag => ⟨hflag, id, ?_⟩
    cases hq <;> rfl
  | _ => exact fun hflag => ⟨hflag, id, rfl⟩

/-- A worker submits in its callback. -/
theorem WorkerStepSpec.submits {i : Fin W} {pc : WorkerPc P}
    {out : SchedulerStep W C P (WorkerPc P)}
    (h : WorkerStepSpec cfg t choice sh i pc out)
    (hactive : (SchedulerPc.worker i pc).registered ≤ sh.lifecycle.activeSubmitterCount) :
    Submits sh out.1 (.worker i pc) (.worker i out.2.1) := by
  cases h with
  | dequeue hq =>
    cases hq with
    | run hact hleave => exact fun hflag => ⟨hflag, id, rfl⟩
    | leave op r =>
      refine fun hflag => ⟨hflag, id, ?_⟩
      unfold SchedulerPc.reported
      rw [(afterDequeue_held i r).2.2.1]
      rfl
  | call task runningAccounted hcall =>
    exact hcall.submits (wraps_callback i task runningAccounted) hactive
  | queueShutdown r hq => cases hq <;> exact fun hflag => ⟨hflag, id, rfl⟩
  | _ => exact fun hflag => ⟨hflag, id, rfl⟩

/-- The controller submits nothing. -/
theorem ControllerStepSpec.submits {pc : ControllerPc P}
    {out : SchedulerStep W C P (ControllerPc P)}
    (h : ControllerStepSpec cfg choice sh pc out) :
    Submits sh out.1 (.controller pc) (.controller out.2.1) := by
  cases h with
  | allocationFailed sh' hsh hfail => subst hsh; exact fun hflag => ⟨hflag, id, rfl⟩
  | allocated sh' hsh hthreads hcontexts => subst hsh; exact fun hflag => ⟨hflag, id, rfl⟩
  | abortQueue hq => cases hq <;> exact fun hflag => ⟨hflag, id, rfl⟩
  | shutdownQueue hq => cases hq <;> exact fun hflag => ⟨hflag, id, rfl⟩
  | _ => exact fun hflag => ⟨hflag, id, rfl⟩

/-- **One step keeps the counts of submissions.** -/
theorem SchedulerStepSpec.submits {pc : SchedulerPc W P}
    {out : SchedulerStep W C P (SchedulerPc W P)} (h : SchedulerStepSpec cfg choice sh t pc out)
    (hactive : pc.registered ≤ sh.lifecycle.activeSubmitterCount) :
    Submits sh out.1 pc out.2.1 := by
  cases h with
  | call c h => exact h.submits wraps_call hactive
  | worker i h => exact h.submits hactive
  | controller h => exact h.submits

/-- A Task is counted as dequeued before it is passed to the callback. -/
theorem SchedulerStepSpec.pending {pc : SchedulerPc W P}
    {out : SchedulerStep W C P (SchedulerPc W P)} (h : SchedulerStepSpec cfg choice sh t pc out) :
    out.1.history.invoked.length + out.2.1.pending
      = sh.history.invoked.length + pc.pending + pc.stores .dequeued := by
  cases h with
  | call c h => exact congrArg (fun l => List.length l + 0) h.failure.2
  | worker i h =>
    cases h with
    | dequeue hq =>
      cases hq with
      | run hact hleave => rfl
      | leave op r =>
        rcases afterDequeue_cases r with hpc | hpc | ⟨task, -, hpc⟩ <;> rw [hpc] <;> rfl
    | invoke task runningAccounted =>
      show (sh.history.invoked ++ [task]).length + 0 = _ + 1 + 0
      rw [List.length_append]
      rfl
    | call task runningAccounted hcall =>
      exact congrArg (fun l => List.length l + 0) hcall.failure.2
    | accountResult succeeded hcontexts => cases succeeded <;> rfl
    | accountResultOnly succeeded hcontexts => cases succeeded <;> rfl
    | queueShutdown r hq => cases hq <;> rfl
    | _ => rfl
  | controller h => exact congrArg (fun l => List.length l + 0) h.failure.2

end Submissions

/-! ## Reachable states -/

section Reachable

variable [DecidableEq C] [Fintype C] {cfg : SchedulerConfig W} {t : Thread W C}
  {choice : SchedulerChoice W C P} {s s' : SchedulerPool W C P}

/-- What the counters say as long as they have not overflowed. -/
structure Counters (s : SchedulerPool W C P) : Prop where
  balanced : s.shared.lifecycle.accountingOverflow = false → s.shared.lifecycle.Balanced
  accepted : s.shared.lifecycle.accountingOverflow = false → s.shared.lifecycle.acceptedCount
    = s.shared.history.accepted.length + Program.total SchedulerPc.reported s.pc
  dequeued : s.shared.worker.Exact → s.shared.worker.counted .dequeued
    = s.shared.history.invoked.length + Program.total SchedulerPc.pending s.pc

omit [DecidableEq C] in
/-- All counts are zero after `scheduler_init`. -/
theorem counters_initial (queue : TaskQueue P) :
    Counters (schedulerInitial queue : SchedulerPool W C P) := by
  refine ⟨fun _ => rfl, fun _ => ?_, fun _ => ?_⟩
  · rw [total_initial queue _ rfl (fun _ => rfl) rfl]
    rfl
  · rw [total_initial queue _ rfl (fun _ => rfl) rfl]
    rfl

/-- The slot of a worker that was never created counts nothing. -/
theorem SchedulerReachable.spareSlots (h : SchedulerReachable cfg s) : s.shared.SpareSlots := by
  intro contexts hcontexts i hi
  obtain ⟨wpc, hwpc⟩ := h.threads.workerPc i
  have hok := h.lifecycle.worker hwpc
  refine hok.untouched (hok.created.mpr hi) _ ?_
  unfold Scheduler.slot
  rw [hcontexts]
  rfl

/-- **One step keeps the counters.** -/
theorem counters_step (hreach : SchedulerReachable cfg s) (h : Counters s)
    (hstep : (schedulerProgram cfg).step t choice s = some s') : Counters s' := by
  obtain ⟨pc, fx, hspec, hfx⟩ := hreach.threads.step_spec hstep
  have hsubmits := hspec.submits (hreach.accounts.registered_le t)
  refine ⟨?_, ?_, ?_⟩
  · intro hflag
    obtain ⟨hbefore, hbalanced, -⟩ := hsubmits hflag
    exact hbalanced (h.balanced hbefore)
  · intro hflag
    obtain ⟨hbefore, -, haccepted⟩ := hsubmits hflag
    exact Program.balance_step (fun sh : Scheduler W C P => sh.lifecycle.acceptedCount)
      (fun sh => sh.history.accepted.length)
      (schedulerProgram_blind SchedulerPc.reported_wake fun _ => rfl) hfx haccepted
      (h.accepted hbefore)
  · intro hexact
    obtain ⟨hbefore, hcount⟩ := hspec.tallies (hreach.lifecycle.threads t) hreach.spareSlots hexact
    refine Program.balance_step (fun sh : Scheduler W C P => sh.worker.counted .dequeued)
      (fun sh => sh.history.invoked.length)
      (schedulerProgram_blind SchedulerPc.pending_wake fun _ => rfl) hfx ?_ (h.dequeued hbefore)
    have hpending := hspec.pending
    have hcount := hcount .dequeued
    dsimp only at hpending hcount ⊢
    omega

/-- The counts add up in every reachable state. -/
theorem SchedulerReachable.counters (h : SchedulerReachable cfg s) : Counters s :=
  h.invariant (fun queue _ => counters_initial queue) counters_step

end Reachable

/-! ## Conservation -/

/-- A queue call inserts at most one pointer and removes at most one. -/
theorem QueuePc.accounts_le_one (q : QueuePc P) :
    Multiset.card q.inserted ≤ 1 ∧ Multiset.card q.removed ≤ 1 := by
  have hop : ∀ (op : QueueOperation P) (r : QueueReturn P),
      Multiset.card (op.inserted r) ≤ 1 ∧ Multiset.card (op.removed r) ≤ 1 := by
    intro op r
    unfold QueueOperation.inserted QueueOperation.removed
    constructor <;> split <;> simp
  cases q with
  | unlock op r => exact hop op r
  | returned op r => exact hop op r
  | _ => exact ⟨Nat.zero_le _, Nat.zero_le _⟩

/-- Registered, with its pointer in the queue. -/
def SchedulerPc.HasInserted (pc : SchedulerPc W P) : Prop :=
  pc.registered = 1 ∧ Multiset.card pc.inFlight = 1

instance (pc : SchedulerPc W P) : Decidable pc.HasInserted := inferInstanceAs (Decidable (_ ∧ _))

/-- Holding a removed pointer that is not counted as dequeued yet. -/
def SchedulerPc.HoldsUncounted (pc : SchedulerPc W P) : Prop :=
  Multiset.card pc.held = 1 ∧ pc.pending = 0

instance (pc : SchedulerPc W P) : Decidable pc.HoldsUncounted :=
  inferInstanceAs (Decidable (_ ∧ _))

theorem SchedulerPc.registered_eq (pc : SchedulerPc W P) :
    pc.registered = if pc.registered = 1 then 1 else 0 := by
  unfold registered
  generalize pc.toCall = call
  cases call with
  | registerUnlock kind task r => cases r <;> rfl
  | _ => rfl

/-- What a submission has in flight is in the queue unreported, or reported and about to
return. -/
theorem CallPc.card_inFlight (pc : CallPc P) : Multiset.card pc.inFlight
    = (if pc.registered = 1 ∧ Multiset.card pc.inFlight = 1 then 1 else 0) + pc.reported := by
  cases pc with
  | registerUnlock kind task r => cases r <;> rfl
  | enqueue kind task q =>
    rcases Nat.le_one_iff_eq_zero_or_eq_one.mp q.accounts_le_one.1 with hcard | hcard
    · rw [if_neg fun h => absurd (hcard.symm.trans h.2) (by decide)]
      exact hcard
    · rw [if_pos ⟨rfl, hcard⟩]
      exact hcard
  | deregisterLock task r => cases r <;> rfl
  | deregisterUnlock task r => cases r <;> rfl
  | _ => rfl

/-- Who has a Task in flight has one, inserted or already reported. -/
theorem SchedulerPc.card_inFlight (pc : SchedulerPc W P) :
    Multiset.card pc.inFlight = (if pc.HasInserted then 1 else 0) + pc.reported :=
  pc.toCall.card_inFlight

/-- Who holds a removed Task holds one, counted or not. -/
theorem WorkerPc.card_held (pc : WorkerPc P) : Multiset.card pc.held
    = (if Multiset.card pc.held = 1 ∧ pc.pending = 0 then 1 else 0) + pc.pending := by
  cases pc with
  | dequeue q =>
    rcases Nat.le_one_iff_eq_zero_or_eq_one.mp q.accounts_le_one.2 with hcard | hcard
    · rw [if_neg fun h => absurd (hcard.symm.trans h.1) (by decide)]
      exact hcard
    · rw [if_pos ⟨hcard, rfl⟩]
      exact hcard
  | _ => rfl

theorem SchedulerPc.card_held (pc : SchedulerPc W P) :
    Multiset.card pc.held = (if pc.HoldsUncounted then 1 else 0) + pc.pending := by
  cases pc with
  | worker i pc => exact pc.card_held
  | _ => rfl

section Conservation

variable [DecidableEq C] [Fintype C] {cfg : SchedulerConfig W} {s : SchedulerPool W C P}

omit [DecidableEq C] in
theorem card_total {w : SchedulerPc W P → Multiset P} (f : Thread W C → SchedulerPc W P) :
    Multiset.card (Program.total w f) = ∑ u, Multiset.card (w (f u)) :=
  map_sum Multiset.cardHom _ _

/-- What was inserted is accepted, or belongs to a registered submitter. -/
theorem SchedulerReachable.inserted_length (h : SchedulerReachable cfg s)
    (hflag : s.shared.lifecycle.accountingOverflow = false) :
    s.shared.queue.inserted.length
      = s.shared.lifecycle.acceptedCount + Finset.card {u | (s.pc u).HasInserted} := by
  have hinserted := congrArg Multiset.card h.accounts.inserted
  rw [Multiset.card_add, Multiset.coe_card, Multiset.coe_card, card_total] at hinserted
  have haccepted := h.counters.accepted hflag
  unfold Program.total at haccepted
  simp only [SchedulerPc.card_inFlight, Finset.sum_add_distrib] at hinserted
  rw [Finset.card_filter]
  omega

/-- What was removed is counted as dequeued, or in the hands of a worker. -/
theorem SchedulerReachable.removed_length (h : SchedulerReachable cfg s)
    (hexact : s.shared.worker.Exact) :
    s.shared.queue.removed.length
      = s.shared.worker.counted .dequeued + Finset.card {u | (s.pc u).HoldsUncounted} := by
  have hremoved := congrArg Multiset.card h.accounts.removed
  rw [Multiset.card_add, Multiset.coe_card, Multiset.coe_card, card_total] at hremoved
  have hdequeued := h.counters.dequeued hexact
  unfold Program.total at hdequeued
  simp only [SchedulerPc.card_held, Finset.sum_add_distrib] at hremoved
  rw [Finset.card_filter]
  omega

/-- What was inserted is in the queue or was removed. -/
theorem SchedulerReachable.inserted_removed (h : SchedulerReachable cfg s) :
    s.shared.queue.inserted.length
      = taskQueueSize s.shared.queue.queue + s.shared.queue.removed.length := by
  obtain ⟨f, habs, -⟩ := h.threads.abstracts
  rw [habs.history, List.length_append, habs.size_eq, Nat.add_comm]

/-- **Submission and Task conservation.** In every reachable state in which no counter has
overflowed: every submission is accepted, rejected or active; the active ones are those
between `register_submitter` and `deregister_submitter`; what was inserted is accepted or
belongs to a registered submitter, and is in the queue or was removed; what was removed is
counted as dequeued or is held by a worker that has yet to count it. -/
theorem submission_conservation (h : SchedulerReachable cfg s)
    (hflag : s.shared.lifecycle.accountingOverflow = false) (hexact : s.shared.worker.Exact) :
    s.shared.lifecycle.submittedCount = s.shared.lifecycle.acceptedCount
        + s.shared.lifecycle.rejectedCount + s.shared.lifecycle.activeSubmitterCount ∧
      s.shared.lifecycle.activeSubmitterCount = Finset.card {u | (s.pc u).registered = 1} ∧
      s.shared.queue.inserted.length
        = s.shared.lifecycle.acceptedCount + Finset.card {u | (s.pc u).HasInserted} ∧
      s.shared.queue.inserted.length
        = taskQueueSize s.shared.queue.queue + s.shared.queue.removed.length ∧
      s.shared.queue.removed.length
        = s.shared.worker.counted .dequeued + Finset.card {u | (s.pc u).HoldsUncounted} := by
  refine ⟨h.counters.balanced hflag, ?_, h.inserted_length hflag, h.inserted_removed,
    h.removed_length hexact⟩
  rw [h.accounts.registered, Finset.card_filter]
  exact Finset.sum_congr rfl fun u _ => (s.pc u).registered_eq

/-- A Task that a worker has removed before its submitter deregistered. -/
theorem submission_conservation_in_flight :
    ∃ s : SchedulerPool 1 (Fin 2) ℕ, SchedulerReachable reliableConfig s ∧
      s.shared.queue.inserted = [7] ∧ s.shared.lifecycle.acceptedCount = 0 ∧
      Finset.card {u | (s.pc u).HasInserted} = 1 ∧
      s.shared.worker.counted .dequeued + Finset.card {u | (s.pc u).HoldsUncounted} = 1 := by
  obtain ⟨s, hreach, hobs⟩ := reachable_of_run
    (startSchedule ++ makes (.client 0) (.submit .submit (some 7)) 4 ++ advance (.worker 0) 2)
    (fun s => (s.shared.queue.inserted, s.shared.queue.removed, s.shared.lifecycle.acceptedCount,
      s.shared.lifecycle.accountingOverflow, decide s.shared.worker.Exact))
    (v := ([7], [7], 0, false, true)) (by decide +kernel)
  simp only [Prod.mk.injEq] at hobs
  obtain ⟨hinserted, hremoved, haccepted, hflag, hexact⟩ := hobs
  obtain ⟨-, -, hinsertedCount, -, hremovedCount⟩ :=
    submission_conservation hreach hflag (of_decide_eq_true hexact)
  rw [hinserted, haccepted] at hinsertedCount
  rw [hremoved] at hremovedCount
  refine ⟨s, hreach, hinserted, haccepted, ?_, hremovedCount.symm⟩
  exact (Nat.zero_add _).symm.trans hinsertedCount.symm

end Conservation

end SchedulingEngine
