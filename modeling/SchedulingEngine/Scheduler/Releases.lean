import SchedulingEngine.Scheduler.Headcount

/-!
# Joining the workers (scheduler.c)

`release_workers` may be called again and again by `scheduler_join`, since a native join that
fails leaves its handle for the next call. `ReleaseEvent` lists what it does to a worker, and
`releaseEvents` says which of it a step is.

- `WorkerRecord`: what happened to one worker so far. `Passages` says how far each worker has
  come: a handle that is there has no more behind it than the controller is just doing
  (`ControllerPc.passage`), one that is gone has everything behind it, once.
-/

namespace SchedulingEngine

open Concurrency

variable {W : ℕ} {C P : Type}

/-! ## What is done to a worker -/

/-- How a native join that succeeded was taken: the result was OK, the fault plan made it look
failed, or the worker had failed. -/
inductive JoinOutcome where
  | accepted
  | injected
  | rejected
  deriving DecidableEq, Repr

/-- The events of `release_workers`. -/
inductive ReleaseEvent where
  | nativeFailed (index : ℕ)
  | nativeJoined (index : ℕ) (outcome : JoinOutcome)
  | counted (index : ℕ)
  | destroyed (index : ℕ)
  | folded
  deriving DecidableEq, Repr

/-- The return of `sched_thread_join`, as `release_workers` goes on with it. -/
def JoinEvent.release (index : ℕ) : JoinEvent → ReleaseEvent
  | .nativeFailed => .nativeFailed index
  | .injected => .nativeJoined index .injected
  | .joined => .nativeJoined index .accepted

/-- The handle at `index` has an implementation. -/
def Scheduler.handle (sh : Scheduler W C P) (index : ℕ) : Bool :=
  if h : index < W then sh.worker.threads.any fun threads => threads ⟨index, h⟩ else false

/-- What a step of a lifecycle call from `pc` to `pc'` does to the workers. -/
def ControllerPc.releaseSteps (sh : Scheduler W C P) :
    ControllerPc P → ControllerPc P → List ReleaseEvent
  | .releaseJoin _ index _ _, .releaseLock _ _ event _ _ => [event.release index]
  | .releaseJoin _ index _ _, .releaseJoin _ _ _ _ =>
    -- a worker that failed is joined and destroyed at once, a handle that is gone is skipped
    if sh.handle index then [.nativeJoined index .rejected, .destroyed index] else []
  | .releaseLock _ index event _ _, .releaseUnlock _ _ _ _ _ =>
    if event = .joined then [.counted index] else []
  | .releaseUnlock _ index event _ _, .releaseJoin _ _ _ _ =>
    if event = .nativeFailed then [] else [.destroyed index]
  | .foldLock _ _, .foldUnlock _ _ => [.folded]
  | _, _ => []

def SchedulerPc.releaseSteps (sh : Scheduler W C P) :
    SchedulerPc W P → SchedulerPc W P → List ReleaseEvent
  | .controller pc, .controller pc' => pc.releaseSteps sh pc'
  | _, _ => []

def releaseEvents (s : SchedulerPool W C P) (t : Thread W C) (s' : SchedulerPool W C P) :
    List ReleaseEvent :=
  (s.pc t).releaseSteps s.shared (s'.pc t)

/-- What happened to a worker: native joins that succeeded, those of them whose result was
accepted as OK, increments of `joined_worker_count` for it, and destructions of its handle. -/
structure WorkerRecord where
  joined : ℕ := 0
  accepted : ℕ := 0
  counted : ℕ := 0
  destroyed : ℕ := 0
  deriving DecidableEq, Repr

def WorkerRecord.note (index : ℕ) (r : WorkerRecord) : ReleaseEvent → WorkerRecord
  | .nativeJoined i outcome =>
    if i = index then
      { r with
        joined := r.joined + 1
        accepted := r.accepted + if outcome = .accepted then 1 else 0 }
    else r
  | .counted i => if i = index then { r with counted := r.counted + 1 } else r
  | .destroyed i => if i = index then { r with destroyed := r.destroyed + 1 } else r
  | _ => r

/-- The record of the worker at `index`. -/
def recordOf (es : List ReleaseEvent) (index : ℕ) : WorkerRecord :=
  es.foldl (WorkerRecord.note index) {}

/-- How often the slots were folded. -/
def foldCount (es : List ReleaseEvent) : ℕ := es.count .folded

theorem recordOf_append (es es' : List ReleaseEvent) (index : ℕ) :
    recordOf (es ++ es') index = es'.foldl (WorkerRecord.note index) (recordOf es index) :=
  List.foldl_append

/-- The handle is gone: the worker was joined once, counted if its result was accepted, and
its handle destroyed once. -/
def WorkerRecord.Complete (r : WorkerRecord) : Prop :=
  r.joined = 1 ∧ r.accepted ≤ 1 ∧ r.counted = r.accepted ∧ r.destroyed = 1

/-- What the worker at `index` has behind it while its handle is there. -/
def ControllerPc.passage (index : ℕ) : ControllerPc P → WorkerRecord
  | .releaseLock _ i .injected _ _ | .releaseUnlock _ i .injected _ _ =>
    if i = index then { joined := 1 } else {}
  | .releaseLock _ i .joined _ _ => if i = index then { joined := 1, accepted := 1 } else {}
  | .releaseUnlock _ i .joined _ _ =>
    if i = index then { joined := 1, accepted := 1, counted := 1 } else {}
  | _ => {}

/-- **How far each worker has come.** -/
structure Passages (es : List ReleaseEvent) (sh : Scheduler W C P)
    (pc : ControllerPc P) : Prop where
  held : ∀ i : Fin W, sh.crew.Holds i → recordOf es i = pc.passage i
  gone : ∀ i : Fin W, (i : ℕ) < sh.worker.createdWorkerCount → ¬sh.crew.Holds i →
    (recordOf es i).Complete
  spare : ∀ index, sh.worker.createdWorkerCount ≤ index → recordOf es index = {}
  counted : sh.worker.joinedWorkerCount = ∑ i : Fin W, (recordOf es i).counted

/-- The worker that an event is about. -/
def ReleaseEvent.index : ReleaseEvent → Option ℕ
  | .nativeFailed i | .nativeJoined i _ | .counted i | .destroyed i => some i
  | .folded => none

/-- Events about others leave a record alone. -/
theorem foldl_note_other {es : List ReleaseEvent} {index : ℕ}
    (h : ∀ e ∈ es, e.index ≠ some index) (r : WorkerRecord) :
    es.foldl (WorkerRecord.note index) r = r := by
  induction es generalizing r with
  | nil => rfl
  | cons e es ih =>
    have hfirst : WorkerRecord.note index r e = r := by
      have hne := h e List.mem_cons_self
      cases e with
      | nativeFailed i => rfl
      | folded => rfl
      | _ =>
        refine if_neg fun hi => hne ?_
        rw [← hi]
        rfl
    rw [List.foldl_cons, hfirst]
    exact ih (fun e he => h e (List.mem_cons_of_mem _ he)) r

section Passages

variable [DecidableEq C] {cfg : SchedulerConfig W} {choice : SchedulerChoice W C P}
  {sh sh' : Scheduler W C P} {es es' : List ReleaseEvent} {pc pc' : ControllerPc P}

omit [DecidableEq C] in
/-- Nothing happens to the workers. -/
theorem Passages.keep (h : Passages es sh pc) (hcrew : sh'.crew = sh.crew)
    (hjoined : sh'.worker.joinedWorkerCount = sh.worker.joinedWorkerCount)
    (hpassage : ∀ index, pc'.passage index = pc.passage index) : Passages (es ++ []) sh' pc' := by
  have hcreated : sh'.worker.createdWorkerCount = sh.worker.createdWorkerCount :=
    congrArg Crew.createdWorkerCount hcrew
  rw [List.append_nil]
  refine ⟨fun i hi => ?_, fun i hi hnot => ?_, fun index hindex => ?_, hjoined.trans h.counted⟩
  · rw [hpassage]
    exact h.held i (hcrew ▸ hi)
  · exact h.gone i (hcreated ▸ hi) (hcrew ▸ hnot)
  · exact h.spare index (hcreated ▸ hindex)

omit [DecidableEq C] in
/-- The arrays come and go while no worker is created. -/
theorem Passages.uncrewed (h : Passages es sh pc) (hcreated : sh.worker.createdWorkerCount = 0)
    (hcreated' : sh'.worker.createdWorkerCount = 0) (hstarted' : sh'.worker.startedWorkerCount = 0)
    (hjoined : sh'.worker.joinedWorkerCount = sh.worker.joinedWorkerCount) :
    Passages (es ++ []) sh' pc' := by
  rw [List.append_nil]
  refine ⟨fun i hi => ?_, fun i hi _ => ?_, fun index _ => ?_, hjoined.trans h.counted⟩
  · have hlt : (i : ℕ) < sh'.worker.startedWorkerCount := hi.1
    omega
  · omega
  · exact h.spare index (hcreated.trans_le (Nat.zero_le _))

omit [DecidableEq C] in
/-- **Something happens to worker `i`**, whose handle is there before. -/
theorem Passages.work (h : Passages es sh pc) {i : Fin W} (hi : sh.crew.Holds i)
    (hes : ∀ e ∈ es', e.index = some (i : ℕ))
    (hquiet : ∀ j, j ≠ (i : ℕ) → pc.passage j = {})
    (hquiet' : ∀ j, j ≠ (i : ℕ) → pc'.passage j = {})
    (hcreated : sh'.worker.createdWorkerCount = sh.worker.createdWorkerCount)
    (hi_created : (i : ℕ) < sh.worker.createdWorkerCount)
    (hholds : ∀ j, j ≠ i → (sh'.crew.Holds j ↔ sh.crew.Holds j))
    (hself : sh'.crew.Holds i → es'.foldl (WorkerRecord.note i) (pc.passage i) = pc'.passage i)
    (hgone : ¬sh'.crew.Holds i → (es'.foldl (WorkerRecord.note i) (pc.passage i)).Complete)
    (hjoined : sh'.worker.joinedWorkerCount + (pc.passage i).counted
      = sh.worker.joinedWorkerCount + (es'.foldl (WorkerRecord.note i) (pc.passage i)).counted) :
    Passages (es ++ es') sh' pc' := by
  have hrecord : recordOf (es ++ es') i = es'.foldl (WorkerRecord.note i) (pc.passage i) := by
    rw [recordOf_append, h.held i hi]
  have hother : ∀ j, j ≠ (i : ℕ) → recordOf (es ++ es') j = recordOf es j := by
    intro j hj
    rw [recordOf_append]
    refine foldl_note_other (fun e he hindex => hj ?_) _
    exact Option.some.inj (hindex.symm.trans (hes e he))
  refine ⟨fun j hj => ?_, fun j hj hnot => ?_, fun j hj => ?_, ?_⟩
  · by_cases hji : j = i
    · subst hji
      rw [hrecord]
      exact hself hj
    · have hne : (j : ℕ) ≠ i := fun heq => hji (Fin.ext heq)
      rw [hother j hne, h.held j ((hholds j hji).mp hj), hquiet j hne, hquiet' j hne]
  · by_cases hji : j = i
    · subst hji
      rw [hrecord]
      exact hgone hnot
    · rw [hother j fun heq => hji (Fin.ext heq)]
      exact h.gone j (hcreated ▸ hj) (mt (hholds j hji).mpr hnot)
  · rw [hother j (by omega)]
    exact h.spare j (hcreated ▸ hj)
  · have hbefore := h.counted
    rw [← Finset.add_sum_erase _ _ (Finset.mem_univ i)] at hbefore ⊢
    have hrest : ∑ j ∈ Finset.univ.erase i, (recordOf (es ++ es') (j : Fin W)).counted
        = ∑ j ∈ Finset.univ.erase i, (recordOf es (j : Fin W)).counted := by
      refine Finset.sum_congr rfl fun j hj => ?_
      rw [hother j fun heq => Finset.ne_of_mem_erase hj (Fin.ext heq)]
    rw [hrest, hrecord]
    rw [h.held i hi] at hbefore
    omega

omit [DecidableEq C] in
/-- The handle of worker `i` is destroyed. -/
theorem Scheduler.holds_destroyThread (sh : Scheduler W C P) {sh' : Scheduler W C P} {i : Fin W}
    (hworker : sh'.worker = destroyThread sh.worker i) :
    ¬sh'.crew.Holds i ∧ ∀ j, j ≠ i → (sh'.crew.Holds j ↔ sh.crew.Holds j) := by
  have hthreads : sh'.crew.threads
      = sh.crew.threads.map fun threads => Function.update threads i false :=
    congrArg WorkerDomain.threads hworker
  have hstarted : sh'.crew.startedWorkerCount = sh.crew.startedWorkerCount := by
    unfold Scheduler.crew
    rw [hworker]
    rfl
  constructor
  · rintro ⟨-, threads', hthreads', hheld⟩
    rw [hthreads] at hthreads'
    obtain ⟨threads, -, rfl⟩ := Option.map_eq_some_iff.mp hthreads'
    rw [Function.update_self] at hheld
    cases hheld
  · intro j hj
    unfold Crew.Holds
    rw [hthreads, hstarted]
    refine and_congr_right fun _ => ?_
    constructor
    · rintro ⟨threads', hthreads', hheld⟩
      obtain ⟨threads, hsome, rfl⟩ := Option.map_eq_some_iff.mp hthreads'
      rw [Function.update_of_ne hj] at hheld
      exact ⟨threads, hsome, hheld⟩
    · rintro ⟨threads, hsome, hheld⟩
      refine ⟨_, Option.map_eq_some_iff.mpr ⟨threads, hsome, rfl⟩, ?_⟩
      rwa [Function.update_of_ne hj]

omit [DecidableEq C] in
theorem Scheduler.handle_eq_true {i : Fin W} :
    sh.handle i = true ↔ ∃ threads, sh.worker.threads = some threads ∧ threads i = true := by
  unfold Scheduler.handle
  rw [dif_pos i.isLt, Option.any_eq_true]

/-- **A lifecycle call takes each worker through its passage.** -/
theorem ControllerStepSpec.passages {out : SchedulerStep W C P (ControllerPc P)}
    (h : ControllerStepSpec cfg choice sh pc out) (hphase : (pc.phase W).Ok sh)
    (hgone : pc.HandlesGone sh.crew) (hholding : pc.HoldsHandle sh.crew)
    (hes : Passages es sh pc) :
    Passages (es ++ pc.releaseSteps sh out.2.1) out.1 out.2.1 := by
  -- a worker with a handle was created
  have hcreated : ∀ {i : Fin W}, (i : ℕ) < sh.worker.startedWorkerCount →
      (∃ threads, sh.worker.threads = some threads ∧ threads i = true) →
      (i : ℕ) < sh.worker.createdWorkerCount := by
    rintro i hi ⟨threads, hthreads, -⟩
    rcases hphase.releasable with hgone | ⟨k, hthere⟩
    · cases hgone.threads.symm.trans hthreads
    · exact hi.trans_eq (hthere.started.trans hthere.created.symm)
  cases h with
  | call call pc hcall =>
    exact beginCall_elim
      (M := fun pc => Passages (es ++ ControllerPc.releaseSteps sh .idle pc) sh pc)
      hcall (hes.keep rfl rfl fun _ => rfl) (hes.keep rfl rfl fun _ => rfl)
      (hes.keep rfl rfl fun _ => rfl) (hes.keep rfl rfl fun _ => rfl)
        (hes.keep rfl rfl fun _ => rfl)
  -- before the first creation there is nobody to release
  | allocationFailed sh' hsh hfail =>
    subst hsh
    exact hes.uncrewed hphase.2.1.created hphase.2.1.created hphase.2.1.started rfl
  | allocated sh' hsh hthreads hcontexts hsize =>
    subst hsh
    exact hes.uncrewed hphase.2.1.created hphase.2.1.created hphase.2.1.started rfl
  | syncInitFailed mutexInitialized hmutex hfail =>
    exact hes.uncrewed hphase.2.1.created hphase.2.1.created hphase.2.1.started rfl
  | createFailed i faultPlan hfree hinit hfail =>
    exact hes.keep (creating_crew sh i) rfl fun _ => rfl
  -- the new worker begins with an empty record, and the others keep theirs
  | created i faultPlan hfree hinit =>
    obtain ⟨-, hpopulated, -⟩ := hphase
    have hstarted : sh.worker.startedWorkerCount = i := hpopulated.started
    have hcount : sh.worker.createdWorkerCount = i := hpopulated.created
    obtain ⟨threads, hthreads⟩ := Option.isSome_iff_exists.mp hpopulated.threads
    have hheld : ∀ j : Fin W, j ≠ i → (Function.update threads i true j = true ∧ (j : ℕ) < i + 1 ↔
        sh.crew.Holds j) := by
      intro j hj
      have hne : (j : ℕ) ≠ i := fun heq => hj (Fin.ext heq)
      rw [Function.update_of_ne hj]
      constructor
      · rintro ⟨hheld, hlt⟩
        exact ⟨by rw [hpopulated.started]; omega, threads, hthreads, hheld⟩
      · rintro ⟨hlt, threads', hthreads', hheld⟩
        cases hthreads.symm.trans hthreads'
        rw [hpopulated.started] at hlt
        exact ⟨hheld, Nat.lt_succ_of_lt hlt⟩
    have hthreads' : sh.worker.threads.map (fun threads => Function.update threads i true)
      = some (Function.update threads i true) := congrArg (Option.map _) hthreads
    show Passages (es ++ []) _ _
    rw [List.append_nil]
    refine ⟨fun j hj => ?_, fun j hj hnot => ?_, fun index hindex => ?_, hes.counted⟩
    · obtain ⟨hlt, threads₁, hthreads₁, hup⟩ := hj
      cases hthreads'.symm.trans hthreads₁
      by_cases hji : j = i
      · subst hji
        exact hes.spare j hcount.le
      · refine hes.held j ((hheld j hji).mp ⟨hup, ?_⟩)
        exact hlt.trans_eq (congrArg (· + 1) hstarted)
    · have hlt : (j : ℕ) < sh.worker.createdWorkerCount + 1 := hj
      have hji : j ≠ i := by
        rintro rfl
        refine hnot ⟨?_, _, hthreads', Function.update_self _ _ _⟩
        show (j : ℕ) < sh.worker.startedWorkerCount + 1
        omega
      have hne : (j : ℕ) ≠ i := fun heq => hji (Fin.ext heq)
      refine hes.gone j (by omega) fun hholds => hnot ?_
      obtain ⟨hup, hlt'⟩ := (hheld j hji).mpr hholds
      exact ⟨hlt'.trans_eq (congrArg (· + 1) hstarted.symm), _, hthreads', hup⟩
    · have hle : sh.worker.createdWorkerCount + 1 ≤ index := hindex
      exact hes.spare index (by omega)
  | readyLock hfree hinit =>
    exact readyTest_elim
      (M := fun pc => Passages (es ++ ControllerPc.releaseSteps sh .readyLock pc) _ pc)
      (hes.keep rfl rfl fun _ => rfl) (hes.keep rfl rfl fun _ => rfl)
  | readyAgain hfree hinit =>
    exact readyTest_elim
      (M := fun pc => Passages (es ++ ControllerPc.releaseSteps sh .readyWoken pc) _ pc)
      (hes.keep rfl rfl fun _ => rfl) (hes.keep rfl rfl fun _ => rfl)
  | abortQueue hq =>
    rw [hq.frame]
    cases hq <;> exact hes.keep rfl rfl fun _ => rfl
  -- without a handle nothing is done and nothing noted
  | releaseSkip caller i result allJoined hindex hskip =>
    have hnone : sh.handle i = false := by
      rw [← Bool.not_eq_true, Scheduler.handle_eq_true]
      rintro ⟨threads, hthreads, hheld⟩
      cases (hskip threads hthreads).symm.trans hheld
    show Passages (es ++ if sh.handle i then _ else _) _ _
    rw [hnone]
    exact hes.keep rfl rfl fun _ => rfl
  | releaseNativeFailed caller i result allJoined hfail hindex hhandle =>
    refine hes.work ⟨hindex, hhandle⟩ (fun e he => ?_) (fun _ _ => rfl) (fun _ _ => rfl) rfl
      (hcreated hindex hhandle) (fun _ _ => Iff.rfl) (fun _ => rfl)
      (fun hnot => absurd ⟨hindex, hhandle⟩ hnot) rfl
    rw [List.mem_singleton.mp he]
    rfl
  | releaseInjected caller i result allJoined faultPlan workerResult hfault hindex hhandle =>
    refine hes.work ⟨hindex, hhandle⟩ (fun e he => ?_) (fun _ _ => rfl)
      (fun j hj => if_neg (Ne.symm hj)) rfl
      (hcreated hindex hhandle) (fun _ _ => Iff.rfl) (fun _ => ?_)
      (fun hnot => absurd ⟨hindex, hhandle⟩ hnot) ?_
    · rw [List.mem_singleton.mp he]
      rfl
    · simp [ControllerPc.passage, ControllerPc.releaseSteps, JoinEvent.release, WorkerRecord.note]
    · simp [ControllerPc.passage, ControllerPc.releaseSteps, JoinEvent.release, WorkerRecord.note]
  | releaseFailedWorker caller i result allJoined faultPlan workerResult hresult hindex hhandle =>
    have hheld : sh.handle i = true := Scheduler.handle_eq_true.mpr hhandle
    obtain ⟨hnot, hholds⟩ := @Scheduler.holds_destroyThread W C P sh
      { sh with faultPlan, worker := destroyThread sh.worker i } i rfl
    show Passages (es ++ if sh.handle i then _ else _) _ _
    rw [hheld]
    refine hes.work ⟨hindex, hhandle⟩ (fun e he => ?_) (fun _ _ => rfl) (fun _ _ => rfl) rfl
      (hcreated hindex hhandle) hholds (fun hholds => absurd hholds hnot) (fun _ => ?_) ?_
    · rcases List.mem_cons.mp he with rfl | he
      · rfl
      · rw [List.mem_singleton.mp he]
        rfl
    · simp [ControllerPc.passage, WorkerRecord.note, WorkerRecord.Complete]
    · simp [ControllerPc.passage, WorkerRecord.note, destroyThread]
  | releaseJoined caller i result allJoined faultPlan hindex hhandle =>
    refine hes.work ⟨hindex, hhandle⟩ (fun e he => ?_) (fun _ _ => rfl)
      (fun j hj => if_neg (Ne.symm hj)) rfl
      (hcreated hindex hhandle) (fun _ _ => Iff.rfl) (fun _ => ?_)
      (fun hnot => absurd ⟨hindex, hhandle⟩ hnot) ?_
    · rw [List.mem_singleton.mp he]
      rfl
    · simp [ControllerPc.passage, ControllerPc.releaseSteps, JoinEvent.release, WorkerRecord.note]
    · simp [ControllerPc.passage, ControllerPc.releaseSteps, JoinEvent.release, WorkerRecord.note]
  | releaseIncomplete caller index result hindex =>
    exact afterRelease_elim
      (M := fun pc => Passages (es ++ ControllerPc.releaseSteps sh (.releaseJoin _ _ _ _) pc) _ pc)
      fun _ _ _ => hes.keep rfl rfl fun _ => rfl
  | releaseLock caller index event result allJoined hfree hinit =>
    cases event with
    | nativeFailed => exact hes.keep rfl rfl fun _ => rfl
    | injected => exact hes.keep rfl rfl fun _ => rfl
    | joined =>
      obtain ⟨i, rfl, hholds⟩ := hholding nofun
      refine hes.work hholds (fun e he => ?_) (fun j hj => if_neg (Ne.symm hj))
        (fun j hj => if_neg (Ne.symm hj)) rfl (hcreated hholds.1 hholds.2) (fun _ _ => Iff.rfl)
        (fun _ => ?_) (fun hnot => absurd hholds hnot) ?_
      · rw [List.mem_singleton.mp he]
        rfl
      · simp [ControllerPc.passage, ControllerPc.releaseSteps, WorkerRecord.note]
      · simp [ControllerPc.passage, ControllerPc.releaseSteps, WorkerRecord.note, recordJoin,
          Scheduler.lockWorker]
  | releaseUnlock caller i event result allJoined hevent hheld =>
    obtain ⟨j, hj, hholds⟩ := hholding hevent
    obtain rfl : i = j := Fin.ext hj.symm
    obtain ⟨hnot, hother⟩ := @Scheduler.holds_destroyThread W C P sh.unlockWorker
      { sh with worker := destroyThread sh.unlockWorker.worker i } i rfl
    have hevents :
        (ControllerPc.releaseUnlock caller i event result allJoined : ControllerPc P).releaseSteps
        sh (.releaseJoin caller (i + 1) result allJoined) = [.destroyed i] := if_neg hevent
    have hquiet : ∀ index, index ≠ (i : ℕ) →
        (ControllerPc.releaseUnlock caller i event result allJoined : ControllerPc P).passage index
          = {} := by
      intro index hindex
      cases event with
      | nativeFailed => rfl
      | _ => exact if_neg (Ne.symm hindex)
    rw [hevents]
    refine hes.work hholds (fun e he => ?_) hquiet (fun _ _ => rfl) rfl
      (hcreated hholds.1 hholds.2) hother (fun hheld => absurd hheld hnot) (fun _ => ?_) ?_
    · rw [List.mem_singleton.mp he]
      rfl
    · cases event with
      | nativeFailed => exact absurd rfl hevent
      | _ => simp [ControllerPc.passage, WorkerRecord.note, WorkerRecord.Complete]
    · cases event with
      | nativeFailed => exact absurd rfl hevent
      | _ =>
        simp [ControllerPc.passage, WorkerRecord.note, destroyThread, Scheduler.unlockWorker]
  | fold caller result worker hfree hinit hfold =>
    obtain ⟨_, _, _, _, _, rfl⟩ := foldWorkers_frame hfold
    have hrecord : ∀ index, recordOf (es ++ [.folded]) index = recordOf es index :=
      fun index => recordOf_append es [.folded] index
    refine ⟨?_, fun i hi _ => ?_, fun index hindex => ?_, ?_⟩
    · rintro i ⟨-, threads, hthreads, -⟩
      cases hthreads
    · show (recordOf (es ++ [.folded]) i).Complete
      rw [hrecord i]
      refine hes.gone i hi fun hholds => ?_
      obtain ⟨hlt, threads, hthreads, hheld⟩ := hholds
      cases (hgone threads hthreads i hlt).symm.trans hheld
    · exact (hrecord index).trans (hes.spare index hindex)
    · refine Eq.trans hes.counted (Finset.sum_congr rfl fun i _ => ?_)
      exact congrArg WorkerRecord.counted (hrecord i).symm
  | foldUnlock caller result hheld =>
    exact afterRelease_elim
      (M := fun pc => Passages (es ++ ControllerPc.releaseSteps sh (.foldUnlock _ _) pc) _ pc)
      fun _ _ _ => hes.keep rfl rfl fun _ => rfl
  | shutdownQueue hq =>
    rw [hq.frame]
    cases hq <;> exact hes.keep rfl rfl fun _ => rfl
  | drainLock caller hfree =>
    exact drainTest_elim
      (M := fun pc => Passages (es ++ ControllerPc.releaseSteps sh (.drainLock _) pc) _ pc)
      (hes.keep rfl rfl fun _ => rfl) (hes.keep rfl rfl fun _ => rfl)
  | drainAgain caller hfree =>
    exact drainTest_elim
      (M := fun pc => Passages (es ++ ControllerPc.releaseSteps sh (.drainWoken _) pc) _ pc)
      (hes.keep rfl rfl fun _ => rfl) (hes.keep rfl rfl fun _ => rfl)
  | join hfree hstate =>
    exact drainTest_elim
      (M := fun pc => Passages (es ++ ControllerPc.releaseSteps sh .joinLock pc) _ pc)
      (hes.keep rfl rfl fun _ => rfl) (hes.keep rfl rfl fun _ => rfl)
  | _ => exact hes.keep rfl rfl fun _ => rfl

end Passages

/-! ## Whose result was taken -/

/-- Where `release_workers` goes on after a native join with the outcome. -/
def JoinOutcome.GoesTo (sh : Scheduler W C P) (index : ℕ) (pc' : ControllerPc P) :
    JoinOutcome → Prop
  | .accepted => ∃ caller i r all, pc' = .releaseLock caller i .joined r all
  | .injected => ∃ caller i r all, pc' = .releaseLock caller i .injected r all
  | .rejected => sh.handle index = true ∧ ∃ caller i r all, pc' = .releaseJoin caller i r all

/-- Where a native join succeeds. -/
theorem ControllerPc.releaseSteps_joined {sh : Scheduler W C P}
    {pc pc' : ControllerPc P} {index : ℕ}
    {outcome : JoinOutcome} (h : .nativeJoined index outcome ∈ pc.releaseSteps sh pc') :
    (∃ caller result allJoined, pc = .releaseJoin caller index result allJoined) ∧
      outcome.GoesTo sh index pc' := by
  unfold ControllerPc.releaseSteps at h
  split at h
  · rename_i event _ _
    cases event with
    | nativeFailed => cases List.mem_singleton.mp h
    | injected =>
      cases List.mem_singleton.mp h
      exact ⟨⟨_, _, _, rfl⟩, _, _, _, _, rfl⟩
    | joined =>
      cases List.mem_singleton.mp h
      exact ⟨⟨_, _, _, rfl⟩, _, _, _, _, rfl⟩
  · split at h
    · rename_i hhandle
      rcases List.mem_cons.mp h with h | h
      · cases h
        exact ⟨⟨_, _, _, rfl⟩, hhandle, _, _, _, _, rfl⟩
      · cases List.mem_singleton.mp h
    · cases h
  · split at h
    · cases List.mem_singleton.mp h
    · cases h
  · split at h
    · cases h
    · cases List.mem_singleton.mp h
  · cases List.mem_singleton.mp h
  · cases h

/-- **A native join that succeeds has waited for its worker**, and the result is accepted only
if it is OK. -/
theorem ControllerStepSpec.joined_awaits [DecidableEq C] {cfg : SchedulerConfig W}
    {choice : SchedulerChoice W C P} {sh : Scheduler W C P} {pc : ControllerPc P}
    {out : SchedulerStep W C P (ControllerPc P)} (h : ControllerStepSpec cfg choice sh pc out)
    {i : Fin W} {outcome : JoinOutcome}
    (hjoined : .nativeJoined i outcome ∈ pc.releaseSteps sh out.2.1) :
    ∃ r, .await (.worker i) r ∈ out.2.2 ∧ (outcome = .accepted → r = .ok) ∧
      (outcome = .rejected → r ≠ .ok) := by
  obtain ⟨⟨caller, result, allJoined, rfl⟩, hnext⟩ := ControllerPc.releaseSteps_joined hjoined
  generalize hindex : (i : ℕ) = index at h hnext
  cases h with
  | releaseSkip caller j result allJoined hlt hskip =>
    cases outcome with
    | accepted => obtain ⟨_, _, _, _, hpc⟩ := hnext; cases hpc
    | injected => obtain ⟨_, _, _, _, hpc⟩ := hnext; cases hpc
    | rejected =>
      obtain ⟨threads, hthreads, hheld⟩ := Scheduler.handle_eq_true.mp hnext.1
      cases (hskip threads hthreads).symm.trans hheld
  | releaseNativeFailed caller j result allJoined hfail hlt hhandle =>
    cases outcome with
    | rejected => obtain ⟨-, _, _, _, _, hpc⟩ := hnext; cases hpc
    | _ => obtain ⟨_, _, _, _, hpc⟩ := hnext; cases hpc
  -- in all three cases of a native join that succeeds the result comes with it
  | releaseInjected caller j result allJoined faultPlan workerResult hfault hlt hhandle hplan =>
    obtain rfl : i = j := Fin.ext hindex
    cases outcome with
    | accepted => obtain ⟨_, _, _, _, hpc⟩ := hnext; cases hpc
    | injected => exact ⟨workerResult, List.mem_singleton.mpr rfl, nofun, nofun⟩
    | rejected => obtain ⟨-, _, _, _, _, hpc⟩ := hnext; cases hpc
  | releaseFailedWorker caller j result allJoined faultPlan workerResult
    hresult hlt hhandle hplan =>
    obtain rfl : i = j := Fin.ext hindex
    cases outcome with
    | rejected => exact ⟨workerResult, List.mem_singleton.mpr rfl, nofun, fun _ => hresult⟩
    | _ => obtain ⟨_, _, _, _, hpc⟩ := hnext; cases hpc
  | releaseJoined caller j result allJoined faultPlan hlt hhandle hplan =>
    obtain rfl : i = j := Fin.ext hindex
    cases outcome with
    | accepted => exact ⟨.ok, List.mem_singleton.mpr rfl, fun _ => rfl, nofun⟩
    | injected => obtain ⟨_, _, _, _, hpc⟩ := hnext; cases hpc
    | rejected => obtain ⟨-, _, _, _, _, hpc⟩ := hnext; cases hpc
  | releaseDone caller j result hlt =>
    cases outcome with
    | rejected => obtain ⟨-, _, _, _, _, hpc⟩ := hnext; cases hpc
    | _ => obtain ⟨_, _, _, _, hpc⟩ := hnext; cases hpc
  | releaseIncomplete caller j result hlt =>
    obtain ⟨state, call, r, hafter⟩ := afterRelease_cases sh caller .errorSystem
    rw [hafter] at hnext
    cases outcome with
    | rejected => obtain ⟨-, _, _, _, _, hpc⟩ := hnext; cases hpc
    | _ => obtain ⟨_, _, _, _, hpc⟩ := hnext; cases hpc

end SchedulingEngine
