import SchedulingEngine.Concurrency.Locks
import SchedulingEngine.Queue.Wakeups
import SchedulingEngine.Scheduler.Enabled

/-!
# Calls that wait come through

In a fair execution in which waits do not fail (`queue_serves_waiters`):

- while somebody is in `dequeue`, a pointer in the queue does not stay for ever without another
  one being removed;
- while somebody is in `enqueue`, a free slot of an open queue does not stay for ever without an
  insertion, unless the queue is closed;
- once the queue is closed every call returns.

The first two are about the queue and not about a thread: a woken thread may find that another
one was quicker. That one of the threads awake is on its way to what there is to take is what
`queue_no_lost_wakeup` says.
-/

namespace SchedulingEngine

open Concurrency

variable {T P : Type}

/-! ## Serving a call -/

/-- The waiting call that a thread has not yet got past. -/
def QueuePc.waiter : QueuePc P → Option (Waiter P)
  | .lock (.enqueue task) => some (.producer task)
  | .lock .dequeue => some .consumer
  | .wait w | .asleep w | .woken w => some w
  | _ => none

/-- In a call that has not returned. -/
def QueuePc.inside : QueuePc P → Bool
  | .idle | .returned _ _ => false
  | _ => true

/-- How many of the calls that wait on `c`, and of their siblings that do not wait, were served. -/
def served (c : QueueCondition) (q : ConcurrentTaskQueue T P) : ℕ :=
  match c with
  | .notEmpty => q.removed.length
  | .notFull => q.inserted.length

/-- Something is there for a call that waits on `c`. -/
def Serviceable (c : QueueCondition) (q : ConcurrentTaskQueue T P) : Prop :=
  0 < supply c q ∧ (c = .notFull → q.shutdownRequested = false)

/-- What has happened stays so. -/
structure QueueGrows (q q' : ConcurrentTaskQueue T P) : Prop where
  inserted : q.inserted.length ≤ q'.inserted.length
  removed : q.removed.length ≤ q'.removed.length
  closed : q.shutdownRequested = true → q'.shutdownRequested = true

theorem QueueGrows.served {q q' : ConcurrentTaskQueue T P} (h : QueueGrows q q')
    (c : QueueCondition) : served c q ≤ served c q' := by
  cases c with
  | notEmpty => exact h.removed
  | notFull => exact h.inserted

section Steps

variable {cfg : QueueConfig} {t : T} {choice : QueueChoice T P} {q q₀ : ConcurrentTaskQueue T P}
  {f : ClosableFifo P} {pc : QueuePc P} {op : QueueOperation P} {out : QueueSection T P}

theorem observe_dequeue_empty {r : QueueReturn P} (h : fifoStep .dequeue f = some (r, f)) :
    f.contents = [] := by
  cases hremove : f.remove with
  | none => exact ClosableFifo.remove_eq_none.mp hremove
  | some taken =>
    have hlength := congrArg List.length (ClosableFifo.remove_eq_some.mp hremove).1
    simp only [fifoStep, hremove, Option.some.injEq, Prod.mk.injEq] at h
    rw [h.2] at hlength
    simp at hlength

theorem Enters.served (h : Enters t q pc op q₀) (c : QueueCondition) :
    served c q₀ = served c q := by
  cases h <;> cases c <;> simp [SchedulingEngine.served]

theorem Enters.grows (h : Enters t q pc op q₀) : QueueGrows q q₀ := by
  cases h with
  | lock op => exact ⟨Nat.le_refl _, Nat.le_refl _, id⟩
  | resume w => exact ⟨by simp, by simp, by simp⟩

theorem Enters.waiter (h : Enters t q pc op q₀) {w : Waiter P} (hop : op = w.operation) :
    pc.waiter = some w := by
  cases h with
  | lock op =>
    subst hop
    cases w <;> rfl
  | resume w' => exact congrArg some (Waiter.operation_injective hop)

theorem QueueStepSpec.grows (h : QueueStepSpec cfg t choice q f pc out) : QueueGrows q out.1 := by
  cases h with
  | enter hmutex henter hspec =>
    obtain ⟨hinserted, hremoved, hclosed⟩ := henter.grows
    cases hspec with
    | wait w => exact ⟨by simpa using hinserted, by simpa using hremoved, by simpa using hclosed⟩
    | insert task =>
      refine ⟨hinserted.trans ?_, hremoved, hclosed⟩
      simp
    | remove task =>
      refine ⟨hinserted, hremoved.trans ?_, hclosed⟩
      simp
    | close => exact ⟨hinserted, hremoved, fun _ => rfl⟩
    | observe r => exact ⟨hinserted, hremoved, hclosed⟩
  | waitFailed w => exact ⟨by simp, by simp, by simp⟩
  | _ => exact ⟨Nat.le_refl _, Nat.le_refl _, id⟩

/-- A critical section is one step long. -/
theorem QueueStepSpec.leaves (h : QueueStepSpec cfg t choice q f pc out)
    (hholds : pc.holdsMutex = true) : out.1.mutex = none := by
  cases h with
  | enter hmutex henter => cases henter <;> cases hholds
  | sleep w => rfl
  | unlock op r => rfl
  | _ => cases hholds

theorem QueueStepSpec.enters (h : QueueStepSpec cfg t choice q f pc out)
    (hinside : pc.inside = true)
    (hawake : pc.asleepOn = none) (hholds : pc.holdsMutex = false) : out.2.1.holdsMutex = true := by
  cases h with
  | enter hmutex henter hspec => exact hspec.mutex.2
  | waitFailed w => rfl
  | sleep w => cases hholds
  | spurious w => cases hawake
  | unlock op r => cases hholds
  | _ => cases hinside

/-- Only a call with a wait loop goes to wait. -/
theorem QueueStepSpec.waits (h : QueueStepSpec cfg t choice q f pc out) {w : Waiter P}
    (hwait : out.2.1 = .wait w) : pc.waiter = some w := by
  cases h with
  | enter hmutex henter hspec =>
    cases hspec with
    | wait w' hopen =>
      cases hwait
      exact henter.waiter rfl
    | _ => cases hwait
  | _ => cases hwait

theorem QueueStepSpec.returns {r : QueueReturn P}
    (h : QueueStepSpec cfg t choice q f (.unlock op r) out) : out.2.1.inside = false := by
  cases h with
  | enter hmutex henter => cases henter
  | unlock => rfl

/-- A waiting call finds what is there. -/
theorem SectionSpec.serves {woken : Option T} (h : SectionSpec cfg woken q f op out)
    (habs : Abstracts q f) {w : Waiter P} (hop : op = w.operation)
    (hthere : Serviceable w.condition q) : served w.condition out.1 = served w.condition q + 1 := by
  obtain ⟨hsupply, hopen⟩ := hthere
  rw [habs.supply_eq] at hsupply
  cases h with
  | wait w' hopen' hblocked =>
    obtain rfl := Waiter.operation_injective hop
    cases w' with
    | producer task =>
      have hfull : f.contents.length = f.capacity := hblocked
      simp [Waiter.condition, hfull] at hsupply
    | consumer =>
      have hempty : f.contents = [] := hblocked
      simp [Waiter.condition, hempty] at hsupply
  | insert task f' ring hop' =>
    cases w with
    | producer task' => simp [Waiter.condition, served]
    | consumer => rcases hop' with rfl | rfl <;> cases hop
  | remove task f' ring hop' =>
    cases w with
    | producer task' => rcases hop' with rfl | rfl <;> cases hop
    | consumer => simp [Waiter.condition, served]
  | close => cases w <;> cases hop
  | observe r hstep =>
    rw [hop] at hstep
    cases w with
    | producer task =>
      have hclosed := observe_waiter_closed (w := .producer task) hstep
      rw [← habs.closed, hopen rfl] at hclosed
      cases hclosed
    | consumer =>
      simp [Waiter.condition, observe_dequeue_empty hstep] at hsupply

/-- **A call on its way into the critical section is served by what it finds there.** -/
theorem QueueStepSpec.serves (h : QueueStepSpec cfg t choice q f pc out) (habs : Abstracts q f)
    (hwait : cfg.waitMayFail = false) {w : Waiter P} (hpc : pc = .lock w.operation ∨ pc = .woken w)
    (hthere : Serviceable w.condition q) : served w.condition q < served w.condition out.1 := by
  cases h with
  | enter hmutex henter hspec =>
    rename_i op q₀
    have hop : op = w.operation := by
      cases henter with
      | lock op => rcases hpc with hpc | hpc <;> cases hpc; rfl
      | resume w => rcases hpc with hpc | hpc <;> cases hpc; rfl
    have hthere₀ : Serviceable w.condition q₀ := by
      refine ⟨?_, fun hc => ?_⟩
      · have hsupply := hthere.1
        rw [habs.supply_eq, ← (henter.abstracts habs).supply_eq] at hsupply
        exact hsupply
      · rw [← hthere.2 hc]
        cases henter <;> simp
    have hserves := hspec.serves (henter.abstracts habs) hop hthere₀
    have hsame := henter.served w.condition
    omega
  | waitFailed w hfail => cases hwait.symm.trans hfail
  | _ => rcases hpc with hpc | hpc <;> cases hpc

end Steps

/-! ## Fair executions -/

section Fair

variable [DecidableEq T] [Fintype T] {cfg : QueueConfig} {capacity : ℕ} {s s' : QueuePool T P}
  {t u : T} {choice : QueueChoice T P}

omit [Fintype T] in
theorem inside_blind : (queueProgram (T := T) (P := P) cfg).Blind QueuePc.inside :=
  queueProgram_blind fun _ => rfl

/-- In the middle of a call, awake, and able to go on. -/
def QueueReady (cfg : QueueConfig) (s : QueuePool T P) (t : T) : Prop :=
  (s.pc t).inside = true ∧ (s.pc t).asleepOn = none ∧ (queueProgram cfg).CanStep s t

theorem QueueReachable.tail (h : QueueReachable cfg capacity s)
    (hstep : (queueProgram cfg).step t choice s = some s') : QueueReachable cfg capacity s' := by
  obtain ⟨ring, hinit, hsteps⟩ := h
  exact ⟨ring, hinit, hsteps.tail ⟨t, choice, hstep⟩⟩

theorem QueueReachable.step_spec (h : QueueReachable cfg capacity s)
    (hstep : (queueProgram cfg).step t choice s = some s') :
    ∃ f pc fx, Abstracts s.shared f ∧
      QueueStepSpec cfg t choice s.shared f (s.pc t) (s'.shared, pc, fx) ∧
      (queueProgram cfg).applyEffects (Function.update s.pc t pc) fx = some s'.pc := by
  obtain ⟨pc, fx, hact, hfx⟩ := Program.step_eq_some.mp hstep
  obtain ⟨f, habs, -⟩ := h.inv.abstracts
  exact ⟨f, pc, fx, habs, queueAct_spec habs hact, hfx⟩

/-- A thread that is awake goes on, if the mutex that it is about to take is free. -/
theorem QueueReachable.ready (h : QueueReachable cfg capacity s) (hinside : (s.pc t).inside = true)
    (hawake : (s.pc t).asleepOn = none)
    (hfree : (s.pc t).holdsMutex = false → s.shared.mutex = none) : QueueReady cfg s t := by
  refine ⟨hinside, hawake, ?_⟩
  have hidle : s.pc t ≠ .idle := by
    intro hidle
    rw [hidle] at hinside
    cases hinside
  have hacquires : (s.pc t).acquires = true → s.shared.mutex = none := by
    intro hacquires
    refine hfree ?_
    cases hpc : s.pc t <;> rw [hpc] at hacquires <;> first | rfl | cases hacquires
  obtain ⟨q', pc', fx, hfx, hact⟩ := queueAct_woken cfg hidle hacquires fun hreleases =>
    (h.inv.owned t).mpr hreleases
  obtain ⟨woken, hpossible⟩ : ∃ woken, ((queueProgram cfg).applyEffects
      (Function.update s.pc t pc') (fx woken)).isSome = true := by
    cases hfx with
    | quiet => exact ⟨none, rfl⟩
    | signal c => exact Program.exists_signal (queueProgram cfg) _ c
    | broadcast => exact ⟨none, rfl⟩
  exact Program.canStep_of_act (hact woken) hpossible

variable {e : Execution (queueProgram (T := T) (P := P) cfg)} {n m : ℕ}

theorem QueueReachable.execution (h : QueueReachable cfg capacity (e.state 0)) (n : ℕ) :
    QueueReachable cfg capacity (e.state n) := by
  obtain ⟨ring, hinit, hsteps⟩ := h
  exact ⟨ring, hinit, hsteps.trans (e.steps (Nat.zero_le n))⟩

theorem queue_grows (h : QueueReachable cfg capacity (e.state 0)) (hnm : n ≤ m) :
    QueueGrows (e.state n).shared (e.state m).shared := by
  induction m, hnm using Nat.le_induction with
  | base => exact ⟨Nat.le_refl _, Nat.le_refl _, id⟩
  | succ m _ ih =>
    rcases e.next_cases m with ⟨t, choice, -, hstep⟩ | hsame
    · obtain ⟨f, pc, fx, -, hspec, -⟩ := (h.execution m).step_spec hstep
      obtain ⟨hinserted, hremoved, hclosed⟩ := hspec.grows
      exact ⟨ih.inserted.trans hinserted, ih.removed.trans hremoved, hclosed ∘ ih.closed⟩
    · rw [hsame]
      exact ih

/-- What is there stays there until it is taken. -/
theorem QueueReachable.serviceable (h : QueueReachable cfg capacity s)
    (h' : QueueReachable cfg capacity s') (hgrows : QueueGrows s.shared s'.shared)
    {c : QueueCondition} (hthere : Serviceable c s.shared)
    (hserved : served c s'.shared = served c s.shared)
    (hopen : c = .notFull → s'.shared.shutdownRequested = false) : Serviceable c s'.shared := by
  obtain ⟨f, habs, hcapacity⟩ := h.inv.abstracts
  obtain ⟨f', habs', hcapacity'⟩ := h'.inv.abstracts
  refine ⟨?_, hopen⟩
  have hsupply := hthere.1
  have hhistory := congrArg List.length habs.history
  have hhistory' := congrArg List.length habs'.history
  rw [List.length_append] at hhistory hhistory'
  obtain ⟨hinserted, hremoved, -⟩ := hgrows
  rw [habs.supply_eq] at hsupply
  rw [habs'.supply_eq]
  cases c with
  | notEmpty =>
    simp only [served] at hserved hsupply ⊢
    omega
  | notFull =>
    simp only [served] at hserved hsupply ⊢
    omega

/-- The mutex is free again and again. -/
theorem queue_mutex_free_again (hfair : e.Fair (QueueReady cfg))
    (h : QueueReachable cfg capacity (e.state 0)) (n : ℕ) :
    ∃ m, n ≤ m ∧ (e.state m).shared.mutex = none := by
  refine hfair.free_again (QueueReachable cfg capacity) (fun s => s.shared.mutex) (fun _ => 0)
    (fun hs hstep => hs.tail hstep) (fun {t i s s'} hs howner hstep => ?_)
    (fun {t u i s s'} hs howner htu hstep => ?_) (fun {s t} hs howner => ?_) (h.execution n)
  · obtain ⟨f, pc, fx, -, hspec, -⟩ := hs.step_spec hstep
    exact .inl (hspec.leaves ((hs.inv.owned t).mp howner))
  · obtain ⟨f, pc, fx, -, hspec, -⟩ := hs.step_spec hstep
    have hframe := hspec.frame (Ne.symm htu) howner
    dsimp only at hframe
    rw [hframe]
    exact ⟨howner, rfl⟩
  · have hholds := (hs.inv.owned t).mp howner
    refine hs.ready ?_ ?_ fun hfalse => ?_
    · cases hpc : s.pc t <;> rw [hpc] at hholds <;> first | rfl | cases hholds
    · cases hpc : s.pc t <;> rw [hpc] at hholds <;> first | rfl | cases hholds
    · cases hholds.symm.trans hfalse

/-- A thread that is awake inside a call goes on from where it stands. -/
theorem queue_goes_on (hfair : e.Fair (QueueReady cfg))
    (h : QueueReachable cfg capacity (e.state 0)) (hinside : ((e.state n).pc u).inside = true)
    (hawake : ((e.state n).pc u).asleepOn = none) :
    ∃ m, n ≤ m ∧ (e.state m).pc u = (e.state n).pc u ∧ e.Acts u m := by
  refine hfair.acts_there hawake rfl fun k _ => ?_
  obtain ⟨m, hm, hfree⟩ := queue_mutex_free_again hfair h k
  refine ⟨m, hm, fun hsame => (h.execution m).ready ?_ ?_ fun _ => hfree⟩
  · rw [hsame]
    exact hinside
  · rw [hsame]
    exact hawake

/-- **A thread on its way into the critical section takes what is there**, if nobody else does. -/
theorem on_its_way_serves (hfair : e.Fair (QueueReady cfg)) (hwait : cfg.waitMayFail = false)
    (h : QueueReachable cfg capacity (e.state 0)) {w : Waiter P}
    (hpc : (e.state n).pc u = .lock w.operation ∨ (e.state n).pc u = .woken w)
    (hthere : Serviceable w.condition (e.state n).shared) :
    ∃ m, n ≤ m ∧ (served w.condition (e.state n).shared < served w.condition (e.state m).shared ∨
      w.condition = .notFull ∧ (e.state m).shared.shutdownRequested = true) := by
  have hinside : ((e.state n).pc u).inside = true ∧ ((e.state n).pc u).asleepOn = none := by
    rcases hpc with hpc | hpc <;> rw [hpc] <;> exact ⟨rfl, rfl⟩
  obtain ⟨m, hm, hsame, hacts⟩ := queue_goes_on hfair h hinside.1 hinside.2
  have hgrows := queue_grows h hm
  by_cases htaken : served w.condition (e.state n).shared < served w.condition (e.state m).shared
  · exact ⟨m, hm, .inl htaken⟩
  by_cases hclosed : w.condition = .notFull ∧ (e.state m).shared.shutdownRequested = true
  · exact ⟨m, hm, .inr hclosed⟩
  -- it is still there when the thread comes
  have hmthere := (h.execution n).serviceable (h.execution m) hgrows hthere
    ((not_lt.mp htaken).antisymm (hgrows.served _)) fun hc =>
      Bool.not_eq_true _ ▸ fun hmclosed => hclosed ⟨hc, hmclosed⟩
  obtain ⟨i, hstep⟩ := hacts.step
  obtain ⟨f, pc, fx, habs, hspec, -⟩ := (h.execution m).step_spec hstep
  rw [hsame] at hspec
  have hserves := hspec.serves habs hwait hpc hmthere
  exact ⟨m + 1, Nat.le_succ_of_le hm, .inl ((hgrows.served _).trans_lt hserves)⟩

/-- **What is there is taken** while somebody waits for it. -/
theorem waiter_serves (hfair : e.Fair (QueueReady cfg)) (hwait : cfg.waitMayFail = false)
    (h : QueueReachable cfg capacity (e.state 0)) {w : Waiter P}
    (hwaits : ((e.state n).pc u).waiter = some w)
    (hthere : Serviceable w.condition (e.state n).shared) :
    ∃ m, n ≤ m ∧ (served w.condition (e.state n).shared < served w.condition (e.state m).shared ∨
      w.condition = .notFull ∧ (e.state m).shared.shutdownRequested = true) := by
  have hn := h.execution n
  cases hpc : (e.state n).pc u with
  | lock op =>
    refine on_its_way_serves hfair hwait h (u := u) (.inl ?_) hthere
    rw [hpc] at hwaits ⊢
    cases op <;> cases hwaits <;> rfl
  | woken w' =>
    rw [hpc] at hwaits
    cases hwaits
    exact on_its_way_serves hfair hwait h (.inr hpc) hthere
  | wait w' =>
    -- it has just seen that nothing is there
    rw [hpc] at hwaits
    cases hwaits
    have hloop := hn.inv.loopCondition u w hpc
    obtain ⟨f, habs, -⟩ := hn.inv.abstracts
    have hsupply := hthere.1
    rw [habs.supply_eq] at hsupply
    cases w with
    | producer task =>
      simp only [Waiter.loopCondition, habs.isFull_eq, Bool.and_eq_true, decide_eq_true_eq] at hloop
      simp [Waiter.condition, hloop.2] at hsupply
    | consumer =>
      simp only [Waiter.loopCondition, habs.isEmpty_eq, Bool.and_eq_true,
        decide_eq_true_eq] at hloop
      simp [Waiter.condition, hloop.2] at hsupply
  | asleep w' =>
    -- then another thread was woken for it
    rw [hpc] at hwaits
    cases hwaits
    have hasleep : ((e.state n).pc u).asleepOn = some w.condition := by
      rw [hpc]
      rfl
    have hopen : (e.state n).shared.shutdownRequested = false := by
      rw [← Bool.not_eq_true]
      intro hclosed
      cases (hn.inv.awake hclosed u).symm.trans hasleep
    have hwoken := hthere.1.trans_le (hn.supplied hwait w.condition hopen ⟨u, hasleep⟩)
    obtain ⟨v, hv⟩ := Finset.card_pos.mp hwoken
    have hv := (Finset.mem_filter.mp hv).2
    cases hvpc : (e.state n).pc v with
    | woken w' =>
      rw [hvpc] at hv
      have hcondition : w'.condition = w.condition := Option.some.inj hv
      rw [← hcondition] at hthere ⊢
      exact on_its_way_serves hfair hwait h (.inr hvpc) hthere
    | _ =>
      rw [hvpc] at hv
      cases hv
  | _ =>
    rw [hpc] at hwaits
    cases hwaits

/-- A thread at the end of its critical section returns. -/
theorem unlocking_returns (hfair : e.Fair (QueueReady cfg))
    (h : QueueReachable cfg capacity (e.state 0)) {op : QueueOperation P} {r : QueueReturn P}
    (hpc : (e.state n).pc u = .unlock op r) : ∃ m, n ≤ m ∧ ((e.state m).pc u).inside = false := by
  obtain ⟨m, hm, hsame, hacts⟩ :=
    queue_goes_on hfair h (n := n) (u := u) (by rw [hpc]; rfl) (by rw [hpc]; rfl)
  obtain ⟨i, hstep⟩ := hacts.step
  obtain ⟨f, pc, fx, -, hspec, hfx⟩ := (h.execution m).step_spec hstep
  rw [hsame, hpc] at hspec
  refine ⟨m + 1, Nat.le_succ_of_le hm, ?_⟩
  rw [(Program.step_blind inside_blind hfx).1]
  exact hspec.returns

/-- **A call returns** if it does not wait, or if the queue is closed. -/
theorem prompt_queue_call_returns (hfair : e.Fair (QueueReady cfg))
    (h : QueueReachable cfg capacity (e.state 0))
    (hprompt : (e.state n).shared.shutdownRequested = true ∨ ((e.state n).pc u).waiter = none) :
    ∃ m, n ≤ m ∧ ((e.state m).pc u).inside = false := by
  -- nobody sleeps or goes to sleep on a closed queue
  have hclosed : ∀ m, n ≤ m → (e.state n).shared.shutdownRequested = true →
      ((e.state m).pc u).asleepOn = none ∧ ∀ w, (e.state m).pc u ≠ .wait w := by
    intro m hm hclosed
    have hmclosed := (queue_grows h hm).closed hclosed
    refine ⟨(h.execution m).inv.awake hmclosed u, fun w hpc => ?_⟩
    have hloop := (h.execution m).inv.loopCondition u w hpc
    cases w <;> simp [Waiter.loopCondition, hmclosed] at hloop
  have hunlocks : ∀ k, n ≤ k → ((e.state k).pc u).holdsMutex = true →
      (∀ w, (e.state k).pc u ≠ .wait w) → ∃ m, n ≤ m ∧ ((e.state m).pc u).inside = false := by
    intro k hk hholds hwait
    cases hpc : (e.state k).pc u with
    | wait w => exact absurd hpc (hwait w)
    | unlock op r =>
      obtain ⟨m, hm, hreturned⟩ := unlocking_returns hfair h hpc
      exact ⟨m, hk.trans hm, hreturned⟩
    | _ =>
      rw [hpc] at hholds
      cases hholds
  have hnowait : ∀ w, (e.state n).pc u ≠ .wait w := by
    rcases hprompt with hprompt | hprompt
    · exact (hclosed n (Nat.le_refl n) hprompt).2
    · intro w hpc
      rw [hpc] at hprompt
      cases hprompt
  have hawake : ((e.state n).pc u).asleepOn = none := by
    rcases hprompt with hprompt | hprompt
    · exact (hclosed n (Nat.le_refl n) hprompt).1
    · cases hpc : (e.state n).pc u <;> rw [hpc] at hprompt <;> first | rfl | cases hprompt
  cases hinside : ((e.state n).pc u).inside with
  | false => exact ⟨n, Nat.le_refl n, hinside⟩
  | true =>
    cases hholds : ((e.state n).pc u).holdsMutex with
    | true => exact hunlocks n (Nat.le_refl n) hholds hnowait
    | false =>
      obtain ⟨m, hm, hsame, hacts⟩ := queue_goes_on hfair h hinside hawake
      obtain ⟨i, hstep⟩ := hacts.step
      obtain ⟨f, pc, fx, -, hspec, hfx⟩ := (h.execution m).step_spec hstep
      rw [hsame] at hspec
      have hm' := Nat.le_succ_of_le hm
      have henters := hspec.enters hinside hawake hholds
      have hsamepc : (e.state (m + 1)).pc u = pc := by
        have hawake' : pc.asleepOn = none := by
          cases pc <;> first | rfl | cases henters
        rw [Program.applyEffects_fixed hfx (u := u)
          (by rw [Function.update_self]; exact hawake') rfl,
          Function.update_self]
      refine hunlocks (m + 1) hm' (by rw [hsamepc]; exact henters) fun w hpc => ?_
      rcases hprompt with hprompt | hprompt
      · exact (hclosed (m + 1) hm' hprompt).2 w hpc
      · rw [hspec.waits (hsamepc.symm.trans hpc)] at hprompt
        cases hprompt

end Fair

/-- **Nobody waits in vain.** In an execution in which threads that are ready again and again act
again and again and waits do not fail, from every instant on: if somebody is in `dequeue` and the
queue holds a pointer, a pointer will be removed; if somebody is in `enqueue` and a slot is free, a
pointer will be inserted or the queue closed; calls without a wait loop return, and on a closed
queue all calls do. -/
theorem queue_serves_waiters [DecidableEq T] [Fintype T] {cfg : QueueConfig} {capacity : ℕ}
    {e : Execution (queueProgram (T := T) (P := P) cfg)} (hwait : cfg.waitMayFail = false)
    (h : QueueReachable cfg capacity (e.state 0)) (hfair : e.Fair (QueueReady cfg)) (n : ℕ) :
    ((∃ u, ((e.state n).pc u).waiter = some .consumer) →
      taskQueueSize (e.state n).shared.queue ≠ 0 →
      ∃ m, n ≤ m ∧ (e.state n).shared.removed.length < (e.state m).shared.removed.length) ∧
    ((∃ u task, ((e.state n).pc u).waiter = some (.producer task)) →
      taskQueueSize (e.state n).shared.queue < capacity →
      ∃ m, n ≤ m ∧ ((e.state n).shared.inserted.length < (e.state m).shared.inserted.length ∨
        (e.state m).shared.shutdownRequested = true)) ∧
    ∀ u, (e.state n).shared.shutdownRequested = true ∨ ((e.state n).pc u).waiter = none →
      ∃ m, n ≤ m ∧ ((e.state m).pc u).inside = false := by
  refine ⟨?_, ?_, fun u hprompt => prompt_queue_call_returns hfair h hprompt⟩
  · rintro ⟨u, hu⟩ hsize
    have hthere : Serviceable .notEmpty (e.state n).shared := ⟨Nat.pos_of_ne_zero hsize, nofun⟩
    obtain ⟨m, hm, hserved | ⟨hcondition, -⟩⟩ := waiter_serves hfair hwait h hu hthere
    · exact ⟨m, hm, hserved⟩
    · cases hcondition
  · rintro ⟨u, task, hu⟩ hsize
    cases hclosed : (e.state n).shared.shutdownRequested with
    | true => exact ⟨n, Nat.le_refl n, .inr hclosed⟩
    | false =>
      obtain ⟨f, habs, hcapacity⟩ := (h.execution n).inv.abstracts
      have hthere : Serviceable .notFull (e.state n).shared := by
        refine ⟨?_, fun _ => hclosed⟩
        rw [habs.supply_eq]
        rw [habs.size_eq, ← hcapacity] at hsize
        exact Nat.sub_pos_of_lt hsize
      obtain ⟨m, hm, hserves⟩ := waiter_serves hfair hwait h hu hthere
      exact ⟨m, hm, hserves.imp_right And.right⟩

/-- The consumer that the signal of `wakeOneSchedule` wakes. -/
def wokenConsumer : Fin 3 := ⟨0, Nat.succ_pos 2⟩

/-- The consumer that still sleeps then. -/
def sleepingConsumer : Fin 3 := ⟨1, Nat.one_lt_succ_succ 1⟩

/-- The producer of `wakeOneSchedule`. -/
def signalingProducer : Fin 3 := ⟨2, Nat.lt_succ_self 2⟩

/-- How the run of `wakeOneSchedule` goes on: the woken consumer takes the pointer, and the queue
is closed. -/
def takeAndClose : List (Fin 3 × QueueChoice (Fin 3) ℕ) :=
  [(wokenConsumer, {}), (wokenConsumer, {}), (signalingProducer, {}),
   (signalingProducer, { call := some (.shutdown, true) }), (signalingProducer, {}),
   (signalingProducer, {}), (sleepingConsumer, {}), (sleepingConsumer, {})]

/-- Consumer 1 sleeps while the pointer is there, and consumer 0 takes it. -/
theorem queue_serves_waiters_woken :
    ∃ e : Execution (queueProgram (T := Fin 3) (P := ℕ) ⟨true, false⟩),
      ((e.state 9).pc 1).waiter = some .consumer ∧ taskQueueSize (e.state 9).shared.queue = 1 ∧
      ∃ m, 9 ≤ m ∧ (e.state 9).shared.removed.length < (e.state m).shared.removed.length := by
  have hobs : ((queueProgram ⟨true, false⟩).run (wakeOneSchedule ++ takeAndClose)
      (queueInitial ⟨some [none], 1, 0, 0, 0⟩)).map (fun s => decide (∀ u, (s.pc u).inside = false))
      = some true := by decide
  obtain ⟨s, hrun, hquiet⟩ := Option.map_eq_some_iff.mp hobs
  have hquiet := of_decide_eq_true hquiet
  let e := Execution.ofRun hrun
  have hfair : e.Fair (QueueReady ⟨true, false⟩) := Execution.ofRun_fair hrun fun u hready => by
    cases (hquiet u).symm.trans hready.1
  have hreach : QueueReachable ⟨true, false⟩ 1 (e.state 0) := ⟨_, by decide, .refl⟩
  have hmiddle : ((queueProgram ⟨true, false⟩).run wakeOneSchedule
      (queueInitial ⟨some [none], 1, 0, 0, 0⟩)).map (fun s =>
        ((s.pc 1).waiter, taskQueueSize s.shared.queue))
      = some (some (.consumer : Waiter ℕ), 1) := by decide
  obtain ⟨s₉, hrun₉, hseen⟩ := Option.map_eq_some_iff.mp hmiddle
  have hstate : e.state 9 = s₉ := by
    show Option.getD ((queueProgram ⟨true, false⟩).run wakeOneSchedule
      (queueInitial ⟨some [none], 1, 0, 0, 0⟩)) s = s₉
    rw [hrun₉]
    rfl
  simp only [Prod.mk.injEq] at hseen
  rw [← hstate] at hseen
  refine ⟨e, hseen.1, hseen.2, ?_⟩
  exact (queue_serves_waiters rfl hreach hfair 9).1 ⟨1, hseen.1⟩
    (by rw [hseen.2]; exact Nat.one_ne_zero)

end SchedulingEngine
