import Mathlib.Algebra.BigOperators.Ring.Finset
import SchedulingEngine.Queue.Invariants

/-!
# No lost wakeup

A signal wakes one sleeper, and the woken thread may find the item or the slot it
was woken for taken by a non-waiting call or a late arrival, and go back to sleep.
The invariant that survives all of this counts: as long as somebody sleeps on a
condition of an open queue, there are at most as many items (slots) as threads
already woken for them and not yet back (`Supplied`). It holds for unconditional
and for transition-aware signalling, since the latter skips a signal only when no
call is between the increment and the decrement around its wait.
-/

namespace SchedulingEngine

open Concurrency

variable {T P : Type}

/-- Woken from condition `c` and not yet back in the critical section. -/
def QueuePc.wokenFrom : QueuePc P → Option QueueCondition
  | .woken w => some w.condition
  | _ => none

/-- The number of items (`not_empty`) or free slots (`not_full`). -/
def supply (c : QueueCondition) (q : ConcurrentTaskQueue T P) : ℕ :=
  match c with
  | .notEmpty => taskQueueSize q.queue
  | .notFull => taskQueueCapacity q.queue - taskQueueSize q.queue

/-- The number of threads woken from `c` and not yet back. -/
def wokenCount [Fintype T] (c : QueueCondition) (g : T → QueuePc P) : ℕ :=
  (Finset.univ.filter fun u => (g u).wokenFrom = some c).card

/-- Nobody sleeps on `c` while more supply is there than threads woken for it. -/
def Supplied [Fintype T] (c : QueueCondition) (q : ConcurrentTaskQueue T P)
    (g : T → QueuePc P) : Prop :=
  q.shutdownRequested = false → (∃ u, (g u).asleepOn = some c) → supply c q ≤ wokenCount c g

/-! ## Counting the woken -/

/-- One for a thread woken from `c`. -/
def QueuePc.wokenWeight (c : QueueCondition) (pc : QueuePc P) : ℕ :=
  if pc.wokenFrom = some c then 1 else 0

theorem wokenCount_eq_total [Fintype T] (c : QueueCondition) (g : T → QueuePc P) :
    wokenCount c g = Program.total (QueuePc.wokenWeight c) g :=
  Finset.card_filter _ _

section Moves

variable [DecidableEq T] [Fintype T] {cfg : QueueConfig}

theorem wokenCount_update (c : QueueCondition) (g : T → QueuePc P) (t : T) (pc : QueuePc P) :
    wokenCount c (Function.update g t pc) + (g t).wokenWeight c
      = wokenCount c g + pc.wokenWeight c := by
  rw [wokenCount_eq_total, wokenCount_eq_total]
  exact Program.total_update _ _ _ _

omit [Fintype T] in
theorem asleep_update {c : QueueCondition} {g : T → QueuePc P} {t : T} {pc : QueuePc P}
    (hpc : pc.asleepOn ≠ some c) (h : ∃ u, (Function.update g t pc u).asleepOn = some c) :
    ∃ u, (g u).asleepOn = some c := by
  obtain ⟨u, hu⟩ := h
  by_cases hut : u = t
  · subst hut
    exact absurd (by simpa using hu) hpc
  · exact ⟨u, by simpa [hut] using hu⟩

/-- A signal finds no sleeper, or moves one to the woken. -/
theorem signal_cases {c : QueueCondition} {woken : Option T} {g g' : T → QueuePc P}
    (h : (queueProgram cfg).applyEffects g [.signal c woken] = some g') :
    (g' = g ∧ ∀ u, (g u).asleepOn ≠ some c) ∨
      ∃ v w, g v = .asleep w ∧ w.condition = c ∧ g' = Function.update g v (.woken w) := by
  obtain ⟨g₁, hg₁, h⟩ := Option.bind_eq_some_iff.mp h
  cases h
  cases woken with
  | none =>
    simp only [Program.applyEffect, Option.ite_none_right_eq_some, Option.some.injEq] at hg₁
    exact .inl ⟨hg₁.2.symm, hg₁.1⟩
  | some v =>
    simp only [Program.applyEffect, Option.ite_none_right_eq_some, Option.some.injEq] at hg₁
    obtain ⟨hv, rfl⟩ := hg₁
    cases hgv : g v with
    | asleep w =>
      refine .inr ⟨v, w, hgv, ?_, by simp [queueProgram, QueuePc.wake]⟩
      simpa [queueProgram, hgv, QueuePc.asleepOn] using hv
    | _ => simp [queueProgram, hgv, QueuePc.asleepOn] at hv

/-- A signal on `d` leaves the sleepers and the woken of another condition alone. -/
theorem signal_other {c d : QueueCondition} (hcd : c ≠ d) {woken : Option T}
    {g g' : T → QueuePc P}
    (h : (queueProgram cfg).applyEffects g [.signal d woken] = some g') :
    wokenCount c g' = wokenCount c g ∧
      ((∃ u, (g' u).asleepOn = some c) → ∃ u, (g u).asleepOn = some c) := by
  rcases signal_cases h with ⟨rfl, -⟩ | ⟨v, w, hv, hw, rfl⟩
  · exact ⟨rfl, id⟩
  · have hcount := wokenCount_update c g v (.woken w)
    have h₁ : (g v).wokenWeight c = 0 := by simp [hv, QueuePc.wokenWeight, QueuePc.wokenFrom]
    have h₂ : (QueuePc.woken w).wokenWeight c = 0 := by
      simp [QueuePc.wokenWeight, QueuePc.wokenFrom, hw, Ne.symm hcd]
    exact ⟨by omega, asleep_update (by simp [QueuePc.asleepOn])⟩

/-- After a signal on `c`, if somebody still sleeps there, one more thread is woken. -/
theorem signal_same {c : QueueCondition} {woken : Option T} {g g' : T → QueuePc P}
    (h : (queueProgram cfg).applyEffects g [.signal c woken] = some g')
    (hasleep : ∃ u, (g' u).asleepOn = some c) :
    wokenCount c g' = wokenCount c g + 1 ∧ ∃ u, (g u).asleepOn = some c := by
  rcases signal_cases h with ⟨rfl, hnone⟩ | ⟨v, w, hv, hw, rfl⟩
  · obtain ⟨u, hu⟩ := hasleep
    exact absurd hu (hnone u)
  · have hcount := wokenCount_update c g v (.woken w)
    have h₁ : (g v).wokenWeight c = 0 := by simp [hv, QueuePc.wokenWeight, QueuePc.wokenFrom]
    have h₂ : (QueuePc.woken w).wokenWeight c = 1 := by
      simp [QueuePc.wokenWeight, QueuePc.wokenFrom, hw]
    exact ⟨by omega, ⟨v, by simp [hv, QueuePc.asleepOn, hw]⟩⟩

end Moves

/-! ## One step -/

section Step

variable {cfg : QueueConfig} {t : T} {choice : QueueChoice T P}
  {q q₀ : ConcurrentTaskQueue T P} {f : ClosableFifo P} {pc : QueuePc P} {op : QueueOperation P}
  {woken : Option T} {out : QueueSection T P}

theorem Abstracts.supply_eq (h : Abstracts q f) (c : QueueCondition) :
    supply c q = match c with
      | .notEmpty => f.contents.length
      | .notFull => f.capacity - f.contents.length := by
  cases c <;> simp [supply, h.size_eq, taskQueueCapacity, h.capacity]

/-- Only a waiter comes back as woken, and it comes back for its own operation. -/
theorem Enters.wokenWeight (h : Enters t q pc op q₀) (c : QueueCondition) :
    pc.wokenWeight c = 0 ∨ ∃ w : Waiter P, op = w.operation ∧ pc = .woken w ∧ w.condition = c := by
  cases h with
  | lock op => exact .inl rfl
  | resume w =>
    by_cases hc : w.condition = c
    · exact .inr ⟨w, rfl, rfl, hc⟩
    · exact .inl (by simp [QueuePc.wokenWeight, QueuePc.wokenFrom, hc])

/-- Coming back for an operation that never waits on `c` leaves `c`'s counts alone. -/
theorem Enters.unrelated (h : Enters t q pc op q₀) {c : QueueCondition}
    (hop : ∀ w : Waiter P, w.condition = c → op ≠ w.operation) :
    pc.wokenWeight c = 0 ∧ waiterCount c q₀ = waiterCount c q := by
  cases h with
  | lock op => cases c <;> exact ⟨rfl, rfl⟩
  | resume w =>
    have hc : w.condition ≠ c := fun hc => hop w hc rfl
    refine ⟨by simp [QueuePc.wokenWeight, QueuePc.wokenFrom, hc], ?_⟩
    cases w <;> cases c <;> simp [Waiter.condition, waiterCount, endWait] at hc ⊢

theorem QueuePc.wokenWeight_le (c : QueueCondition) (pc : QueuePc P) : pc.wokenWeight c ≤ 1 := by
  unfold QueuePc.wokenWeight
  split <;> omega

/-- A section that neither waits nor changes the FIFO finds it closed if its caller
is a waiter. -/
theorem observe_waiter_closed {w : Waiter P} {r : QueueReturn P}
    (h : fifoStep w.operation f = some (r, f)) : f.closed = true := by
  cases w with
  | producer task =>
    simp only [Waiter.operation, fifoStep] at h
    cases hins : f.insert task with
    | some f' =>
      have hlen := congrArg List.length (ClosableFifo.insert_eq_some.mp hins).2.2.1
      simp only [hins, Option.some.injEq, Prod.mk.injEq] at h
      rw [h.2] at hlen
      simp at hlen
    | none =>
      simp [hins] at h
      exact h.1
  | consumer =>
    simp only [Waiter.operation, fifoStep] at h
    cases hrem : f.remove with
    | some taken =>
      have hlen := congrArg List.length (ClosableFifo.remove_eq_some.mp hrem).1
      simp only [hrem, Option.some.injEq, Prod.mk.injEq] at h
      rw [h.2] at hlen
      simp at hlen
    | none =>
      simp [hrem] at h
      exact h.1

theorem Waiter.operation_injective {w w' : Waiter P} (h : w.operation = w'.operation) : w = w' := by
  cases w <;> cases w' <;> cases h <;> rfl

/-- The signal of an insertion is sent, or skipped while no consumer waits. -/
theorem insertSignals_cases (cfg : QueueConfig) (woken : Option T) (q : ConcurrentTaskQueue T P) :
    insertSignals cfg woken q = [.signal .notEmpty woken] ∨
      (insertSignals cfg woken q = [] ∧ waiterCount .notEmpty q = 0) := by
  unfold insertSignals
  split
  · exact .inl rfl
  · rename_i h
    simp at h
    exact .inr ⟨rfl, h.2.2⟩

/-- The signal of a removal is sent, or skipped while no producer waits. -/
theorem removeSignals_cases (cfg : QueueConfig) (woken : Option T) (q : ConcurrentTaskQueue T P) :
    removeSignals cfg woken q = [.signal .notFull woken] ∨
      (removeSignals cfg woken q = [] ∧ waiterCount .notFull q = 0) := by
  unfold removeSignals
  split
  · exact .inl rfl
  · rename_i h
    simp at h
    exact .inr ⟨rfl, h.2.2⟩

variable [DecidableEq T] [Fintype T]

/-- Where the waiter counter is zero, nobody sleeps. -/
theorem QueueInv.no_sleeper {capacity : ℕ} {s : QueuePool T P} (h : QueueInv capacity s)
    {c : QueueCondition} (hzero : waiterCount c s.shared = 0) (u : T) :
    (s.pc u).asleepOn ≠ some c := by
  intro hu
  have hle := total_waiting_pos (s := s) u c
  rw [← h.waiters c, hzero] at hle
  cases hpc : s.pc u with
  | asleep w =>
    rw [hpc] at hu hle
    simp [QueuePc.waiting, Option.some.inj hu] at hle
  | _ => rw [hpc] at hu; cases hu

/-- A call that adds one to the supply of `d`, takes one from the other, and signals
`d` unless nobody sleeps there, keeps both conditions supplied. -/
theorem supplied_signal (woken : Option T) {d : QueueCondition} {q' : ConcurrentTaskQueue T P}
    {g g' : T → QueuePc P} {pc' : QueuePc P} {fx : List (QueueEffect T)}
    (hopen : q.shutdownRequested = false)
    (hup : supply d q' = supply d q + 1) (hdown : ∀ c, c ≠ d → supply c q' + 1 = supply c q)
    (hback : (g t).wokenWeight d = 0) (hawake : pc'.asleepOn = none)
    (hdone : pc'.wokenFrom = none)
    (hfx : (queueProgram cfg).applyEffects (Function.update g t pc') fx = some g')
    (hsignal : fx = [.signal d woken] ∨ (fx = [] ∧ ∀ u, (g u).asleepOn ≠ some d))
    (hs : ∀ c, Supplied c q g) (c : QueueCondition) : Supplied c q' g' := by
  intro _ hasleep
  have hcount := wokenCount_update c g t pc'
  have hpc' : pc'.wokenWeight c = 0 := by simp [QueuePc.wokenWeight, hdone]
  have hle := QueuePc.wokenWeight_le c (g t)
  have hnot : pc'.asleepOn ≠ some c := by simp [hawake]
  by_cases hcd : c = d
  · subst hcd
    rcases hsignal with rfl | ⟨rfl, hnone⟩
    · obtain ⟨hone, hbefore⟩ := signal_same hfx hasleep
      have hbase := hs c hopen (asleep_update hnot hbefore)
      omega
    · cases hfx
      obtain ⟨u, hu⟩ := asleep_update hnot hasleep
      exact absurd hu (hnone u)
  · have hsame : wokenCount c g' = wokenCount c (Function.update g t pc') ∧
        ∃ u, (Function.update g t pc' u).asleepOn = some c := by
      rcases hsignal with rfl | ⟨rfl, -⟩
      · obtain ⟨h₁, h₂⟩ := signal_other hcd hfx
        exact ⟨h₁, h₂ hasleep⟩
      · cases hfx
        exact ⟨rfl, hasleep⟩
    have hbase := hs c hopen (asleep_update hnot hsame.2)
    have hsup := hdown c hcd
    omega

variable {s s' : QueuePool T P} {capacity : ℕ}

/-- A critical section keeps both conditions supplied. -/
theorem supplied_enter (h : QueueInv capacity s) (habs : Abstracts s.shared f)
    (henter : Enters t s.shared (s.pc t) op q₀) {fx : List (QueueEffect T)}
    (hspec : SectionSpec cfg woken q₀ f op (s'.shared, pc, fx))
    (hfx : (queueProgram cfg).applyEffects (Function.update s.pc t pc) fx = some s'.pc)
    (hs : ∀ c, Supplied c s.shared s.pc) (c : QueueCondition) : Supplied c s'.shared s'.pc := by
  have habs₀ := henter.abstracts habs
  have hsupply : ∀ d, supply d q₀ = supply d s.shared := fun d => by
    rw [habs₀.supply_eq, habs.supply_eq]
  obtain ⟨sh', g'⟩ := s'
  generalize hout : (sh', pc, fx) = out at hspec
  cases hspec with
  | wait w hopen hblocked =>
    cases hout
    cases hfx
    intro _ hasleep
    by_cases hwc : w.condition = c
    · -- the thread just saw that nothing is there to be had
      have hnone : supply c (beginWait w q₀) = 0 := by
        rw [habs₀.beginWait.supply_eq]
        cases w <;> subst hwc <;> simp_all [Waiter.Blocked, Waiter.condition]
      rw [hnone]
      exact Nat.zero_le _
    · have hback : (s.pc t).wokenWeight c = 0 := by
        rcases henter.wokenWeight c with hzero | ⟨w', hop, -, hc⟩
        · exact hzero
        · rw [Waiter.operation_injective hop] at hwc
          exact absurd hc hwc
      have hcount := wokenCount_update c s.pc t (.wait w)
      have hwait : (QueuePc.wait w).wokenWeight c = 0 := rfl
      have hbase := hs c (habs.closed.trans hopen)
        (asleep_update (by simp [QueuePc.asleepOn]) hasleep)
      have hsame : supply c (beginWait w q₀) = supply c q₀ := by
        rw [habs₀.beginWait.supply_eq, habs₀.supply_eq]
      have hq := hsupply c
      show supply c (beginWait w q₀) ≤ wokenCount c (Function.update s.pc t (.wait w))
      omega
  | insert task f' ring hop hinsert habs' =>
    cases hout
    obtain ⟨hopen, hroom, hcontents, hcap, -, -⟩ := ClosableFifo.insert_eq_some.mp hinsert
    obtain ⟨hback, hwaiters⟩ := henter.unrelated (c := .notEmpty) (by
      rintro (_ | _) ⟨⟩ rfl
      rcases hop with h | h <;> cases h)
    refine supplied_signal woken (d := .notEmpty) (habs.closed.trans hopen) ?_ ?_ hback rfl rfl
      hfx ?_ hs c
    · rw [habs'.supply_eq, ← hsupply, habs₀.supply_eq, hcontents]
      simp
    · intro d hd
      cases d with
      | notEmpty => exact absurd rfl hd
      | notFull =>
        rw [habs'.supply_eq, ← hsupply, habs₀.supply_eq, hcontents, hcap]
        simp
        omega
    · rcases insertSignals_cases cfg woken q₀ with hsig | ⟨hskip, hzero⟩
      · exact .inl hsig
      · exact .inr ⟨hskip, h.no_sleeper (hwaiters ▸ hzero)⟩
  | remove task f' ring hop hremove habs' =>
    cases hout
    intro hopen
    obtain ⟨hcontents, hcap, -, -⟩ := ClosableFifo.remove_eq_some.mp hremove
    have hbound := f.length_le.trans f.highWater_le
    rw [hcontents, List.length_cons] at hbound
    obtain ⟨hback, hwaiters⟩ := henter.unrelated (c := .notFull) (by
      rintro (_ | _) ⟨⟩ rfl
      rcases hop with h | h <;> cases h)
    refine supplied_signal woken (d := .notFull) (habs.closed.trans ?_) ?_ ?_ hback rfl rfl
      hfx ?_ hs c hopen
    · exact habs₀.closed.symm.trans hopen
    · rw [habs'.supply_eq, ← hsupply, habs₀.supply_eq, hcontents, hcap]
      simp only [List.length_cons]
      omega
    · intro d hd
      cases d with
      | notEmpty =>
        rw [habs'.supply_eq, ← hsupply, habs₀.supply_eq, hcontents]
        simp
      | notFull => exact absurd rfl hd
    · rcases removeSignals_cases cfg woken q₀ with hsig | ⟨hskip, hzero⟩
      · exact .inl hsig
      · exact .inr ⟨hskip, h.no_sleeper (hwaiters ▸ hzero)⟩
  | close =>
    cases hout
    rintro ⟨⟩
  | observe r hstep hshutdown =>
    cases hout
    cases hfx
    intro hopen hasleep
    -- a woken waiter that only observes has found the queue closed
    have hback : (s.pc t).wokenWeight c = 0 := by
      rcases henter.wokenWeight c with hzero | ⟨w, rfl, -, -⟩
      · exact hzero
      · rw [habs₀.closed, observe_waiter_closed hstep] at hopen
        cases hopen
    have hcount := wokenCount_update c s.pc t (.unlock op r)
    have hdone : (QueuePc.unlock op r).wokenWeight c = 0 := rfl
    have hbase := hs c (habs.closed.trans (habs₀.closed.symm.trans hopen))
      (asleep_update (by simp [QueuePc.asleepOn]) hasleep)
    have hq := hsupply c
    show supply c q₀ ≤ wokenCount c (Function.update s.pc t (.unlock op r))
    omega

/-- A step that does not enter the critical section keeps both conditions supplied. -/
theorem supplied_quiet {q' : ConcurrentTaskQueue T P} {g : T → QueuePc P} {c : QueueCondition}
    (hq : supply c q' = supply c q) (hclosed : q'.shutdownRequested = q.shutdownRequested)
    (hback : (g t).wokenWeight c ≤ pc.wokenWeight c) (hawake : pc.asleepOn ≠ some c)
    (hs : Supplied c q g) : Supplied c q' (Function.update g t pc) := by
  intro hopen hasleep
  have hcount := wokenCount_update c g t pc
  have hbase := hs (hclosed ▸ hopen) (asleep_update hawake hasleep)
  omega

/-- **One step keeps both conditions supplied**, when condition waits do not fail. -/
theorem supplied_step (hcfg : cfg.waitMayFail = false) (h : QueueInv capacity s)
    (hstep : (queueProgram cfg).step t choice s = some s')
    (hs : ∀ c, Supplied c s.shared s.pc) (c : QueueCondition) : Supplied c s'.shared s'.pc := by
  obtain ⟨pc', fx, hact, hfx⟩ := Program.step_eq_some.mp hstep
  obtain ⟨f, habs, -⟩ := h.abstracts
  have hspec : QueueStepSpec cfg t choice s.shared f (s.pc t) (s'.shared, pc', fx) :=
    queueAct_spec habs hact
  have hloop := h.loopCondition t
  obtain ⟨sh', g'⟩ := s'
  generalize hpc : s.pc t = pc at hspec
  generalize hout : (sh', pc', fx) = out at hspec
  have hzero : ∀ {pc : QueuePc P}, pc.wokenFrom = none → pc.wokenWeight c = 0 := fun h => by
    simp [QueuePc.wokenWeight, h]
  cases hspec with
  | enter hmutex henter hsec =>
    subst hpc hout
    exact supplied_enter h habs henter hsec hfx hs c
  | waitFailed w hfail => rw [hcfg] at hfail; cases hfail
  | sleep w hmutex =>
    cases hout
    cases hfx
    intro hopen hasleep
    -- a thread falls asleep because there is nothing to take, or no room
    by_cases hwc : w.condition = c
    · have hnone : supply c s.shared = 0 := by
        have hseen := hloop w hpc
        rw [habs.supply_eq]
        cases w <;> subst hwc <;>
          simp_all [Waiter.loopCondition, Waiter.condition, habs.isFull_eq, habs.isEmpty_eq]
      show supply c s.shared ≤ _
      rw [hnone]
      exact Nat.zero_le _
    · exact supplied_quiet rfl rfl (by rw [hpc, hzero rfl]; exact Nat.zero_le _)
        (by simpa [QueuePc.asleepOn] using hwc) (hs c) hopen hasleep
  | spurious w =>
    cases hout
    cases hfx
    exact supplied_quiet rfl rfl (by rw [hpc, hzero rfl]; exact Nat.zero_le _)
      (by simp [QueuePc.asleepOn]) (hs c)
  | _ =>
    cases hout
    cases hfx
    exact supplied_quiet rfl rfl (by rw [hpc, hzero rfl]; exact Nat.zero_le _)
      (by simp [QueuePc.asleepOn]) (hs c)

theorem QueueReachable.supplied (hcfg : cfg.waitMayFail = false)
    (h : QueueReachable cfg capacity s) (c : QueueCondition) : Supplied c s.shared s.pc := by
  obtain ⟨ring, hinit, hsteps⟩ := h
  refine hsteps.invariant (I := fun s => ∀ c, Supplied c s.shared s.pc) ?_ ?_ c
  · rintro c - ⟨u, hu⟩
    cases hu
  · rintro u u' hu hs ⟨t, choice, hstep⟩
    exact supplied_step hcfg (QueueReachable.inv ⟨ring, hinit, hu⟩) hstep hs

end Step

/-! ## Sleepers are supplied -/

/-- **No lost wakeup.** For both signalling builds and any number of threads, as long
as waits do not fail: on an open queue, somebody asleep on `not_empty` (`not_full`)
means that there are no more items (free slots) than threads already woken from that
condition and not yet back in the critical section; and nobody sleeps on a closed
queue. The statement does not even need the mutex to be free. -/
theorem queue_no_lost_wakeup [DecidableEq T] [Fintype T] {cfg : QueueConfig} {capacity : ℕ}
    {s : QueuePool T P} (hcfg : cfg.waitMayFail = false) (h : QueueReachable cfg capacity s) :
    (s.shared.shutdownRequested = false →
      ((∃ u, (s.pc u).asleepOn = some .notEmpty) →
        taskQueueSize s.shared.queue ≤ wokenCount .notEmpty s.pc) ∧
      ((∃ u, (s.pc u).asleepOn = some .notFull) →
        capacity - taskQueueSize s.shared.queue ≤ wokenCount .notFull s.pc)) ∧
    (s.shared.shutdownRequested = true → ∀ u, (s.pc u).asleepOn = none) := by
  refine ⟨fun hopen => ⟨fun hasleep => ?_, fun hasleep => ?_⟩, h.inv.awake⟩
  · exact h.supplied hcfg .notEmpty hopen hasleep
  · obtain ⟨f, habs, hcap⟩ := h.inv.abstracts
    have hsupply := h.supplied hcfg .notFull hopen hasleep
    rwa [supply, taskQueueCapacity, habs.capacity, hcap] at hsupply

/-- Two consumers asleep on an empty queue of capacity one; a producer inserts and its
signal wakes one of them. -/
def wakeOneSchedule : List (Fin 3 × QueueChoice (Fin 3) ℕ) :=
  [(0, { call := some (.dequeue, true) }), (0, {}), (0, {}),
   (1, { call := some (.dequeue, true) }), (1, {}), (1, {}),
   (2, { call := some (.enqueue 7, true) }), (2, { woken := some 0 }), (2, {})]

theorem queue_no_lost_wakeup_after_signal :
    ∃ s : QueuePool (Fin 3) ℕ, QueueReachable ⟨true, false⟩ 1 s ∧
      (s.pc 1).asleepOn = some .notEmpty ∧ taskQueueSize s.shared.queue = 1 ∧
      taskQueueSize s.shared.queue ≤ wokenCount .notEmpty s.pc := by
  obtain ⟨s, hsteps, hobs⟩ := Program.exists_of_run (queueProgram ⟨true, false⟩) wakeOneSchedule
    (queueInitial ⟨some [none], 1, 0, 0, 0⟩)
    (fun s => ((s.pc 1).asleepOn, taskQueueSize s.shared.queue, s.shared.shutdownRequested))
    (v := (some .notEmpty, 1, false)) (by decide)
  simp only [Prod.mk.injEq] at hobs
  have hreach : QueueReachable ⟨true, false⟩ 1 s := ⟨_, by decide, hsteps⟩
  exact ⟨s, hreach, hobs.1, hobs.2.1,
    ((queue_no_lost_wakeup rfl hreach).1 hobs.2.2).1 ⟨1, hobs.1⟩⟩

end SchedulingEngine
