import SchedulingEngine.Queue.Wakeups

/-!
# The two signalling builds

`CONCURRENT_SCHEDULER_USE_TRANSITION_SIGNALING` makes an insertion (removal) signal
only on an empty (full) boundary or while a consumer (producer) is counted as
waiting. The waiter counters over-approximate the sleepers, since a woken thread is
counted until it is back in the critical section; hence a skipped signal would have
found nobody asleep, and the two builds take exactly the same steps through exactly
the same states.
-/

namespace SchedulingEngine

open Concurrency

variable {T P : Type}

/-- The number of threads asleep on `c`. -/
def asleepCount [Fintype T] (c : QueueCondition) (g : T → QueuePc P) : ℕ :=
  (Finset.univ.filter fun u => (g u).asleepOn = some c).card

/-- The number of threads between the increment and the decrement around a wait on `c`. -/
def aroundWaitCount [Fintype T] (c : QueueCondition) (g : T → QueuePc P) : ℕ :=
  (Finset.univ.filter fun u => (g u).waiting c = 1).card

theorem QueuePc.waiting_eq_ite (c : QueueCondition) (pc : QueuePc P) :
    pc.waiting c = if pc.waiting c = 1 then 1 else 0 := by
  cases pc <;> simp [QueuePc.waiting]

theorem QueuePc.waiting_of_asleep {c : QueueCondition} {pc : QueuePc P}
    (h : pc.asleepOn = some c) : pc.waiting c = 1 := by
  cases pc with
  | asleep w => simp [QueuePc.waiting, Option.some.inj h]
  | _ => cases h

section Counters

variable [Fintype T] {capacity : ℕ} {s : QueuePool T P}

/-- A waiter counter is the number of calls around their wait. -/
theorem QueueInv.aroundWaitCount_eq (h : QueueInv capacity s) (c : QueueCondition) :
    waiterCount c s.shared = aroundWaitCount c s.pc := by
  rw [h.waiters, aroundWaitCount, Finset.card_filter]
  exact Finset.sum_congr rfl fun u _ => QueuePc.waiting_eq_ite c (s.pc u)

theorem asleepCount_le (c : QueueCondition) (g : T → QueuePc P) :
    asleepCount c g ≤ aroundWaitCount c g :=
  Finset.card_le_card fun u hu => by
    simp only [Finset.mem_filter, Finset.mem_univ, true_and] at hu ⊢
    exact QueuePc.waiting_of_asleep hu

/-- A thread about to decrement its counter finds it positive. -/
theorem QueueInv.waiterCount_pos [DecidableEq T] (h : QueueInv capacity s) {u : T} {w : Waiter P}
    (hu : s.pc u = .woken w) : 0 < waiterCount w.condition s.shared := by
  have hle := total_waiting_pos (s := s) u w.condition
  rw [h.waiters]
  simp only [hu, QueuePc.waiting, if_true] at hle
  omega

end Counters

/-! ## The builds run the same sections -/

section Builds

/-- What an insertion does apart from its signal does not depend on the build. -/
theorem insertTask_signals (onFull : ConcurrentTaskQueueResult) (task : P)
    (q : ConcurrentTaskQueue T P) :
    ∃ q' r, ∃ sends : Bool, ∀ cfg woken, insertTask cfg onFull task woken q
      = (q', r, if sends then insertSignals cfg woken q else []) := by
  by_cases hclosed : q.shutdownRequested = true
  · exact ⟨q, .errorShutdown, false, fun cfg woken => by simp [insertTask, hclosed]⟩
  · simp only [insertTask, hclosed]
    rcases taskQueueEnqueue q.queue (some task) with ⟨result, ring⟩
    cases result with
    | ok => exact ⟨_, _, true, fun cfg woken => rfl⟩
    | _ => exact ⟨_, _, false, fun cfg woken => rfl⟩

/-- What a removal does apart from its signal does not depend on the build. -/
theorem removeTask_signals (onEmpty : ConcurrentTaskQueueResult) (q : ConcurrentTaskQueue T P) :
    ∃ q' r, ∃ sends : Bool, ∀ cfg woken, removeTask cfg onEmpty woken q
      = (q', r, if sends then removeSignals cfg woken q else []) := by
  by_cases hempty : taskQueueIsEmpty q.queue = true
  · exact ⟨q, .status onEmpty none, false, fun cfg woken => by simp [removeTask, hempty]⟩
  · simp only [removeTask, hempty]
    rcases taskQueueDequeue q.queue with ⟨result, ring, output⟩
    cases result with
    | ok => exact ⟨_, _, true, fun cfg woken => rfl⟩
    | _ => exact ⟨_, _, false, fun cfg woken => rfl⟩

variable (mayFail : Bool)

/-- Both builds send the signal of an insertion, or the transition-aware one skips it
while no consumer is counted. -/
theorem insertSignals_builds (q : ConcurrentTaskQueue T P) :
    (∀ woken, insertSignals ⟨true, mayFail⟩ woken q = insertSignals ⟨false, mayFail⟩ woken q) ∨
    (waiterCount .notEmpty q = 0 ∧ ∀ woken,
      insertSignals ⟨true, mayFail⟩ woken q = [] ∧
      insertSignals ⟨false, mayFail⟩ woken q = [.signal .notEmpty woken]) := by
  by_cases hsig : (taskQueueIsEmpty q.queue || decide (q.waitingConsumers > 0)) = true
  · exact .inl fun woken => by simp [insertSignals, hsig]
  · refine .inr ⟨?_, fun woken => ⟨?_, ?_⟩⟩
    · simp only [Bool.or_eq_true, decide_eq_true_eq, not_or, Nat.not_lt] at hsig
      exact Nat.le_zero.mp hsig.2
    · simp [insertSignals, hsig]
    · simp [insertSignals]

theorem removeSignals_builds (q : ConcurrentTaskQueue T P) :
    (∀ woken, removeSignals ⟨true, mayFail⟩ woken q = removeSignals ⟨false, mayFail⟩ woken q) ∨
    (waiterCount .notFull q = 0 ∧ ∀ woken,
      removeSignals ⟨true, mayFail⟩ woken q = [] ∧
      removeSignals ⟨false, mayFail⟩ woken q = [.signal .notFull woken]) := by
  by_cases hsig : (taskQueueIsFull q.queue || decide (q.waitingProducers > 0)) = true
  · exact .inl fun woken => by simp [removeSignals, hsig]
  · refine .inr ⟨?_, fun woken => ⟨?_, ?_⟩⟩
    · simp only [Bool.or_eq_true, decide_eq_true_eq, not_or, Nat.not_lt] at hsig
      exact Nat.le_zero.mp hsig.2
    · simp [removeSignals, hsig]
    · simp [removeSignals]

/-- `skip c q out out'`: two outcomes that differ at most in a skipped signal on `c`
while nobody is counted as waiting there. -/
inductive SkipsSignal (c : QueueCondition) (q : ConcurrentTaskQueue T P)
    (out out' : Option T → QueueSection T P) : Prop where
  | same (h : ∀ woken, out woken = out' woken)
  | skip (hzero : waiterCount c q = 0) (q' : ConcurrentTaskQueue T P) (op : QueueOperation P)
      (r : QueueReturn P) (h : ∀ woken, out woken = (q', .unlock op r, []) ∧
        out' woken = (q', .unlock op r, [.signal c woken]))

theorem insertTask_skips (onFull : ConcurrentTaskQueueResult) (task : P) (op : QueueOperation P)
    (q : ConcurrentTaskQueue T P) :
    SkipsSignal .notEmpty q
      (fun woken => let (q, result, signals) := insertTask ⟨true, mayFail⟩ onFull task woken q
        (q, .unlock op (.status result none), signals))
      (fun woken => let (q, result, signals) := insertTask ⟨false, mayFail⟩ onFull task woken q
        (q, .unlock op (.status result none), signals)) := by
  obtain ⟨q', r, sends, hrun⟩ := insertTask_signals onFull task q
  simp only [hrun]
  cases sends with
  | false => exact .same fun woken => rfl
  | true =>
    rcases insertSignals_builds mayFail q with h | ⟨hzero, h⟩
    · exact .same fun woken => by simp [h]
    · exact .skip hzero q' op (.status r none) fun woken => by simp [h]

theorem removeTask_skips (onEmpty : ConcurrentTaskQueueResult) (op : QueueOperation P)
    (q : ConcurrentTaskQueue T P) :
    SkipsSignal .notFull q
      (fun woken => let (q, r, signals) := removeTask ⟨true, mayFail⟩ onEmpty woken q
        (q, .unlock op r, signals))
      (fun woken => let (q, r, signals) := removeTask ⟨false, mayFail⟩ onEmpty woken q
        (q, .unlock op r, signals)) := by
  obtain ⟨q', r, sends, hrun⟩ := removeTask_signals onEmpty q
  simp only [hrun]
  cases sends with
  | false => exact .same fun woken => rfl
  | true =>
    rcases removeSignals_builds mayFail q with h | ⟨hzero, h⟩
    · exact .same fun woken => by simp [h]
    · exact .skip hzero q' op r fun woken => by simp [h]

/-- **Section by section, the builds differ only in skipped signals**, on a condition
that the operation never waits on, while nobody is counted as waiting there. -/
theorem runOperation_builds (op : QueueOperation P) (q : ConcurrentTaskQueue T P) :
    ∃ c, (∀ w : Waiter P, w.condition = c → op ≠ w.operation) ∧
      SkipsSignal c q (fun woken => runOperation ⟨true, mayFail⟩ woken op q)
        (fun woken => runOperation ⟨false, mayFail⟩ woken op q) := by
  cases op with
  | tryEnqueue task =>
    exact ⟨.notEmpty, by rintro (_ | _) _ ⟨⟩, insertTask_skips mayFail .errorFull task _ q⟩
  | enqueue task =>
    refine ⟨.notEmpty, by rintro (_ | _) ⟨⟩ ⟨⟩, ?_⟩
    simp only [runOperation, concurrentTaskQueueEnqueue]
    split
    · exact .same fun woken => rfl
    · exact insertTask_skips mayFail .errorSystem task _ q
  | tryDequeue =>
    exact ⟨.notFull, by rintro (_ | _) _ ⟨⟩, removeTask_skips mayFail _ _ q⟩
  | dequeue =>
    refine ⟨.notFull, by rintro (_ | _) ⟨⟩ ⟨⟩, ?_⟩
    simp only [runOperation, concurrentTaskQueueDequeue]
    split
    · exact .same fun woken => rfl
    · exact removeTask_skips mayFail .errorShutdown _ q
  | _ => exact ⟨.notFull, by rintro (_ | _) _ ⟨⟩, .same fun woken => rfl⟩

/-- The choice with another woken thread. -/
def QueueChoice.wakes (choice : QueueChoice T P) (woken : Option T) : QueueChoice T P :=
  { choice with woken := woken }

/-- A section entered by a step, seen from the state before the step. -/
theorem SkipsSignal.enter {t : T} {q q₀ : ConcurrentTaskQueue T P} {pc : QueuePc P}
    {op : QueueOperation P} {c : QueueCondition} {out out' : Option T → QueueSection T P}
    (henter : Enters t q pc op q₀) (hop : ∀ w : Waiter P, w.condition = c → op ≠ w.operation)
    (h : SkipsSignal c q₀ out out') : SkipsSignal c q out out' := by
  cases h with
  | same h => exact .same h
  | skip hzero q' op r h => exact .skip ((henter.unrelated hop).2 ▸ hzero) q' op r h

variable [DecidableEq T] {t : T}

/-- **Step by step, the builds differ only in skipped signals.** -/
theorem queueAct_builds (choice : QueueChoice T P) (q : ConcurrentTaskQueue T P)
    (pc : QueuePc P) :
    (∀ woken, queueAct ⟨true, mayFail⟩ t (choice.wakes woken) q pc
      = queueAct ⟨false, mayFail⟩ t (choice.wakes woken) q pc) ∨
    ∃ c out out', SkipsSignal c q out out' ∧ ∀ woken,
      queueAct ⟨true, mayFail⟩ t (choice.wakes woken) q pc = some (out woken) ∧
      queueAct ⟨false, mayFail⟩ t (choice.wakes woken) q pc = some (out' woken) := by
  cases pc with
  | lock op =>
    by_cases hmutex : q.mutex = none
    · obtain ⟨c, hop, h⟩ := runOperation_builds mayFail op { q with mutex := some t }
      refine .inr ⟨c, _, _, h.enter (Enters.lock op) hop, fun woken => ⟨?_, ?_⟩⟩
      · exact if_pos hmutex
      · exact if_pos hmutex
    · exact .inl fun woken => (if_neg hmutex).trans (if_neg hmutex).symm
  | woken w =>
    by_cases hgo : q.mutex = none ∧ (choice.waitSucceeds = true ∨ mayFail = true)
    · cases hok : choice.waitSucceeds with
      | false =>
        refine .inl fun woken => (if_pos hgo).trans (.trans ?_ (if_pos hgo).symm)
        simp [QueueChoice.wakes, resumeWait, hok]
      | true =>
        obtain ⟨c, hop, h⟩ :=
          runOperation_builds mayFail w.operation (endWait w { q with mutex := some t })
        refine .inr ⟨c, _, _, h.enter (Enters.resume w) hop, fun woken => ⟨?_, ?_⟩⟩
        · exact (if_pos hgo).trans (by simp [QueueChoice.wakes, resumeWait, hok])
        · exact (if_pos hgo).trans (by simp [QueueChoice.wakes, resumeWait, hok])
    · exact .inl fun woken => (if_neg hgo).trans (if_neg hgo).symm
  | _ => exact .inl fun woken => rfl

variable [Fintype T] {s s' : QueuePool T P} {capacity : ℕ}

/-- How effects move the other threads is the same in every build. -/
theorem applyEffects_builds (cfg cfg' : QueueConfig) (g : T → QueuePc P)
    (fx : List (QueueEffect T)) :
    (queueProgram cfg).applyEffects g fx = (queueProgram cfg').applyEffects g fx := by
  induction fx generalizing g with
  | nil => rfl
  | cons e es ih =>
    have hone : (queueProgram (P := P) cfg).applyEffect g e
        = (queueProgram cfg').applyEffect g e := by
      cases e <;> rfl
    simp only [Program.applyEffects, hone]
    exact Option.bind_congr fun g' _ => ih g'

theorem step_builds_of_act {choice : QueueChoice T P}
    (h : queueAct ⟨true, mayFail⟩ t choice s.shared (s.pc t)
      = queueAct ⟨false, mayFail⟩ t choice s.shared (s.pc t)) :
    (queueProgram ⟨true, mayFail⟩).step t choice s
      = (queueProgram ⟨false, mayFail⟩).step t choice s := by
  show (queueAct _ _ _ _ _).bind _ = (queueAct _ _ _ _ _).bind _
  rw [h]
  refine Option.bind_congr fun (sh, pc, fx) _ => ?_
  show ((queueProgram ⟨true, mayFail⟩).applyEffects _ fx).map _ = _
  rw [applyEffects_builds ⟨true, mayFail⟩ ⟨false, mayFail⟩]

/-- **The builds take the same steps** from a state that satisfies the invariant. -/
theorem step_builds (h : QueueInv capacity s) (choice : QueueChoice T P) :
    (∃ woken, (queueProgram ⟨true, mayFail⟩).step t (choice.wakes woken) s = some s') ↔
      ∃ woken, (queueProgram ⟨false, mayFail⟩).step t (choice.wakes woken) s = some s' := by
  rcases queueAct_builds mayFail (t := t) choice s.shared (s.pc t) with
    hact | ⟨c, out, out', hskips, hact⟩
  · simp only [fun woken => step_builds_of_act mayFail (hact woken)]
  · cases hskips with
    | same hsame =>
      simp only [fun woken => step_builds_of_act mayFail
        ((hact woken).1.trans ((congrArg some (hsame woken)).trans (hact woken).2.symm))]
    | skip hzero q' op r hout =>
      -- nobody sleeps on `c`, so the other build's signal can only be lost
      have hnone : ∀ u, (Function.update s.pc t (.unlock op r) u).asleepOn ≠ some c := by
        intro u hu
        obtain ⟨v, hv⟩ := asleep_update (by simp [QueuePc.asleepOn]) ⟨u, hu⟩
        exact h.no_sleeper hzero v hv
      have htrue : ∀ woken, (queueProgram ⟨true, mayFail⟩).step t (choice.wakes woken) s
          = some ⟨q', Function.update s.pc t (.unlock op r)⟩ := by
        intro woken
        refine Program.step_eq_some.mpr ⟨_, _, (hact woken).1.trans (congrArg some (hout woken).1),
          rfl⟩
      constructor
      · rintro ⟨woken, hstep⟩
        rw [htrue] at hstep
        refine ⟨none, Program.step_eq_some.mpr ⟨.unlock op r, [.signal c none], ?_, ?_⟩⟩
        · rw [← Option.some.inj hstep]
          exact (hact none).2.trans (congrArg some (hout none).2)
        · rw [← Option.some.inj hstep]
          exact congrArg (Option.bind · _) (if_pos hnone)
      · rintro ⟨woken, hstep⟩
        refine ⟨none, (htrue none).trans ?_⟩
        obtain ⟨pc', fx, hact', hfx⟩ := Program.step_eq_some.mp hstep
        have hsec := Option.some.inj (((hact woken).2.symm.trans hact').symm.trans
          (congrArg some (hout woken).2))
        obtain ⟨sh', g'⟩ := s'
        cases hsec
        rcases signal_cases hfx with ⟨rfl, -⟩ | ⟨v, w, hv, hw, -⟩
        · rfl
        · exact absurd (by rw [hv]; exact congrArg some hw) (hnone v)

/-- Both builds reach the same states. -/
theorem reachable_builds :
    QueueReachable ⟨true, mayFail⟩ capacity s ↔ QueueReachable ⟨false, mayFail⟩ capacity s := by
  constructor
  · rintro ⟨ring, hinit, hsteps⟩
    refine ⟨ring, hinit, ?_⟩
    refine hsteps.invariant (I := fun s => (queueProgram ⟨false, mayFail⟩).Steps _ s) .refl ?_
    rintro u u' hu hfalse ⟨t, choice, hstep⟩
    have hinv := QueueReachable.inv ⟨ring, hinit, hu⟩
    obtain ⟨woken, hstep'⟩ := (step_builds mayFail hinv choice).mp ⟨choice.woken, hstep⟩
    exact hfalse.tail ⟨t, _, hstep'⟩
  · rintro ⟨ring, hinit, hsteps⟩
    refine ⟨ring, hinit, ?_⟩
    refine hsteps.invariant (I := fun s => (queueProgram ⟨true, mayFail⟩).Steps _ s) .refl ?_
    rintro u u' hu htrue ⟨t, choice, hstep⟩
    have hinv := QueueReachable.inv ⟨ring, hinit, hu⟩
    obtain ⟨woken, hstep'⟩ := (step_builds mayFail hinv choice).mpr ⟨choice.woken, hstep⟩
    exact htrue.tail ⟨t, _, hstep'⟩

/-- A section that inserts without a signal, or removes without one, left its
condition without sleepers. -/
theorem QueueInv.silent_section (h : QueueInv capacity s) {cfg : QueueConfig}
    {choice : QueueChoice T P} {out : QueueSection T P}
    (hact : queueAct cfg t choice s.shared (s.pc t) = some out) :
    (out.1.inserted ≠ s.shared.inserted → (∀ woken, .signal .notEmpty woken ∉ out.2.2) →
      ∀ u, (s.pc u).asleepOn ≠ some .notEmpty) ∧
    (out.1.removed ≠ s.shared.removed → (∀ woken, .signal .notFull woken ∉ out.2.2) →
      ∀ u, (s.pc u).asleepOn ≠ some .notFull) := by
  obtain ⟨f, habs, -⟩ := h.abstracts
  have hspec := queueAct_spec habs hact
  generalize s.pc t = pc at hspec
  cases hspec with
  | enter hmutex henter hsec =>
    rename_i op q₀
    have hinserted : q₀.inserted = s.shared.inserted := by cases henter <;> simp
    have hremoved : q₀.removed = s.shared.removed := by cases henter <;> simp
    cases hsec with
    | insert task f' ring hop hinsert habs' =>
      refine ⟨fun _ hsilent => ?_, fun hne => absurd hremoved hne⟩
      obtain ⟨-, hwaiters⟩ := henter.unrelated (c := .notEmpty) (by
        rintro (_ | _) ⟨⟩ rfl
        rcases hop with h | h <;> cases h)
      rcases insertSignals_cases cfg choice.woken q₀ with hsig | ⟨-, hzero⟩
      · exact absurd (by simp [hsig]) (hsilent choice.woken)
      · exact h.no_sleeper (hwaiters ▸ hzero)
    | remove task f' ring hop hremove habs' =>
      refine ⟨fun hne => absurd hinserted hne, fun _ hsilent => ?_⟩
      obtain ⟨-, hwaiters⟩ := henter.unrelated (c := .notFull) (by
        rintro (_ | _) ⟨⟩ rfl
        rcases hop with h | h <;> cases h)
      rcases removeSignals_cases cfg choice.woken q₀ with hsig | ⟨-, hzero⟩
      · exact absurd (by simp [hsig]) (hsilent choice.woken)
      · exact h.no_sleeper (hwaiters ▸ hzero)
    | wait w => simp [hinserted, hremoved]
    | close => simp [hinserted, hremoved]
    | observe r => simp [hinserted, hremoved]
  | _ => simp

end Builds

/-! ## The equivalence -/

/-- **Transition-aware signalling is equivalent to unconditional signalling**, for any
number of threads, whether or not condition waits may fail:

- in every reachable state of either build, a waiter counter is the number of calls
  around their wait, at least the number of sleepers, and positive whenever a woken
  call is about to decrement it;
- an insertion (removal) for which the transition-aware build sends no signal finds
  nobody asleep on `not_empty` (`not_full`);
- both builds reach the same states, and from each of them every thread can take the
  same steps to the same states, up to the choice of the thread that a signal wakes. -/
theorem transition_signaling_equivalent [DecidableEq T] [Fintype T] (mayFail : Bool)
    (capacity : ℕ) :
    (∀ (signaling : Bool) (s : QueuePool T P), QueueReachable ⟨signaling, mayFail⟩ capacity s →
      ∀ c, asleepCount c s.pc ≤ waiterCount c s.shared ∧
        waiterCount c s.shared = aroundWaitCount c s.pc ∧
        ∀ u w, s.pc u = .woken w → w.condition = c → 0 < waiterCount c s.shared) ∧
    (∀ s : QueuePool T P, QueueReachable ⟨true, mayFail⟩ capacity s →
      ∀ t choice q pc fx,
        queueAct ⟨true, mayFail⟩ t choice s.shared (s.pc t) = some (q, pc, fx) →
        (q.inserted ≠ s.shared.inserted → (∀ woken, .signal .notEmpty woken ∉ fx) →
          ∀ u, (s.pc u).asleepOn ≠ some .notEmpty) ∧
        (q.removed ≠ s.shared.removed → (∀ woken, .signal .notFull woken ∉ fx) →
          ∀ u, (s.pc u).asleepOn ≠ some .notFull)) ∧
    (∀ s : QueuePool T P,
      QueueReachable ⟨true, mayFail⟩ capacity s ↔ QueueReachable ⟨false, mayFail⟩ capacity s) ∧
    ∀ s s' : QueuePool T P, QueueReachable ⟨true, mayFail⟩ capacity s →
      ∀ (t : T) (choice : QueueChoice T P),
      (∃ woken, (queueProgram ⟨true, mayFail⟩).step t (choice.wakes woken) s = some s') ↔
        ∃ woken, (queueProgram ⟨false, mayFail⟩).step t (choice.wakes woken) s = some s' := by
  refine ⟨fun signaling s hs c => ?_, fun s hs t choice q pc fx hact => ?_, fun s => ?_,
    fun s s' hs t choice => ?_⟩
  · refine ⟨?_, hs.inv.aroundWaitCount_eq c, ?_⟩
    · rw [hs.inv.aroundWaitCount_eq c]
      exact asleepCount_le c s.pc
    · rintro u w hu rfl
      exact hs.inv.waiterCount_pos hu
  · exact hs.inv.silent_section hact
  · exact reachable_builds mayFail
  · exact step_builds mayFail hs.inv choice

/-- After the signal of `wakeOneSchedule`, the woken consumer and the sleeping one are
both still counted. -/
theorem transition_signaling_equivalent_after_signal :
    ∃ s : QueuePool (Fin 3) ℕ, QueueReachable ⟨true, true⟩ 1 s ∧
      s.pc 0 = .woken .consumer ∧ s.shared.waitingConsumers = 2 ∧
      asleepCount .notEmpty s.pc ≤ 2 ∧ QueueReachable ⟨false, true⟩ 1 s := by
  obtain ⟨s, hsteps, hobs⟩ := Program.exists_of_run (queueProgram ⟨true, true⟩) wakeOneSchedule
    (queueInitial ⟨some [none], 1, 0, 0, 0⟩) (fun s => (s.pc 0, s.shared.waitingConsumers))
    (v := (.woken .consumer, 2)) (by decide)
  simp only [Prod.mk.injEq] at hobs
  have hreach : QueueReachable ⟨true, true⟩ 1 s := ⟨_, by decide, hsteps⟩
  obtain ⟨hcounters, -, hbuilds, -⟩ := transition_signaling_equivalent (T := Fin 3) (P := ℕ) true 1
  have hle := (hcounters true s hreach .notEmpty).1
  rw [waiterCount, hobs.2] at hle
  exact ⟨s, hreach, hobs.1, hobs.2, hle, (hbuilds s).mp hreach⟩

end SchedulingEngine
