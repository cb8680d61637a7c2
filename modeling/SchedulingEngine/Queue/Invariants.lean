import SchedulingEngine.Concurrency.Embedding
import SchedulingEngine.Queue.Sections

/-!
# Invariants of the synchronized queue

`QueueStepSpec` lists what a thread inside the queue can do in one step, and
`QueueInv` is the invariant of every reachable state, for both signalling builds
and whether or not condition waits fail:

- the mutex field names the thread inside the critical section;
- the queue abstracts a bounded closable FIFO of the configured capacity;
- `waiting_producers` and `waiting_consumers` count the calls between the increment
  and the decrement around the wait, so the decrement never wraps;
- a thread about to wait still sees its loop condition;
- nobody sleeps on a closed queue.
-/

namespace SchedulingEngine

open Concurrency

variable {T P : Type}

/-- Entering the critical section of `op` with the queue `q₀` at hand. -/
inductive Enters (t : T) (q : ConcurrentTaskQueue T P) :
    QueuePc P → QueueOperation P → ConcurrentTaskQueue T P → Prop where
  | lock (op : QueueOperation P) : Enters t q (.lock op) op { q with mutex := some t }
  | resume (w : Waiter P) :
      Enters t q (.woken w) w.operation (endWait w { q with mutex := some t })

/-- The steps of a thread inside a queue that abstracts `f`. -/
inductive QueueStepSpec (cfg : QueueConfig) (t : T) (choice : QueueChoice T P)
    (q : ConcurrentTaskQueue T P) (f : ClosableFifo P) : QueuePc P → QueueSection T P → Prop where
  | call (op : QueueOperation P) : QueueStepSpec cfg t choice q f .idle (q, .lock op, [])
  | callInvalid (op : QueueOperation P) :
      QueueStepSpec cfg t choice q f .idle (q, .returned op op.invalidArgument, [])
  | enter {pc : QueuePc P} {op : QueueOperation P} {q₀ : ConcurrentTaskQueue T P}
      {out : QueueSection T P} (hmutex : q.mutex = none) (henter : Enters t q pc op q₀)
      (hspec : SectionSpec cfg choice.woken q₀ f op out) :
      QueueStepSpec cfg t choice q f pc out
  | waitFailed (w : Waiter P) (hfail : cfg.waitMayFail = true) (hmutex : q.mutex = none) :
      QueueStepSpec cfg t choice q f (.woken w)
        (endWait w { q with mutex := some t }, .unlock w.operation (.status .errorSystem none), [])
  | sleep (w : Waiter P) (hmutex : q.mutex = some t) :
      QueueStepSpec cfg t choice q f (.wait w) ({ q with mutex := none }, .asleep w, [])
  | spurious (w : Waiter P) : QueueStepSpec cfg t choice q f (.asleep w) (q, .woken w, [])
  | unlock (op : QueueOperation P) (r : QueueReturn P) (hmutex : q.mutex = some t) :
      QueueStepSpec cfg t choice q f (.unlock op r) ({ q with mutex := none }, .returned op r, [])
  | leave (op : QueueOperation P) (r : QueueReturn P) :
      QueueStepSpec cfg t choice q f (.returned op r) (q, .idle, [])

section Fields

variable (w : Waiter P) (q : ConcurrentTaskQueue T P)

@[simp] theorem endWait_mutex : (endWait w q).mutex = q.mutex := by cases w <;> rfl

@[simp] theorem endWait_shutdownRequested :
    (endWait w q).shutdownRequested = q.shutdownRequested := by cases w <;> rfl

@[simp] theorem endWait_queue : (endWait w q).queue = q.queue := by cases w <;> rfl

@[simp] theorem endWait_inserted : (endWait w q).inserted = q.inserted := by cases w <;> rfl

@[simp] theorem endWait_removed : (endWait w q).removed = q.removed := by cases w <;> rfl

@[simp] theorem beginWait_mutex : (beginWait w q).mutex = q.mutex := by cases w <;> rfl

@[simp] theorem beginWait_shutdownRequested :
    (beginWait w q).shutdownRequested = q.shutdownRequested := by cases w <;> rfl

@[simp] theorem beginWait_queue : (beginWait w q).queue = q.queue := by cases w <;> rfl

@[simp] theorem beginWait_inserted : (beginWait w q).inserted = q.inserted := by cases w <;> rfl

@[simp] theorem beginWait_removed : (beginWait w q).removed = q.removed := by cases w <;> rfl

variable {w q}

/-- Waiting changes only the counts of waiters, of which the fifo has none. -/
theorem Abstracts.endWait {f : ClosableFifo P} (h : Abstracts q f) :
    Abstracts (endWait w q) f :=
  h.congr (by cases w <;> rfl) (by cases w <;> rfl) (by cases w <;> rfl) (by cases w <;> rfl)
    (by cases w <;> rfl)

theorem Abstracts.beginWait {f : ClosableFifo P} (h : Abstracts q f) :
    Abstracts (beginWait w q) f :=
  h.congr (by cases w <;> rfl) (by cases w <;> rfl) (by cases w <;> rfl) (by cases w <;> rfl)
    (by cases w <;> rfl)

theorem Abstracts.setMutex {f : ClosableFifo P} (h : Abstracts q f) (m : Option T) :
    Abstracts { q with mutex := m } f :=
  h.congr rfl rfl rfl rfl rfl

end Fields

variable {cfg : QueueConfig} {t : T} {choice : QueueChoice T P} {q : ConcurrentTaskQueue T P}
  {f : ClosableFifo P} {pc : QueuePc P} {out : QueueSection T P}

/-- So whoever enters a section finds the fifo it left. -/
theorem Enters.abstracts {op : QueueOperation P} {q₀ : ConcurrentTaskQueue T P}
    (henter : Enters t q pc op q₀) (h : Abstracts q f) : Abstracts q₀ f := by
  cases henter with
  | lock op => exact h.setMutex _
  | resume w => exact (h.setMutex _).endWait

/-- Every step of a thread in the queue is listed. -/
theorem queueAct_spec [DecidableEq T] (h : Abstracts q f)
    (hact : queueAct cfg t choice q pc = some out) :
    QueueStepSpec cfg t choice q f pc out := by
  cases pc with
  | idle =>
    obtain ⟨⟨op, nonNull⟩, -, rfl⟩ := Option.map_eq_some_iff.mp hact
    cases nonNull with
    | true => exact .call op
    | false => exact .callInvalid op
  -- the body of an operation runs in one step, from the lock to the unlock or the wait
  | lock op =>
    simp only [queueAct, Option.ite_none_right_eq_some, Option.some.injEq] at hact
    obtain ⟨hmutex, rfl⟩ := hact
    exact .enter hmutex (.lock op) (runOperation_spec cfg choice.woken (h.setMutex _) op)
  | wait w =>
    simp only [queueAct, Option.ite_none_right_eq_some, Option.some.injEq] at hact
    obtain ⟨hmutex, rfl⟩ := hact
    exact .sleep w hmutex
  | asleep w =>
    cases hact
    exact .spurious w
  | woken w =>
    simp only [queueAct, Option.ite_none_right_eq_some, Option.some.injEq] at hact
    obtain ⟨⟨hmutex, hwait⟩, rfl⟩ := hact
    unfold resumeWait
    split
    · exact .enter hmutex (.resume w)
        (runOperation_spec cfg choice.woken (h.setMutex _).endWait w.operation)
    · rename_i hfailed
      exact .waitFailed w (hwait.resolve_left hfailed) hmutex
  | unlock op r =>
    simp only [queueAct, Option.ite_none_right_eq_some, Option.some.injEq] at hact
    obtain ⟨hmutex, rfl⟩ := hact
    exact .unlock op r hmutex
  | returned op r =>
    cases hact
    exact .leave op r

/-- The queue sends signals and broadcasts, nothing else. -/
theorem QueueStepSpec.inner (h : QueueStepSpec cfg t choice q f pc out) :
    ∀ e ∈ out.2.2, e.Inner := by
  cases h with
  | enter hmutex henter hsec =>
    cases hsec with
    | insert task f' ring hop hinsert habs =>
      intro e he
      dsimp only [insertSignals] at he
      split at he
      · rw [List.mem_singleton.mp he]
        trivial
      · cases he
    | remove task f' ring hop hremove habs =>
      intro e he
      dsimp only [removeSignals] at he
      split at he
      · rw [List.mem_singleton.mp he]
        trivial
      · cases he
    | close => simp [Effect.Inner]
    | _ => simp
  | _ => simp

/-! ## Weights of program counters -/

/-- Inside the critical section. -/
def QueuePc.holdsMutex : QueuePc P → Bool
  | .wait _ | .unlock _ _ => true
  | _ => false

/-- Between the increment and the decrement around a wait of kind `c`. -/
def QueuePc.waiting (c : QueueCondition) : QueuePc P → ℕ
  | .wait w | .asleep w | .woken w => if w.condition = c then 1 else 0
  | _ => 0

/-- A function of threads that sees no wakeup is kept by a wakeup. -/
theorem queueProgram_blind [DecidableEq T] {M : Type*} {g : QueuePc P → M}
    (hg : ∀ w, g (.woken w) = g (.asleep w)) : (queueProgram (T := T) cfg).Blind g where
  wake a c h := by
    cases a with
    | asleep w => exact hg w
    | _ => cases h
  start a h := by cases h

/-- The loop condition of a waiting call. -/
def Waiter.loopCondition (q : ConcurrentTaskQueue T P) : Waiter P → Bool
  | .producer _ => !q.shutdownRequested && taskQueueIsFull q.queue
  | .consumer => !q.shutdownRequested && taskQueueIsEmpty q.queue

/-- The waiter counter of a condition. -/
def waiterCount (c : QueueCondition) (q : ConcurrentTaskQueue T P) : ℕ :=
  match c with
  | .notEmpty => q.waitingConsumers
  | .notFull => q.waitingProducers

section Sections

variable {woken : Option T} {op : QueueOperation P} {q₀ : ConcurrentTaskQueue T P}

/-- A section ends with the mutex held: the unlock is a step of its own. -/
theorem SectionSpec.mutex (h : SectionSpec cfg woken q₀ f op out) :
    out.1.mutex = q₀.mutex ∧ out.2.1.holdsMutex = true := by
  cases h <;> simp [QueuePc.holdsMutex]

/-- A section counts one waiter more on the condition that it ends up waiting for. -/
theorem SectionSpec.waiters (h : SectionSpec cfg woken q₀ f op out) (c : QueueCondition) :
    waiterCount c out.1 = waiterCount c q₀ + out.2.1.waiting c := by
  cases h with
  | wait w => cases w <;> cases c <;> rfl
  | _ => cases c <;> rfl

/-- A section is entered by taking the mutex. -/
theorem Enters.mutex (h : Enters t q pc op q₀) : q₀.mutex = some t ∧ pc.holdsMutex = false := by
  cases h <;> simp [QueuePc.holdsMutex]

/-- Whoever wakes was counted on its own condition. -/
theorem endWait_waiters {w : Waiter P} {c : QueueCondition}
    (hpos : (QueuePc.woken w).waiting c ≤ waiterCount c q) :
    waiterCount c (endWait w q) + (QueuePc.woken w).waiting c = waiterCount c q := by
  cases w <;> cases c <;>
    simp [QueuePc.waiting, Waiter.condition, waiterCount, endWait,
      sizeDecrement] at hpos ⊢ <;> split <;> omega

/-- Entering a section takes the waiter off its condition. -/
theorem Enters.waiters (h : Enters t q pc op q₀) {c : QueueCondition}
    (hpos : pc.waiting c ≤ waiterCount c q) :
    waiterCount c q₀ + pc.waiting c = waiterCount c q := by
  cases h with
  | lock op => cases c <;> rfl
  | resume w =>
    have h := endWait_waiters (q := { q with mutex := some t }) (w := w) (c := c)
      (by cases c <;> exact hpos)
    cases c <;> exact h

/-- A section turns one fifo into another of the same capacity. -/
theorem SectionSpec.abstracts (h : SectionSpec cfg woken q₀ f op out) (habs : Abstracts q₀ f) :
    ∃ f', Abstracts out.1 f' ∧ f'.capacity = f.capacity := by
  cases h with
  | wait w => exact ⟨f, habs.beginWait, rfl⟩
  | insert task f' ring hop hinsert habs' =>
    exact ⟨f', habs', (ClosableFifo.insert_eq_some.mp hinsert).2.2.2.1⟩
  | remove task f' ring hop hremove habs' =>
    exact ⟨f', habs', (ClosableFifo.remove_eq_some.mp hremove).2.1⟩
  | close => exact ⟨f.close, ⟨habs.ring, habs.capacity, rfl, habs.highWater, habs.history⟩, rfl⟩
  | observe r => exact ⟨f, habs, rfl⟩

end Sections

/-! ## One step -/

section Step

/-- A step of the queue takes the mutex, keeps it or gives it back. -/
theorem QueueStepSpec.lockMove (h : QueueStepSpec cfg t choice q f pc out) :
    Program.LockMove ConcurrentTaskQueue.mutex QueuePc.holdsMutex t q out.1 pc out.2.1 := by
  cases h with
  | call op => exact .inl ⟨rfl, rfl⟩
  | callInvalid op => exact .inl ⟨rfl, rfl⟩
  | enter hmutex henter hspec =>
    exact .inr (.inl ⟨hmutex, hspec.mutex.1.trans henter.mutex.1, hspec.mutex.2⟩)
  | waitFailed w hfail hmutex => exact .inr (.inl ⟨hmutex, by simp, rfl⟩)
  | sleep w hmutex => exact .inr (.inr ⟨hmutex, rfl, rfl⟩)
  | spurious w => exact .inl ⟨rfl, rfl⟩
  | unlock op r hmutex => exact .inr (.inr ⟨hmutex, rfl, rfl⟩)
  | leave op r => exact .inl ⟨rfl, rfl⟩

/-- A step changes the count of a condition by what the thread itself does on it. -/
theorem QueueStepSpec.waiters (h : QueueStepSpec cfg t choice q f pc out) {c : QueueCondition}
    (hpos : pc.waiting c ≤ waiterCount c q) :
    waiterCount c out.1 + pc.waiting c = waiterCount c q + out.2.1.waiting c := by
  cases h with
  | enter hmutex henter hspec =>
    have h₁ := hspec.waiters c
    have h₂ := henter.waiters hpos
    omega
  | waitFailed w hfail hmutex =>
    have h := (Enters.resume (t := t) (q := q) w).waiters hpos
    simpa [QueuePc.waiting] using h
  | sleep w hmutex => cases c <;> rfl
  | spurious w => rfl
  | _ => cases c <;> rfl

/-- While another thread holds the mutex, a step leaves the queue alone. -/
theorem QueueStepSpec.frame (h : QueueStepSpec cfg t choice q f pc out) {u : T} (hu : u ≠ t)
    (howner : q.mutex = some u) : out.1 = q := by
  cases h with
  | enter hmutex henter hspec => rw [hmutex] at howner; cases howner
  | waitFailed w hfail hmutex => rw [hmutex] at howner; cases howner
  | sleep w hmutex => rw [hmutex] at howner; cases howner; exact absurd rfl hu
  | unlock op r hmutex => rw [hmutex] at howner; cases howner; exact absurd rfl hu
  | _ => rfl

/-- A thread that goes to wait has just seen its loop condition. -/
theorem QueueStepSpec.loopCondition (h : QueueStepSpec cfg t choice q f pc out)
    (habs : Abstracts q f) {w : Waiter P} (hwait : out.2.1 = .wait w) :
    w.loopCondition out.1 = true := by
  cases h with
  | enter hmutex henter hspec =>
    have habs₀ := henter.abstracts habs
    cases hspec with
    | wait w' hopen hblocked =>
      cases hwait
      cases w with
      | producer task =>
        simpa [Waiter.loopCondition, habs₀.closed, hopen, habs₀.isFull_eq, Waiter.Blocked]
          using hblocked
      | consumer =>
        simpa [Waiter.loopCondition, habs₀.closed, hopen, habs₀.isEmpty_eq, Waiter.Blocked]
          using hblocked
    | _ => cases hwait
  | _ => cases hwait

/-- One step keeps a fifo of this capacity. -/
theorem QueueStepSpec.abstracts (h : QueueStepSpec cfg t choice q f pc out)
    (habs : Abstracts q f) : ∃ f', Abstracts out.1 f' ∧ f'.capacity = f.capacity := by
  cases h with
  | enter hmutex henter hspec => exact hspec.abstracts (henter.abstracts habs)
  | waitFailed w hfail hmutex => exact ⟨f, (habs.setMutex _).endWait, rfl⟩
  | sleep w hmutex => exact ⟨f, habs.setMutex _, rfl⟩
  | unlock op r hmutex => exact ⟨f, habs.setMutex _, rfl⟩
  | _ => exact ⟨f, habs, rfl⟩

/-- A section that leaves the queue closed has just closed it, or found it closed. -/
theorem SectionSpec.closed {woken : Option T} {op : QueueOperation P}
    {q₀ : ConcurrentTaskQueue T P} (h : SectionSpec cfg woken q₀ f op out)
    (hclosed : out.1.shutdownRequested = true) :
    q₀.shutdownRequested = true ∨ out.2.2 = [.broadcast .notEmpty, .broadcast .notFull] := by
  cases h with
  | close => exact .inr rfl
  | wait w hopen hblocked => exact .inl (by simpa using hclosed)
  | _ => exact .inl hclosed

/-- A step that ends with the queue closed either closed it, waking everybody, or
found it closed and does not put its thread to sleep. -/
theorem QueueStepSpec.closed (h : QueueStepSpec cfg t choice q f pc out)
    (hwait : ∀ w, pc = .wait w → w.loopCondition q = true)
    (hclosed : out.1.shutdownRequested = true) :
    out.2.2 = [.broadcast .notEmpty, .broadcast .notFull] ∨
      (q.shutdownRequested = true ∧ out.2.1.asleepOn = none) := by
  cases h with
  | enter hmutex henter hspec =>
    have hholds := hspec.mutex.2
    rcases hspec.closed hclosed with h₀ | hall
    · refine .inr ⟨by cases henter <;> simpa using h₀, ?_⟩
      cases hpc : out.2.1 with
      | asleep w => rw [hpc] at hholds; cases hholds
      | _ => rfl
    · exact .inl hall
  | waitFailed w hfail hmutex => exact .inr ⟨by simpa using hclosed, rfl⟩
  | sleep w hmutex =>
    have hloop := hwait w rfl
    simp only at hclosed
    cases w <;> simp [Waiter.loopCondition, hclosed] at hloop
  | _ => exact .inr ⟨hclosed, rfl⟩

end Step

/-! ## The invariant -/

section Invariant

variable [Fintype T] {capacity : ℕ}

/-- What holds in every reachable state of a queue of the given capacity. -/
structure QueueInv (capacity : ℕ) (s : QueuePool T P) : Prop where
  owned : Program.Owned ConcurrentTaskQueue.mutex QueuePc.holdsMutex s
  abstracts : ∃ f, Abstracts s.shared f ∧ f.capacity = capacity
  waiters : ∀ c, waiterCount c s.shared = Program.total (QueuePc.waiting c) s.pc
  loopCondition : ∀ u w, s.pc u = .wait w → w.loopCondition s.shared = true
  awake : s.shared.shutdownRequested = true → ∀ u, (s.pc u).asleepOn = none

/-- The invariant holds once the ring has been allocated, with nobody inside. -/
theorem queueInv_initial {ring : TaskQueue P}
    (h : taskQueueInit capacity true = (.ok, some ring)) :
    QueueInv capacity (queueInitial ring : QueuePool T P) := by
  obtain ⟨hring, hcap⟩ := taskQueueInit_represents h
  refine ⟨?_, ⟨ClosableFifo.empty capacity, ⟨hring, hcap, rfl, rfl, rfl⟩, rfl⟩, ?_, ?_, ?_⟩
  · intro u
    simp [queueInitial, concurrentTaskQueueInit, QueuePc.holdsMutex]
  · intro c
    cases c <;> simp [queueInitial, concurrentTaskQueueInit, waiterCount,
      Program.total, QueuePc.waiting]
  · rintro u w ⟨⟩
  · rintro ⟨⟩

variable [DecidableEq T] {s s' : QueuePool T P}

/-- Closing wakes every sleeper. -/
theorem broadcast_all_awake {g g' : T → QueuePc P}
    (h : (queueProgram cfg).applyEffects g [.broadcast .notEmpty, .broadcast .notFull] = some g')
    (u : T) : (g' u).asleepOn = none := by
  simp only [Program.applyEffects, Program.applyEffect, Option.bind_some, Option.some.injEq] at h
  subst h
  cases hu : g u with
  | asleep w =>
    cases w <;> simp [queueProgram, hu, QueuePc.asleepOn, QueuePc.wake, Waiter.condition]
  | _ => simp [queueProgram, hu, QueuePc.asleepOn]

/-- One thread is counted in the total. -/
theorem total_waiting_pos (u : T) (c : QueueCondition) :
    (s.pc u).waiting c ≤ Program.total (QueuePc.waiting c) s.pc := by
  rw [Program.total_eq_add _ _ u]
  exact Nat.le_add_right _ _

/-- **One step preserves the queue invariant.** -/
theorem queueInv_step (h : QueueInv capacity s)
    (hstep : (queueProgram cfg).step t choice s = some s') : QueueInv capacity s' := by
  obtain ⟨pc', fx, hact, hfx⟩ := Program.step_eq_some.mp hstep
  obtain ⟨f, habs, hcap⟩ := h.abstracts
  have hspec : QueueStepSpec cfg t choice s.shared f (s.pc t) (s'.shared, pc', fx) :=
    queueAct_spec habs hact
  refine ⟨?_, ?_, ?_, ?_, ?_⟩
  · exact Program.owner_step (queueProgram_blind fun w => rfl) hfx hspec.lockMove h.owned
  · obtain ⟨f', habs', hcap'⟩ := hspec.abstracts habs
    exact ⟨f', habs', hcap'.trans hcap⟩
  · intro c
    have hpos : (s.pc t).waiting c ≤ waiterCount c s.shared := by
      rw [h.waiters c]
      exact total_waiting_pos t c
    exact Program.sum_step (waiterCount c) (queueProgram_blind fun w => rfl) hfx
      (hspec.waiters hpos) (h.waiters c)
  · refine Program.forall_step (A := fun _ sh pc => ∀ w, pc = .wait w → w.loopCondition sh = true)
      ?_ hfx ?_ ?_ h.loopCondition
    · intro u sh
      exact queueProgram_blind fun w => by simp
    · exact fun w hw => hspec.loopCondition habs hw
    · intro u hu hloop w hw
      -- a thread that is about to wait still holds the mutex, so nobody else has moved
      have howner : s.shared.mutex = some u := (h.owned u).mpr (by simp [hw, QueuePc.holdsMutex])
      have hsame : s'.shared = s.shared := hspec.frame hu howner
      rw [hsame]
      exact hloop w hw
  · intro hclosed u
    rcases hspec.closed (h.loopCondition t) hclosed with hall | ⟨hclosed₀, hself⟩
    · rw [show fx = _ from hall] at hfx
      exact broadcast_all_awake hfx u
    · -- nobody was asleep before, the acting thread is not, and effects put nobody to sleep
      have hbefore : (Function.update s.pc t pc' u).asleepOn = none := by
        by_cases hu : u = t
        · subst hu
          simpa using hself
        · simpa [hu] using h.awake hclosed₀ u
      rw [Program.applyEffects_fixed hfx hbefore rfl]
      exact hbefore

/-- **The queue invariant holds in every reachable state.** -/
theorem QueueReachable.inv (h : QueueReachable cfg capacity s) : QueueInv capacity s := by
  obtain ⟨ring, hinit, hsteps⟩ := h
  refine hsteps.invariant (queueInv_initial hinit) ?_
  rintro u u' - hu ⟨t, choice, hstep⟩
  exact queueInv_step hu hstep

end Invariant

end SchedulingEngine
