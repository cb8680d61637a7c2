import SchedulingEngine.Queue.Invariants

/-!
# The queue refines a sequential FIFO

`FifoMachine` is what the synchronized queue is for: one bounded closable FIFO and,
for each thread, the call it is in. A call is answered by one atomic step of the
FIFO (`fifoStep`), the *commit*, at some moment between its start and its return.

With condition waits that do not fail, every step of the queue program is a step of
this machine by the same thread, or invisible; the commit is taken in the step that
holds the mutex from then on. Spurious wakeups, waits and lost races for an item are
all invisible.
-/

namespace SchedulingEngine

open Concurrency

variable {T P : Type}

/-- Where a thread stands with its call. -/
inductive CallPhase (P : Type) where
  | idle
  | called (op : QueueOperation P)
  | answered (op : QueueOperation P) (r : QueueReturn P)

/-- One FIFO and the calls on it. -/
structure FifoMachine (T P : Type) where
  fifo : ClosableFifo P
  phase : T → CallPhase P

inductive FifoEvent (P : Type) where
  | call (op : QueueOperation P)
  | reject (op : QueueOperation P)
  | commit (op : QueueOperation P) (r : QueueReturn P)
  | leave (op : QueueOperation P) (r : QueueReturn P)

section Machine

variable [DecidableEq T]

/-- The thread moves to another phase. -/
def FifoMachine.enter (m : FifoMachine T P) (t : T) (phase : CallPhase P) : FifoMachine T P :=
  { m with phase := Function.update m.phase t phase }

/-- The steps of the machine. A call with a `NULL` argument is answered without
touching the FIFO. -/
inductive FifoMachine.Step (t : T) : FifoEvent P → FifoMachine T P → FifoMachine T P → Prop where
  | call {m : FifoMachine T P} {op : QueueOperation P} (hidle : m.phase t = .idle) :
      FifoMachine.Step t (.call op) m (m.enter t (.called op))
  | reject {m : FifoMachine T P} {op : QueueOperation P} (hidle : m.phase t = .idle) :
      FifoMachine.Step t (.reject op) m (m.enter t (.answered op op.invalidArgument))
  | commit {m : FifoMachine T P} {op : QueueOperation P} {r : QueueReturn P} {f : ClosableFifo P}
      (hcalled : m.phase t = .called op) (hstep : fifoStep op m.fifo = some (r, f)) :
      FifoMachine.Step t (.commit op r) m { m.enter t (.answered op r) with fifo := f }
  | leave {m : FifoMachine T P} {op : QueueOperation P} {r : QueueReturn P}
      (hanswered : m.phase t = .answered op r) :
      FifoMachine.Step t (.leave op r) m (m.enter t .idle)

/-- The states of the machine with an open and empty FIFO at the start. -/
def FifoReachable (capacity : ℕ) (m : FifoMachine T P) : Prop :=
  Relation.ReflTransGen (fun m m' => ∃ t e, FifoMachine.Step t e m m')
    ⟨ClosableFifo.empty capacity, fun _ => .idle⟩ m

end Machine

/-! ## Laws of the abstract step -/

/-- What one abstract step may do. -/
structure FifoLaws (op : QueueOperation P) (f : ClosableFifo P) (r : QueueReturn P)
    (f' : ClosableFifo P) : Prop where
  insert : ∀ task output, op = .enqueue task ∨ op = .tryEnqueue task → r = .status .ok output →
    f.closed = false ∧ f.contents.length < f.capacity ∧ f'.contents = f.contents ++ [task]
  remove : ∀ output, op = .dequeue ∨ op = .tryDequeue → r = .status .ok output →
    ∃ task, output = some task ∧ f.contents = task :: f'.contents
  peek : ∀ output, op = .tryPeek → r = .status .ok output →
    ∃ task, output = some task ∧ f.contents.head? = some task ∧ f' = f
  shutdown : ∀ output, op = .dequeue ∨ op = .tryDequeue ∨ op = .tryPeek →
    r = .status .errorShutdown output → f.closed = true ∧ f.contents = []
  refused : ∀ result output, r = .status result output → result ≠ .ok → f' = f
  capacity : f'.capacity = f.capacity
  closed : f.closed = true → f'.closed = true
  highWater : f'.highWater = max f.highWater f'.contents.length

/-- A step that leaves the FIFO alone and does not report success obeys the laws. -/
theorem FifoLaws.unchanged {op : QueueOperation P} {f : ClosableFifo P} {r : QueueReturn P}
    (hr : ∀ output, r ≠ .status .ok output)
    (hshutdown : ∀ output, op = .dequeue ∨ op = .tryDequeue ∨ op = .tryPeek →
      r = .status .errorShutdown output → f.closed = true ∧ f.contents = []) :
    FifoLaws op f r f where
  insert _ output _ h := absurd h (hr output)
  remove output _ h := absurd h (hr output)
  peek output _ h := absurd h (hr output)
  shutdown := hshutdown
  refused _ _ _ _ := rfl
  capacity := rfl
  closed h := h
  highWater := (Nat.max_eq_left f.length_le).symm

theorem FifoLaws.inserted {op : QueueOperation P} {f f' : ClosableFifo P} {task : P}
    (hop : op = .enqueue task ∨ op = .tryEnqueue task) (h : f.insert task = some f') :
    FifoLaws op f (.status .ok none) f' := by
  obtain ⟨hopen, hroom, hcontents, hcap, hclosed, hhigh⟩ := ClosableFifo.insert_eq_some.mp h
  refine ⟨?_, ?_, ?_, ?_, ?_, hcap, fun h => hclosed.trans h, ?_⟩
  · rintro task' output hop' -
    have htask : task' = task := by
      rcases hop with rfl | rfl <;> rcases hop' with h | h <;> cases h <;> rfl
    exact ⟨hopen, hroom, htask ▸ hcontents⟩
  · rintro output (rfl | rfl) <;> rcases hop with h | h <;> cases h
  · rintro output rfl
    rcases hop with h | h <;> cases h
  · rintro output - ⟨⟩
  · rintro result output ⟨⟩ hne
    exact absurd rfl hne
  · rw [hhigh, hcontents, List.length_append, List.length_singleton]

theorem FifoLaws.removed {op : QueueOperation P} {f f' : ClosableFifo P} {task : P}
    (hop : op = .dequeue ∨ op = .tryDequeue) (h : f.remove = some (task, f')) :
    FifoLaws op f (.status .ok (some task)) f' := by
  obtain ⟨hcontents, hcap, hclosed, hhigh⟩ := ClosableFifo.remove_eq_some.mp h
  have hlen := f.length_le
  rw [hcontents, List.length_cons] at hlen
  refine ⟨?_, ?_, ?_, ?_, ?_, hcap, fun h => hclosed.trans h, ?_⟩
  · rintro task' output (rfl | rfl) <;> rcases hop with h | h <;> cases h
  · rintro output - ⟨⟩
    exact ⟨task, rfl, hcontents⟩
  · rintro output rfl
    rcases hop with h | h <;> cases h
  · rintro output - ⟨⟩
  · rintro result output ⟨⟩ hne
    exact absurd rfl hne
  · rw [hhigh]
    omega

/-- The abstract step obeys the laws, for every operation. -/
theorem fifoStep_laws {op : QueueOperation P} {f f' : ClosableFifo P} {r : QueueReturn P}
    (h : fifoStep op f = some (r, f')) : FifoLaws op f r f' := by
  cases op with
  -- closing moves no Task and answers OK
  | shutdown =>
    cases h
    refine ⟨?_, ?_, ?_, ?_, ?_, rfl, fun _ => rfl, (Nat.max_eq_left f.length_le).symm⟩
    · rintro task output (h | h) <;> cases h
    · rintro output (h | h) <;> cases h
    · rintro output ⟨⟩
    · rintro output (h | h | h) <;> cases h
    · rintro result output ⟨⟩ hne
      exact absurd rfl hne
  -- an operation inserts and says so, or refuses and changes nothing
  | tryEnqueue task =>
    simp only [fifoStep] at h
    cases hins : f.insert task with
    | some f₁ =>
      rw [hins] at h
      cases h
      exact .inserted (.inr rfl) hins
    | none =>
      rw [hins] at h
      cases h
      refine .unchanged (fun output => by split <;> simp) ?_
      rintro output (h | h | h) <;> cases h
  | enqueue task =>
    simp only [fifoStep] at h
    cases hins : f.insert task with
    | some f₁ =>
      rw [hins] at h
      cases h
      exact .inserted (.inl rfl) hins
    | none =>
      rw [hins] at h
      simp only [Option.ite_none_right_eq_some] at h
      cases h.2
      refine .unchanged (fun output => by simp) ?_
      rintro output (h | h | h) <;> cases h
  | tryDequeue =>
    simp only [fifoStep] at h
    cases hrem : f.remove with
    | some taken =>
      rw [hrem] at h
      cases h
      exact .removed (.inr rfl) hrem
    | none =>
      rw [hrem] at h
      cases h
      refine .unchanged (fun output => by split <;> simp) fun output _ hr => ?_
      refine ⟨?_, ClosableFifo.remove_eq_none.mp hrem⟩
      -- an open empty queue would have answered `EMPTY`
      by_contra hopen
      simp [hopen] at hr
  | dequeue =>
    simp only [fifoStep] at h
    cases hrem : f.remove with
    | some taken =>
      rw [hrem] at h
      cases h
      exact .removed (.inl rfl) hrem
    | none =>
      rw [hrem] at h
      simp only [Option.ite_none_right_eq_some] at h
      cases h.2
      exact .unchanged (fun output => by simp)
        fun output _ _ => ⟨h.1, ClosableFifo.remove_eq_none.mp hrem⟩
  | tryPeek =>
    simp only [fifoStep] at h
    cases hpeek : f.peek with
    | some task =>
      rw [hpeek] at h
      cases h
      refine ⟨?_, ?_, ?_, ?_, fun _ _ _ _ => rfl, rfl, id, (Nat.max_eq_left f.length_le).symm⟩
      · rintro task' output (h | h) <;> cases h
      · rintro output (h | h) <;> cases h
      · rintro output - ⟨⟩
        exact ⟨task, rfl, hpeek, rfl⟩
      · rintro output - ⟨⟩
    | none =>
      rw [hpeek] at h
      cases h
      refine .unchanged (fun output => by split <;> simp) fun output _ hr => ?_
      refine ⟨?_, List.head?_eq_none_iff.mp hpeek⟩
      by_contra hopen
      simp [hopen] at hr
  | _ =>
    cases h
    exact .unchanged (fun output => by simp) fun output h => by simp at h

/-! ## The simulation -/

/-- The phase of a call, from its program counter. -/
def QueuePc.phase : QueuePc P → CallPhase P
  | .idle => .idle
  | .lock op => .called op
  | .wait w | .asleep w | .woken w => .called w.operation
  | .unlock op r | .returned op r => .answered op r

/-- The queue and its callers are in the state `m` of the abstract machine. -/
structure Refines (s : QueuePool T P) (m : FifoMachine T P) : Prop where
  fifo : Abstracts s.shared m.fifo
  phase : ∀ u, m.phase u = (s.pc u).phase

theorem Enters.phase {t : T} {q q₀ : ConcurrentTaskQueue T P} {pc : QueuePc P}
    {op : QueueOperation P} (h : Enters t q pc op q₀) : pc.phase = .called op := by
  cases h <;> rfl

/-- A critical section goes to wait without an abstract step, or commits. -/
theorem SectionSpec.commits {cfg : QueueConfig} {woken : Option T} {q₀ : ConcurrentTaskQueue T P}
    {f : ClosableFifo P} {op : QueueOperation P} {out : QueueSection T P}
    (h : SectionSpec cfg woken q₀ f op out) (habs : Abstracts q₀ f) :
    (Abstracts out.1 f ∧ out.2.1.phase = .called op) ∨
      ∃ r f', Abstracts out.1 f' ∧ out.2.1.phase = .answered op r ∧
        fifoStep op f = some (r, f') := by
  cases h with
  | wait w => exact .inl ⟨habs.beginWait, rfl⟩
  | insert task f' ring hop hinsert habs' =>
    refine .inr ⟨_, f', habs', rfl, ?_⟩
    rcases hop with rfl | rfl <;> simp [fifoStep, hinsert]
  | remove task f' ring hop hremove habs' =>
    refine .inr ⟨_, f', habs', rfl, ?_⟩
    rcases hop with rfl | rfl <;> simp [fifoStep, hremove]
  | close =>
    exact .inr ⟨_, f.close, ⟨habs.ring, habs.capacity, rfl, habs.highWater, habs.history⟩, rfl, rfl⟩
  | observe r hstep => exact .inr ⟨r, f, habs, rfl, hstep⟩

section Simulation

variable [DecidableEq T] [Fintype T] {cfg : QueueConfig} {capacity : ℕ} {t : T}
  {choice : QueueChoice T P} {s s' : QueuePool T P} {m : FifoMachine T P}

/-- Only the acting thread changes its phase. -/
theorem phase_step {pc : QueuePc P} {fx : List (QueueEffect T)}
    (h : ∀ u, m.phase u = (s.pc u).phase)
    (hfx : (queueProgram cfg).applyEffects (Function.update s.pc t pc) fx = some s'.pc) (u : T) :
    (m.enter t pc.phase).phase u = (s'.pc u).phase := by
  obtain ⟨hself, hother⟩ := Program.step_blind (w := QueuePc.phase)
    (queueProgram_blind fun w => rfl) hfx
  by_cases hu : u = t
  · subst hu
    rw [hself]
    exact Function.update_self _ _ _
  · rw [hother u hu, ← h u]
    exact Function.update_of_ne hu _ _

omit [Fintype T] in
theorem FifoMachine.enter_self (h : m.phase t = pc) : m.enter t pc = m := by
  cases m
  simp only [FifoMachine.enter, FifoMachine.mk.injEq, true_and]
  rw [← h]
  exact Function.update_eq_self _ _

/-- **Forward simulation**: a step of the queue program is a step of the machine by the
same thread, or invisible; a commit takes the mutex. -/
theorem refines_step (hcfg : cfg.waitMayFail = false) (hm : Refines s m)
    (hstep : (queueProgram cfg).step t choice s = some s') :
    ∃ m', Refines s' m' ∧ (m' = m ∨ ∃ e, FifoMachine.Step t e m m' ∧
      ∀ op r, e = .commit op r → s.shared.mutex = none ∧ s'.shared.mutex = some t) := by
  obtain ⟨pc', fx, hact, hfx⟩ := Program.step_eq_some.mp hstep
  have hspec : QueueStepSpec cfg t choice s.shared m.fifo (s.pc t) (s'.shared, pc', fx) :=
    queueAct_spec hm.fifo hact
  have hphase := phase_step hm.phase hfx
  have hself : m.phase t = (s.pc t).phase := hm.phase t
  -- invisible steps keep the phase of the acting thread
  have hinvisible : Abstracts s'.shared m.fifo → pc'.phase = m.phase t →
      ∃ m', Refines s' m' ∧ (m' = m ∨ ∃ e, FifoMachine.Step t e m m' ∧
        ∀ op r, e = .commit op r → s.shared.mutex = none ∧ s'.shared.mutex = some t) := by
    intro habs hsame
    rw [FifoMachine.enter_self hsame.symm] at hphase
    exact ⟨m, ⟨habs, hphase⟩, .inl rfl⟩
  obtain ⟨sh', g'⟩ := s'
  generalize s.pc t = pc at hself hspec
  generalize hout : (sh', pc', fx) = out at hspec
  cases hspec with
  | call op =>
    cases hout
    exact ⟨m.enter t (.called op), ⟨hm.fifo, hphase⟩, .inr ⟨.call op, .call hself, by simp⟩⟩
  | callInvalid op =>
    cases hout
    exact ⟨m.enter t (.answered op op.invalidArgument), ⟨hm.fifo, hphase⟩,
      .inr ⟨.reject op, .reject hself, by simp⟩⟩
  | enter hmutex henter hsec =>
    subst hout
    have hheld : sh'.mutex = some t := hsec.mutex.1.trans henter.mutex.1
    rw [henter.phase] at hself
    rcases hsec.commits (henter.abstracts hm.fifo) with ⟨habs, hpc⟩ | ⟨r, f', habs, hpc, hfifo⟩
    · exact hinvisible habs (hpc.trans hself.symm)
    · rw [show pc'.phase = _ from hpc] at hphase
      exact ⟨{ m.enter t (.answered _ r) with fifo := f' }, ⟨habs, hphase⟩,
        .inr ⟨.commit _ r, .commit hself hfifo, fun _ _ _ => ⟨hmutex, hheld⟩⟩⟩
  | waitFailed w hfail => rw [hcfg] at hfail; cases hfail
  | sleep w hmutex =>
    cases hout
    exact hinvisible (hm.fifo.setMutex _) hself.symm
  | spurious w =>
    cases hout
    exact hinvisible hm.fifo hself.symm
  | unlock op r hmutex =>
    cases hout
    exact hinvisible (hm.fifo.setMutex _) hself.symm
  | leave op r =>
    cases hout
    exact ⟨m.enter t .idle, ⟨hm.fifo, hphase⟩, .inr ⟨.leave op r, .leave hself, by simp⟩⟩

/-- Every reachable state of the queue is a reachable state of the machine. -/
theorem QueueReachable.refines (hcfg : cfg.waitMayFail = false)
    (h : QueueReachable cfg capacity s) : ∃ m, FifoReachable capacity m ∧ Refines s m := by
  obtain ⟨ring, hinit, hsteps⟩ := h
  refine hsteps.invariant (I := fun s => ∃ m, FifoReachable capacity m ∧ Refines s m) ?_ ?_
  · obtain ⟨hring, hcap⟩ := taskQueueInit_represents hinit
    exact ⟨_, .refl, ⟨hring, hcap, rfl, rfl, rfl⟩, fun u => rfl⟩
  · rintro u u' - ⟨m, hreach, hm⟩ ⟨t, choice, hstep⟩
    obtain ⟨m', hm', rfl | ⟨e, he, -⟩⟩ := refines_step hcfg hm hstep
    · exact ⟨m', hreach, hm'⟩
    · exact ⟨m', hreach.tail ⟨t, e, he⟩, hm'⟩

omit [Fintype T] in
/-- Along the machine's steps the FIFO never reopens and its mark is raised to each new
length. -/
theorem FifoMachine.Step.fifo {e : FifoEvent P} {m m' : FifoMachine T P}
    (h : FifoMachine.Step t e m m') :
    (m.fifo.closed = true → m'.fifo.closed = true) ∧
      m'.fifo.highWater = max m.fifo.highWater m'.fifo.contents.length := by
  cases h with
  | commit hcalled hstep => exact ⟨(fifoStep_laws hstep).closed, (fifoStep_laws hstep).highWater⟩
  | _ => exact ⟨id, (Nat.max_eq_left m.fifo.length_le).symm⟩

/-- The same for one step of the queue. -/
theorem Refines.marks (hcfg : cfg.waitMayFail = false) (hm : Refines s m)
    (hstep : (queueProgram cfg).step t choice s = some s') :
    (s.shared.shutdownRequested = true → s'.shared.shutdownRequested = true) ∧
      s'.shared.highWaterMark = max s.shared.highWaterMark (taskQueueSize s'.shared.queue) := by
  obtain ⟨m', hm', hmove⟩ := refines_step hcfg hm hstep
  rw [hm.fifo.closed, hm'.fifo.closed, hm.fifo.highWater, hm'.fifo.highWater, hm'.fifo.size_eq]
  rcases hmove with rfl | ⟨e, he, -⟩
  · exact ⟨id, (Nat.max_eq_left m'.fifo.length_le).symm⟩
  · exact he.fifo

end Simulation

/-- **The synchronized queue refines a sequential bounded closable FIFO**, for every
capacity, any number of threads and every interleaving, as long as waits do not fail:

- every reachable state of the queue and its callers is a reachable state of the
  abstract machine;
- every step is an abstract step of the same thread or invisible, and the abstract
  step that answers a call is taken in the call's own critical section;
- the abstract step obeys `FifoLaws`;
- the queue never reopens, `high_water_mark` is the greatest size of the run, and
  what was inserted is what was removed followed by the contents. -/
theorem queue_refines_fifo [DecidableEq T] [Fintype T] {cfg : QueueConfig}
    (hcfg : cfg.waitMayFail = false) (capacity : ℕ) :
    (∀ s : QueuePool T P, QueueReachable cfg capacity s →
      ∃ m, FifoReachable capacity m ∧ Refines s m) ∧
    (∀ (s s' : QueuePool T P) t choice m, QueueReachable cfg capacity s → Refines s m →
      (queueProgram cfg).step t choice s = some s' →
      ∃ m', Refines s' m' ∧ (m' = m ∨ ∃ e, FifoMachine.Step t e m m' ∧
        ∀ op r, e = .commit op r → s.shared.mutex = none ∧ s'.shared.mutex = some t)) ∧
    (∀ (op : QueueOperation P) f r f', fifoStep op f = some (r, f') → FifoLaws op f r f') ∧
    (∀ s s' : QueuePool T P, QueueReachable cfg capacity s → (queueProgram cfg).Steps s s' →
      s.shared.shutdownRequested = true → s'.shared.shutdownRequested = true) ∧
    (∀ ring ls (s : QueuePool T P), taskQueueInit capacity true = (.ok, some ring) →
      (queueProgram cfg).run ls (queueInitial ring) = some s →
      s.shared.highWaterMark
        = (queueProgram cfg).peak (fun s => taskQueueSize s.shared.queue) ls (queueInitial ring)) ∧
    ∀ s : QueuePool T P, QueueReachable cfg capacity s →
      s.shared.inserted = s.shared.removed ++ s.shared.queue.contents := by
  have hreach : ∀ {s s' : QueuePool T P}, QueueReachable cfg capacity s →
      (queueProgram cfg).Steps s s' → QueueReachable cfg capacity s' := by
    rintro s s' ⟨ring, hinit, hs⟩ hsteps
    exact ⟨ring, hinit, hs.trans hsteps⟩
  refine ⟨fun s hs => hs.refines hcfg, fun s s' t choice m _ hm hstep => refines_step hcfg hm hstep,
    fun op f r f' h => fifoStep_laws h, fun s s' hs hsteps hclosed => ?_,
      fun ring ls s hinit hrun => ?_,
    fun s hs => ?_⟩
  · refine hsteps.invariant (I := fun s => s.shared.shutdownRequested = true) hclosed ?_
    rintro u u' hu hopen ⟨t, choice, hstep⟩
    obtain ⟨m, -, hm⟩ := (hreach hs hu).refines hcfg
    exact (hm.marks hcfg hstep).1 hopen
  · have hmark := Program.mark_of_run (fun s => taskQueueSize s.shared.queue)
      (fun s => s.shared.highWaterMark) ?_ ?_ hrun
    · exact hmark.trans (Nat.zero_max _)
    · rintro u u' hu ⟨t, choice, hstep⟩
      obtain ⟨m, -, hm⟩ := (QueueReachable.refines hcfg ⟨ring, hinit, hu⟩)
      exact (hm.marks hcfg hstep).2
    · have hempty := (taskQueueInit_represents hinit).1.length_eq
      exact hempty.symm.le
  · obtain ⟨f, habs, -⟩ := hs.inv.abstracts
    rw [habs.history, habs.ring.contents_eq]

/-- One thread inserts into a queue of capacity one. -/
def insertSchedule : List (Fin 2 × QueueChoice (Fin 2) ℕ) :=
  let caller : Fin 2 := ⟨0, Nat.zero_lt_two⟩
  [(caller, { call := some (.enqueue 7, true) }), (caller, {}), (caller, {})]

theorem queue_refines_fifo_after_insert :
    ∃ s : QueuePool (Fin 2) ℕ, QueueReachable ⟨true, false⟩ 1 s ∧ s.shared.inserted = [7] ∧
      s.shared.removed ++ s.shared.queue.contents = [7] ∧ s.shared.highWaterMark = 1 := by
  let cfg : QueueConfig := ⟨true, false⟩
  have hcfg : cfg.waitMayFail = false := rfl
  obtain ⟨-, -, -, -, hmark, hhistory⟩ := queue_refines_fifo (T := Fin 2) (P := ℕ) hcfg 1
  have hinit : taskQueueInit (P := ℕ) 1 true = (.ok, some ⟨some [none], 1, 0, 0, 0⟩) := by decide
  have hobs : ((queueProgram cfg).run insertSchedule
      (queueInitial ⟨some [none], 1, 0, 0, 0⟩)).map (fun s => s.shared.inserted) = some [7] := by
    decide
  obtain ⟨s, hrun, hinserted⟩ := Option.map_eq_some_iff.mp hobs
  have hreach : QueueReachable cfg 1 s := ⟨_, hinit, Program.steps_of_run hrun⟩
  refine ⟨s, hreach, hinserted, ?_, ?_⟩
  · rw [← hhistory s hreach]
    exact hinserted
  · rw [hmark _ _ s hinit hrun]
    decide

end SchedulingEngine
