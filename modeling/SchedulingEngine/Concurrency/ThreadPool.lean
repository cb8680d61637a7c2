import Mathlib.Algebra.BigOperators.Group.Finset.Basic
import Mathlib.Algebra.Group.Defs
import Mathlib.Data.Fintype.Basic
import Mathlib.Logic.Function.Basic
import Mathlib.Logic.Relation
import Mathlib.Tactic.Abel

/-!
# Thread pools: shared state, program counters, wakeups

A pool runs one program in finitely many threads. A thread owns a program
counter of type `π`; the threads share a state of type `σ`. One step of a
thread rewrites the shared state and its own counter, and has *effects* on the
other threads:

- `signal c u`: wake the sleeper `u` of condition `c`, or nobody when there is
  no sleeper (which sleeper is woken is the scheduler's choice);
- `broadcast c`: wake every sleeper of `c`;
- `spawn u`: start the dormant thread `u`;
- `await u r`: take the result `r` of the finished thread `u`.

Since effects only wake sleepers and start dormant threads, a function of the
program counter that does not tell a sleeper from a woken thread, nor a dormant
thread from a started one, is changed by a step at the acting thread only
(`Blind`, `step_blind`). These invariant rules follow:

- `balance_step`, `sum_step`: a quantity of the shared state that moves with the
  acting thread's weight stays equal to the sum of the weights of all threads;
- `forall_step`, `forall_step_spawn`: a per-thread assertion survives if the acting
  thread re-establishes its own and leaves the others' intact;
- `owner_step`: a lock field names exactly the thread whose counter stands
  inside the locked region.
-/

namespace SchedulingEngine.Concurrency

/-- What one step of a thread does to the other threads of its pool. -/
inductive Effect (T κ ρ : Type) where
  | signal (c : κ) (woken : Option T)
  | broadcast (c : κ)
  | spawn (u : T)
  | await (u : T) (r : ρ)

/-- The program of a pool. `act t i sh pc` is the step of thread `t` at counter
`pc` under the scheduler's choice `i`; the other fields say how effects read and
move the counters of the other threads. -/
structure Program (T σ π ι κ ρ : Type) where
  act : T → ι → σ → π → Option (σ × π × List (Effect T κ ρ))
  asleepOn : π → Option κ
  wake : π → π
  dormant : π → Bool
  start : π → π
  finished : π → Option ρ

/-- A configuration of a pool. -/
structure Pool (T σ π : Type) where
  shared : σ
  pc : T → π

namespace Program

variable {T σ π ι κ ρ : Type} [DecidableEq T] [Fintype T] [DecidableEq κ] [DecidableEq ρ]

/-- The effect `e` on the counters `f` (`none` if it is not possible now). -/
def applyEffect (p : Program T σ π ι κ ρ) (f : T → π) : Effect T κ ρ → Option (T → π)
  | .signal c (some u) =>
    if p.asleepOn (f u) = some c then some (Function.update f u (p.wake (f u))) else none
  | .signal c none => if ∀ u, p.asleepOn (f u) ≠ some c then some f else none
  | .broadcast c => some fun u => if p.asleepOn (f u) = some c then p.wake (f u) else f u
  | .spawn u =>
    if p.dormant (f u) = true then some (Function.update f u (p.start (f u))) else none
  | .await u r => if p.finished (f u) = some r then some f else none

/-- A list of effects, in order. -/
def applyEffects (p : Program T σ π ι κ ρ) : (T → π) → List (Effect T κ ρ) → Option (T → π)
  | f, [] => some f
  | f, e :: es => (p.applyEffect f e).bind fun g => p.applyEffects g es

/-- One step of thread `t` under choice `i`. -/
def step (p : Program T σ π ι κ ρ) (t : T) (i : ι) (s : Pool T σ π) : Option (Pool T σ π) :=
  (p.act t i s.shared (s.pc t)).bind fun (sh, pc, fx) =>
    (p.applyEffects (Function.update s.pc t pc) fx).map fun f => ⟨sh, f⟩

/-- A step of some thread. -/
def Step (p : Program T σ π ι κ ρ) (s s' : Pool T σ π) : Prop :=
  ∃ t i, p.step t i s = some s'

/-- Finite runs. -/
def Steps (p : Program T σ π ι κ ρ) : Pool T σ π → Pool T σ π → Prop :=
  Relation.ReflTransGen p.Step

/-- The run that takes the listed steps in order. -/
def run (p : Program T σ π ι κ ρ) : List (T × ι) → Pool T σ π → Option (Pool T σ π)
  | [], s => some s
  | (t, i) :: ls, s => (p.step t i s).bind (p.run ls)

variable {p : Program T σ π ι κ ρ} {s s' : Pool T σ π} {t : T} {i : ι}

theorem step_eq_some :
    p.step t i s = some s' ↔ ∃ pc fx,
      p.act t i s.shared (s.pc t) = some (s'.shared, pc, fx) ∧
      p.applyEffects (Function.update s.pc t pc) fx = some s'.pc := by
  obtain ⟨sh', f'⟩ := s'
  constructor
  · intro h
    obtain ⟨⟨sh, pc, fx⟩, hact, h⟩ := Option.bind_eq_some_iff.mp h
    obtain ⟨f, hf, h⟩ := Option.map_eq_some_iff.mp h
    cases h
    exact ⟨pc, fx, hact, hf⟩
  · rintro ⟨pc, fx, hact, hf⟩
    exact Option.bind_eq_some_iff.mpr
      ⟨_, hact, Option.map_eq_some_iff.mpr ⟨f', hf, rfl⟩⟩

theorem steps_of_run {ls : List (T × ι)} (h : p.run ls s = some s') : p.Steps s s' := by
  induction ls generalizing s with
  | nil => cases h; exact .refl
  | cons l ls ih =>
    obtain ⟨u, hu, h⟩ := Option.bind_eq_some_iff.mp h
    exact .head ⟨_, _, hu⟩ (ih h)

theorem run_append {ls ls' : List (T × ι)} {u : Pool T σ π} (h : p.run ls s = some u)
    (h' : p.run ls' u = some s') : p.run (ls ++ ls') s = some s' := by
  induction ls generalizing s with
  | nil =>
    cases h
    exact h'
  | cons l ls ih =>
    obtain ⟨v, hv, h⟩ := Option.bind_eq_some_iff.mp h
    exact Option.bind_eq_some_iff.mpr ⟨v, hv, ih h⟩

/-- Every finite run can be listed. -/
theorem Steps.exists_run (h : p.Steps s s') : ∃ ls, p.run ls s = some s' := by
  induction h with
  | refl => exact ⟨[], rfl⟩
  | tail _ hs ih =>
    obtain ⟨ls, hls⟩ := ih
    obtain ⟨t, i, hs⟩ := hs
    exact ⟨ls ++ [(t, i)], run_append hls (Option.bind_eq_some_iff.mpr ⟨_, hs, rfl⟩)⟩

/-- An observation computed at the end of a listed run is made in a reachable state. -/
theorem exists_of_run (p : Program T σ π ι κ ρ) (ls : List (T × ι)) (s : Pool T σ π) {α : Type*}
    (obs : Pool T σ π → α) {v : α} (h : (p.run ls s).map obs = some v) :
    ∃ s', p.Steps s s' ∧ obs s' = v := by
  obtain ⟨s', hs', hv⟩ := Option.map_eq_some_iff.mp h
  exact ⟨s', steps_of_run hs', hv⟩

/-- **Invariant rule**: what holds initially and survives every step holds after
every run. -/
theorem Steps.invariant {I : Pool T σ π → Prop} (hrun : p.Steps s s') (h0 : I s)
    (hstep : ∀ {u u'}, p.Steps s u → I u → p.Step u u' → I u') : I s' := by
  induction hrun with
  | refl => exact h0
  | tail hu hs ih => exact hstep hu ih hs

/-- Runs whose steps are all allowed by `ok`, in the state before the step. -/
def StepsIf (p : Program T σ π ι κ ρ) (ok : Pool T σ π → T → Prop) :
    Pool T σ π → Pool T σ π → Prop :=
  Relation.ReflTransGen fun s s' => ∃ t i, ok s t ∧ p.step t i s = some s'

theorem StepsIf.steps {ok : Pool T σ π → T → Prop} (h : p.StepsIf ok s s') : p.Steps s s' := by
  induction h with
  | refl => exact .refl
  | tail _ hs ih =>
    obtain ⟨t, i, -, hs⟩ := hs
    exact ih.tail ⟨t, i, hs⟩

/-- Whether `ok` allows every step of the listed run. -/
def allowed (p : Program T σ π ι κ ρ) (ok : Pool T σ π → T → Prop) [∀ s t, Decidable (ok s t)] :
    List (T × ι) → Pool T σ π → Bool
  | [], _ => true
  | (t, i) :: ls, s => decide (ok s t) && (p.step t i s).all (p.allowed ok ls)

theorem allowed_true (p : Program T σ π ι κ ρ) (ls : List (T × ι)) (s : Pool T σ π) :
    p.allowed (fun _ _ => True) ls s = true := by
  induction ls generalizing s with
  | nil => rfl
  | cons l ls ih =>
    unfold allowed
    cases p.step l.1 l.2 s with
    | none => rfl
    | some u => simpa using ih u

theorem stepsIf_of_run {ok : Pool T σ π → T → Prop} [∀ s t, Decidable (ok s t)] {ls : List (T × ι)}
    (hallowed : p.allowed ok ls s = true) (h : p.run ls s = some s') : p.StepsIf ok s s' := by
  induction ls generalizing s with
  | nil => cases h; exact .refl
  | cons l ls ih =>
    obtain ⟨u, hu, h⟩ := Option.bind_eq_some_iff.mp h
    obtain ⟨hok, hrest⟩ := Bool.and_eq_true_iff.mp hallowed
    rw [hu] at hrest
    exact .head ⟨_, _, of_decide_eq_true hok, hu⟩ (ih hrest h)

/-- **Invariant rule** for restricted runs. -/
theorem StepsIf.invariant {ok : Pool T σ π → T → Prop} {I : Pool T σ π → Prop}
    (hrun : p.StepsIf ok s s') (h0 : I s)
    (hstep : ∀ {u u' t i}, p.Steps s u → ok u t → p.step t i u = some u' → I u → I u') : I s' := by
  induction hrun with
  | refl => exact h0
  | tail hu hs ih =>
    obtain ⟨t, i, hok, hs⟩ := hs
    exact hstep (StepsIf.steps hu) hok hs ih

/-- `Q` holds of every step that the listed run takes. -/
def Every (p : Program T σ π ι κ ρ) (Q : Pool T σ π → T → Pool T σ π → Prop) :
    List (T × ι) → Pool T σ π → Prop
  | [], _ => True
  | (t, i) :: ls, s => ∀ s', p.step t i s = some s' → Q s t s' ∧ p.Every Q ls s'

/-- What `f` notes down at the steps that the listed run takes. -/
def log (p : Program T σ π ι κ ρ) {α : Type*} (f : Pool T σ π → T → Pool T σ π → List α) :
    List (T × ι) → Pool T σ π → List α
  | [], _ => []
  | (t, i) :: ls, s => (p.step t i s).elim [] fun s' => f s t s' ++ p.log f ls s'

/-- **Log rule**: an assertion about what `f` noted down so far. -/
theorem log_invariant {ok : Pool T σ π → T → Prop} [∀ s t, Decidable (ok s t)] {α : Type*}
    (f : Pool T σ π → T → Pool T σ π → List α) {J : List α → Pool T σ π → Prop}
    (hstep : ∀ {u u' t i noted}, J noted u → ok u t → p.step t i u = some u' →
      J (noted ++ f u t u') u')
    {ls : List (T × ι)} {noted : List α} (h0 : J noted s) (hallowed : p.allowed ok ls s = true)
    (hrun : p.run ls s = some s') : J (noted ++ p.log f ls s) s' := by
  induction ls generalizing s noted with
  | nil =>
    cases hrun
    rwa [log, List.append_nil]
  | cons l ls ih =>
    obtain ⟨u, hu, hrun⟩ := Option.bind_eq_some_iff.mp hrun
    obtain ⟨hok, hrest⟩ := Bool.and_eq_true_iff.mp hallowed
    rw [hu] at hrest
    have hlast := ih (hstep h0 (of_decide_eq_true hok) hu) hrest hrun
    rw [List.append_assoc] at hlast
    simpa only [log, hu, Option.elim_some] using hlast

/-- The same for a whole run, whatever its steps. -/
theorem log_of_steps {α : Type*} (f : Pool T σ π → T → Pool T σ π → List α)
    {J : List α → Pool T σ π → Prop}
    (hstep : ∀ {u u' t i noted}, J noted u → p.step t i u = some u' → J (noted ++ f u t u') u')
    {ls : List (T × ι)} (h0 : J [] s) (hrun : p.run ls s = some s') : J (p.log f ls s) s' := by
  have hlast := log_invariant f (fun hJ _ hu => hstep hJ hu) h0 (p.allowed_true ls s) hrun
  rwa [List.nil_append] at hlast

/-- The log of a run that goes on. -/
theorem log_append {α : Type*} (f : Pool T σ π → T → Pool T σ π → List α) {ls : List (T × ι)}
    (ls' : List (T × ι)) {u : Pool T σ π} (h : p.run ls s = some u) :
    p.log f (ls ++ ls') s = p.log f ls s ++ p.log f ls' u := by
  induction ls generalizing s with
  | nil =>
    cases h
    rfl
  | cons l ls ih =>
    obtain ⟨v, hv, h⟩ := Option.bind_eq_some_iff.mp h
    simp only [List.cons_append, log, hv, Option.elim_some, ih h, List.append_assoc]

/-- What is logged was logged by a step. -/
theorem mem_log {α : Type*} {f : Pool T σ π → T → Pool T σ π → List α} {ls : List (T × ι)}
    {a : α} (h : a ∈ p.log f ls s) : ∃ u t u', a ∈ f u t u' := by
  induction ls generalizing s with
  | nil => cases h
  | cons l ls ih =>
    unfold log at h
    cases hstep : p.step l.1 l.2 s with
    | none =>
      rw [hstep] at h
      cases h
    | some u =>
      rw [hstep, Option.elim_some, List.mem_append] at h
      rcases h with h | h
      · exact ⟨s, l.1, u, h⟩
      · exact ih h

theorem log_map {α β : Type*} (h : α → β) (f : Pool T σ π → T → Pool T σ π → List α)
    (ls : List (T × ι)) (s : Pool T σ π) :
    p.log (fun u t u' => (f u t u').map h) ls s = (p.log f ls s).map h := by
  induction ls generalizing s with
  | nil => rfl
  | cons l ls ih =>
    unfold log
    cases p.step l.1 l.2 s with
    | none => rfl
    | some u => simp only [Option.elim_some, List.map_append, ih]

/-- **Log rule**: if every allowed step completes what was open, with what `f` notes down,
to what `g` notes down and what is open next, then so does an allowed run. -/
theorem log_of_run {ok : Pool T σ π → T → Prop} [∀ s t, Decidable (ok s t)] {I : Pool T σ π → Prop}
    {α : Type*} (f g : Pool T σ π → T → Pool T σ π → List α) (pending : Pool T σ π → List α)
    (hstep : ∀ {u u' t i}, I u → ok u t → p.step t i u = some u' →
      I u' ∧ pending u ++ f u t u' = g u t u' ++ pending u')
    {ls : List (T × ι)} (h0 : I s) (hallowed : p.allowed ok ls s = true)
    (hrun : p.run ls s = some s') :
    I s' ∧ pending s ++ p.log f ls s = p.log g ls s ++ pending s' := by
  induction ls generalizing s with
  | nil =>
    cases hrun
    exact ⟨h0, List.append_nil _⟩
  | cons l ls ih =>
    obtain ⟨u, hu, hrun⟩ := Option.bind_eq_some_iff.mp hrun
    obtain ⟨hok, hrest⟩ := Bool.and_eq_true_iff.mp hallowed
    rw [hu] at hrest
    obtain ⟨hIu, hfirst⟩ := hstep h0 (of_decide_eq_true hok) hu
    obtain ⟨hI, hlaw⟩ := ih hIu hrest hrun
    refine ⟨hI, ?_⟩
    simp only [log, hu, Option.elim_some]
    rw [← List.append_assoc, hfirst, List.append_assoc, hlaw, List.append_assoc]

/-- The greatest value of `m` over the states that the listed run visits. -/
def peak (p : Program T σ π ι κ ρ) (m : Pool T σ π → ℕ) : List (T × ι) → Pool T σ π → ℕ
  | [], s => m s
  | (t, i) :: ls, s => max (m s) ((p.step t i s).elim 0 (p.peak m ls))

theorem le_peak (m : Pool T σ π → ℕ) (ls : List (T × ι)) (s : Pool T σ π) :
    m s ≤ p.peak m ls s := by
  cases ls with
  | nil => exact Nat.le_refl _
  | cons l ls => exact Nat.le_max_left _ _

/-- **High-water rule**: a mark that every step raises to the new value of `m` is the
greatest value of `m` so far. -/
theorem mark_of_run (m mark : Pool T σ π → ℕ) {ls : List (T × ι)}
    (hstep : ∀ {u u'}, p.Steps s u → p.Step u u' → mark u' = max (mark u) (m u'))
    (h0 : m s ≤ mark s) (h : p.run ls s = some s') :
    mark s' = max (mark s) (p.peak m ls s) := by
  induction ls generalizing s with
  | nil =>
    cases h
    exact (Nat.max_eq_left h0).symm
  | cons l ls ih =>
    obtain ⟨u, hu, h⟩ := Option.bind_eq_some_iff.mp h
    have hmark := hstep .refl ⟨_, _, hu⟩
    have hrest := ih (fun hsteps => hstep (.head ⟨_, _, hu⟩ hsteps)) (by omega) h
    have hle := le_peak (p := p) m ls u
    simp only [peak, hu, Option.elim_some]
    omega

/-! ## Observations that effects cannot change -/

/-- `w` does not see wakeups and thread starts. -/
structure Blind (p : Program T σ π ι κ ρ) {M : Type*} (w : π → M) : Prop where
  wake : ∀ a c, p.asleepOn a = some c → w (p.wake a) = w a
  start : ∀ a, p.dormant a = true → w (p.start a) = w a

variable {M : Type*} {w : π → M}

theorem applyEffect_blind (hw : p.Blind w) {f g : T → π} {e : Effect T κ ρ}
    (h : p.applyEffect f e = some g) (u : T) : w (g u) = w (f u) := by
  cases e with
  | signal c woken =>
    cases woken with
    | none =>
      simp only [applyEffect, Option.ite_none_right_eq_some] at h
      cases h.2
      rfl
    | some v =>
      simp only [applyEffect, Option.ite_none_right_eq_some, Option.some.injEq] at h
      obtain ⟨hv, rfl⟩ := h
      by_cases huv : u = v
      · subst huv
        simpa using hw.wake _ _ hv
      · simp [huv]
  | broadcast c =>
    simp only [applyEffect, Option.some.injEq] at h
    subst h
    by_cases hu : p.asleepOn (f u) = some c
    · simpa [hu] using hw.wake _ _ hu
    · simp [hu]
  | spawn v =>
    simp only [applyEffect, Option.ite_none_right_eq_some, Option.some.injEq] at h
    obtain ⟨hv, rfl⟩ := h
    by_cases huv : u = v
    · subst huv
      simpa using hw.start _ hv
    · simp [huv]
  | await v r =>
    simp only [applyEffect, Option.ite_none_right_eq_some] at h
    cases h.2
    rfl

theorem applyEffects_blind (hw : p.Blind w) {f g : T → π} {fx : List (Effect T κ ρ)}
    (h : p.applyEffects f fx = some g) (u : T) : w (g u) = w (f u) := by
  induction fx generalizing f with
  | nil => cases h; rfl
  | cons e es ih =>
    obtain ⟨f', hf', h⟩ := Option.bind_eq_some_iff.mp h
    rw [ih h, applyEffect_blind hw hf']

/-- A blind observation changes at the acting thread only. -/
theorem step_blind (hw : p.Blind w) {pc : π} {fx : List (Effect T κ ρ)} {f : T → π}
    (h : p.applyEffects (Function.update s.pc t pc) fx = some f) :
    w (f t) = w pc ∧ ∀ u, u ≠ t → w (f u) = w (s.pc u) := by
  constructor
  · simpa using applyEffects_blind hw h t
  · intro u hu
    simpa [hu] using applyEffects_blind hw h u

/-- A thread that was awaited had finished with the result taken. -/
theorem applyEffects_await (hblind : p.Blind p.finished) {f g : T → π} {fx : List (Effect T κ ρ)}
    (h : p.applyEffects f fx = some g) {u : T} {r : ρ} (hawait : .await u r ∈ fx) :
    p.finished (f u) = some r := by
  induction fx generalizing f with
  | nil => cases hawait
  | cons e es ih =>
    obtain ⟨f', hf', h⟩ := Option.bind_eq_some_iff.mp h
    rcases List.mem_cons.mp hawait with rfl | hes
    · simp only [applyEffect, Option.ite_none_right_eq_some] at hf'
      exact hf'.1
    · rw [← applyEffect_blind hblind hf' u]
      exact ih h hes

/-- Effects pass over a thread that is neither asleep nor dormant. -/
theorem applyEffects_fixed {f g : T → π} {fx : List (Effect T κ ρ)}
    (h : p.applyEffects f fx = some g) {u : T} (hawake : p.asleepOn (f u) = none)
    (hstarted : p.dormant (f u) = false) : g u = f u := by
  induction fx generalizing f with
  | nil => cases h; rfl
  | cons e es ih =>
    obtain ⟨f', hf', h⟩ := Option.bind_eq_some_iff.mp h
    have hsame : f' u = f u := by
      cases e with
      | signal c woken =>
        cases woken with
        | none =>
          simp only [applyEffect, Option.ite_none_right_eq_some] at hf'
          cases hf'.2
          rfl
        | some v =>
          simp only [applyEffect, Option.ite_none_right_eq_some, Option.some.injEq] at hf'
          obtain ⟨hv, rfl⟩ := hf'
          have huv : u ≠ v := by rintro rfl; simp [hawake] at hv
          simp [huv]
      | broadcast c =>
        simp only [applyEffect, Option.some.injEq] at hf'
        subst hf'
        simp [hawake]
      | spawn v =>
        simp only [applyEffect, Option.ite_none_right_eq_some, Option.some.injEq] at hf'
        obtain ⟨hv, rfl⟩ := hf'
        have huv : u ≠ v := by rintro rfl; simp [hstarted] at hv
        simp [huv]
      | await v r =>
        simp only [applyEffect, Option.ite_none_right_eq_some] at hf'
        cases hf'.2
        rfl
    rw [← hsame] at hawake hstarted
    rw [ih h hawake hstarted, hsame]

/-! ## Counting threads -/

section Sums

variable [AddCommMonoid M]

/-- The sum of the weights of all threads. -/
def total (w : π → M) (f : T → π) : M := ∑ u, w (f u)

theorem total_eq_add (w : π → M) (f : T → π) (t : T) :
    total w f = w (f t) + ∑ u ∈ Finset.univ.erase t, w (f u) :=
  (Finset.add_sum_erase _ (fun u => w (f u)) (Finset.mem_univ t)).symm

/-- Moving one thread trades its old weight for its new one. -/
theorem total_update (w : π → M) (f : T → π) (t : T) (a : π) :
    total w (Function.update f t a) + w (f t) = total w f + w a := by
  have hrest : ∑ u ∈ Finset.univ.erase t, w (Function.update f t a u)
      = ∑ u ∈ Finset.univ.erase t, w (f u) :=
    Finset.sum_congr rfl fun u hu => by rw [Function.update_of_ne (Finset.ne_of_mem_erase hu)]
  rw [total_eq_add w (Function.update f t a) t, total_eq_add w f t, hrest, Function.update_self]
  abel

/-- A step trades the acting thread's old weight for its new one. -/
theorem total_step (hw : p.Blind w) {pc : π} {fx : List (Effect T κ ρ)} {f : T → π}
    (h : p.applyEffects (Function.update s.pc t pc) fx = some f) :
    total w f + w (s.pc t) = total w s.pc + w pc := by
  have hsame : total w f = total w (Function.update s.pc t pc) :=
    Finset.sum_congr rfl fun u _ => applyEffects_blind hw h u
  rw [hsame, total_update]

/-- The other threads' weights are the same before and after a step. -/
theorem total_split (hw : p.Blind w) {pc : π} {fx : List (Effect T κ ρ)} {f : T → π}
    (h : p.applyEffects (Function.update s.pc t pc) fx = some f) :
    ∃ rest, total w s.pc = w (s.pc t) + rest ∧ total w f = w pc + rest := by
  obtain ⟨hself, hother⟩ := step_blind hw h
  refine ⟨_, total_eq_add w s.pc t, ?_⟩
  rw [total_eq_add w f t, hself]
  congr 1
  exact Finset.sum_congr rfl fun u hu => hother u (Finset.ne_of_mem_erase hu)

end Sums

/-- **Balance rule**: if the acting thread changes `Φ` of the shared state by exactly the
change of `Ψ` and of its own weight, `Φ` stays `Ψ` plus the sum of the weights. -/
theorem balance_step [AddCancelCommMonoid M] (Φ Ψ : σ → M) (hw : p.Blind w) {pc : π}
    {fx : List (Effect T κ ρ)} (hf : p.applyEffects (Function.update s.pc t pc) fx = some s'.pc)
    (hact : Φ s'.shared + (Ψ s.shared + w (s.pc t)) = Φ s.shared + (Ψ s'.shared + w pc))
    (h : Φ s.shared = Ψ s.shared + total w s.pc) :
    Φ s'.shared = Ψ s'.shared + total w s'.pc := by
  have htotal := total_step hw hf
  refine add_right_cancel (b := Ψ s.shared + w (s.pc t)) ?_
  calc Φ s'.shared + (Ψ s.shared + w (s.pc t))
      = (Ψ s.shared + total w s.pc) + (Ψ s'.shared + w pc) := by rw [hact, h]
    _ = Ψ s.shared + Ψ s'.shared + (total w s.pc + w pc) := by abel
    _ = Ψ s.shared + Ψ s'.shared + (total w s'.pc + w (s.pc t)) := by rw [htotal]
    _ = Ψ s'.shared + total w s'.pc + (Ψ s.shared + w (s.pc t)) := by abel

/-- **Conservation rule**: if the acting thread changes `Φ` of the shared state by
exactly the change of its own weight, `Φ` stays the sum of the weights. -/
theorem sum_step [AddCancelCommMonoid M] (Φ : σ → M) (hw : p.Blind w) {pc : π}
    {fx : List (Effect T κ ρ)} (hf : p.applyEffects (Function.update s.pc t pc) fx = some s'.pc)
    (hact : Φ s'.shared + w (s.pc t) = Φ s.shared + w pc)
    (h : Φ s.shared = total w s.pc) : Φ s'.shared = total w s'.pc := by
  have hbalance := balance_step Φ (fun _ => 0) hw hf (by simpa using hact) (by simpa using h)
  simpa using hbalance

/-! ## Per-thread assertions -/

/-- **Assertion rule**: an assertion about each thread's counter and the shared
state survives a step that re-establishes it for the acting thread and does not
disturb the other threads. -/
theorem forall_step (A : T → σ → π → Prop) (hblind : ∀ u sh, p.Blind (A u sh)) {pc : π}
    {fx : List (Effect T κ ρ)} (hf : p.applyEffects (Function.update s.pc t pc) fx = some s'.pc)
    (hself : A t s'.shared pc)
    (hother : ∀ u, u ≠ t → A u s.shared (s.pc u) → A u s'.shared (s.pc u))
    (h : ∀ u, A u s.shared (s.pc u)) : ∀ u, A u s'.shared (s'.pc u) := by
  intro u
  obtain ⟨h₁, h₂⟩ := step_blind (hblind u s'.shared) hf
  by_cases hu : u = t
  · subst hu
    exact h₁.mpr hself
  · exact (h₂ u hu).mpr (hother u hu (h u))

/-- An assertion that does not see wakeups holds of a thread that the effects started,
and is unchanged for every other thread. -/
theorem applyEffects_spawn {A : π → Prop}
    (hwake : ∀ a c, p.asleepOn a = some c → (A (p.wake a) ↔ A a)) {f g : T → π}
    {fx : List (Effect T κ ρ)} (h : p.applyEffects f fx = some g) {u : T}
    (hstart : .spawn u ∈ fx → ∀ a, p.dormant a = true → A (p.start a)) :
    (.spawn u ∈ fx → A (g u)) ∧ (.spawn u ∉ fx → (A (g u) ↔ A (f u))) := by
  induction fx generalizing f with
  | nil =>
    cases h
    exact ⟨fun hu => (nomatch hu), fun _ => Iff.rfl⟩
  | cons e es ih =>
    obtain ⟨f', hf', h⟩ := Option.bind_eq_some_iff.mp h
    obtain ⟨hin, hout⟩ := ih h fun hu => hstart (List.mem_cons_of_mem e hu)
    have hfirst : (e = .spawn u → A (f' u)) ∧ (e ≠ .spawn u → (A (f' u) ↔ A (f u))) := by
      cases e with
      -- a wakeup keeps what is looked at, a creation brings it about
      | signal c woken =>
        refine ⟨fun he => (nomatch he), fun _ => ?_⟩
        cases woken with
        | none =>
          simp only [applyEffect, Option.ite_none_right_eq_some] at hf'
          cases hf'.2
          exact Iff.rfl
        | some v =>
          simp only [applyEffect, Option.ite_none_right_eq_some, Option.some.injEq] at hf'
          obtain ⟨hv, rfl⟩ := hf'
          by_cases huv : u = v
          · subst huv
            simpa using hwake _ _ hv
          · simp [huv]
      | broadcast c =>
        refine ⟨fun he => (nomatch he), fun _ => ?_⟩
        simp only [applyEffect, Option.some.injEq] at hf'
        subst hf'
        by_cases hu : p.asleepOn (f u) = some c
        · simpa [hu] using hwake _ _ hu
        · simp [hu]
      | spawn v =>
        simp only [applyEffect, Option.ite_none_right_eq_some, Option.some.injEq] at hf'
        obtain ⟨hv, rfl⟩ := hf'
        constructor
        · intro he
          cases he
          simpa using hstart List.mem_cons_self _ hv
        · intro he
          have huv : u ≠ v := by rintro rfl; exact he rfl
          simp [huv]
      -- waiting for a thread to finish moves nobody
      | await v r =>
        refine ⟨fun he => (nomatch he), fun _ => ?_⟩
        simp only [applyEffect, Option.ite_none_right_eq_some] at hf'
        cases hf'.2
        exact Iff.rfl
    constructor
    · intro hu
      -- the last creation of the list decides
      by_cases hes : .spawn u ∈ es
      · exact hin hes
      · have he := (List.mem_cons.mp hu).resolve_right hes
        exact (hout hes).mpr (hfirst.1 he.symm)
    · intro hu
      obtain ⟨he, hes⟩ := not_or.mp (mt List.mem_cons.mpr hu)
      exact (hout hes).trans (hfirst.2 fun h => he h.symm)

/-- **Assertion rule with thread starts**: as `forall_step`, for an assertion that tells
a dormant thread from a started one. -/
theorem forall_step_spawn (A : T → σ → π → Prop)
    (hwake : ∀ u sh a c, p.asleepOn a = some c → (A u sh (p.wake a) ↔ A u sh a)) {pc : π}
    {fx : List (Effect T κ ρ)} (hf : p.applyEffects (Function.update s.pc t pc) fx = some s'.pc)
    (hself : A t s'.shared pc)
    (hspawn : ∀ u, .spawn u ∈ fx → ∀ a, p.dormant a = true → A u s'.shared (p.start a))
    (hother : ∀ u, u ≠ t → .spawn u ∉ fx → A u s.shared (s.pc u) → A u s'.shared (s.pc u))
    (h : ∀ u, A u s.shared (s.pc u)) : ∀ u, A u s'.shared (s'.pc u) := by
  intro u
  obtain ⟨hin, hout⟩ := applyEffects_spawn (hwake u s'.shared) hf (hspawn u)
  by_cases hu : .spawn u ∈ fx
  · exact hin hu
  · refine (hout hu).mpr ?_
    by_cases hut : u = t
    · subst hut
      simpa using hself
    · simpa [hut] using hother u hut hu (h u)

/-! ## Locks -/

/-- The lock field names exactly the thread whose counter is in the locked region. -/
def Owned (lock : σ → Option T) (holds : π → Bool) (s : Pool T σ π) : Prop :=
  ∀ u, lock s.shared = some u ↔ holds (s.pc u) = true

/-- What a step may do to a lock: leave it and stay on the same side of the region,
take it while it is free, or give it back. -/
def LockMove (lock : σ → Option T) (holds : π → Bool) (t : T) (sh sh' : σ) (pc pc' : π) : Prop :=
  (lock sh' = lock sh ∧ holds pc' = holds pc) ∨
  (lock sh = none ∧ lock sh' = some t ∧ holds pc' = true) ∨
  (lock sh = some t ∧ lock sh' = none ∧ holds pc' = false)

/-- **Lock rule**: lock moves keep the lock field and the counters in agreement. -/
theorem owner_step {lock : σ → Option T} {holds : π → Bool} (hblind : p.Blind holds) {pc : π}
    {fx : List (Effect T κ ρ)} (hf : p.applyEffects (Function.update s.pc t pc) fx = some s'.pc)
    (hmove : LockMove lock holds t s.shared s'.shared (s.pc t) pc)
    (h : Owned lock holds s) : Owned lock holds s' := by
  intro u
  obtain ⟨hself, hother⟩ := step_blind hblind hf
  by_cases hu : u = t
  · subst hu
    rw [hself]
    rcases hmove with ⟨h₁, h₂⟩ | ⟨-, h₁, h₂⟩ | ⟨-, h₁, h₂⟩
    · rw [h₁, h₂]
      exact h u
    · simp [h₁, h₂]
    · simp [h₁, h₂]
  · rw [hother u hu, ← h u]
    rcases hmove with ⟨h₁, -⟩ | ⟨h₀, h₁, -⟩ | ⟨h₀, h₁, -⟩
    · rw [h₁]
    · simp [h₀, h₁, Ne.symm hu]
    · simp [h₀, h₁, Ne.symm hu]

end Program

end SchedulingEngine.Concurrency
