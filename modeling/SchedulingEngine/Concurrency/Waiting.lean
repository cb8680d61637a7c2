import SchedulingEngine.Concurrency.ThreadPool

/-!
# Sleepers, and when a step is possible

- A thread that is asleep after a step slept there before or has just gone to sleep, and
  its condition was not broadcast meanwhile (`Program.asleep_step`).
- Where no thread stands after a wakeup or a start it stood before the effects
  (`Program.applyEffects_unroused`).
- A signal is possible for some choice of the sleeper it wakes (`Program.exists_signal`), a
  broadcast always.
-/

namespace SchedulingEngine.Concurrency

namespace Program

variable {T σ π ι κ ρ : Type} [DecidableEq T] [Fintype T] [DecidableEq κ] [DecidableEq ρ]
  {p : Program T σ π ι κ ρ} {s s' : Pool T σ π} {t u : T}

/-! ## Sleepers -/

/-- A thread that was woken or started is awake. -/
structure Rouses (p : Program T σ π ι κ ρ) : Prop where
  wake : ∀ a, p.asleepOn (p.wake a) = none
  start : ∀ a, p.dormant a = true → p.asleepOn (p.start a) = none

theorem applyEffect_asleep (hp : p.Rouses) {f g : T → π} {e : Effect T κ ρ}
    (h : p.applyEffect f e = some g) {c : κ} (hasleep : p.asleepOn (g u) = some c) :
    g u = f u ∧ e ≠ .broadcast c := by
  cases e with
  -- a signal may wake somebody else than `u`
  | signal d woken =>
    refine ⟨?_, by simp⟩
    cases woken with
    | none =>
      simp only [applyEffect, Option.ite_none_right_eq_some] at h
      cases h.2
      rfl
    | some v =>
      simp only [applyEffect, Option.ite_none_right_eq_some, Option.some.injEq] at h
      obtain ⟨-, rfl⟩ := h
      by_cases huv : u = v
      · subst huv
        rw [Function.update_self, hp.wake] at hasleep
        cases hasleep
      · rw [Function.update_of_ne huv]
  -- after a broadcast nobody is asleep on its condition
  | broadcast d =>
    simp only [applyEffect, Option.some.injEq] at h
    subst h
    dsimp only at hasleep ⊢
    by_cases hd : p.asleepOn (f u) = some d
    · rw [if_pos hd, hp.wake] at hasleep
      cases hasleep
    · rw [if_neg hd] at hasleep
      refine ⟨if_neg hd, ?_⟩
      rintro ⟨⟩
      exact hd hasleep
  | spawn v =>
    refine ⟨?_, by simp⟩
    simp only [applyEffect, Option.ite_none_right_eq_some, Option.some.injEq] at h
    obtain ⟨hdormant, rfl⟩ := h
    by_cases huv : u = v
    · subst huv
      rw [Function.update_self, hp.start _ hdormant] at hasleep
      cases hasleep
    · rw [Function.update_of_ne huv]
  | await v r =>
    refine ⟨?_, by simp⟩
    simp only [applyEffect, Option.ite_none_right_eq_some] at h
    cases h.2
    rfl

theorem applyEffects_asleep (hp : p.Rouses) {f g : T → π} {fx : List (Effect T κ ρ)}
    (h : p.applyEffects f fx = some g) {c : κ} (hasleep : p.asleepOn (g u) = some c) :
    g u = f u ∧ .broadcast c ∉ fx := by
  induction fx generalizing f with
  | nil =>
    cases h
    exact ⟨rfl, nofun⟩
  | cons e es ih =>
    obtain ⟨f', hf', h⟩ := Option.bind_eq_some_iff.mp h
    obtain ⟨hsame, hlater⟩ := ih h
    rw [hsame] at hasleep
    obtain ⟨hfirst, hnot⟩ := applyEffect_asleep hp hf' hasleep
    refine ⟨hsame.trans hfirst, fun hmem => ?_⟩
    rcases List.mem_cons.mp hmem with heq | hmem
    · exact hnot heq.symm
    · exact hlater hmem

/-- **Sleeper rule**: who sleeps on `c` after a step, and that nobody was woken there by a
broadcast. -/
theorem asleep_step (hp : p.Rouses) {pc : π} {fx : List (Effect T κ ρ)} {f : T → π}
    (h : p.applyEffects (Function.update s.pc t pc) fx = some f) {c : κ}
    (hasleep : p.asleepOn (f u) = some c) :
    .broadcast c ∉ fx ∧ (u = t ∧ f u = pc ∨ u ≠ t ∧ f u = s.pc u) := by
  obtain ⟨hsame, hnot⟩ := applyEffects_asleep hp h hasleep
  refine ⟨hnot, ?_⟩
  by_cases hut : u = t
  · subst hut
    rw [Function.update_self] at hsame
    exact .inl ⟨rfl, hsame⟩
  · rw [Function.update_of_ne hut] at hsame
    exact .inr ⟨hut, hsame⟩

/-- Effects do not lead into what a woken or started thread has left. -/
theorem applyEffects_unroused {Q : π → Prop}
    (hwake : ∀ a c, p.asleepOn a = some c → ¬Q (p.wake a))
    (hstart : ∀ a, p.dormant a = true → ¬Q (p.start a)) {f g : T → π} {fx : List (Effect T κ ρ)}
    (h : p.applyEffects f fx = some g) (hQ : Q (g u)) : g u = f u := by
  induction fx generalizing f with
  | nil =>
    cases h
    rfl
  | cons e es ih =>
    obtain ⟨f', hf', h⟩ := Option.bind_eq_some_iff.mp h
    -- the first effect is looked at last: the others have kept `u` where it put it
    have hsame := ih h
    rw [hsame] at hQ ⊢
    cases e with
    | signal d woken =>
      cases woken with
      | none =>
        simp only [applyEffect, Option.ite_none_right_eq_some] at hf'
        cases hf'.2
        rfl
      | some v =>
        simp only [applyEffect, Option.ite_none_right_eq_some, Option.some.injEq] at hf'
        obtain ⟨hasleep, rfl⟩ := hf'
        by_cases huv : u = v
        · subst huv
          rw [Function.update_self] at hQ
          exact absurd hQ (hwake _ _ hasleep)
        · rw [Function.update_of_ne huv]
    | broadcast d =>
      simp only [applyEffect, Option.some.injEq] at hf'
      subst hf'
      dsimp only at hQ ⊢
      by_cases hd : p.asleepOn (f u) = some d
      · rw [if_pos hd] at hQ
        exact absurd hQ (hwake _ _ hd)
      · rw [if_neg hd]
    | spawn v =>
      simp only [applyEffect, Option.ite_none_right_eq_some, Option.some.injEq] at hf'
      obtain ⟨hdormant, rfl⟩ := hf'
      by_cases huv : u = v
      · subst huv
        rw [Function.update_self] at hQ
        exact absurd hQ (hstart _ hdormant)
      · rw [Function.update_of_ne huv]
    | await v r =>
      simp only [applyEffect, Option.ite_none_right_eq_some] at hf'
      cases hf'.2
      rfl

/-! ## Steps that are possible -/

/-- Thread `t` can take a step. -/
def CanStep (p : Program T σ π ι κ ρ) (s : Pool T σ π) (t : T) : Prop :=
  ∃ i s', p.step t i s = some s'

/-- A step whose effects are possible. -/
theorem canStep_of_act {i : ι} {sh : σ} {pc : π} {fx : List (Effect T κ ρ)}
    (hact : p.act t i s.shared (s.pc t) = some (sh, pc, fx))
    (hfx : (p.applyEffects (Function.update s.pc t pc) fx).isSome = true) : p.CanStep s t := by
  obtain ⟨f, hf⟩ := Option.isSome_iff_exists.mp hfx
  exact ⟨i, ⟨sh, f⟩, step_eq_some.mpr ⟨pc, fx, hact, hf⟩⟩

/-- A signal wakes a sleeper if there is one. -/
theorem exists_signal (p : Program T σ π ι κ ρ) (f : T → π) (c : κ) :
    ∃ woken, (p.applyEffects f [.signal c woken]).isSome = true := by
  by_cases hsleeper : ∃ u, p.asleepOn (f u) = some c
  · obtain ⟨u, hu⟩ := hsleeper
    exact ⟨some u, by simp [applyEffects, applyEffect, hu]⟩
  · rw [not_exists] at hsleeper
    exact ⟨none, by simp [applyEffects, applyEffect, hsleeper]⟩

end Program

end SchedulingEngine.Concurrency
