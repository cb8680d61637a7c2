import SchedulingEngine.Concurrency.ThreadPool

/-!
# One thread at a time

While the other threads stand still and none of them is asleep, a broadcast wakes nobody, and a
run of one thread can be computed from the shared state and that thread's counter alone
(`alone`). `run_alone` turns such a computation into a run of the pool, with what the run notes
down about the thread's counter.
-/

namespace SchedulingEngine.Concurrency

variable {T σ π ι κ ρ : Type}

/-- An effect that leaves everybody alone while nobody is asleep. -/
def Effect.isBroadcast : Effect T κ ρ → Bool
  | .broadcast _ => true
  | _ => false

namespace Program

variable {α : Type} {p : Program T σ π ι κ ρ} {g : π → π → List α} {t : T}

/-- Thread `t` takes the steps `is`; `g` is noted down. Other threads may only be affected by
broadcasts, and the thread may not fall asleep under its own. -/
def alone (p : Program T σ π ι κ ρ) (g : π → π → List α) (t : T) :
    List ι → σ → π → Option (σ × π × List α)
  | [], sh, pc => some (sh, pc, [])
  | i :: is, sh, pc =>
    match p.act t i sh pc with
    | some (sh', pc', fx) =>
      if fx.isEmpty = true ∨ fx.all Effect.isBroadcast = true ∧ p.asleepOn pc' = none then
        (p.alone g t is sh' pc').map fun (sh'', pc'', noted) => (sh'', pc'', g pc pc' ++ noted)
      else none
    | none => none

/-- One more step at the front. -/
theorem alone_cons {i : ι} {is : List ι} {sh sh' sh'' : σ} {pc pc' pc'' : π} {noted : List α}
    {fx : List (Effect T κ ρ)} (hact : p.act t i sh pc = some (sh', pc', fx))
    (hfx : fx.isEmpty = true ∨ fx.all Effect.isBroadcast = true ∧ p.asleepOn pc' = none)
    (h : p.alone g t is sh' pc' = some (sh'', pc'', noted)) :
    p.alone g t (i :: is) sh pc = some (sh'', pc'', g pc pc' ++ noted) := by
  simp only [alone, hact, if_pos hfx, h, Option.map_some]

variable [DecidableEq T] [Fintype T] [DecidableEq κ] [DecidableEq ρ] {s s' : Pool T σ π}

/-- Broadcasts pass over a pool in which nobody is asleep. -/
theorem applyEffects_awake {f : T → π} (hawake : ∀ u, p.asleepOn (f u) = none)
    {fx : List (Effect T κ ρ)} (hfx : fx.all Effect.isBroadcast = true) :
    p.applyEffects f fx = some f := by
  induction fx with
  | nil => rfl
  | cons e es ih =>
    rw [List.all_cons, Bool.and_eq_true] at hfx
    cases e with
    | broadcast c =>
      have hsame : p.applyEffect f (.broadcast c) = some f := by
        simp [applyEffect, hawake]
      rw [applyEffects, hsame]
      exact ih hfx.2
    | signal c woken => cases hfx.1
    | spawn u => cases hfx.1
    | await u r => cases hfx.1

theorem step_alone {i : ι} {sh : σ} {pc : π} {fx : List (Effect T κ ρ)}
    (hact : p.act t i s.shared (s.pc t) = some (sh, pc, fx))
    (hothers : ∀ u, u ≠ t → p.asleepOn (s.pc u) = none)
    (hfx : fx.isEmpty = true ∨ fx.all Effect.isBroadcast = true ∧ p.asleepOn pc = none) :
    p.step t i s = some ⟨sh, Function.update s.pc t pc⟩ := by
  refine step_eq_some.mpr ⟨pc, fx, hact, ?_⟩
  rcases hfx with hnone | ⟨hbroadcast, hawake⟩
  · rw [List.isEmpty_iff.mp hnone]
    rfl
  · refine applyEffects_awake (fun u => ?_) hbroadcast
    by_cases hu : u = t
    · subst hu
      rwa [Function.update_self]
    · rw [Function.update_of_ne hu]
      exact hothers u hu

/-- **A run of one thread**, from a state in which no other thread is asleep. -/
theorem run_alone {f : Pool T σ π → T → Pool T σ π → List α}
    (hf : ∀ u u', f u t u' = g (u.pc t) (u'.pc t)) {is : List ι} {sh : σ} {pc : π} {noted : List α}
    (hothers : ∀ u, u ≠ t → p.asleepOn (s.pc u) = none)
    (h : p.alone g t is s.shared (s.pc t) = some (sh, pc, noted)) :
    p.run (is.map fun i => (t, i)) s = some ⟨sh, Function.update s.pc t pc⟩ ∧
      p.log f (is.map fun i => (t, i)) s = noted := by
  induction is generalizing s noted with
  | nil =>
    cases h
    refine ⟨?_, rfl⟩
    rw [Function.update_eq_self]
    rfl
  | cons i is ih =>
    unfold alone at h
    split at h
    · rename_i sh' pc' fx hact
      split at h
      · rename_i hfx
        obtain ⟨⟨sh'', pc'', noted'⟩, hrest, heq⟩ := Option.map_eq_some_iff.mp h
        cases heq
        have hstep := step_alone hact hothers hfx
        let s₁ : Pool T σ π := ⟨sh', Function.update s.pc t pc'⟩
        -- the others have not moved, so they are still awake
        have hothers₁ : ∀ u, u ≠ t → p.asleepOn (s₁.pc u) = none := by
          intro u hu
          show p.asleepOn (Function.update s.pc t pc' u) = none
          rw [Function.update_of_ne hu]
          exact hothers u hu
        have hrest₁ : p.alone g t is s₁.shared (s₁.pc t) = some (sh, pc, noted') := by
          show p.alone g t is sh' (Function.update s.pc t pc' t) = _
          rw [Function.update_self]
          exact hrest
        obtain ⟨hrun, hlog⟩ := ih hothers₁ hrest₁
        rw [Function.update_idem] at hrun
        refine ⟨?_, ?_⟩
        · rw [List.map_cons, run, hstep]
          exact hrun
        · rw [List.map_cons, log, hstep, Option.elim_some, hlog, hf]
          dsimp only
          rw [Function.update_self]
      · cases h
    · cases h

end Program

end SchedulingEngine.Concurrency
