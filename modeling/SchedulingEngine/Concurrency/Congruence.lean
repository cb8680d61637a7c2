import SchedulingEngine.Concurrency.ThreadPool

/-!
# Programs that depend on a view of their state only

`view` forgets a part of the shared state, `look` a part of the program counters. A program
is congruent for them if a step depends only on what they keep: two pools that look the
same then go on looking the same under every schedule (`Congruent.run`).
-/

namespace SchedulingEngine.Concurrency

namespace Program

variable {T σ π ι κ ρ α β : Type} [DecidableEq T] [Fintype T] [DecidableEq κ] [DecidableEq ρ]

/-- What is kept of a step. -/
def seen (view : σ → α) (look : π → β) (out : σ × π × List (Effect T κ ρ)) :
    α × β × List (Effect T κ ρ) :=
  (view out.1, look out.2.1, out.2.2)

/-- Steps depend on what `view` and `look` keep, and so do their effects. -/
structure Congruent (p : Program T σ π ι κ ρ) (view : σ → α) (look : π → β) : Prop where
  act : ∀ t i {sh₁ sh₂ a₁ a₂}, view sh₁ = view sh₂ → look a₁ = look a₂ →
    (p.act t i sh₁ a₁).map (seen view look) = (p.act t i sh₂ a₂).map (seen view look)
  asleepOn : ∀ {a₁ a₂}, look a₁ = look a₂ → p.asleepOn a₁ = p.asleepOn a₂
  wake : ∀ {a₁ a₂}, look a₁ = look a₂ → look (p.wake a₁) = look (p.wake a₂)
  dormant : ∀ {a₁ a₂}, look a₁ = look a₂ → p.dormant a₁ = p.dormant a₂
  start : ∀ {a₁ a₂}, look a₁ = look a₂ → look (p.start a₁) = look (p.start a₂)
  finished : ∀ {a₁ a₂}, look a₁ = look a₂ → p.finished a₁ = p.finished a₂

/-- What is kept of a pool. -/
def appearance (view : σ → α) (look : π → β) (s : Pool T σ π) : Pool T α β :=
  ⟨view s.shared, fun u => look (s.pc u)⟩

variable {p : Program T σ π ι κ ρ} {view : σ → α} {look : π → β} {f₁ f₂ : T → π}

omit [Fintype T] in
theorem look_update {a₁ a₂ : π} (hf : ∀ u, look (f₁ u) = look (f₂ u)) (ha : look a₁ = look a₂)
    (t u : T) : look (Function.update f₁ t a₁ u) = look (Function.update f₂ t a₂ u) := by
  by_cases hut : u = t
  · subst hut
    simpa using ha
  · simpa [hut] using hf u

/-- An effect is possible for both, or for neither. -/
theorem Congruent.applyEffect (h : p.Congruent view look) (hf : ∀ u, look (f₁ u) = look (f₂ u))
    (e : Effect T κ ρ) :
    (p.applyEffect f₁ e).map (look ∘ ·) = (p.applyEffect f₂ e).map (look ∘ ·) := by
  have hsame : look ∘ f₁ = look ∘ f₂ := funext hf
  cases e with
  | signal c woken =>
    cases woken with
    | none =>
      simp only [Program.applyEffect, h.asleepOn (hf _)]
      split
      · exact congrArg some hsame
      · rfl
    | some u =>
      simp only [Program.applyEffect, h.asleepOn (hf u)]
      split
      · exact congrArg some (funext (look_update hf (h.wake (hf u)) u))
      · rfl
  | broadcast c =>
    refine congrArg some (funext fun u => ?_)
    simp only [Function.comp_apply, h.asleepOn (hf u)]
    split
    · exact h.wake (hf u)
    · exact hf u
  | spawn u =>
    simp only [Program.applyEffect, h.dormant (hf u)]
    split
    · exact congrArg some (funext (look_update hf (h.start (hf u)) u))
    · rfl
  | await u r =>
    simp only [Program.applyEffect, h.finished (hf u)]
    split
    · exact congrArg some hsame
    · rfl

theorem Congruent.applyEffects (h : p.Congruent view look) (hf : ∀ u, look (f₁ u) = look (f₂ u))
    (fx : List (Effect T κ ρ)) :
    (p.applyEffects f₁ fx).map (look ∘ ·) = (p.applyEffects f₂ fx).map (look ∘ ·) := by
  induction fx generalizing f₁ f₂ with
  | nil => exact congrArg some (funext hf)
  | cons e es ih =>
    have hfirst := h.applyEffect hf e
    unfold Program.applyEffects
    cases h₁ : p.applyEffect f₁ e with
    | none =>
      rw [h₁] at hfirst
      rw [Option.map_eq_none_iff.mp hfirst.symm]
    | some g₁ =>
      rw [h₁] at hfirst
      obtain ⟨g₂, h₂, hg⟩ := Option.map_eq_some_iff.mp hfirst.symm
      rw [h₂]
      exact ih fun u => (congrFun hg u).symm

/-- One step. -/
theorem Congruent.step (h : p.Congruent view look) {s₁ s₂ : Pool T σ π}
    (hs : appearance view look s₁ = appearance view look s₂) (t : T) (i : ι) :
    (p.step t i s₁).map (appearance view look) = (p.step t i s₂).map (appearance view look) := by
  obtain ⟨hshared, hpcs⟩ := Pool.mk.inj hs
  have hpc : ∀ u, look (s₁.pc u) = look (s₂.pc u) := congrFun hpcs
  have hact := h.act t i hshared (hpc t)
  unfold Program.step
  cases h₁ : p.act t i s₁.shared (s₁.pc t) with
  | none =>
    rw [h₁] at hact
    rw [Option.map_eq_none_iff.mp hact.symm]
    rfl
  | some out₁ =>
    rw [h₁] at hact
    obtain ⟨out₂, h₂, hout⟩ := Option.map_eq_some_iff.mp hact.symm
    rw [h₂]
    obtain ⟨sh₁, a₁, fx₁⟩ := out₁
    obtain ⟨sh₂, a₂, fx₂⟩ := out₂
    obtain ⟨hsh, hrest⟩ := Prod.mk.inj hout
    obtain ⟨ha, hfx⟩ := Prod.mk.inj hrest
    dsimp only at hsh ha hfx
    subst hfx
    have heffects := h.applyEffects (look_update hpc ha.symm t) fx₂
    simp only [Option.bind_some, Option.map_map]
    have hmake : ∀ (sh : σ) (o : Option (T → π)),
        o.map (appearance view look ∘ fun f => ⟨sh, f⟩)
          = (o.map (look ∘ ·)).map fun g => ⟨view sh, g⟩ := by
      intro sh o
      cases o <;> rfl
    rw [hmake, hmake, heffects, hsh]

/-- **Pools that look the same go on looking the same** under every schedule. -/
theorem Congruent.run (h : p.Congruent view look) (ls : List (T × ι)) {s₁ s₂ : Pool T σ π}
    (hs : appearance view look s₁ = appearance view look s₂) :
    (p.run ls s₁).map (appearance view look) = (p.run ls s₂).map (appearance view look) := by
  induction ls generalizing s₁ s₂ with
  | nil => exact congrArg some hs
  | cons l ls ih =>
    obtain ⟨t, i⟩ := l
    have hstep := h.step hs t i
    unfold Program.run
    cases h₁ : p.step t i s₁ with
    | none =>
      rw [h₁] at hstep
      rw [Option.map_eq_none_iff.mp hstep.symm]
    | some s₁' =>
      rw [h₁] at hstep
      obtain ⟨s₂', h₂, hs'⟩ := Option.map_eq_some_iff.mp hstep.symm
      rw [h₂]
      exact ih hs'.symm

end Program

end SchedulingEngine.Concurrency
