import SchedulingEngine.Concurrency.Congruence

/-!
# Programs that carry another program

`p` carries `q` if forgetting a part of the state, of the program counters and of the scheduler's
choices turns the steps of `p` into the steps of `q`: a step is possible in `p` iff it is possible
in `q`, and what is kept of its outcome is the outcome in `q`. Then the same is true of whole runs,
in both directions at once (`Projects.run`): what `p` adds cannot be noticed in `q`.
-/

namespace SchedulingEngine.Concurrency

namespace Program

variable {T σ π ι κ ρ α β ι' : Type} [DecidableEq T] [Fintype T] [DecidableEq κ] [DecidableEq ρ]

/-- What `view`, `look` and `choose` keep of `p` runs as `q`. -/
structure Projects (p : Program T σ π ι κ ρ) (q : Program T α β ι' κ ρ) (view : σ → α)
    (look : π → β) (choose : ι → ι') : Prop where
  act : ∀ t i sh a, (p.act t i sh a).map (seen view look) = q.act t (choose i) (view sh) (look a)
  asleepOn : ∀ a, q.asleepOn (look a) = p.asleepOn a
  wake : ∀ a, look (p.wake a) = q.wake (look a)
  dormant : ∀ a, q.dormant (look a) = p.dormant a
  start : ∀ a, look (p.start a) = q.start (look a)
  finished : ∀ a, q.finished (look a) = p.finished a

variable {p : Program T σ π ι κ ρ} {q : Program T α β ι' κ ρ} {view : σ → α} {look : π → β}
  {choose : ι → ι'}

omit [Fintype T] in
theorem look_comp_update (look : π → β) (f : T → π) (t : T) (a : π) :
    look ∘ Function.update f t a = Function.update (look ∘ f) t (look a) :=
  Function.comp_update look f t a

/-- An effect on the counters of `p` is the effect on what is kept of them. -/
theorem Projects.applyEffect (h : p.Projects q view look choose) (f : T → π) (e : Effect T κ ρ) :
    (p.applyEffect f e).map (look ∘ ·) = q.applyEffect (look ∘ f) e := by
  cases e with
  | signal c woken =>
    cases woken with
    | none =>
      simp only [Program.applyEffect, Function.comp_apply, h.asleepOn]
      split
      · rfl
      · rfl
    | some u =>
      simp only [Program.applyEffect, Function.comp_apply, h.asleepOn, ← h.wake]
      split
      · exact congrArg some (look_comp_update look f u _)
      · rfl
  | broadcast c =>
    refine congrArg some (funext fun u => ?_)
    simp only [Function.comp_apply, h.asleepOn, ← h.wake]
    split
    · rfl
    · rfl
  | spawn u =>
    simp only [Program.applyEffect, Function.comp_apply, h.dormant, ← h.start]
    split
    · exact congrArg some (look_comp_update look f u _)
    · rfl
  | await u r =>
    simp only [Program.applyEffect, Function.comp_apply, h.finished]
    split
    · rfl
    · rfl

theorem Projects.applyEffects (h : p.Projects q view look choose) (f : T → π)
    (fx : List (Effect T κ ρ)) :
    (p.applyEffects f fx).map (look ∘ ·) = q.applyEffects (look ∘ f) fx := by
  induction fx generalizing f with
  | nil => rfl
  | cons e es ih =>
    have hfirst := h.applyEffect f e
    unfold Program.applyEffects
    rw [← hfirst]
    cases p.applyEffect f e with
    | none => rfl
    | some g => exact ih g

/-- One step. -/
theorem Projects.step (h : p.Projects q view look choose) (t : T) (i : ι) (s : Pool T σ π) :
    (p.step t i s).map (appearance view look) = q.step t (choose i) (appearance view look s) := by
  have hact := h.act t i s.shared (s.pc t)
  unfold Program.step
  rw [show (appearance view look s).shared = view s.shared from rfl,
    show (appearance view look s).pc t = look (s.pc t) from rfl, ← hact]
  cases p.act t i s.shared (s.pc t) with
  | none => rfl
  | some out =>
    obtain ⟨sh, a, fx⟩ := out
    have heffects := h.applyEffects (Function.update s.pc t a) fx
    rw [look_comp_update] at heffects
    simp only [Option.bind_some, Option.map_some, seen]
    rw [show (appearance view look s).pc = look ∘ s.pc from rfl, ← heffects]
    cases p.applyEffects (Function.update s.pc t a) fx with
    | none => rfl
    | some f => rfl

/-- **A run of the carrying program is a run of the carried one**, and stops where it stops. -/
theorem Projects.run (h : p.Projects q view look choose) (ls : List (T × ι)) (s : Pool T σ π) :
    (p.run ls s).map (appearance view look)
      = q.run (ls.map (Prod.map id choose)) (appearance view look s) := by
  induction ls generalizing s with
  | nil => rfl
  | cons l ls ih =>
    obtain ⟨t, i⟩ := l
    have hstep := h.step t i s
    simp only [Program.run, List.map_cons, Prod.map_apply, id_eq]
    rw [← hstep]
    cases p.step t i s with
    | none => rfl
    | some s' => exact ih s'

end Program

end SchedulingEngine.Concurrency
