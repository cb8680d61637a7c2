import SchedulingEngine.Concurrency.ThreadPool

/-!
# Programs that run another program inside

A thread of the outer program `p` may be in the middle of a call to a component
that is a program `q` of its own. `view` says where the thread stands inside the
component (at an outside counter it is where `q` has the thread idle), `embed` is
where the conditions of the component sit among those of `p`.

Under `Embeds`, a step of `p` that runs a step of `q` is a step of `q` on the views
(`step_inner`), and the effects of a step that leaves the component alone are invisible to it
(`applyEffects_outer`). Invariants of the component carry over to the outer program.
-/

namespace SchedulingEngine.Concurrency

/-- The effects of the component, seen by the program around it. -/
def Effect.lift {T κ κ' ρ : Type} (embed : κ' → κ) : Effect T κ' Empty → Effect T κ ρ
  | .signal c woken => .signal (embed c) woken
  | .broadcast c => .broadcast (embed c)
  | .spawn u => .spawn u
  | .await _ r => nomatch r

/-- Nothing changes for a component whose conditions are those of the program. -/
theorem Effect.map_lift_id {T κ : Type} (fx : List (Effect T κ Empty)) :
    fx.map (Effect.lift id) = fx := by
  have hid : (Effect.lift id : Effect T κ Empty → Effect T κ Empty) = id := by
    funext e
    cases e with
    | await u r => exact nomatch r
    | _ => rfl
  rw [hid, List.map_id]

/-- Effects on the component's conditions. -/
def Effect.Inner {T κ ρ : Type} : Effect T κ ρ → Prop
  | .signal _ _ | .broadcast _ => True
  | .spawn _ | .await _ _ => False

/-- Effects that do not touch the component's conditions. -/
def Effect.Outer {T κ κ' ρ : Type} (embed : κ' → κ) : Effect T κ ρ → Prop
  | .signal d _ | .broadcast d => ∀ c, d ≠ embed c
  | .spawn _ | .await _ _ => True

namespace Program

variable {T σ π ι κ ρ σ' π' ι' κ' : Type} [DecidableEq T] [Fintype T] [DecidableEq κ]
  [DecidableEq ρ]

/-- `p` runs `q` inside. -/
structure Embeds (p : Program T σ π ι κ ρ) (q : Program T σ' π' ι' κ' Empty) (embed : κ' → κ)
    (view : π → π') : Prop where
  asleep : ∀ a c, q.asleepOn (view a) = some c ↔ p.asleepOn a = some (embed c)
  wake : ∀ a c, p.asleepOn a = some (embed c) → view (p.wake a) = q.wake (view a)
  wakeOuter : ∀ a d, p.asleepOn a = some d → (∀ c, d ≠ embed c) → view (p.wake a) = view a
  start : ∀ a, p.dormant a = true → view (p.start a) = view a

variable {p : Program T σ π ι κ ρ} {q : Program T σ' π' ι' κ' Empty} {embed : κ' → κ}
  {view : π → π'}

section Inner

variable [DecidableEq κ']

/-- An effect of the component acts on the views as it acts on the threads. -/
theorem Embeds.applyEffect_inner (h : p.Embeds q embed view) {f g : T → π}
    {e : Effect T κ' Empty} (he : e.Inner) (hg : p.applyEffect f (e.lift embed) = some g) :
    q.applyEffect (fun u => view (f u)) e = some fun u => view (g u) := by
  cases e with
  | signal c woken =>
    cases woken with
    | none =>
      simp only [Effect.lift, applyEffect, Option.ite_none_right_eq_some, Option.some.injEq] at hg
      obtain ⟨hnone, rfl⟩ := hg
      have hnone' : ∀ u, q.asleepOn (view (f u)) ≠ some c := by
        intro u hu
        exact hnone u ((h.asleep _ _).mp hu)
      exact if_pos hnone'
    | some v =>
      simp only [Effect.lift, applyEffect, Option.ite_none_right_eq_some, Option.some.injEq] at hg
      obtain ⟨hv, rfl⟩ := hg
      simp only [applyEffect]
      rw [if_pos ((h.asleep _ _).mpr hv), Option.some.injEq]
      funext u
      by_cases hu : u = v
      · subst hu
        simpa using (h.wake _ _ hv).symm
      · simp [hu]
  | broadcast c =>
    simp only [Effect.lift, applyEffect, Option.some.injEq] at hg ⊢
    subst hg
    funext u
    by_cases hu : p.asleepOn (f u) = some (embed c)
    · simpa [hu, (h.asleep _ _).mpr hu] using (h.wake _ _ hu).symm
    · simp [hu, mt (h.asleep _ _).mp hu]
  | spawn v => exact he.elim
  | await v r => exact he.elim

theorem Embeds.applyEffects_inner (h : p.Embeds q embed view) {f g : T → π}
    {fx : List (Effect T κ' Empty)} (hfx : ∀ e ∈ fx, e.Inner)
    (hg : p.applyEffects f (fx.map (Effect.lift embed)) = some g) :
    q.applyEffects (fun u => view (f u)) fx = some fun u => view (g u) := by
  induction fx generalizing f with
  | nil =>
    cases hg
    rfl
  | cons e es ih =>
    obtain ⟨f', hf', hg⟩ := Option.bind_eq_some_iff.mp hg
    have hone := h.applyEffect_inner (hfx e (by simp)) hf'
    have hrest := ih (fun e he => hfx e (by simp [he])) hg
    exact Option.bind_eq_some_iff.mpr ⟨_, hone, hrest⟩

end Inner

/-- Other effects leave the views alone. -/
theorem Embeds.applyEffect_outer (h : p.Embeds q embed view) {f g : T → π}
    {e : Effect T κ ρ} (he : e.Outer embed) (hg : p.applyEffect f e = some g) (u : T) :
    view (g u) = view (f u) := by
  cases e with
  | signal d woken =>
    cases woken with
    | none =>
      simp only [applyEffect, Option.ite_none_right_eq_some, Option.some.injEq] at hg
      rw [hg.2]
    | some v =>
      simp only [applyEffect, Option.ite_none_right_eq_some, Option.some.injEq] at hg
      obtain ⟨hv, rfl⟩ := hg
      by_cases hu : u = v
      · subst hu
        simpa using h.wakeOuter _ _ hv he
      · simp [hu]
  | broadcast d =>
    simp only [applyEffect, Option.some.injEq] at hg
    subst hg
    by_cases hu : p.asleepOn (f u) = some d
    · simpa [hu] using h.wakeOuter _ _ hu he
    · simp [hu]
  | spawn v =>
    simp only [applyEffect, Option.ite_none_right_eq_some, Option.some.injEq] at hg
    obtain ⟨hv, rfl⟩ := hg
    by_cases hu : u = v
    · subst hu
      simpa using h.start _ hv
    · simp [hu]
  | await v r =>
    simp only [applyEffect, Option.ite_none_right_eq_some, Option.some.injEq] at hg
    rw [hg.2]

theorem Embeds.applyEffects_outer (h : p.Embeds q embed view) {f g : T → π}
    {fx : List (Effect T κ ρ)} (hfx : ∀ e ∈ fx, e.Outer embed)
    (hg : p.applyEffects f fx = some g) (u : T) : view (g u) = view (f u) := by
  induction fx generalizing f with
  | nil =>
    cases hg
    rfl
  | cons e es ih =>
    obtain ⟨f', hf', hg⟩ := Option.bind_eq_some_iff.mp hg
    rw [ih (fun e he => hfx e (by simp [he])) hg, h.applyEffect_outer (hfx e (by simp)) hf']

variable {t : T} {s s' : Pool T σ π} {pc : π} {part : σ → σ'}

/-- The component's part of a pool. -/
def inside (part : σ → σ') (view : π → π') (s : Pool T σ π) : Pool T σ' π' :=
  ⟨part s.shared, fun u => view (s.pc u)⟩

omit [Fintype T] in
theorem view_update (view : π → π') (f : T → π) (t : T) (pc : π) :
    (fun u => view (Function.update f t pc u)) =
      Function.update (fun u => view (f u)) t (view pc) := by
  funext u
  by_cases hu : u = t
  · subst hu
    simp
  · simp [hu]

/-- **Running a step of the component is a step of the component.** -/
theorem Embeds.step_inner [DecidableEq κ'] (h : p.Embeds q embed view) {i : ι'}
    {fx : List (Effect T κ' Empty)}
    (hfx : ∀ e ∈ fx, e.Inner)
    (hact : q.act t i (part s.shared) (view (s.pc t)) = some (part s'.shared, view pc, fx))
    (hg : p.applyEffects (Function.update s.pc t pc) (fx.map (Effect.lift embed)) = some s'.pc) :
    q.step t i (inside part view s) = some (inside part view s') := by
  refine step_eq_some.mpr ⟨view pc, fx, hact, ?_⟩
  have hview := h.applyEffects_inner hfx hg
  rw [view_update] at hview
  exact hview

end Program

end SchedulingEngine.Concurrency
