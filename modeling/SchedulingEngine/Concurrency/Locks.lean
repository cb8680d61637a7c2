import SchedulingEngine.Concurrency.Fairness

/-!
# Standing still, and locks

In a fair execution:

- an awake thread that could go on again and again, as long as it has not moved, goes on from where
  it stands (`Execution.Fair.acts_there`);
- a lock is free again and again, if its owner can always go on and each of the owner's steps gives
  it back or comes closer to that (`Execution.Fair.free_again`).
-/

namespace SchedulingEngine.Concurrency

variable {T σ π ι κ ρ : Type} [DecidableEq T] [Fintype T] [DecidableEq κ] [DecidableEq ρ]
  {p : Program T σ π ι κ ρ}

/-- The steps of the others pass over a thread that is awake and started. -/
theorem Program.step_stays {s s' : Pool T σ π} {t u : T} {i : ι}
    (hawake : p.asleepOn (s.pc u) = none)
    (hstarted : p.dormant (s.pc u) = false) (htu : t ≠ u) (hstep : p.step t i s = some s') :
    s'.pc u = s.pc u := by
  obtain ⟨pc, fx, -, hfx⟩ := Program.step_eq_some.mp hstep
  have hsame : Function.update s.pc t pc u = s.pc u := Function.update_of_ne (Ne.symm htu) _ _
  rw [← hsame] at hawake hstarted
  rw [Program.applyEffects_fixed hfx hawake hstarted, hsame]

namespace Execution

variable {e : Execution p} {ready : Pool T σ π → T → Prop} {u : T} {n : ℕ}

/-- A thread that does not act from where it stands stays there. -/
theorem stands (hawake : p.asleepOn ((e.state n).pc u) = none)
    (hstarted : p.dormant ((e.state n).pc u) = false)
    (hstill : ∀ k, n ≤ k → (e.state k).pc u = (e.state n).pc u → ¬e.Acts u k) {k : ℕ} (hk : n ≤ k) :
    (e.state k).pc u = (e.state n).pc u := by
  induction k, hk using Nat.le_induction with
  | base => rfl
  | succ k hk ih =>
    rcases e.next_cases k with ⟨v, i, haction, hstep⟩ | hsame
    · have hvu : v ≠ u := by
        rintro rfl
        exact hstill k hk ih ⟨i, haction⟩
      rw [← ih] at hawake hstarted
      rw [Program.step_stays hawake hstarted hvu hstep, ih]
    · rw [hsame, ih]

/-- **Standing rule**: an awake thread that is ready again and again, as long as it stands where
it stands, acts from there. -/
theorem Fair.acts_there (hfair : e.Fair ready) (hawake : p.asleepOn ((e.state n).pc u) = none)
    (hstarted : p.dormant ((e.state n).pc u) = false)
    (hready : ∀ k, n ≤ k → ∃ m, k ≤ m ∧
      ((e.state m).pc u = (e.state n).pc u → ready (e.state m) u)) :
    ∃ m, n ≤ m ∧ (e.state m).pc u = (e.state n).pc u ∧ e.Acts u m := by
  by_contra hnever
  have hstill : ∀ k, n ≤ k → (e.state k).pc u = (e.state n).pc u → ¬e.Acts u k :=
    fun k hk hsame hacts => hnever ⟨k, hk, hsame, hacts⟩
  obtain ⟨m, hm, hacts⟩ := hfair.acts (t := u) (n := n) fun _ k hk => by
    obtain ⟨m, hm, hready⟩ := hready k hk
    exact ⟨m, hm, hready (stands hawake hstarted hstill (hk.trans hm))⟩
  exact hstill m hm (stands hawake hstarted hstill hm) hacts

/-- **Lock rule**: a lock whose owner is always ready, and comes closer to giving it back by each of
its steps, is free again and again. -/
theorem Fair.free_again (hfair : e.Fair ready) (I : Pool T σ π → Prop)
    (owner : Pool T σ π → Option T) (left : π → ℕ)
    (hinv : ∀ {t i s s'}, I s → p.step t i s = some s' → I s')
    (hself : ∀ {t i s s'}, I s → owner s = some t → p.step t i s = some s' →
      owner s' = none ∨ owner s' = some t ∧ left (s'.pc t) < left (s.pc t))
    (hother : ∀ {t u i s s'}, I s → owner s = some u → t ≠ u → p.step t i s = some s' →
      owner s' = some u ∧ left (s'.pc u) = left (s.pc u))
    (hready : ∀ {s t}, I s → owner s = some t → ready s t) (hn : I (e.state n)) :
    ∃ m, n ≤ m ∧ owner (e.state m) = none := by
  cases howner : owner (e.state n) with
  | none => exact ⟨n, Nat.le_refl n, howner⟩
  | some v =>
    refine hfair.reaches (fun s => I s ∧ owner s = some v) (fun s => owner s = none)
      (fun s => left (s.pc v)) (t := v) ?_ ?_ ?_ ⟨hn, howner⟩
    · rintro u i s s' hu ⟨hs, howner⟩ hstep
      obtain ⟨howner', hleft⟩ := hother hs howner hu hstep
      exact .inr ⟨⟨hinv hs hstep, howner'⟩, hleft.le⟩
    · rintro i s s' ⟨hs, howner⟩ hstep
      refine (hself hs howner hstep).imp_right fun ⟨howner', hlt⟩ => ?_
      exact ⟨⟨hinv hs hstep, howner'⟩, hlt⟩
    · intro k hregion _
      obtain ⟨hs, howner⟩ := hregion k (Nat.le_refl k)
      exact ⟨k, Nat.le_refl k, hready hs howner⟩

end Execution

end SchedulingEngine.Concurrency
