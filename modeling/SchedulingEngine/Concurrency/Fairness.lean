import Mathlib.Data.Finset.Lattice.Fold
import SchedulingEngine.Concurrency.ThreadPool

/-!
# Fair executions

An `Execution` is an infinite sequence of states; at every instant one thread takes a step or
nothing happens, so a run that ends is an execution that stands still from there on. It is
`Fair`, for a given notion of being ready, if a thread that is ready again and again acts again
and again.

`descends` is the rule for progress by a rank that no step raises. `Fair.reaches` is its most
common case: a thread reaches its goal if its own steps bring it closer, the steps of the others
do not take it back, and it cannot stand still for ever without being ready.
-/

namespace SchedulingEngine.Concurrency

variable {T σ π ι κ ρ : Type} [DecidableEq T] [Fintype T] [DecidableEq κ] [DecidableEq ρ]

namespace Program

/-- One instant: a step of a thread, or nothing. -/
def instant (p : Program T σ π ι κ ρ) (s : Pool T σ π) : Option (T × ι) → Option (Pool T σ π)
  | some (t, i) => p.step t i s
  | none => some s

end Program

/-- An infinite sequence of instants. -/
structure Execution (p : Program T σ π ι κ ρ) where
  state : ℕ → Pool T σ π
  action : ℕ → Option (T × ι)
  next : ∀ n, p.instant (state n) (action n) = some (state (n + 1))

namespace Execution

variable {p : Program T σ π ι κ ρ} (e : Execution p)

/-- Thread `t` takes the step at instant `n`. -/
def Acts (t : T) (n : ℕ) : Prop := ∃ i, e.action n = some (t, i)

/-- A thread that is ready again and again acts again and again. -/
def Fair (ready : Pool T σ π → T → Prop) : Prop :=
  ∀ t, (∀ n, ∃ m, n ≤ m ∧ ready (e.state m) t) → ∀ n, ∃ m, n ≤ m ∧ e.Acts t m

variable {e}

theorem next_cases (n : ℕ) :
    (∃ t i, e.action n = some (t, i) ∧ p.step t i (e.state n) = some (e.state (n + 1))) ∨
      e.state (n + 1) = e.state n := by
  have hnext := e.next n
  cases haction : e.action n with
  | none =>
    rw [haction] at hnext
    exact .inr (Option.some.inj hnext).symm
  | some action =>
    rw [haction] at hnext
    exact .inl ⟨action.1, action.2, rfl, hnext⟩

theorem Acts.step {t : T} {n : ℕ} (h : e.Acts t n) :
    ∃ i, p.step t i (e.state n) = some (e.state (n + 1)) := by
  obtain ⟨i, haction⟩ := h
  have hnext := e.next n
  rw [haction] at hnext
  exact ⟨i, hnext⟩

/-- The states of an execution are reached one from the other. -/
theorem steps {n m : ℕ} (h : n ≤ m) : p.Steps (e.state n) (e.state m) := by
  induction m, h using Nat.le_induction with
  | base => exact .refl
  | succ m _ ih =>
    rcases e.next_cases m with ⟨t, i, -, hstep⟩ | hsame
    · exact ih.tail ⟨t, i, hstep⟩
    · rw [hsame]
      exact ih

variable {ready : Pool T σ π → T → Prop}

/-- A thread acts if it cannot stand still for ever without being ready. -/
theorem Fair.acts (hfair : e.Fair ready) {t : T} {n : ℕ}
    (h : (∀ m, n ≤ m → ¬e.Acts t m) → ∀ k, n ≤ k → ∃ m, k ≤ m ∧ ready (e.state m) t) :
    ∃ m, n ≤ m ∧ e.Acts t m := by
  by_contra hnever
  have hstill : ∀ m, n ≤ m → ¬e.Acts t m := fun m hm hacts => hnever ⟨m, hm, hacts⟩
  refine hnever (hfair t (fun k => ?_) n)
  obtain ⟨m, hm, hready⟩ := h hstill (max n k) (Nat.le_max_left n k)
  exact ⟨m, (Nat.le_max_right n k).trans hm, hready⟩

/-- What every step keeps holds from then on. -/
theorem stays {I : Pool T σ π → Prop} (hstep : ∀ {t i s s'}, I s → p.step t i s = some s' → I s')
    {n m : ℕ} (hnm : n ≤ m) (hn : I (e.state n)) : I (e.state m) := by
  induction m, hnm using Nat.le_induction with
  | base => exact hn
  | succ m _ ih =>
    rcases e.next_cases m with ⟨t, i, -, hnext⟩ | hsame
    · exact hstep ih hnext
    · rw [hsame]
      exact ih

/-- What each of finitely many conditions reaches and does not leave, they reach together. -/
theorem reaches_all {ι' : Type} [Fintype ι'] {Q : ι' → Pool T σ π → Prop} {n : ℕ}
    (hkept : ∀ a {k m}, n ≤ k → k ≤ m → Q a (e.state k) → Q a (e.state m))
    (h : ∀ a, ∃ m, n ≤ m ∧ Q a (e.state m)) : ∃ m, n ≤ m ∧ ∀ a, Q a (e.state m) := by
  choose m hm hQ using h
  refine ⟨max n (Finset.univ.sup m), Nat.le_max_left _ _, fun a => ?_⟩
  exact hkept a (hm a) ((Finset.le_sup (Finset.mem_univ a)).trans (Nat.le_max_right _ _)) (hQ a)

/-- **Descent rule.** In the region, every step leads to the target or does not raise the rank.
The target is reached if it is reached wherever the rank has come to a standstill. -/
theorem descends (Region Target : Pool T σ π → Prop) (rank : Pool T σ π → ℕ)
    (hstep : ∀ {t i s s'}, Region s → p.step t i s = some s' →
      Target s' ∨ Region s' ∧ rank s' ≤ rank s)
    (hstandstill : ∀ {n}, (∀ m, n ≤ m → Region (e.state m) ∧ rank (e.state m) = rank (e.state n)) →
      ∃ m, n ≤ m ∧ Target (e.state m))
    {n : ℕ} (hn : Region (e.state n)) : ∃ m, n ≤ m ∧ Target (e.state m) := by
  induction hrank : rank (e.state n) using Nat.strong_induction_on generalizing n with
  | _ k ih =>
    by_contra hnever
    -- as long as the target is not reached the region is not left
    have hstays : ∀ m, n ≤ m → Region (e.state m) ∧ rank (e.state m) ≤ k := by
      intro m hm
      induction m, hm using Nat.le_induction with
      | base => exact ⟨hn, hrank.le⟩
      | succ m hm hstays =>
        obtain ⟨hregion, hle⟩ := hstays
        rcases e.next_cases m with ⟨u, i, -, hnext⟩ | hsame
        · have hmiss : ¬Target (e.state (m + 1)) :=
            fun h => hnever ⟨m + 1, Nat.le_succ_of_le hm, h⟩
          obtain ⟨hregion', hle'⟩ := (hstep hregion hnext).resolve_left hmiss
          exact ⟨hregion', hle'.trans hle⟩
        · rw [hsame]
          exact ⟨hregion, hle⟩
    by_cases hlower : ∃ m, n ≤ m ∧ rank (e.state m) < k
    · obtain ⟨m, hm, hlt⟩ := hlower
      obtain ⟨m', hm', htarget⟩ := ih _ hlt (hstays m hm).1 rfl
      exact hnever ⟨m', hm.trans hm', htarget⟩
    · refine hnever (hstandstill fun m hm => ⟨(hstays m hm).1, ?_⟩)
      rw [hrank]
      exact (hstays m hm).2.antisymm (not_lt.mp fun hlt => hlower ⟨m, hm, hlt⟩)

/-- **Progress rule.** In the region, the steps of thread `t` lead to the target or lower the
rank, and those of the others lead to the target or do not raise it. -/
theorem Fair.reaches (hfair : e.Fair ready) (Region Target : Pool T σ π → Prop)
    (rank : Pool T σ π → ℕ) {t : T}
    (hother : ∀ {u i s s'}, u ≠ t → Region s → p.step u i s = some s' →
      Target s' ∨ Region s' ∧ rank s' ≤ rank s)
    (hself : ∀ {i s s'}, Region s → p.step t i s = some s' →
      Target s' ∨ Region s' ∧ rank s' < rank s)
    (hready : ∀ {n}, (∀ m, n ≤ m → Region (e.state m)) → (∀ m, n ≤ m → ¬e.Acts t m) →
      ∃ m, n ≤ m ∧ ready (e.state m) t)
    {n : ℕ} (hn : Region (e.state n)) : ∃ m, n ≤ m ∧ Target (e.state m) := by
  refine e.descends Region Target rank (fun {u i s s'} hregion hstep => ?_)
    (fun {n} hstands => ?_) hn
  · by_cases hu : u = t
    · subst hu
      exact (hself hregion hstep).imp_right fun ⟨hregion', hlt⟩ => ⟨hregion', hlt.le⟩
    · exact hother hu hregion hstep
  · -- sooner or later the thread acts, and there the rank does not stand still
    obtain ⟨m, hm, hacts⟩ := hfair.acts fun hstill k hk =>
      hready (fun m hm => (hstands m (hk.trans hm)).1) fun m hm => hstill m (hk.trans hm)
    obtain ⟨i, hstep⟩ := hacts.step
    rcases hself (hstands m hm).1 hstep with htarget | ⟨-, hlt⟩
    · exact ⟨m + 1, Nat.le_succ_of_le hm, htarget⟩
    · rw [(hstands m hm).2, (hstands (m + 1) (Nat.le_succ_of_le hm)).2] at hlt
      exact absurd hlt (Nat.lt_irrefl _)

/-! ## Runs that end -/

theorem run_split {ls : List (T × ι)} {s s' : Pool T σ π} (n : ℕ) (h : p.run ls s = some s') :
    ∃ u, p.run (ls.take n) s = some u ∧ p.run (ls.drop n) u = some s' := by
  induction n generalizing ls s with
  | zero => exact ⟨s, rfl, h⟩
  | succ n ih =>
    cases ls with
    | nil => exact ⟨s, rfl, h⟩
    | cons l ls =>
      obtain ⟨v, hv, h⟩ := Option.bind_eq_some_iff.mp h
      obtain ⟨u, hu, hrest⟩ := ih h
      exact ⟨u, Option.bind_eq_some_iff.mpr ⟨v, hv, hu⟩, hrest⟩

section OfRun

variable {ls : List (T × ι)} {s s' : Pool T σ π}

/-- A listed run, and nothing after it. -/
def ofRun (h : p.run ls s = some s') : Execution p where
  state n := (p.run (ls.take n) s).getD s'
  action n := ls[n]?
  next n := by
    obtain ⟨u, hu, hrest⟩ := run_split n h
    rw [hu, List.take_add_one]
    cases hl : ls[n]? with
    | none =>
      rw [Option.toList_none, List.append_nil, hu]
      rfl
    | some l =>
      obtain ⟨hlt, hget⟩ := List.getElem?_eq_some_iff.mp hl
      rw [List.drop_eq_getElem_cons hlt, hget] at hrest
      obtain ⟨v, hv, -⟩ := Option.bind_eq_some_iff.mp hrest
      have hnext : p.run (ls.take n ++ [l]) s = some v :=
        Program.run_append hu (Option.bind_eq_some_iff.mpr ⟨v, hv, rfl⟩)
      rw [Option.toList_some, hnext]
      exact hv

theorem ofRun_last (h : p.run ls s = some s') {n : ℕ} (hn : ls.length ≤ n) :
    (ofRun h).state n = s' := by
  show (p.run (ls.take n) s).getD s' = s'
  rw [List.take_of_length_le hn, h]
  rfl

/-- It is fair if nobody is ready at its end. -/
theorem ofRun_fair (h : p.run ls s = some s') (hquiet : ∀ t, ¬ready s' t) :
    (ofRun h).Fair ready := by
  intro t hready
  obtain ⟨m, hm, hmready⟩ := hready ls.length
  rw [ofRun_last h hm] at hmready
  exact absurd hmready (hquiet t)

end OfRun

end Execution

end SchedulingEngine.Concurrency
