import SchedulingEngine.Concurrency.ThreadPool

/-!
# Runs that a sequential machine explains

A machine goes from state to state with a letter at each step; `Trace` are its words. A program
simulates it if what is noted down at each step is a word between two states of the machine that
are related to the pools (`Program.simulates`); then so is the log of every run. Where the machine
is deterministic its words can be replayed (`Trace.replay`).
-/

namespace SchedulingEngine.Concurrency

variable {S A : Type*}

/-- The words that lead from one state to another. -/
inductive Trace (next : S → A → S → Prop) : S → List A → S → Prop where
  | nil (s : S) : Trace next s [] s
  | cons {s s' s'' : S} {a : A} {as : List A} (hnext : next s a s')
    (htrace : Trace next s' as s'') :
      Trace next s (a :: as) s''

namespace Trace

variable {next next' : S → A → S → Prop} {s s' s'' : S} {a : A} {as as' : List A}

theorem single (h : next s a s') : Trace next s [a] s' := .cons h (.nil s')

theorem append (h : Trace next s as s') (h' : Trace next s' as' s'') :
    Trace next s (as ++ as') s'' := by
  induction h with
  | nil s => exact h'
  | cons hnext htrace ih => exact .cons hnext (ih h')

/-- **Invariant rule** for words. -/
theorem invariant {I : S → Prop} (h : Trace next s as s') (h0 : I s)
    (hnext : ∀ {s a s'}, I s → next s a s' → I s') : I s' := by
  induction h with
  | nil s => exact h0
  | cons hfirst htrace ih => exact ih (hnext h0 hfirst)

/-- A machine that is deterministic where the invariant holds replays its words. -/
theorem replay {I : S → Prop} {f : S → A → Option S} (h : Trace next s as s') (h0 : I s)
    (hnext : ∀ {s a s'}, I s → next s a s' → I s' ∧ f s a = some s') :
    as.foldlM f s = some s' := by
  induction h with
  | nil s => rfl
  | cons hfirst htrace ih =>
    obtain ⟨hI, hf⟩ := hnext h0 hfirst
    rw [List.foldlM_cons, hf]
    exact ih hI

end Trace

namespace Program

variable {T σ π ι κ ρ : Type} [DecidableEq T] [Fintype T] [DecidableEq κ] [DecidableEq ρ]
  {p : Program T σ π ι κ ρ} {s s' : Pool T σ π}

/-- **Simulation rule**: if at every step the machine goes on with what `f` notes down, then it
explains the log of every run. -/
theorem simulates {next : S → A → S → Prop} (f : Pool T σ π → T → Pool T σ π → List A)
    (R : S → Pool T σ π → Prop)
    (hstep : ∀ {a u u' t i}, R a u → p.step t i u = some u' →
      ∃ a', Trace next a (f u t u') a' ∧ R a' u')
    {a : S} (h0 : R a s) {ls : List (T × ι)} (hrun : p.run ls s = some s') :
    ∃ a', Trace next a (p.log f ls s) a' ∧ R a' s' := by
  refine log_of_steps f (J := fun noted u => ∃ a', Trace next a noted a' ∧ R a' u) ?_
    ⟨a, .nil a, h0⟩ hrun
  rintro u u' t i noted ⟨a', htrace, hR⟩ hu
  obtain ⟨a'', hmore, hR'⟩ := hstep hR hu
  exact ⟨a'', htrace.append hmore, hR'⟩

end Program

end SchedulingEngine.Concurrency
