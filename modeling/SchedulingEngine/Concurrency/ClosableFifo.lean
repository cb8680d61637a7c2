import Mathlib.Data.List.Basic
import Mathlib.Data.Nat.Basic

/-!
# Bounded closable FIFOs

The sequential object behind a bounded blocking queue: a list of elements, oldest
first, that never outgrows its capacity, a flag that once set stays set, and the
greatest length reached so far. A value carries the proof of its bounds.

- `insert` is possible only while the FIFO is open and has room;
- `remove` and `peek` take the oldest element whether or not it is closed;
- `close` is irreversible.
-/

namespace SchedulingEngine.Concurrency

/-- A bounded closable FIFO of `α`. -/
@[ext]
structure ClosableFifo (α : Type) where
  contents : List α
  capacity : ℕ
  closed : Bool
  highWater : ℕ
  length_le : contents.length ≤ highWater
  highWater_le : highWater ≤ capacity

namespace ClosableFifo

variable {α : Type}

/-- Open and empty. -/
def empty (capacity : ℕ) : ClosableFifo α where
  contents := []
  capacity := capacity
  closed := false
  highWater := 0
  length_le := Nat.le_refl _
  highWater_le := Nat.zero_le _

/-- Append `a`, if the FIFO is open and has room. -/
def insert (f : ClosableFifo α) (a : α) : Option (ClosableFifo α) :=
  if h : f.closed = false ∧ f.contents.length < f.capacity then
    some
      { f with
        contents := f.contents ++ [a]
        highWater := max f.highWater (f.contents.length + 1)
        length_le := by
          rw [List.length_append]
          exact Nat.le_max_right _ _
        highWater_le := Nat.max_le.mpr ⟨f.highWater_le, h.2⟩ }
  else none

/-- Take the oldest element off. -/
def remove (f : ClosableFifo α) : Option (α × ClosableFifo α) :=
  match h : f.contents with
  | [] => none
  | a :: rest =>
    some (a, { f with
      contents := rest
      length_le := by
        have hlen := f.length_le
        rw [h, List.length_cons] at hlen
        omega })

/-- The oldest element. -/
def peek (f : ClosableFifo α) : Option α := f.contents.head?

/-- Refuse insertions from now on. -/
def close (f : ClosableFifo α) : ClosableFifo α := { f with closed := true }

variable {f f' : ClosableFifo α} {a : α}

theorem insert_eq_some :
    f.insert a = some f' ↔ f.closed = false ∧ f.contents.length < f.capacity ∧
      f'.contents = f.contents ++ [a] ∧ f'.capacity = f.capacity ∧ f'.closed = f.closed ∧
      f'.highWater = max f.highWater (f.contents.length + 1) := by
  unfold insert
  split
  · rename_i h
    rw [Option.some.injEq, ClosableFifo.ext_iff]
    constructor
    · rintro ⟨h₁, h₂, h₃, h₄⟩
      exact ⟨h.1, h.2, h₁.symm, h₂.symm, h₃.symm, h₄.symm⟩
    · rintro ⟨-, -, h₁, h₂, h₃, h₄⟩
      exact ⟨h₁.symm, h₂.symm, h₃.symm, h₄.symm⟩
  · rename_i h
    constructor
    · intro hnone
      cases hnone
    · rintro ⟨h₁, h₂, -⟩
      exact absurd ⟨h₁, h₂⟩ h

theorem insert_eq_none : f.insert a = none ↔ f.closed = true ∨ f.capacity ≤ f.contents.length := by
  unfold insert
  split
  · rename_i h
    simp [h.1]
    omega
  · rename_i h
    simp only [true_iff]
    by_cases hc : f.closed = true
    · exact .inl hc
    · exact .inr (by
        have := mt (fun hl => ⟨by simp [hc], hl⟩) h
        omega)

theorem remove_eq_some :
    f.remove = some (a, f') ↔ f.contents = a :: f'.contents ∧ f'.capacity = f.capacity ∧
      f'.closed = f.closed ∧ f'.highWater = f.highWater := by
  unfold remove
  split
  · rename_i h
    simp [h]
  · rename_i b rest h
    rw [Option.some.injEq, Prod.mk.injEq, ClosableFifo.ext_iff]
    constructor
    · rintro ⟨rfl, rfl, h₂, h₃, h₄⟩
      exact ⟨h, h₂.symm, h₃.symm, h₄.symm⟩
    · rintro ⟨h₁, h₂, h₃, h₄⟩
      obtain ⟨hb, hrest⟩ := List.cons.inj (h.symm.trans h₁)
      exact ⟨hb, hrest, h₂.symm, h₃.symm, h₄.symm⟩

theorem remove_eq_none : f.remove = none ↔ f.contents = [] := by
  unfold remove
  split <;> simp_all

end ClosableFifo

end SchedulingEngine.Concurrency
