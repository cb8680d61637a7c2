import Mathlib.Data.List.Basic
import Mathlib.Data.Option.Basic

/-!
# Computations that leave a trace

`Traced ω α` is a computation that may fail and notes events of type `ω` on its way. What was
noted before a failure stays, as with writes to memory. `Within P` says that every event of a
computation has property `P`; `forRange` is a counting loop with an accumulator, with one rule
for what a loop that ends satisfies and one for when it ends.
-/

namespace Tracing

structure Traced (ω α : Type) where
  trace : List ω
  value : Option α

namespace Traced

variable {ω α β : Type}

/-- The second part runs, and leaves its trace, when the first has returned a value. -/
def bind (x : Traced ω α) (f : α → Traced ω β) : Traced ω β where
  trace := x.trace ++ x.value.elim [] fun a => (f a).trace
  value := x.value.bind fun a => (f a).value

instance : Monad (Traced ω) where
  pure a := ⟨[], some a⟩
  bind := bind

/-- Note some events. -/
def note (events : List ω) : Traced ω Unit := ⟨events, some ()⟩

/-- Fail unless a condition holds. -/
def demand (c : Prop) [Decidable c] : Traced ω Unit := ⟨[], if c then some () else none⟩

/-- A computation without events. -/
def ofOption (o : Option α) : Traced ω α := ⟨[], o⟩

/-- `for (i = 0; i < n; i++)`, where `body i` updates an accumulator. -/
def forRange (body : ℕ → α → Traced ω α) : ℕ → α → Traced ω α
  | 0, a => Pure.pure a
  | n + 1, a => forRange body n a >>= body n

section Rules

variable {x : Traced ω α} {f : α → Traced ω β} {body : ℕ → α → Traced ω α} {n : ℕ} {a a' : α}

@[simp] theorem value_pure (a : α) : (Pure.pure a : Traced ω α).value = some a := rfl

@[simp] theorem value_bind (x : Traced ω α) (f : α → Traced ω β) :
    (x >>= f).value = x.value.bind fun a => (f a).value := rfl

@[simp] theorem value_note (events : List ω) : (note events).value = some () := rfl

@[simp] theorem value_demand (c : Prop) [Decidable c] :
    (demand c : Traced ω Unit).value = if c then some () else none := rfl

@[simp] theorem value_ofOption (o : Option α) : (ofOption o : Traced ω α).value = o := rfl

/-- The trace of a sequence is the trace of the first part and then that of the second. -/
theorem trace_bind_of_value (h : x.value = some a) :
    (x >>= f).trace = x.trace ++ (f a).trace := by
  show x.trace ++ x.value.elim [] (fun a => (f a).trace) = _
  rw [h]
  rfl

/-- What was noted stays noted. -/
theorem mem_bind_left {e : ω} (h : e ∈ x.trace) : e ∈ (x >>= f).trace :=
  List.mem_append_left _ h

/-- What the second part traces is in the trace. -/
theorem mem_bind_right {e : ω} (hx : x.value = some a) (h : e ∈ (f a).trace) :
    e ∈ (x >>= f).trace := by
  rw [trace_bind_of_value hx]
  exact List.mem_append_right _ h

/-! ### Properties of all events -/

/-- Every event has property `P`. -/
def Within (P : ω → Prop) (x : Traced ω α) : Prop := ∀ e ∈ x.trace, P e

variable {P : ω → Prop}

theorem within_pure (a : α) : Within P (Pure.pure a : Traced ω α) := by
  rintro e ⟨⟩

theorem within_demand (c : Prop) [Decidable c] : Within P (demand c : Traced ω Unit) := by
  rintro e ⟨⟩

theorem within_ofOption (o : Option α) : Within P (ofOption o : Traced ω α) := by
  rintro e ⟨⟩

theorem within_note {events : List ω} (h : ∀ e ∈ events, P e) : Within P (note events) := h

/-- A sequence stays within what its parts stay within. -/
theorem Within.bind (hx : Within P x) (hf : ∀ a, x.value = some a → Within P (f a)) :
    Within P (x >>= f) := by
  intro e he
  rcases List.mem_append.mp he with he | he
  · exact hx e he
  · cases hvalue : x.value with
    | none =>
      rw [hvalue] at he
      cases he
    | some a =>
      rw [hvalue] at he
      exact hf a hvalue e he

/-- So does a branch, under its own condition. -/
theorem Within.ite {c : Prop} [Decidable c] {x y : Traced ω α} (hx : c → Within P x)
    (hy : ¬c → Within P y) : Within P (if c then x else y) :=
  iteInduction hx hy

/-- And a loop whose every turn does. -/
theorem within_forRange (h : ∀ i < n, ∀ a, Within P (body i a)) (a : α) :
    Within P (forRange body n a) := by
  induction n with
  | zero => exact within_pure a
  | succ n ih =>
    refine (ih fun i hi => h i (Nat.lt_succ_of_lt hi)).bind fun a' _ => ?_
    exact h n (Nat.lt_succ_self n) a'

/-! ### Counting loops -/

/-- A loop ends if every iteration does from a state with the invariant. -/
theorem forRange_total {I : ℕ → α → Prop} (h0 : I 0 a)
    (hstep : ∀ i < n, ∀ x, I i x → ∃ y, (body i x).value = some y ∧ I (i + 1) y) :
    ∃ a', (forRange body n a).value = some a' ∧ I n a' := by
  induction n with
  | zero => exact ⟨a, rfl, h0⟩
  | succ n ih =>
    obtain ⟨x, hx, hn⟩ := ih fun i hi => hstep i (Nat.lt_succ_of_lt hi)
    obtain ⟨y, hy, hsucc⟩ := hstep n (Nat.lt_succ_self n) x hn
    refine ⟨y, ?_, hsucc⟩
    rw [forRange, value_bind, hx]
    exact hy

/-- A loop whose iterations end or not whatever the accumulator. -/
theorem forRange_isSome_iff {C : ℕ → Prop}
    (hbody : ∀ i x, (body i x).value.isSome = true ↔ C i) (a : α) (n : ℕ) :
    (forRange body n a).value.isSome = true ↔ ∀ i < n, C i := by
  induction n with
  | zero => exact ⟨fun _ i hi => absurd hi (Nat.not_lt_zero i), fun _ => rfl⟩
  | succ n ih =>
    rw [forRange, value_bind, Nat.forall_lt_succ_right, ← ih]
    cases (forRange body n a).value with
    | none => simp
    | some x => simpa using hbody n x

/-- A loop that cannot fail computes what its iterations compute. -/
theorem forRange_value {F : ℕ → α} (hbody : ∀ i, (body i (F i)).value = some (F (i + 1))) (n : ℕ) :
    (forRange body n (F 0)).value = some (F n) := by
  induction n with
  | zero => rfl
  | succ n ih =>
    rw [forRange, value_bind, ih]
    exact hbody n

/-- A loop that ends went through some iteration. -/
theorem forRange_some (hn : 0 < n) (h : (forRange body n a).value = some a') :
    ∃ i x, (body i x).value = some a' := by
  cases n with
  | zero => exact absurd hn (Nat.lt_irrefl 0)
  | succ n =>
    rw [forRange, value_bind, Option.bind_eq_some_iff] at h
    obtain ⟨x, -, hbody⟩ := h
    exact ⟨n, x, hbody⟩

/-- The events of a loop's first iterations are events of the loop. -/
theorem mem_forRange {m : ℕ} {e : ω} (hm : m ≤ n) (h : e ∈ (forRange body m a).trace) :
    e ∈ (forRange body n a).trace := by
  induction hm with
  | refl => exact h
  | step _ ih => exact mem_bind_left ih

end Rules

end Traced

end Tracing
