import Mathlib.Algebra.BigOperators.Group.Finset.Basic
import Mathlib.Algebra.Order.BigOperators.Group.Finset

/-!
# Saturating counters

A family of counters that stop at a limit and share one sticky flag. `Shows` relates what the
counters and the flag say to the true, unbounded counts: a counter says `min limit n`, and the
flag says whether some true count is beyond the limit. The relation survives additions
(`Shows.add`), and sums of families that already saturated show the sums of the true counts
(`Shows.sum`), in whatever order they are taken.
-/

namespace Saturation

variable {K ι : Type*} {limit : ℕ} {n value : K → ℕ} {flag : Prop}

/-- What counters cut off at `limit` say of the true counts `n`. -/
structure Shows (limit : ℕ) (n value : K → ℕ) (flag : Prop) : Prop where
  value : ∀ k, value k = min limit (n k)
  flag : flag ↔ ∃ k, limit < n k

namespace Shows

theorem le (h : Shows limit n value flag) (k : K) : value k ≤ limit := by
  rw [h.value k]
  exact Nat.min_le_left _ _

/-- **An addition**: the counter stops at the limit, and the flag is raised if it had to. -/
theorem add [DecidableEq K] (h : Shows limit n value flag) (k : K) (x : ℕ) {value' : K → ℕ}
    {flag' : Prop} (hself : value' k = min limit (value k + x))
    (hother : ∀ j, j ≠ k → value' j = value j) (hflag : flag' ↔ flag ∨ limit < value k + x) :
    Shows limit (Function.update n k (n k + x)) value' flag' := by
  have hk := h.value k
  constructor
  · intro j
    by_cases hj : j = k
    · subst hj
      rw [Function.update_self]
      omega
    · rw [Function.update_of_ne hj, hother j hj, h.value j]
  · rw [hflag, h.flag]
    constructor
    · rintro (⟨j, hj⟩ | hover)
      · refine ⟨j, Nat.lt_of_lt_of_le hj ?_⟩
        by_cases hjk : j = k
        · subst hjk
          rw [Function.update_self]
          exact Nat.le_add_right _ _
        · rw [Function.update_of_ne hjk]
      · refine ⟨k, ?_⟩
        rw [Function.update_self]
        omega
    · rintro ⟨j, hj⟩
      by_cases hjk : j = k
      · subst hjk
        rw [Function.update_self] at hj
        -- the counter was beyond the limit before, or goes beyond it now
        by_cases hbefore : limit < n j
        · exact .inl ⟨j, hbefore⟩
        · right
          omega
      · rw [Function.update_of_ne hjk] at hj
        exact .inl ⟨j, hj⟩

/-- An event counted by one. -/
theorem increment [DecidableEq K] (h : Shows limit n value flag) (k : K) {value' : K → ℕ}
    {flag' : Prop} (hself : value' k = min limit (value k + 1))
    (hother : ∀ j, j ≠ k → value' j = value j) (hflag : flag' ↔ flag ∨ value k = limit) :
    Shows limit (Function.update n k (n k + 1)) value' flag' := by
  refine h.add k 1 hself hother (hflag.trans (or_congr_right ?_))
  have hle := h.le k
  omega

end Shows

/-! ## Sums -/

section Sums

variable {s : Finset ι} {x : ι → ℕ}

/-- Cutting off the terms of a sum does not show after cutting off the sum. -/
theorem min_sum_min (limit : ℕ) (s : Finset ι) (x : ι → ℕ) :
    min limit (∑ i ∈ s, min limit (x i)) = min limit (∑ i ∈ s, x i) := by
  by_cases hover : ∃ i ∈ s, limit < x i
  · obtain ⟨i, hi, hover⟩ := hover
    have hcut : min limit (x i) ≤ ∑ i ∈ s, min limit (x i) :=
      Finset.single_le_sum (f := fun i => min limit (x i)) (fun _ _ => Nat.zero_le _) hi
    have hfull : x i ≤ ∑ i ∈ s, x i := Finset.single_le_sum (fun _ _ => Nat.zero_le _) hi
    omega
  · have hterms : ∑ i ∈ s, min limit (x i) = ∑ i ∈ s, x i := by
      refine Finset.sum_congr rfl fun i hi => Nat.min_eq_right (Nat.not_lt.mp fun hlt => ?_)
      exact hover ⟨i, hi, hlt⟩
    rw [hterms]

/-- A sum is beyond the limit if a term is, or if the sum of the cut terms is. -/
theorem lt_sum_iff (limit : ℕ) (s : Finset ι) (x : ι → ℕ) :
    limit < ∑ i ∈ s, x i ↔ (∃ i ∈ s, limit < x i) ∨ limit < ∑ i ∈ s, min limit (x i) := by
  constructor
  · intro hover
    by_cases hterm : ∃ i ∈ s, limit < x i
    · exact .inl hterm
    · right
      refine Nat.lt_of_lt_of_le hover (Finset.sum_le_sum fun i hi => ?_)
      have hle : x i ≤ limit := Nat.not_lt.mp fun hlt => hterm ⟨i, hi, hlt⟩
      omega
  · rintro (⟨i, hi, hterm⟩ | hover)
    · exact Nat.lt_of_lt_of_le hterm (Finset.single_le_sum (fun _ _ => Nat.zero_le _) hi)
    · exact Nat.lt_of_lt_of_le hover (Finset.sum_le_sum fun i _ => Nat.min_le_right _ _)

/-- **Families that saturated show, summed up, the sums of the true counts.** -/
theorem Shows.sum {n value : ι → K → ℕ} {flag : ι → Prop}
    (h : ∀ i ∈ s, Shows limit (n i) (value i) (flag i)) {total : K → ℕ} {flag' : Prop}
    (htotal : ∀ k, total k = min limit (∑ i ∈ s, value i k))
    (hflag : flag' ↔ (∃ i ∈ s, flag i) ∨ ∃ k, limit < ∑ i ∈ s, value i k) :
    Shows limit (fun k => ∑ i ∈ s, n i k) total flag' := by
  have hvalues : ∀ k, ∑ i ∈ s, value i k = ∑ i ∈ s, min limit (n i k) :=
    fun k => Finset.sum_congr rfl fun i hi => (h i hi).value k
  constructor
  · intro k
    rw [htotal k, hvalues k, min_sum_min]
  · rw [hflag]
    constructor
    · rintro (⟨i, hi, hi'⟩ | ⟨k, hover⟩)
      · obtain ⟨k, hk⟩ := (h i hi).flag.mp hi'
        exact ⟨k, (lt_sum_iff limit s _).mpr (.inl ⟨i, hi, hk⟩)⟩
      · rw [hvalues k] at hover
        exact ⟨k, (lt_sum_iff limit s _).mpr (.inr hover)⟩
    · rintro ⟨k, hover⟩
      rcases (lt_sum_iff limit s _).mp hover with ⟨i, hi, hterm⟩ | hcut
      · exact .inl ⟨i, hi, (h i hi).flag.mpr ⟨k, hterm⟩⟩
      · refine .inr ⟨k, ?_⟩
        rwa [hvalues k]

end Sums

end Saturation
