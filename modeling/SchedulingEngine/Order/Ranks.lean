import Mathlib.Data.List.Sort
import Mathlib.Data.Rat.Floor

/-!
# Ranks in sorted lists

In a sorted list at least `k + 1` elements are at most the one at index `k`, and at most `k`
elements are at most a smaller value. The element at index `⌈p n / 100⌉ - 1` is therefore the least
sample that is an upper bound of `p` percent of the samples (`NearestRank`), whatever the ties.
-/

namespace OrderStatistics

variable {α : Type*} [LinearOrder α] {l : List α} {k p : ℕ}

/-- How many elements of `l` are at most `v`. -/
def rank (l : List α) (v : α) : ℕ := l.countP (· ≤ v)

theorem rank_perm {l l' : List α} (h : l.Perm l') (v : α) : rank l v = rank l' v :=
  h.countP_eq _

/-- In a sorted list `k + 1` elements are at most the one at index `k`. -/
theorem lt_rank_getElem (h : l.Pairwise (· ≤ ·)) (hk : k < l.length) : k < rank l l[k] := by
  have hprefix : rank (l.take (k + 1)) l[k] = k + 1 := by
    have hall : ∀ v ∈ l.take (k + 1), decide (v ≤ l[k]) = true := by
      intro v hv
      obtain ⟨i, hi, rfl⟩ := List.mem_take_iff_getElem.mp hv
      have hik : i ≤ k := by omega
      rw [decide_eq_true_iff]
      rcases Nat.lt_or_eq_of_le hik with hlt | rfl
      · exact List.pairwise_iff_getElem.mp h i k (by omega) hk hlt
      · exact le_refl _
    unfold rank
    rw [List.countP_eq_length.mpr hall, List.length_take]
    omega
  have hsub : rank (l.take (k + 1)) l[k] ≤ rank l l[k] :=
    (List.take_sublist (k + 1) l).countP_le
  omega

/-- In a sorted list at most `k` elements are at most a value below the one at index `k`. -/
theorem rank_le_of_lt_getElem (h : l.Pairwise (· ≤ ·)) (hk : k < l.length) {v : α}
    (hv : v < l[k]) : rank l v ≤ k := by
  have hrest : rank (l.drop k) v = 0 := by
    refine List.countP_eq_zero.mpr fun w hw => ?_
    obtain ⟨i, hi, rfl⟩ := List.mem_drop_iff_getElem.mp hw
    have hle : l[k] ≤ l[k + i] := by
      rcases Nat.eq_zero_or_pos i with rfl | hpos
      · exact le_refl _
      · exact List.pairwise_iff_getElem.mp h k (k + i) hk (by omega) (by omega)
    rw [decide_eq_true_iff, not_le]
    exact lt_of_lt_of_le hv hle
  have hsplit : rank l v = rank (l.take k) v + rank (l.drop k) v := by
    unfold rank
    rw [← List.countP_append, List.take_append_drop]
  have hprefix : rank (l.take k) v ≤ (l.take k).length := List.countP_le_length
  rw [List.length_take] at hprefix
  omega

/-- `v` is the least sample such that at least `p` percent of the samples are at most `v`. -/
structure NearestRank (p : ℕ) (l : List α) (v : α) : Prop where
  mem : v ∈ l
  covers : p * l.length ≤ 100 * rank l v
  least : ∀ w ∈ l, p * l.length ≤ 100 * rank l w → v ≤ w

theorem NearestRank.perm {l l' : List α} {v : α} (h : NearestRank p l v) (hperm : l.Perm l') :
    NearestRank p l' v := by
  refine ⟨hperm.mem_iff.mp h.mem, ?_, fun w hw hcovers => ?_⟩
  · rw [← hperm.length_eq, ← rank_perm hperm]
    exact h.covers
  · rw [← hperm.length_eq, ← rank_perm hperm] at hcovers
    exact h.least w (hperm.mem_iff.mpr hw) hcovers

/-- **Nearest rank**: the element of a sorted list at an index `k` with
`100 k < p n ≤ 100 (k + 1)`. -/
theorem nearestRank_getElem (h : l.Pairwise (· ≤ ·)) (hk : k < l.length)
    (hlow : 100 * k < p * l.length) (hhigh : p * l.length ≤ 100 * (k + 1)) :
    NearestRank p l l[k] := by
  constructor
  · exact List.getElem_mem hk
  · have hrank := lt_rank_getElem h hk
    omega
  · intro w hw hcovers
    by_contra hlt
    have hrank := rank_le_of_lt_getElem h hk (not_le.mp hlt)
    omega

/-- The ceiling of a percentage, computed on naturals. -/
theorem ceil_percent (p n : ℕ) :
    ⌈((p * n : ℕ) : ℚ) / (100 : ℕ)⌉ = ((p * n + 99) / 100 : ℕ) := by
  rw [Rat.ceil_natCast_div_natCast]
  omega

end OrderStatistics
