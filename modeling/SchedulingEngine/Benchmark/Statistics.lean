import SchedulingEngine.Order.Ranks
import SchedulingEngine.Queue.TaskQueue

/-!
# Percentiles (benchmark_scheduler.c, analyze_benchmark.py)

`calculate_statistics` sorts a copy of the samples and reads four of its slots; the mean and the
standard deviation are floating point and left out. `size_t` arithmetic wraps, and a read outside
the copy is no value (`none`).

`percentiles_nearest_rank`: the indices stay inside, the values are those of nearest rank, and the
index of the 95th percentile is the one that `summarize` computes.
-/

namespace SchedulingEngine

open OrderStatistics

/-- The part of `Statistics` that is no floating point. -/
structure Statistics where
  count : ℕ
  minimum : ℕ
  maximum : ℕ
  p50 : ℕ
  p95 : ℕ
  deriving DecidableEq, Repr

/-- `((p * count) + 99U) / 100U - 1U`. -/
def percentileIndex (p count : ℕ) : ℕ :=
  sizeDecrement ((p * count % 2 ^ 64 + 99) % 2 ^ 64 / 100)

/-- `sizeof(uint64_t)`. -/
def sampleSize : ℕ := 8

/-- `calculate_statistics`; `allocated` is whether `malloc` returned a buffer. -/
def calculateStatistics (values : List ℕ) (allocated : Bool) : Option Statistics := do
  let count := values.length
  if count = 0 ∨ count > sizeMax / sampleSize then none
  if allocated = false then none
  let sorted := values.mergeSort
  let minimum ← sorted[0]?
  let maximum ← sorted[count - 1]?
  let p50 ← sorted[percentileIndex 50 count]?
  let p95 ← sorted[percentileIndex 95 count]?
  return { count, minimum, maximum, p50, p95 }

/-- The index of `elapsed_p95_ns` in `summarize`; `//` on positive numbers is `Int.fdiv`. -/
def summarizeP95Index (count : ℕ) : ℤ := max 0 (Int.fdiv (95 * count + 99) 100 - 1)

section Indices

variable {p n : ℕ}

/-- Nothing wraps. -/
theorem percentileIndex_eq (hn : 0 < n) (hp : 0 < p) (hfits : p * n + 99 ≤ sizeMax) :
    percentileIndex p n + 1 = (p * n + 99) / 100 := by
  have hpos : 0 < p * n := Nat.mul_pos hp hn
  unfold percentileIndex sizeDecrement
  unfold sizeMax at hfits ⊢
  rw [Nat.mod_eq_of_lt (show p * n < 2 ^ 64 by omega), Nat.mod_eq_of_lt (by omega)]
  split <;> omega

theorem percentileIndex_lt (hn : 0 < n) (hp : 0 < p) (hp' : p ≤ 100)
    (hfits : p * n + 99 ≤ sizeMax) : percentileIndex p n < n := by
  have hindex := percentileIndex_eq hn hp hfits
  have hle : p * n ≤ 100 * n := Nat.mul_le_mul_right n hp'
  omega

theorem percentileIndex_ceil (hn : 0 < n) (hp : 0 < p) (hfits : p * n + 99 ≤ sizeMax) :
    (percentileIndex p n : ℤ) = ⌈((p * n : ℕ) : ℚ) / (100 : ℕ)⌉ - 1 := by
  rw [ceil_percent, ← percentileIndex_eq hn hp hfits]
  omega

theorem summarizeP95Index_eq (hn : 0 < n) (hfits : 95 * n + 99 ≤ sizeMax) :
    summarizeP95Index n = percentileIndex 95 n := by
  have hindex := percentileIndex_eq hn (by omega) hfits
  unfold summarizeP95Index
  rw [Int.fdiv_eq_ediv_of_nonneg _ (by omega)]
  omega

end Indices

/-! ## The reported values -/

section Sorted

variable {values : List ℕ}

theorem mergeSort_sorted (values : List ℕ) : values.mergeSort.Pairwise (· ≤ ·) := by
  have h : values.mergeSort.Pairwise fun a b => decide (a ≤ b) = true :=
    List.pairwise_mergeSort (by simpa using fun a b c => Nat.le_trans) (by simpa using Nat.le_total)
      values
  simpa using h

theorem mergeSort_perm_samples (values : List ℕ) : values.mergeSort.Perm values :=
  List.mergeSort_perm values _

/-- What the copy holds at the index of a percentile. -/
theorem percentile_getElem {p : ℕ} (hp : 0 < p) (hp' : p ≤ 100) (hne : values ≠ [])
    (hfits : p * values.length + 99 ≤ sizeMax) :
    ∃ v, values.mergeSort[percentileIndex p values.length]? = some v ∧ NearestRank p values v := by
  have hn : 0 < values.length := List.length_pos_iff.mpr hne
  have hindex := percentileIndex_eq hn hp hfits
  have hlt : percentileIndex p values.length < values.mergeSort.length := by
    rw [List.length_mergeSort]
    exact percentileIndex_lt hn hp hp' hfits
  refine ⟨_, List.getElem?_eq_getElem hlt, ?_⟩
  refine NearestRank.perm ?_ (mergeSort_perm_samples values)
  have hpos : 0 < p * values.length := Nat.mul_pos hp hn
  refine nearestRank_getElem (mergeSort_sorted values) hlt ?_ ?_
  · rw [List.length_mergeSort]
    omega
  · rw [List.length_mergeSort]
    omega

/-- The copy is in order. -/
theorem mergeSort_getElem?_le {i j : ℕ} {v w : ℕ} (hij : i ≤ j)
    (hv : values.mergeSort[i]? = some v) (hw : values.mergeSort[j]? = some w) : v ≤ w := by
  obtain ⟨hi, rfl⟩ := List.getElem?_eq_some_iff.mp hv
  obtain ⟨hj, rfl⟩ := List.getElem?_eq_some_iff.mp hw
  rcases Nat.lt_or_eq_of_le hij with hlt | rfl
  · exact List.pairwise_iff_getElem.mp (mergeSort_sorted values) i j hi hj hlt
  · exact Nat.le_refl _

/-- Two orders of the same samples have the same copy. -/
theorem mergeSort_congr {values' : List ℕ} (h : values'.Perm values) :
    values'.mergeSort = values.mergeSort := by
  have hperm : values'.mergeSort.Perm values.mergeSort :=
    ((mergeSort_perm_samples values').trans h).trans (mergeSort_perm_samples values).symm
  exact hperm.eq_of_pairwise' (mergeSort_sorted values') (mergeSort_sorted values)

end Sorted

/-- A percentile as the README defines it: the index is `⌈p n / 100⌉ - 1`, inside the samples, and
the value there is the one of nearest rank. -/
structure ReportsPercentile (p : ℕ) (values : List ℕ) (v : ℕ) : Prop where
  index : (percentileIndex p values.length : ℤ)
    = ⌈((p * values.length : ℕ) : ℚ) / (100 : ℕ)⌉ - 1
  inRange : percentileIndex p values.length < values.length
  value : values.mergeSort[percentileIndex p values.length]? = some v
  nearest : NearestRank p values v

/-- What `calculate_statistics` reads from the copy, whatever the order of the samples. -/
theorem calculateStatistics_eq (values : List ℕ) (hne : values ≠ [])
    (hfits : 95 * values.length + 99 ≤ sizeMax) :
    ∃ statistics : Statistics, values.mergeSort[0]? = some statistics.minimum ∧
      values.mergeSort[values.length - 1]? = some statistics.maximum ∧
      values.mergeSort[percentileIndex 50 values.length]? = some statistics.p50 ∧
      values.mergeSort[percentileIndex 95 values.length]? = some statistics.p95 ∧
      ∀ values', values'.Perm values → calculateStatistics values' true = some statistics := by
  have hn : 0 < values.length := List.length_pos_iff.mpr hne
  have hread : ∀ i, i < values.length → ∃ v, values.mergeSort[i]? = some v := by
    intro i hi
    rw [← (mergeSort_perm_samples values).length_eq] at hi
    exact ⟨_, List.getElem?_eq_getElem hi⟩
  obtain ⟨minimum, hmin⟩ := hread 0 hn
  obtain ⟨maximum, hmax⟩ := hread (values.length - 1) (by omega)
  obtain ⟨p50, hp50⟩ := hread _ (percentileIndex_lt hn (p := 50) (by omega) (by omega) (by omega))
  obtain ⟨p95, hp95⟩ := hread _ (percentileIndex_lt hn (p := 95) (by omega) (by omega) hfits)
  have hsize : ¬ (values.length = 0 ∨ values.length > sizeMax / sampleSize) := by
    unfold sizeMax at hfits ⊢
    unfold sampleSize
    omega
  refine ⟨⟨values.length, minimum, maximum, p50, p95⟩, hmin, hmax, hp50, hp95, ?_⟩
  intro values' hperm
  unfold calculateStatistics
  simp only [hperm.length_eq, mergeSort_congr hperm, hmin, hmax, hp50, hp95, if_neg hsize]
  rfl

/-- **Percentiles are nearest-rank**, for every non-empty list of samples that the index
arithmetic can count. -/
theorem percentiles_nearest_rank (values : List ℕ) (hne : values ≠ [])
    (hfits : 95 * values.length + 99 ≤ sizeMax) :
    ∃ statistics, calculateStatistics values true = some statistics ∧
      ReportsPercentile 50 values statistics.p50 ∧ ReportsPercentile 95 values statistics.p95 ∧
      statistics.minimum ≤ statistics.p50 ∧ statistics.p50 ≤ statistics.p95 ∧
      statistics.p95 ≤ statistics.maximum ∧
      (∀ values', values'.Perm values → calculateStatistics values' true = some statistics) ∧
      summarizeP95Index values.length = percentileIndex 95 values.length := by
  have hn : 0 < values.length := List.length_pos_iff.mpr hne
  have hfits50 : 50 * values.length + 99 ≤ sizeMax := by omega
  obtain ⟨statistics, hmin, hmax, hp50, hp95, hrun⟩ := calculateStatistics_eq values hne hfits
  obtain ⟨v50, hv50, hrank50⟩ := percentile_getElem (p := 50) (by omega) (by omega) hne hfits50
  obtain ⟨v95, hv95, hrank95⟩ := percentile_getElem (p := 95) (by omega) (by omega) hne hfits
  obtain rfl : statistics.p50 = v50 := Option.some.inj (hp50.symm.trans hv50)
  obtain rfl : statistics.p95 = v95 := Option.some.inj (hp95.symm.trans hv95)
  have hlt95 := percentileIndex_lt hn (by omega) (by omega) hfits
  have horder : percentileIndex 50 values.length ≤ percentileIndex 95 values.length := by
    have h50 := percentileIndex_eq hn (by omega) hfits50
    have h95 := percentileIndex_eq hn (by omega) hfits
    omega
  refine ⟨statistics, hrun values (.refl _), ?_, ?_, ?_, ?_, ?_, hrun,
    summarizeP95Index_eq hn hfits⟩
  · exact ⟨percentileIndex_ceil hn (by omega) hfits50, by omega, hp50, hrank50⟩
  · exact ⟨percentileIndex_ceil hn (by omega) hfits, hlt95, hp95, hrank95⟩
  · exact mergeSort_getElem?_le (Nat.zero_le _) hmin hp50
  · exact mergeSort_getElem?_le horder hp50 hp95
  · exact mergeSort_getElem?_le (by omega) hp95 hmax

theorem percentiles_nearest_rank_of_three :
    ∃ statistics, calculateStatistics [30, 10, 20] true = some statistics ∧
      ReportsPercentile 50 [30, 10, 20] statistics.p50 ∧
      ReportsPercentile 95 [30, 10, 20] statistics.p95 ∧
      percentileIndex 50 3 = 1 ∧ percentileIndex 95 3 = 2 := by
  obtain ⟨statistics, hrun, h50, h95, -⟩ :=
    percentiles_nearest_rank [30, 10, 20] (by decide) (by decide)
  exact ⟨statistics, hrun, h50, h95, by decide, by decide⟩

end SchedulingEngine
