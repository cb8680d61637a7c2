import Mathlib.Data.List.Range
import SchedulingEngine.Queue.TaskQueue

/-!
# Producer ranges (benchmark_scheduler.c)

`run_iteration` cuts the Task array into one range for each producer: `base` Tasks each, and one
more for the first `remainder` of them. `producer_entry` submits the Tasks of its range in order.

The arithmetic is on `size_t` and wraps; `producerBegin_eq` and `producerEnd_eq` say that it does
not, and `producer_ranges_partition` that the ranges cover the array without gap or overlap.
-/

namespace SchedulingEngine

/-! ## The ranges -/

def sizeAdd (a b : ℕ) : ℕ := (a + b) % 2 ^ 64

def sizeMul (a b : ℕ) : ℕ := a * b % 2 ^ 64

/-- `producers[index].begin`. -/
def producerBegin (tasks producers index : ℕ) : ℕ :=
  let base := tasks / producers
  let remainder := tasks % producers
  sizeAdd (sizeMul base index) (if index < remainder then index else remainder)

/-- `producers[index].end`. -/
def producerEnd (tasks producers index : ℕ) : ℕ :=
  let base := tasks / producers
  let remainder := tasks % producers
  sizeAdd (sizeAdd (producerBegin tasks producers index) base) (if index < remainder then 1 else 0)

section Ranges

variable {tasks producers index : ℕ}

/-- Where a range begins, computed without bound. -/
def rangeBegin (tasks producers index : ℕ) : ℕ :=
  tasks / producers * index + min index (tasks % producers)

/-- The Tasks before a range and the Tasks of the producers that remain make up the array. -/
theorem rangeBegin_le (hindex : index ≤ producers) : rangeBegin tasks producers index ≤ tasks := by
  have hdivide := Nat.div_add_mod tasks producers
  have hmul : tasks / producers * index ≤ producers * (tasks / producers) := by
    rw [Nat.mul_comm]
    exact Nat.mul_le_mul_right _ hindex
  unfold rangeBegin
  omega

theorem rangeBegin_zero (tasks producers : ℕ) : rangeBegin tasks producers 0 = 0 := by
  rw [rangeBegin, Nat.mul_zero, Nat.zero_min]

theorem rangeBegin_last (hpos : 0 < producers) : rangeBegin tasks producers producers = tasks := by
  have hdivide := Nat.div_add_mod tasks producers
  have hremainder := Nat.mod_lt tasks hpos
  unfold rangeBegin
  rw [Nat.mul_comm]
  omega

theorem rangeBegin_succ (tasks producers index : ℕ) :
    rangeBegin tasks producers (index + 1)
      = rangeBegin tasks producers index + tasks / producers
        + (if index < tasks % producers then 1 else 0) := by
  unfold rangeBegin
  rw [Nat.mul_succ]
  split <;> omega

theorem rangeBegin_mono (tasks producers : ℕ) : Monotone (rangeBegin tasks producers) := by
  refine monotone_nat_of_le_succ fun index => ?_
  rw [rangeBegin_succ, Nat.add_assoc]
  exact Nat.le_add_right _ _

theorem producerBegin_eq (htasks : tasks ≤ sizeMax) (hindex : index < producers) :
    producerBegin tasks producers index = rangeBegin tasks producers index ∧
      tasks / producers * index ≤ sizeMax ∧ rangeBegin tasks producers index ≤ sizeMax := by
  have hle : rangeBegin tasks producers index ≤ tasks := rangeBegin_le (Nat.le_of_lt hindex)
  have hchoice : (if index < tasks % producers then index else tasks % producers)
      = min index (tasks % producers) := by
    split <;> omega
  unfold rangeBegin at hle ⊢
  unfold sizeMax at htasks ⊢
  refine ⟨?_, by omega, by omega⟩
  unfold producerBegin sizeAdd sizeMul
  simp only [hchoice]
  rw [Nat.mod_eq_of_lt (show tasks / producers * index < 2 ^ 64 by omega),
    Nat.mod_eq_of_lt (by omega)]

theorem producerEnd_eq (htasks : tasks ≤ sizeMax) (hindex : index < producers) :
    producerEnd tasks producers index = rangeBegin tasks producers (index + 1) ∧
      rangeBegin tasks producers index + tasks / producers ≤ sizeMax := by
  have hle : rangeBegin tasks producers (index + 1) ≤ tasks := rangeBegin_le hindex
  have hsucc := rangeBegin_succ tasks producers index
  unfold producerEnd
  rw [(producerBegin_eq htasks hindex).1]
  unfold sizeMax at htasks ⊢
  refine ⟨?_, by omega⟩
  show ((rangeBegin tasks producers index + tasks / producers) % 2 ^ 64 + _) % 2 ^ 64 = _
  rw [Nat.mod_eq_of_lt
    (show rangeBegin tasks producers index + tasks / producers < 2 ^ 64 by omega),
    Nat.mod_eq_of_lt (by omega), hsucc]

end Ranges

/-! ## The producers -/

/-- What happens to one Task in the loop of `producer_entry`: the timer fails before the
submission, `scheduler_submit` answers `OK` or `SHUTDOWN`, the timer fails after it, or
`scheduler_submit` answers something else. -/
inductive SubmissionOutcome where
  | timerFailsBefore
  | accepted
  | rejected
  | timerFailsAfter
  | submitFails
  deriving DecidableEq, Repr

/-- The loop goes on to the next Task. -/
def SubmissionOutcome.goesOn : SubmissionOutcome → Bool
  | .accepted | .rejected => true
  | _ => false

/-- What a producer did: the Tasks it passed to `scheduler_submit`, its counters, and the result
of the thread. -/
structure ProducerRun where
  submitted : List ℕ
  accepted : ℕ
  rejected : ℕ
  result : ℕ
  deriving DecidableEq, Repr

/-- The loop of `producer_entry` over the `count` Tasks from `index` on. -/
def producerLoop (outcome : ℕ → SubmissionOutcome) (index : ℕ) : ℕ → ProducerRun
  | 0 => { submitted := [], accepted := 0, rejected := 0, result := 0 }
  | count + 1 =>
    match outcome index with
    | .timerFailsBefore => { submitted := [], accepted := 0, rejected := 0, result := 6 }
    | .timerFailsAfter => { submitted := [index], accepted := 0, rejected := 0, result := 7 }
    | .submitFails => { submitted := [index], accepted := 0, rejected := 0, result := 8 }
    | .accepted =>
      let rest := producerLoop outcome (index + 1) count
      { rest with submitted := index :: rest.submitted, accepted := rest.accepted + 1 }
    | .rejected =>
      let rest := producerLoop outcome (index + 1) count
      { rest with submitted := index :: rest.submitted, rejected := rest.rejected + 1 }

/-- `producer_entry` of one producer, once the barrier released it. -/
def producerEntry (tasks producers : ℕ) (outcome : ℕ → SubmissionOutcome) (index : ℕ) :
    ProducerRun :=
  producerLoop outcome (producerBegin tasks producers index)
    (producerEnd tasks producers index - producerBegin tasks producers index)

/-- A producer whose loop is not cut short submits its whole range, in order. -/
theorem producerLoop_submitted {outcome : ℕ → SubmissionOutcome}
    (h : ∀ k, (outcome k).goesOn = true) (index count : ℕ) :
    (producerLoop outcome index count).submitted = List.range' index count := by
  induction count generalizing index with
  | zero => rfl
  | succ count ih =>
    have hindex := h index
    unfold producerLoop
    cases hout : outcome index with
    | accepted => simp only [ih, List.range'_succ]
    | rejected => simp only [ih, List.range'_succ]
    | timerFailsBefore => simp [hout, SubmissionOutcome.goesOn] at hindex
    | timerFailsAfter => simp [hout, SubmissionOutcome.goesOn] at hindex
    | submitFails => simp [hout, SubmissionOutcome.goesOn] at hindex

/-- Ranges one after the other, up to the first `n` of them. -/
theorem flatMap_ranges (tasks producers n : ℕ) :
    (List.range n).flatMap (fun index => List.range' (rangeBegin tasks producers index)
      (rangeBegin tasks producers (index + 1) - rangeBegin tasks producers index))
      = List.range (rangeBegin tasks producers n) := by
  induction n with
  | zero => simp [rangeBegin]
  | succ n ih =>
    have hle := rangeBegin_mono tasks producers (Nat.le_add_right n 1)
    have happend := List.range'_append_1 (s := 0) (m := rangeBegin tasks producers n)
      (n := rangeBegin tasks producers (n + 1) - rangeBegin tasks producers n)
    rw [Nat.zero_add, Nat.add_sub_cancel' hle] at happend
    rw [List.range_succ, List.flatMap_append, ih, List.flatMap_singleton, List.range_eq_range',
      List.range_eq_range', happend]

/-- The ranges cut the array into consecutive, non-empty and balanced pieces, and no product or
sum on the way wraps. -/
structure RangesPartition (tasks producers : ℕ) : Prop where
  first : producerBegin tasks producers 0 = 0
  contiguous : ∀ i, i + 1 < producers →
    producerEnd tasks producers i = producerBegin tasks producers (i + 1)
  last : producerEnd tasks producers (producers - 1) = tasks
  nonempty : ∀ i, i < producers → producerBegin tasks producers i < producerEnd tasks producers i
  balanced : ∀ i j, i < producers → j < producers →
    producerEnd tasks producers i - producerBegin tasks producers i
      ≤ producerEnd tasks producers j - producerBegin tasks producers j + 1
  exact : ∀ i, i < producers →
    tasks / producers * i ≤ sizeMax ∧
    tasks / producers * i + (if i < tasks % producers then i else tasks % producers) ≤ sizeMax ∧
    producerBegin tasks producers i + tasks / producers ≤ sizeMax ∧
    producerBegin tasks producers i + tasks / producers
      + (if i < tasks % producers then 1 else 0) ≤ sizeMax
  covers : ∀ outcome : ℕ → SubmissionOutcome, (∀ k, (outcome k).goesOn = true) →
    (List.range producers).flatMap (fun i => (producerEntry tasks producers outcome i).submitted)
      = List.range tasks
  unique : ∀ outcome : ℕ → SubmissionOutcome, (∀ k, (outcome k).goesOn = true) → ∀ k, k < tasks →
    ∃! i, i < producers ∧ k ∈ (producerEntry tasks producers outcome i).submitted

/-- **Producer ranges partition the Task array**, for all `size_t` counts. -/
theorem producer_ranges_partition (tasks producers : ℕ) (htasks : tasks ≤ sizeMax)
    (hpos : 1 ≤ producers) (hle : producers ≤ tasks) : RangesPartition tasks producers := by
  have hbegin : ∀ i, i < producers →
      producerBegin tasks producers i = rangeBegin tasks producers i :=
    fun i hi => (producerBegin_eq htasks hi).1
  have hend : ∀ i, i < producers →
      producerEnd tasks producers i = rangeBegin tasks producers (i + 1) :=
    fun i hi => (producerEnd_eq htasks hi).1
  have hsucc := rangeBegin_succ tasks producers
  have hbase : 1 ≤ tasks / producers := (Nat.one_le_div_iff hpos).mpr hle
  have hsubmitted : ∀ outcome : ℕ → SubmissionOutcome, (∀ k, (outcome k).goesOn = true) →
      ∀ i, i < producers → (producerEntry tasks producers outcome i).submitted
        = List.range' (rangeBegin tasks producers i)
          (rangeBegin tasks producers (i + 1) - rangeBegin tasks producers i) := by
    intro outcome houtcome i hi
    unfold producerEntry
    rw [producerLoop_submitted houtcome, hbegin i hi, hend i hi]
  constructor
  case first =>
    rw [hbegin 0 (by omega)]
    simp [rangeBegin]
  case contiguous =>
    intro i hi
    rw [hend i (by omega), hbegin (i + 1) hi]
  case last =>
    rw [hend (producers - 1) (by omega), Nat.sub_add_cancel hpos, rangeBegin_last hpos]
  case nonempty =>
    intro i hi
    have hi' := hsucc i
    rw [hbegin i hi, hend i hi]
    omega
  case balanced =>
    intro i j hi hj
    have hi' := hsucc i
    have hj' := hsucc j
    rw [hbegin i hi, hend i hi, hbegin j hj, hend j hj]
    split at hi' <;> split at hj' <;> omega
  case exact =>
    intro i hi
    obtain ⟨hsame, hproduct, hsum⟩ := producerBegin_eq htasks hi
    obtain ⟨-, hsum'⟩ := producerEnd_eq htasks hi
    have hlast : rangeBegin tasks producers (i + 1) ≤ tasks := rangeBegin_le hi
    have hi' := hsucc i
    have hchoice : tasks / producers * i + (if i < tasks % producers then i else tasks % producers)
        = rangeBegin tasks producers i := by
      unfold rangeBegin
      split <;> omega
    rw [hsame, hchoice]
    exact ⟨hproduct, hsum, hsum', by omega⟩
  case covers =>
    intro outcome houtcome
    have hranges := flatMap_ranges tasks producers producers
    rw [rangeBegin_last hpos] at hranges
    rw [← hranges]
    refine List.flatMap_congr fun i hi => ?_
    exact hsubmitted outcome houtcome i (List.mem_range.mp hi)
  case unique =>
    intro outcome houtcome k hk
    have hmem : k ∈ List.range (rangeBegin tasks producers producers) := by
      rwa [rangeBegin_last hpos, List.mem_range]
    rw [← flatMap_ranges, List.mem_flatMap] at hmem
    obtain ⟨i, hi, hk⟩ := hmem
    rw [List.mem_range] at hi
    refine ⟨i, ⟨hi, by rwa [hsubmitted outcome houtcome i hi]⟩, ?_⟩
    -- of two ranges one ends before the other begins
    rintro j ⟨hj, hk'⟩
    rw [hsubmitted outcome houtcome j hj, List.mem_range'_1] at hk'
    rw [List.mem_range'_1] at hk
    by_contra hne
    rcases Nat.lt_or_gt_of_ne hne with hlt | hlt
    · have hmono := rangeBegin_mono tasks producers (show j + 1 ≤ i from hlt)
      omega
    · have hmono := rangeBegin_mono tasks producers (show i + 1 ≤ j from hlt)
      omega

theorem producer_ranges_partition_of_ten : RangesPartition 10 4 ∧ producerBegin 10 4 2 = 6 :=
  ⟨producer_ranges_partition 10 4 (by decide) (by decide) (by decide), by decide⟩

end SchedulingEngine
