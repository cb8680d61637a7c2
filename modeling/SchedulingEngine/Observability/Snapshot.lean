import Mathlib.Algebra.Group.Nat.Defs
import Mathlib.Data.Int.Notation
import Mathlib.Data.Nat.Basic

/-!
# Counters and snapshots (scheduler_observability.h)

The accounting counters are `uint64_t` and saturate: at `UINT64_MAX` an increment
leaves the counter and raises an overflow flag that is never lowered. A
`SchedulerSnapshot` copies them together with the lifecycle, worker and queue
fields; a `size_t` is a natural number here as elsewhere.
-/

namespace SchedulingEngine

/-- `UINT64_MAX`. -/
def uint64Max : ℕ := 2 ^ 64 - 1

/-- `SchedulerState` (scheduler.c). -/
inductive SchedulerState where
  | initialized
  | starting
  | running
  | shuttingDown
  | stopped
  | failed
  deriving DecidableEq, Repr

/-- `SchedulerSnapshotState`; a caller may pass a value that is not one of its constants. -/
inductive SchedulerSnapshotState where
  | initialized
  | starting
  | running
  | shuttingDown
  | stopped
  | failed
  | outside (value : ℤ)
  deriving DecidableEq, Repr

/-- `snapshot_state_from_internal`. -/
def snapshotStateFromInternal : SchedulerState → SchedulerSnapshotState
  | .initialized => .initialized
  | .starting => .starting
  | .running => .running
  | .shuttingDown => .shuttingDown
  | .stopped => .stopped
  | .failed => .failed

/-- `CONCURRENT_SCHEDULER_SNAPSHOT_VERSION`. -/
def snapshotVersion : ℕ := 1

/-- `SCHEDULER_SNAPSHOT_CONSISTENCY_DOMAIN_EXACT`. -/
def consistencyDomainExact : ℕ := 1

/-- `SchedulerSnapshot`, with `temporary = {0}` as its default. -/
structure SchedulerSnapshot where
  version : ℕ := 0
  consistency : ℕ := 0
  overflowDetected : Bool := false
  state : SchedulerSnapshotState := .initialized
  submissionsOpen : Bool := false
  shutdownStarted : Bool := false
  configuredWorkerCount : ℕ := 0
  submittedCount : ℕ := 0
  acceptedCount : ℕ := 0
  rejectedCount : ℕ := 0
  createdWorkerCount : ℕ := 0
  readyWorkerCount : ℕ := 0
  activeWorkerCount : ℕ := 0
  joinedWorkerCount : ℕ := 0
  dequeuedCount : ℕ := 0
  callbackStartedCount : ℕ := 0
  callbackSucceededCount : ℕ := 0
  callbackFailedCount : ℕ := 0
  currentlyRunningCount : ℕ := 0
  queueCapacity : ℕ := 0
  queueCurrentSize : ℕ := 0
  queueHighWaterMark : ℕ := 0
  workerStartupFailureCount : ℕ := 0
  workerRuntimeFailureCount : ℕ := 0
  joinFailureCount : ℕ := 0
  deriving DecidableEq, Repr

/-! ## Saturating arithmetic -/

/-- `scheduler_observability_increment_saturating`: the counter and the flag. -/
def incrementSaturating (counter : ℕ) (overflowDetected : Bool) : ℕ × Bool :=
  if counter = uint64Max then (counter, true) else (counter + 1, overflowDetected)

/-- `scheduler_observability_increment_single_writer_atomic`: the counter, the flag,
and whether the event was counted. -/
def incrementSingleWriterAtomic (counter : ℕ) (overflowDetected : Bool) : ℕ × Bool × Bool :=
  if counter = uint64Max then (counter, true, false) else (counter + 1, overflowDetected, true)

/-- `add_saturating` (scheduler.c). -/
def addSaturating (target value : ℕ) (overflowDetected : Bool) : ℕ × Bool :=
  if uint64Max - target < value then (uint64Max, true) else (target + value, overflowDetected)

variable {counter target value : ℕ} {overflow : Bool}

/-- An increment that does not leave the flag raised was exact. -/
theorem incrementSaturating_exact (h : (incrementSaturating counter overflow).2 = false) :
    overflow = false ∧ (incrementSaturating counter overflow).1 = counter + 1 := by
  unfold incrementSaturating at h ⊢
  split at h
  · cases h
  · rename_i hlt
    rw [if_neg hlt]
    exact ⟨h, rfl⟩

theorem incrementSingleWriterAtomic_exact
    (h : (incrementSingleWriterAtomic counter overflow).2.1 = false) :
    overflow = false ∧
      incrementSingleWriterAtomic counter overflow = (counter + 1, false, true) := by
  unfold incrementSingleWriterAtomic at h ⊢
  split at h
  · cases h
  · rename_i hlt
    rw [if_neg hlt]
    cases overflow with
    | true => cases h
    | false => exact ⟨rfl, rfl⟩

theorem addSaturating_exact (h : (addSaturating target value overflow).2 = false) :
    overflow = false ∧ (addSaturating target value overflow).1 = target + value := by
  unfold addSaturating at h ⊢
  split at h
  · cases h
  · rename_i hle
    rw [if_neg hle]
    exact ⟨h, rfl⟩

/-- Counters and flags only go up. -/
theorem incrementSaturating_grows (counter : ℕ) (overflow : Bool) :
    counter ≤ (incrementSaturating counter overflow).1 ∧
      (overflow = true → (incrementSaturating counter overflow).2 = true) := by
  unfold incrementSaturating
  split
  · exact ⟨Nat.le_refl _, fun _ => rfl⟩
  · exact ⟨Nat.le_succ _, id⟩

theorem incrementSingleWriterAtomic_grows (counter : ℕ) (overflow : Bool) :
    counter ≤ (incrementSingleWriterAtomic counter overflow).1 ∧
      (overflow = true → (incrementSingleWriterAtomic counter overflow).2.1 = true) := by
  unfold incrementSingleWriterAtomic
  split
  · exact ⟨Nat.le_refl _, fun _ => rfl⟩
  · exact ⟨Nat.le_succ _, id⟩

/-- The sum of a counter and a value is cut off at the greatest counter, and the flag says
whether it was. -/
theorem addSaturating_eq (value : ℕ) (overflow : Bool) (h : target ≤ uint64Max) :
    (addSaturating target value overflow).1 = min uint64Max (target + value) ∧
      ((addSaturating target value overflow).2 = true ↔
        overflow = true ∨ uint64Max < target + value) := by
  unfold addSaturating
  split
  · rename_i hlt
    have hover : uint64Max < target + value := by omega
    exact ⟨(Nat.min_eq_left (Nat.le_of_lt hover)).symm, iff_of_true rfl (.inr hover)⟩
  · rename_i hle
    have hroom : target + value ≤ uint64Max := by omega
    refine ⟨(Nat.min_eq_right hroom).symm, fun hflag => .inl hflag, ?_⟩
    rintro (hflag | hover)
    · exact hflag
    · omega

end SchedulingEngine
