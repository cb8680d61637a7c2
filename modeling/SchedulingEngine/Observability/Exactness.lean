import SchedulingEngine.Observability.Validation

/-!
# The validators are exact (scheduler_validation.c, scheduler.c)

`LiveSound` and `QuiescentSound` say over the integers what a snapshot should satisfy.
The validators compute on 64 bits: single checks are fooled by sums and differences
that wrap, all of them together are not.

- `Verdict` is a way to read a validation that any recorded issue spoils;
  `Verdict.live_iff` and `Verdict.quiescent_iff` read both modes.
- `FitsUint64`: the fields that are added or subtracted are 64-bit values.
-/

namespace SchedulingEngine

/-- The fields that enter a sum or a difference are 64-bit values. -/
structure SchedulerSnapshot.FitsUint64 (snapshot : SchedulerSnapshot) : Prop where
  submitted : snapshot.submittedCount < 2 ^ 64
  accepted : snapshot.acceptedCount < 2 ^ 64
  rejected : snapshot.rejectedCount < 2 ^ 64
  created : snapshot.createdWorkerCount < 2 ^ 64
  started : snapshot.callbackStartedCount < 2 ^ 64
  succeeded : snapshot.callbackSucceededCount < 2 ^ 64
  failed : snapshot.callbackFailedCount < 2 ^ 64

/-- The flags say what the state says; a value that is no state says nothing. -/
def SchedulerSnapshot.FlagsMatch (snapshot : SchedulerSnapshot) : Prop :=
  (snapshot.submissionsOpen = true ↔ snapshot.state = .running) ∧
    (snapshot.shutdownStarted = true ↔
      snapshot.state = .shuttingDown ∨ snapshot.state = .stopped) ∧
    ∀ value, snapshot.state ≠ .outside value

/-- The structural bounds of `validate_structural`. -/
structure SchedulerSnapshot.Structural (snapshot : SchedulerSnapshot) : Prop where
  size_le : snapshot.queueCurrentSize ≤ snapshot.queueHighWaterMark
  highWater_le : snapshot.queueHighWaterMark ≤ snapshot.queueCapacity
  created_le : snapshot.createdWorkerCount ≤ snapshot.configuredWorkerCount
  ready_le : snapshot.readyWorkerCount ≤ snapshot.createdWorkerCount
  active_joined_le :
    snapshot.activeWorkerCount + snapshot.joinedWorkerCount ≤ snapshot.createdWorkerCount
  running_le : snapshot.currentlyRunningCount ≤ snapshot.activeWorkerCount
  startup_le : snapshot.workerStartupFailureCount ≤ snapshot.configuredWorkerCount
  flags : snapshot.FlagsMatch

/-- What holds of the snapshot of a scheduler at work. -/
structure SchedulerSnapshot.LiveSound (snapshot : SchedulerSnapshot) : Prop where
  version : snapshot.version = snapshotVersion
  consistency : snapshot.consistency = consistencyDomainExact
  exact : snapshot.overflowDetected = false
  structural : snapshot.Structural
  accepted_le : snapshot.acceptedCount ≤ snapshot.submittedCount
  rejected_le : snapshot.rejectedCount ≤ snapshot.submittedCount
  outcomes_le : snapshot.callbackSucceededCount + snapshot.callbackFailedCount
    ≤ snapshot.callbackStartedCount
  started_le : snapshot.callbackStartedCount ≤ snapshot.dequeuedCount
  dequeued_le : snapshot.dequeuedCount ≤ snapshot.acceptedCount

/-- What holds in addition once nothing is going on. -/
structure SchedulerSnapshot.QuiescentSound (snapshot : SchedulerSnapshot) : Prop where
  live : snapshot.LiveSound
  state : snapshot.state = .initialized ∨ snapshot.state = .stopped ∨ snapshot.state = .failed
  submitted : snapshot.submittedCount = snapshot.acceptedCount + snapshot.rejectedCount
  dequeued : snapshot.acceptedCount = snapshot.dequeuedCount
  started : snapshot.dequeuedCount = snapshot.callbackStartedCount
  outcomes : snapshot.callbackStartedCount
    = snapshot.callbackSucceededCount + snapshot.callbackFailedCount
  size : snapshot.queueCurrentSize = 0
  running : snapshot.currentlyRunningCount = 0
  active : snapshot.activeWorkerCount = 0
  joined : snapshot.state = .stopped → snapshot.joinedWorkerCount = snapshot.createdWorkerCount

/-! ## Arithmetic on 64 bits -/

/-- The difference of the source does not wrap where the subtraction makes sense. -/
theorem uint64Sub_of_le {left right : ℕ} (hle : right ≤ left) (hleft : left < 2 ^ 64) :
    uint64Sub left right = left - right := by
  unfold uint64Sub
  omega

/-- And the test for a sum beyond a limit is exact, although it never computes the sum. -/
theorem addExceeds_iff {left right limit : ℕ} (hlimit : limit < 2 ^ 64) :
    addExceeds left right limit ↔ limit < left + right := by
  unfold addExceeds
  by_cases hleft : left ≤ limit
  · rw [uint64Sub_of_le hleft hlimit]
    omega
  · omega

/-- A sum that wraps is below both summands. -/
theorem uint64Add_eq_iff {left right total : ℕ} (hright : right < 2 ^ 64) (hle : left ≤ total)
    (htotal : total < 2 ^ 64) : total = uint64Add left right ↔ total = left + right := by
  unfold uint64Add
  omega

/-- The source's switch, as a statement about the flags of each state. -/
theorem lifecycleFlagsValid_iff (snapshot : SchedulerSnapshot) :
    lifecycleFlagsValid snapshot = true ↔ snapshot.FlagsMatch := by
  unfold lifecycleFlagsValid SchedulerSnapshot.FlagsMatch
  cases snapshot.state <;> simp

/-! ## Reading a validation -/

/-- A reading of a validation that every recorded issue spoils. -/
structure Verdict (Q : SchedulerValidationResult → Prop) : Prop where
  fresh : ∀ mode version, Q { mode, snapshotVersion := version }
  violation : ∀ issue observed expected result,
    ¬Q (recordIssue issue .violation observed expected result)
  incomplete : ∀ issue observed expected result,
    ¬Q (recordIssue issue .incomplete observed expected result)

/-- No violation was counted and nothing was left out. -/
def SchedulerValidationResult.Passes (result : SchedulerValidationResult) : Prop :=
  result.violationCount = 0 ∧ result.validationIncomplete = false

/-- Every recorded issue is a violation or leaves something out. -/
theorem passes_verdict : Verdict SchedulerValidationResult.Passes := by
  refine ⟨?_, ?_, ?_⟩
  · intro mode version
    exact ⟨rfl, rfl⟩
  · intro issue observed expected result h
    exact Nat.succ_ne_zero _ h.1
  · intro issue observed expected result h
    cases h.2

/-- The first issue always finds room. -/
theorem recordIssue_issues (issue : SchedulerValidationIssue)
    (severity : SchedulerValidationSeverity) (observed expected : ℕ)
    (result : SchedulerValidationResult) :
    (recordIssue issue severity observed expected result).issues ≠ [] := by
  unfold recordIssue
  by_cases hroom : result.issues.length < issueCapacity
  · cases severity <;> simp [hroom]
  · have hfull : result.issues ≠ [] := by
      rintro hnil
      rw [hnil] at hroom
      exact hroom (by decide)
    cases severity <;> simpa [hroom] using hfull

/-- A recorded issue is in the list. -/
theorem noIssue_verdict : Verdict fun result => result.issues = [] :=
  ⟨fun _ _ => rfl, fun _ _ _ _ => recordIssue_issues _ _ _ _ _,
    fun _ _ _ _ => recordIssue_issues _ _ _ _ _⟩

section Readings

variable {Q : SchedulerValidationResult → Prop} {snapshot : SchedulerSnapshot}
  {result : SchedulerValidationResult}

/-- A check spoils the reading if it fires. -/
theorem Verdict.check_iff (hQ : Verdict Q) (fires : Prop) [Decidable fires]
    (issue : SchedulerValidationIssue) (observed expected : ℕ) :
    Q (check fires issue observed expected result) ↔ Q result ∧ ¬fires := by
  unfold check
  split
  · rename_i hfires
    exact iff_of_false (hQ.violation _ _ _ _) fun h => h.2 hfires
  · rename_i hsilent
    exact (and_iff_left hsilent).symm

/-- The structural checks together. -/
theorem Verdict.structural_iff (hQ : Verdict Q) (hcreated : snapshot.createdWorkerCount < 2 ^ 64) :
    Q (validateStructural snapshot result) ↔ Q result ∧ snapshot.Structural := by
  unfold validateStructural checkGreater
  simp only [hQ.check_iff, Bool.not_eq_false, lifecycleFlagsValid_iff, Nat.not_lt]
  constructor
  · rintro ⟨⟨⟨⟨⟨⟨⟨⟨⟨⟨⟨hresult, -⟩, hhigh⟩, hsize⟩, hcreated'⟩, hready⟩, -⟩, hjoined⟩, hactive⟩,
      hrunning⟩,
      hstartup⟩, hflags⟩
    rw [if_neg (Nat.not_lt.mpr hjoined), uint64Sub_of_le hjoined hcreated] at hactive
    exact ⟨hresult, hsize, hhigh, hcreated', hready, by omega, hrunning, hstartup, hflags⟩
  · rintro ⟨hresult, hsize, hhigh, hcreated', hready, hactive, hrunning, hstartup, hflags⟩
    have hjoined : snapshot.joinedWorkerCount ≤ snapshot.createdWorkerCount := by omega
    rw [if_neg (Nat.not_lt.mpr hjoined), uint64Sub_of_le hjoined hcreated]
    refine ⟨⟨⟨⟨⟨⟨⟨⟨⟨⟨⟨hresult, ?_⟩, hhigh⟩, hsize⟩, hcreated'⟩, hready⟩, ?_⟩, hjoined⟩, ?_⟩,
      hrunning⟩,
      hstartup⟩, hflags⟩ <;> omega

/-- The bounds on the counters together. -/
theorem Verdict.accounting_iff (hQ : Verdict Q)
    (hstarted : snapshot.callbackStartedCount < 2 ^ 64) :
    Q (validateAccountingBounds snapshot result) ↔ Q result ∧
      snapshot.callbackSucceededCount + snapshot.callbackFailedCount
        ≤ snapshot.callbackStartedCount ∧
      snapshot.acceptedCount ≤ snapshot.submittedCount ∧
      snapshot.rejectedCount ≤ snapshot.submittedCount ∧
      snapshot.dequeuedCount ≤ snapshot.acceptedCount ∧
      snapshot.callbackStartedCount ≤ snapshot.dequeuedCount := by
  unfold validateAccountingBounds checkGreater
  simp only [hQ.check_iff, addExceeds_iff hstarted, Nat.not_lt, and_assoc]

/-- The checks that both modes make. -/
def validateBounds (snapshot : SchedulerSnapshot) (mode : SchedulerValidationMode) :
    SchedulerValidationResult :=
  let result : SchedulerValidationResult :=
    { mode := mode.toInt, snapshotVersion := snapshot.version }
  let result := result
    |> check (snapshot.version ≠ snapshotVersion) .snapshotVersionUnsupported snapshot.version
      snapshotVersion
    |> check (snapshot.consistency ≠ consistencyDomainExact) .consistencyUnsupported
      snapshot.consistency consistencyDomainExact
  let result :=
    if snapshot.overflowDetected then recordIssue .accountingOverflow .incomplete 1 0 result
    else result
  let result := validateStructural snapshot result
  if snapshot.overflowDetected then result else validateAccountingBounds snapshot result

theorem validate_quiescent_eq :
    schedulerSnapshotValidate snapshot .quiescent =
      if !quiescentModeApplicable snapshot then
        recordIssue .quiescentModeNotApplicable .incomplete snapshot.state.toNat
          SchedulerSnapshotState.stopped.toNat (validateBounds snapshot .quiescent)
      else if snapshot.overflowDetected then validateBounds snapshot .quiescent
      else validateQuiescent snapshot (validateBounds snapshot .quiescent) := rfl

/-- **What all modes check.** -/
theorem Verdict.bounds_iff (hQ : Verdict Q) (hfits : snapshot.FitsUint64)
    (mode : SchedulerValidationMode) :
    Q (validateBounds snapshot mode) ↔ snapshot.LiveSound := by
  have hheader : Q ({ mode := mode.toInt, snapshotVersion := snapshot.version }
      |> check (snapshot.version ≠ snapshotVersion) .snapshotVersionUnsupported snapshot.version
        snapshotVersion
      |> check (snapshot.consistency ≠ consistencyDomainExact) .consistencyUnsupported
        snapshot.consistency consistencyDomainExact) ↔
      snapshot.version = snapshotVersion ∧ snapshot.consistency = consistencyDomainExact := by
    simp [hQ.check_iff, hQ.fresh]
  unfold validateBounds
  cases hoverflow : snapshot.overflowDetected with
  | true =>
    simp only [if_true, hQ.structural_iff hfits.created, hQ.incomplete, false_and, false_iff]
    intro h
    rw [h.exact] at hoverflow
    cases hoverflow
  | false =>
    simp only [Bool.false_eq_true, if_false, hQ.accounting_iff hfits.started,
      hQ.structural_iff hfits.created, hheader]
    constructor
    · rintro ⟨⟨⟨hversion, hconsistency⟩, hstructural⟩, houtcomes, haccepted, hrejected, hdequeued,
        hstarted⟩
      exact ⟨hversion, hconsistency, hoverflow, hstructural, haccepted, hrejected, houtcomes,
        hstarted, hdequeued⟩
    · intro h
      exact ⟨⟨⟨h.version, h.consistency⟩, h.structural⟩, h.outcomes_le, h.accepted_le,
        h.rejected_le, h.dequeued_le, h.started_le⟩

/-- Further checks do not mend a reading. -/
theorem Verdict.of_balances (hQ : Verdict Q) (h : Q (validateQuiescent snapshot result)) :
    Q result := by
  unfold validateQuiescent checkEqual at h
  simp only [hQ.check_iff, and_assoc] at h
  exact h.1

/-- Among snapshots that keep the bounds, the sums of `validate_quiescent` do not wrap. -/
theorem Verdict.balances_iff (hQ : Verdict Q) (hfits : snapshot.FitsUint64)
    (hlive : snapshot.LiveSound) :
    Q (validateQuiescent snapshot result) ↔ Q result ∧
      snapshot.submittedCount = snapshot.acceptedCount + snapshot.rejectedCount ∧
      snapshot.acceptedCount = snapshot.dequeuedCount ∧
      snapshot.dequeuedCount = snapshot.callbackStartedCount ∧
      snapshot.callbackStartedCount
        = snapshot.callbackSucceededCount + snapshot.callbackFailedCount ∧
      snapshot.queueCurrentSize = 0 ∧ snapshot.currentlyRunningCount = 0 ∧
      snapshot.activeWorkerCount = 0 ∧
      (snapshot.state = .stopped → snapshot.joinedWorkerCount = snapshot.createdWorkerCount) := by
  have hsucceeded : snapshot.callbackSucceededCount ≤ snapshot.callbackStartedCount :=
    Nat.le_trans (Nat.le_add_right _ _) hlive.outcomes_le
  unfold validateQuiescent checkEqual
  simp only [hQ.check_iff, not_not, not_and, and_assoc, ne_eq,
    uint64Add_eq_iff hfits.rejected hlive.accepted_le hfits.submitted,
    uint64Add_eq_iff hfits.failed hsucceeded hfits.started]

/-- A snapshot that keeps the bounds and shows nothing going on is one of a scheduler in
one of the three states at rest. -/
theorem quiescentModeApplicable_iff (hlive : snapshot.LiveSound)
    (hsize : snapshot.queueCurrentSize = 0) (hrunning : snapshot.currentlyRunningCount = 0)
    (hactive : snapshot.activeWorkerCount = 0) :
    quiescentModeApplicable snapshot = true ↔
      snapshot.state = .initialized ∨ snapshot.state = .stopped ∨ snapshot.state = .failed := by
  have hopen : snapshot.state = .failed → snapshot.submissionsOpen = false := by
    intro hstate
    rw [← Bool.not_eq_true, hlive.structural.flags.1, hstate]
    nofun
  unfold quiescentModeApplicable
  simp only [hsize, hrunning, hactive, Bool.or_eq_true, Bool.and_eq_true, decide_eq_true_eq,
    Bool.not_eq_true', and_true, or_assoc]
  constructor
  · rintro (hstate | hstate | ⟨hstate, -⟩)
    · exact .inl hstate
    · exact .inr (.inl hstate)
    · exact .inr (.inr hstate)
  · rintro (hstate | hstate | hstate)
    · exact .inl hstate
    · exact .inr (.inl hstate)
    · exact .inr (.inr ⟨hstate, hopen hstate⟩)

/-- **The quiescent validation is exact.** -/
theorem Verdict.quiescent_iff (hQ : Verdict Q) (hfits : snapshot.FitsUint64) :
    Q (schedulerSnapshotValidate snapshot .quiescent) ↔ snapshot.QuiescentSound := by
  rw [validate_quiescent_eq]
  constructor
  · intro h
    -- every branch that leaves the balances out is spoilt by an issue of its own
    cases happlicable : quiescentModeApplicable snapshot with
    | false =>
      rw [happlicable] at h
      exact (hQ.incomplete _ _ _ _ h).elim
    | true =>
      rw [happlicable] at h
      cases hoverflow : snapshot.overflowDetected with
      | true =>
        rw [hoverflow] at h
        have hexact := ((hQ.bounds_iff hfits _).mp h).exact
        rw [hoverflow] at hexact
        cases hexact
      | false =>
        rw [hoverflow] at h
        have hlive := (hQ.bounds_iff hfits _).mp (hQ.of_balances h)
        obtain ⟨-, hsubmitted, hdequeued, hstarted, houtcomes, hsize, hrunning, hactive, hjoined⟩ :=
          (hQ.balances_iff hfits hlive).mp h
        exact ⟨hlive, (quiescentModeApplicable_iff hlive hsize hrunning hactive).mp happlicable,
          hsubmitted, hdequeued, hstarted, houtcomes, hsize, hrunning, hactive, hjoined⟩
  · intro h
    rw [(quiescentModeApplicable_iff h.live h.size h.running h.active).mpr h.state, h.live.exact]
    refine (hQ.balances_iff hfits h.live).mpr ⟨(hQ.bounds_iff hfits _).mpr h.live, ?_⟩
    exact ⟨h.submitted, h.dequeued, h.started, h.outcomes, h.size, h.running, h.active, h.joined⟩

end Readings

/-! ## The derived health -/

/-- Recording leaves the version alone. -/
theorem recordIssue_version (issue : SchedulerValidationIssue)
    (severity : SchedulerValidationSeverity) (observed expected : ℕ)
    (result : SchedulerValidationResult) :
    (recordIssue issue severity observed expected result).snapshotVersion
      = result.snapshotVersion := by
  unfold recordIssue
  dsimp only
  cases severity <;> dsimp only <;> split <;> rfl

theorem check_version (fires : Prop) [Decidable fires] (issue : SchedulerValidationIssue)
    (observed expected : ℕ) (result : SchedulerValidationResult) :
    (check fires issue observed expected result).snapshotVersion = result.snapshotVersion := by
  unfold check
  split
  · exact recordIssue_version issue .violation observed expected result
  · rfl

/-- A validation names the version of the snapshot it is about. -/
theorem validate_version (snapshot : SchedulerSnapshot) (mode : SchedulerValidationMode) :
    (schedulerSnapshotValidate snapshot mode).snapshotVersion = snapshot.version := by
  have hbounds : (validateBounds snapshot mode).snapshotVersion = snapshot.version := by
    unfold validateBounds
    dsimp only
    split <;> simp only [validateStructural, validateAccountingBounds, checkGreater, check_version,
      recordIssue_version]
  cases mode with
  | live => exact hbounds
  | quiescent =>
    rw [validate_quiescent_eq]
    split
    · rw [recordIssue_version, hbounds]
    · split
      · exact hbounds
      · simp only [validateQuiescent, checkEqual, check_version, hbounds]

/-- The health of a stopped scheduler whose snapshot is exact. -/
theorem deriveHealth_stopped {snapshot : SchedulerSnapshot} (hfits : snapshot.FitsUint64)
    (hsound : snapshot.QuiescentSound) (hstate : snapshot.state = .stopped) :
    schedulerSnapshotDeriveHealth snapshot (schedulerSnapshotValidate snapshot .quiescent)
      = some .stopped := by
  have hpasses := (passes_verdict.quiescent_iff hfits).mpr hsound
  have hnot : ¬(snapshot.state = .failed ∨
      (schedulerSnapshotValidate snapshot .quiescent).violationCount ≠ 0) := by
    rw [hstate, hpasses.1]
    exact fun h => h.elim nofun fun hne => hne rfl
  have hrunning : snapshot.state ≠ .shuttingDown := by
    rw [hstate]
    nofun
  unfold schedulerSnapshotDeriveHealth
  rw [if_neg (not_not.mpr (validate_version snapshot .quiescent)), if_neg hnot, if_neg hrunning,
    if_pos hstate]

/-! ## Both modes -/

/-- **The validator is exact over the integers**, in both modes. -/
theorem validate_exact {snapshot : SchedulerSnapshot} (hfits : snapshot.FitsUint64) :
    ((schedulerSnapshotValidate snapshot .live).violationCount = 0 ∧
        (schedulerSnapshotValidate snapshot .live).validationIncomplete = false ↔
      snapshot.LiveSound) ∧
    ((schedulerSnapshotValidate snapshot .quiescent).violationCount = 0 ∧
        (schedulerSnapshotValidate snapshot .quiescent).validationIncomplete = false ↔
      snapshot.QuiescentSound) :=
  ⟨passes_verdict.bounds_iff hfits .live, passes_verdict.quiescent_iff hfits⟩

/-- The largest counts that balance. -/
def fullSnapshot : SchedulerSnapshot :=
  { version := 1, consistency := 1, state := .stopped, shutdownStarted := true
    configuredWorkerCount := uint64Max, createdWorkerCount := uint64Max
    joinedWorkerCount := uint64Max, submittedCount := uint64Max, acceptedCount := uint64Max
    dequeuedCount := uint64Max, callbackStartedCount := uint64Max
    callbackSucceededCount := uint64Max }

theorem fullSnapshot_fits : fullSnapshot.FitsUint64 := by
  constructor <;> decide

theorem validate_exact_full : fullSnapshot.FitsUint64 ∧ fullSnapshot.QuiescentSound :=
  ⟨fullSnapshot_fits, (validate_exact fullSnapshot_fits).2.mp (by decide)⟩

/-! ## The older validators -/

section Agreement

variable {snapshot : SchedulerSnapshot}

/-- What `scheduler_snapshot_validate_basic` checks: the live bounds without the overflow
flag, the flags of the state, the startup failures, the joined workers next to the active
ones, and the dequeued Tasks next to the accepted ones. -/
structure SchedulerSnapshot.BasicSound (snapshot : SchedulerSnapshot) : Prop where
  version : snapshot.version = snapshotVersion
  consistency : snapshot.consistency = consistencyDomainExact
  size_le : snapshot.queueCurrentSize ≤ snapshot.queueHighWaterMark
  highWater_le : snapshot.queueHighWaterMark ≤ snapshot.queueCapacity
  created_le : snapshot.createdWorkerCount ≤ snapshot.configuredWorkerCount
  ready_le : snapshot.readyWorkerCount ≤ snapshot.createdWorkerCount
  active_le : snapshot.activeWorkerCount ≤ snapshot.createdWorkerCount
  joined_le : snapshot.joinedWorkerCount ≤ snapshot.createdWorkerCount
  running_le : snapshot.currentlyRunningCount ≤ snapshot.activeWorkerCount
  accepted_le : snapshot.acceptedCount ≤ snapshot.submittedCount
  rejected_le : snapshot.rejectedCount ≤ snapshot.submittedCount
  started_le : snapshot.callbackStartedCount ≤ snapshot.dequeuedCount
  outcomes_le : snapshot.callbackSucceededCount + snapshot.callbackFailedCount
    ≤ snapshot.callbackStartedCount

theorem SchedulerSnapshot.LiveSound.basic (h : snapshot.LiveSound) : snapshot.BasicSound := by
  have hstructural := h.structural
  have hjoined := hstructural.active_joined_le
  exact ⟨h.version, h.consistency, hstructural.size_le, hstructural.highWater_le,
    hstructural.created_le, hstructural.ready_le, by omega, by omega, hstructural.running_le,
    h.accepted_le, h.rejected_le, h.started_le, h.outcomes_le⟩

/-- The basic validator asks for the structure and the bounds. -/
theorem validateBasic_iff (hfits : snapshot.FitsUint64) :
    schedulerSnapshotValidateBasic snapshot = true ↔ snapshot.BasicSound := by
  unfold schedulerSnapshotValidateBasic
  simp only [Bool.not_eq_true', Bool.or_eq_false_iff, decide_eq_false_iff_not, not_not, ne_eq,
    Nat.not_lt, and_assoc]
  constructor
  · rintro ⟨hversion, hconsistency, -, hhigh, hsize, hcreated, hready, hactive, hjoined, hrunning,
      haccepted, hrejected, hstarted, hsucceeded, hfailed⟩
    rw [uint64Sub_of_le hsucceeded hfits.started] at hfailed
    exact ⟨hversion, hconsistency, hsize, hhigh, hcreated, hready, hactive, hjoined, hrunning,
      haccepted, hrejected, hstarted, by omega⟩
  · intro h
    have houtcomes := h.outcomes_le
    have hsucceeded : snapshot.callbackSucceededCount ≤ snapshot.callbackStartedCount := by omega
    rw [uint64Sub_of_le hsucceeded hfits.started]
    exact ⟨h.version, h.consistency, Nat.le_trans h.size_le h.highWater_le, h.highWater_le,
      h.size_le, h.created_le, h.ready_le, h.active_le, h.joined_le, h.running_le, h.accepted_le,
      h.rejected_le, h.started_le, hsucceeded, by omega⟩

/-- A difference that does not wrap is the other summand. -/
theorem uint64Sub_eq_iff {left right difference : ℕ} (hle : right ≤ left) (hleft : left < 2 ^ 64) :
    uint64Sub left right = difference ↔ left = right + difference := by
  rw [uint64Sub_of_le hle hleft]
  omega

/-- The older quiescent check leaves out what the older basic check leaves out. -/
theorem validateQuiescent_iff (hfits : snapshot.FitsUint64) :
    schedulerSnapshotValidateQuiescent snapshot = true ↔ snapshot.BasicSound ∧
      snapshot.submittedCount = snapshot.acceptedCount + snapshot.rejectedCount ∧
      snapshot.acceptedCount = snapshot.dequeuedCount ∧
      snapshot.dequeuedCount = snapshot.callbackStartedCount ∧
      snapshot.callbackStartedCount
        = snapshot.callbackSucceededCount + snapshot.callbackFailedCount ∧
      snapshot.currentlyRunningCount = 0 ∧ snapshot.queueCurrentSize = 0 ∧
      snapshot.activeWorkerCount = 0 ∧
      (snapshot.state = .stopped → snapshot.joinedWorkerCount = snapshot.createdWorkerCount) := by
  unfold schedulerSnapshotValidateQuiescent
  simp only [Bool.and_eq_true, Bool.not_eq_true', Bool.or_eq_false_iff, Bool.not_eq_false',
    decide_eq_false_iff_not, not_not, ne_eq, and_assoc, validateBasic_iff hfits,
    Bool.and_eq_false_imp, decide_eq_true_eq]
  refine and_congr_right fun hbasic => ?_
  have hsucceeded : snapshot.callbackSucceededCount ≤ snapshot.callbackStartedCount :=
    Nat.le_trans (Nat.le_add_right _ _) hbasic.outcomes_le
  rw [uint64Sub_eq_iff hbasic.accepted_le hfits.submitted,
    uint64Sub_eq_iff hsucceeded hfits.started]

end Agreement

/-- **The two validators agree**: what the newer one passes the older one passes, and in
quiescent mode they differ in exactly the checks that the older one does not have. -/
theorem validators_agree {snapshot : SchedulerSnapshot} (hfits : snapshot.FitsUint64) :
    ((schedulerSnapshotValidate snapshot .live).issues = [] →
      schedulerSnapshotValidateBasic snapshot = true) ∧
    ((schedulerSnapshotValidate snapshot .quiescent).issues = [] ↔
      schedulerSnapshotValidateQuiescent snapshot = true ∧ snapshot.overflowDetected = false ∧
      (snapshot.state = .initialized ∨ snapshot.state = .stopped ∨ snapshot.state = .failed) ∧
      snapshot.FlagsMatch ∧
      snapshot.workerStartupFailureCount ≤ snapshot.configuredWorkerCount) := by
  rw [show schedulerSnapshotValidate snapshot .live = validateBounds snapshot .live from rfl,
    noIssue_verdict.bounds_iff hfits, noIssue_verdict.quiescent_iff hfits,
    validateBasic_iff hfits, validateQuiescent_iff hfits]
  refine ⟨fun h => h.basic, ?_, ?_⟩
  · intro h
    have hstructural := h.live.structural
    exact ⟨⟨h.live.basic, h.submitted, h.dequeued, h.started, h.outcomes, h.running, h.size,
      h.active, h.joined⟩, h.live.exact, h.state, hstructural.flags, hstructural.startup_le⟩
  · rintro ⟨⟨hbasic, hsubmitted, hdequeued, hstarted, houtcomes, hrunning, hsize, hactive, hjoined⟩,
      hexact, hstate, hflags, hstartup⟩
    have hjoined_le := hbasic.joined_le
    have hstructural : snapshot.Structural :=
      ⟨hbasic.size_le, hbasic.highWater_le, hbasic.created_le, hbasic.ready_le, by omega,
        hbasic.running_le, hstartup, hflags⟩
    exact ⟨⟨hbasic.version, hbasic.consistency, hexact, hstructural, hbasic.accepted_le,
      hbasic.rejected_le, hbasic.outcomes_le, hbasic.started_le, by omega⟩, hstate, hsubmitted,
      hdequeued, hstarted, houtcomes, hsize, hrunning, hactive, hjoined⟩

theorem validators_agree_full : fullSnapshot.FitsUint64 ∧
    schedulerSnapshotValidateQuiescent fullSnapshot = true ∧ fullSnapshot.FlagsMatch := by
  obtain ⟨hold, -, -, hflags, -⟩ := (validators_agree fullSnapshot_fits).2.mp (by decide)
  exact ⟨fullSnapshot_fits, hold, hflags⟩

end SchedulingEngine
