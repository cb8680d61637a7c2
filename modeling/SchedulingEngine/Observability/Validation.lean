import SchedulingEngine.Observability.Snapshot

/-!
# Snapshot validation (scheduler_validation.c)

`schedulerSnapshotValidate` runs the checks in the order of the source and records
each one that fires; at most `issueCapacity` records are kept, the counts go on.
Sums and differences of `uint64_t` and `size_t` fields wrap modulo `2 ^ 64`.
`scheduler_snapshot_validate_basic` and `scheduler_snapshot_validate_quiescent`
(scheduler.c) are the older checks of the same bounds.
-/

namespace SchedulingEngine

/-- `left + right` on 64 bits. -/
def uint64Add (left right : ℕ) : ℕ := (left + right) % 2 ^ 64

/-- `left - right` on 64 bits. -/
def uint64Sub (left right : ℕ) : ℕ := (2 ^ 64 + left - right) % 2 ^ 64

/-- The modes that `scheduler_snapshot_validate` accepts. -/
inductive SchedulerValidationMode where
  | live
  | quiescent
  deriving DecidableEq, Repr

/-- `SchedulerValidationSeverity`; a stored value may be none of its constants. -/
inductive SchedulerValidationSeverity where
  | informational
  | advisory
  | violation
  | incomplete
  | outside (value : ℤ)
  deriving DecidableEq, Repr

/-- `SchedulerValidationIssue`; a stored value may be none of its constants. -/
inductive SchedulerValidationIssue where
  | snapshotVersionUnsupported
  | consistencyUnsupported
  | accountingOverflow
  | queueSizeExceedsCapacity
  | queueHighWaterExceedsCapacity
  | queueSizeExceedsHighWater
  | createdExceedsConfigured
  | readyExceedsCreated
  | activeExceedsCreated
  | joinedExceedsCreated
  | activeJoinedExceedCreated
  | runningExceedsActive
  | callbackOutcomesExceedStarts
  | acceptedExceedsSubmitted
  | rejectedExceedsSubmitted
  | dequeuedExceedsAccepted
  | callbackStartsExceedDequeued
  | lifecycleFlagsInvalid
  | quiescentModeNotApplicable
  | submissionBalanceMismatch
  | acceptedDequeuedMismatch
  | dequeuedCallbackMismatch
  | callbackBalanceMismatch
  | quiescentQueueNotEmpty
  | quiescentCallbackRunning
  | quiescentWorkerActive
  | stoppedWorkersNotJoined
  | startupFailuresExceedConfigured
  | outside (value : ℤ)
  deriving DecidableEq, Repr

structure SchedulerValidationIssueRecord where
  issue : SchedulerValidationIssue
  severity : SchedulerValidationSeverity
  observed : ℕ
  expected : ℕ
  deriving DecidableEq, Repr

/-- The value of the enumerator. -/
def SchedulerValidationMode.toInt : SchedulerValidationMode → ℤ
  | .live => 1
  | .quiescent => 2

/-- `SchedulerValidationResult`; `mode` is the value stored in it, and `issues` are the records
written so far, so `issue_count` is its length. -/
structure SchedulerValidationResult where
  mode : ℤ
  snapshotVersion : ℕ
  violationCount : ℕ := 0
  advisoryCount : ℕ := 0
  validationIncomplete : Bool := false
  issuesTruncated : Bool := false
  issues : List SchedulerValidationIssueRecord := []
  deriving DecidableEq, Repr

/-- `SCHEDULER_VALIDATION_ISSUE_CAPACITY`. -/
def issueCapacity : ℕ := 16

inductive SchedulerHealth where
  | healthy
  | degraded
  | stopping
  | stopped
  | failed
  deriving DecidableEq, Repr

/-- The state as a `uint64_t`. -/
def SchedulerSnapshotState.toNat : SchedulerSnapshotState → ℕ
  | .initialized => 0
  | .starting => 1
  | .running => 2
  | .shuttingDown => 3
  | .stopped => 4
  | .failed => 5
  | .outside value => (UInt64.ofInt value).toNat

/-- `record_issue`. -/
def recordIssue (issue : SchedulerValidationIssue) (severity : SchedulerValidationSeverity)
    (observed expected : ℕ) (result : SchedulerValidationResult) : SchedulerValidationResult :=
  let result :=
    if result.issues.length < issueCapacity then
      { result with issues := result.issues ++ [⟨issue, severity, observed, expected⟩] }
    else { result with issuesTruncated := true }
  match severity with
  | .violation => { result with violationCount := result.violationCount + 1 }
  | .advisory => { result with advisoryCount := result.advisoryCount + 1 }
  | .incomplete => { result with validationIncomplete := true }
  | .informational | .outside _ => result

/-- One check: record a violation if it fires. -/
def check (fires : Prop) [Decidable fires] (issue : SchedulerValidationIssue)
    (observed expected : ℕ) (result : SchedulerValidationResult) : SchedulerValidationResult :=
  if fires then recordIssue issue .violation observed expected result else result

/-- `CHECK_GREATER` and `CHECK_U64`. -/
def checkGreater (left right : ℕ) (issue : SchedulerValidationIssue) :
    SchedulerValidationResult → SchedulerValidationResult :=
  check (left > right) issue left right

/-- `CHECK_EQUAL`. -/
def checkEqual (left right : ℕ) (issue : SchedulerValidationIssue) :
    SchedulerValidationResult → SchedulerValidationResult :=
  check (left ≠ right) issue left right

/-- `lifecycle_flags_valid`. -/
def lifecycleFlagsValid (snapshot : SchedulerSnapshot) : Bool :=
  match snapshot.state with
  | .initialized | .starting | .failed => !snapshot.submissionsOpen && !snapshot.shutdownStarted
  | .running => snapshot.submissionsOpen && !snapshot.shutdownStarted
  | .shuttingDown | .stopped => !snapshot.submissionsOpen && snapshot.shutdownStarted
  | .outside _ => false

/-- `quiescent_mode_applicable`. -/
def quiescentModeApplicable (snapshot : SchedulerSnapshot) : Bool :=
  snapshot.state = .initialized || snapshot.state = .stopped ||
    (snapshot.state = .failed && !snapshot.submissionsOpen &&
      snapshot.currentlyRunningCount = 0 && snapshot.activeWorkerCount = 0 &&
      snapshot.queueCurrentSize = 0)

/-- `validate_structural`. -/
def validateStructural (snapshot : SchedulerSnapshot) (result : SchedulerValidationResult) :
    SchedulerValidationResult :=
  result
  |> checkGreater snapshot.queueCurrentSize snapshot.queueCapacity .queueSizeExceedsCapacity
  |> checkGreater snapshot.queueHighWaterMark snapshot.queueCapacity .queueHighWaterExceedsCapacity
  |> checkGreater snapshot.queueCurrentSize snapshot.queueHighWaterMark .queueSizeExceedsHighWater
  |> checkGreater snapshot.createdWorkerCount snapshot.configuredWorkerCount
    .createdExceedsConfigured
  |> checkGreater snapshot.readyWorkerCount snapshot.createdWorkerCount .readyExceedsCreated
  |> checkGreater snapshot.activeWorkerCount snapshot.createdWorkerCount .activeExceedsCreated
  |> checkGreater snapshot.joinedWorkerCount snapshot.createdWorkerCount .joinedExceedsCreated
  |> check
    (snapshot.activeWorkerCount > uint64Sub snapshot.createdWorkerCount
      (if snapshot.joinedWorkerCount > snapshot.createdWorkerCount then snapshot.createdWorkerCount
        else snapshot.joinedWorkerCount))
    .activeJoinedExceedCreated (uint64Add snapshot.activeWorkerCount snapshot.joinedWorkerCount)
    snapshot.createdWorkerCount
  |> checkGreater snapshot.currentlyRunningCount snapshot.activeWorkerCount .runningExceedsActive
  |> checkGreater snapshot.workerStartupFailureCount snapshot.configuredWorkerCount
    .startupFailuresExceedConfigured
  |> check (lifecycleFlagsValid snapshot = false) .lifecycleFlagsInvalid snapshot.state.toNat 0

/-- `add_exceeds`. -/
def addExceeds (left right limit : ℕ) : Prop :=
  left > limit ∨ right > uint64Sub limit left

instance (left right limit : ℕ) : Decidable (addExceeds left right limit) :=
  inferInstanceAs (Decidable (_ ∨ _))

/-- `validate_accounting_bounds`. -/
def validateAccountingBounds (snapshot : SchedulerSnapshot) (result : SchedulerValidationResult) :
    SchedulerValidationResult :=
  result
  |> check (addExceeds snapshot.callbackSucceededCount snapshot.callbackFailedCount
      snapshot.callbackStartedCount)
    .callbackOutcomesExceedStarts snapshot.callbackSucceededCount snapshot.callbackStartedCount
  |> checkGreater snapshot.acceptedCount snapshot.submittedCount .acceptedExceedsSubmitted
  |> checkGreater snapshot.rejectedCount snapshot.submittedCount .rejectedExceedsSubmitted
  |> checkGreater snapshot.dequeuedCount snapshot.acceptedCount .dequeuedExceedsAccepted
  |> checkGreater snapshot.callbackStartedCount snapshot.dequeuedCount .callbackStartsExceedDequeued

/-- `validate_quiescent`. -/
def validateQuiescent (snapshot : SchedulerSnapshot) (result : SchedulerValidationResult) :
    SchedulerValidationResult :=
  result
  |> checkEqual snapshot.submittedCount (uint64Add snapshot.acceptedCount snapshot.rejectedCount)
    .submissionBalanceMismatch
  |> checkEqual snapshot.acceptedCount snapshot.dequeuedCount .acceptedDequeuedMismatch
  |> checkEqual snapshot.dequeuedCount snapshot.callbackStartedCount .dequeuedCallbackMismatch
  |> checkEqual snapshot.callbackStartedCount
    (uint64Add snapshot.callbackSucceededCount snapshot.callbackFailedCount)
    .callbackBalanceMismatch
  |> checkEqual snapshot.queueCurrentSize 0 .quiescentQueueNotEmpty
  |> checkEqual snapshot.currentlyRunningCount 0 .quiescentCallbackRunning
  |> checkEqual snapshot.activeWorkerCount 0 .quiescentWorkerActive
  |> check (snapshot.state = .stopped ∧ snapshot.joinedWorkerCount ≠ snapshot.createdWorkerCount)
    .stoppedWorkersNotJoined snapshot.joinedWorkerCount snapshot.createdWorkerCount

/-- `scheduler_snapshot_validate` with non-`NULL` arguments and a mode that it accepts. -/
def schedulerSnapshotValidate (snapshot : SchedulerSnapshot) (mode : SchedulerValidationMode) :
    SchedulerValidationResult :=
  let result : SchedulerValidationResult :=
    { mode := mode.toInt, snapshotVersion := snapshot.version }
  let result := result
    |> check (snapshot.version ≠ snapshotVersion) .snapshotVersionUnsupported snapshot.version
      snapshotVersion
    |> check (snapshot.consistency ≠ consistencyDomainExact) .consistencyUnsupported
      snapshot.consistency consistencyDomainExact
  let result :=
    if snapshot.overflowDetected then recordIssue .accountingOverflow .incomplete 1 0 result
    else result
  let result := validateStructural snapshot result
  let result :=
    if snapshot.overflowDetected then result else validateAccountingBounds snapshot result
  match mode with
  | .live => result
  | .quiescent =>
    if !quiescentModeApplicable snapshot then
      recordIssue .quiescentModeNotApplicable .incomplete snapshot.state.toNat
        SchedulerSnapshotState.stopped.toNat result
    else if snapshot.overflowDetected then result
    else validateQuiescent snapshot result

/-- `scheduler_snapshot_derive_health` (`none`: it returned false). -/
def schedulerSnapshotDeriveHealth (snapshot : SchedulerSnapshot)
    (result : SchedulerValidationResult) : Option SchedulerHealth :=
  if result.snapshotVersion ≠ snapshot.version then none
  else if snapshot.state = .failed ∨ result.violationCount ≠ 0 then some .failed
  else if snapshot.state = .shuttingDown then some .stopping
  else if snapshot.state = .stopped then some .stopped
  else if result.validationIncomplete ∨ result.advisoryCount ≠ 0 ∨
      snapshot.callbackFailedCount ≠ 0 ∨ snapshot.workerStartupFailureCount ≠ 0 ∨
      snapshot.workerRuntimeFailureCount ≠ 0 ∨ snapshot.joinFailureCount ≠ 0 then
    some .degraded
  else some .healthy

/-- `scheduler_snapshot_validate_basic` (scheduler.c). -/
def schedulerSnapshotValidateBasic (snapshot : SchedulerSnapshot) : Bool :=
  !(snapshot.version ≠ snapshotVersion
    || snapshot.consistency ≠ consistencyDomainExact
    || snapshot.queueCurrentSize > snapshot.queueCapacity
    || snapshot.queueHighWaterMark > snapshot.queueCapacity
    || snapshot.queueCurrentSize > snapshot.queueHighWaterMark
    || snapshot.createdWorkerCount > snapshot.configuredWorkerCount
    || snapshot.readyWorkerCount > snapshot.createdWorkerCount
    || snapshot.activeWorkerCount > snapshot.createdWorkerCount
    || snapshot.joinedWorkerCount > snapshot.createdWorkerCount
    || snapshot.currentlyRunningCount > snapshot.activeWorkerCount
    || snapshot.acceptedCount > snapshot.submittedCount
    || snapshot.rejectedCount > snapshot.submittedCount
    || snapshot.callbackStartedCount > snapshot.dequeuedCount
    || snapshot.callbackSucceededCount > snapshot.callbackStartedCount
    || snapshot.callbackFailedCount
      > uint64Sub snapshot.callbackStartedCount snapshot.callbackSucceededCount)

/-- `scheduler_snapshot_validate_quiescent` (scheduler.c). -/
def schedulerSnapshotValidateQuiescent (snapshot : SchedulerSnapshot) : Bool :=
  !(!schedulerSnapshotValidateBasic snapshot
    || uint64Sub snapshot.submittedCount snapshot.acceptedCount ≠ snapshot.rejectedCount
    || snapshot.acceptedCount ≠ snapshot.dequeuedCount
    || snapshot.dequeuedCount ≠ snapshot.callbackStartedCount
    || uint64Sub snapshot.callbackStartedCount snapshot.callbackSucceededCount
      ≠ snapshot.callbackFailedCount
    || snapshot.currentlyRunningCount ≠ 0
    || snapshot.queueCurrentSize ≠ 0
    || snapshot.activeWorkerCount ≠ 0)
  && !(snapshot.state = .stopped && snapshot.joinedWorkerCount ≠ snapshot.createdWorkerCount)

/-! ## Which checks record which issue -/

/-- The result holds a record of `issue`. -/
def SchedulerValidationResult.Records (result : SchedulerValidationResult)
    (issue : SchedulerValidationIssue) : Prop :=
  ∃ record ∈ result.issues, record.issue = issue

section Records

variable {result : SchedulerValidationResult} {issue other : SchedulerValidationIssue}

theorem recordIssue_records {severity : SchedulerValidationSeverity} {observed expected : ℕ}
    (h : (recordIssue other severity observed expected result).Records issue) :
    result.Records issue ∨ other = issue := by
  obtain ⟨record, hmem, rfl⟩ := h
  have hmem' : record ∈ result.issues ∨ record = ⟨other, severity, observed, expected⟩ := by
    unfold recordIssue at hmem
    by_cases hroom : result.issues.length < issueCapacity
    · cases severity <;> simpa [hroom] using hmem
    · left
      cases severity <;> simpa [hroom] using hmem
  rcases hmem' with hmem' | rfl
  · exact .inl ⟨record, hmem', rfl⟩
  · exact .inr rfl

/-- A check records its own issue only, and only if it fires. -/
theorem check_records {fires : Prop} [Decidable fires] {observed expected : ℕ}
    (h : (check fires other observed expected result).Records issue) :
    result.Records issue ∨ (other = issue ∧ fires) := by
  unfold check at h
  split at h
  · rename_i hfires
    exact (recordIssue_records h).imp_right fun heq => ⟨heq, hfires⟩
  · exact .inl h

/-- A check for another issue, or one that does not fire, records nothing of `issue`. -/
theorem check_silent {fires : Prop} [Decidable fires] {observed expected : ℕ}
    (hsilent : other = issue → ¬fires) (h : ¬result.Records issue) :
    ¬(check fires other observed expected result).Records issue := by
  intro hrec
  rcases check_records hrec with hold | ⟨heq, hfires⟩
  · exact h hold
  · exact hsilent heq hfires

theorem recordIssue_silent {severity : SchedulerValidationSeverity} {observed expected : ℕ}
    (hother : other ≠ issue) (h : ¬result.Records issue) :
    ¬(recordIssue other severity observed expected result).Records issue := by
  intro hrec
  rcases recordIssue_records hrec with hold | heq
  · exact h hold
  · exact hother heq

end Records

/-- The issues that only `validate_accounting_bounds` records. -/
def SchedulerValidationIssue.isBound : SchedulerValidationIssue → Bool
  | .callbackOutcomesExceedStarts | .acceptedExceedsSubmitted | .rejectedExceedsSubmitted
  | .dequeuedExceedsAccepted | .callbackStartsExceedDequeued => true
  | _ => false

/-- The bound behind such an issue. -/
def SchedulerSnapshot.Breaks (snapshot : SchedulerSnapshot) : SchedulerValidationIssue → Prop
  | .callbackOutcomesExceedStarts => addExceeds snapshot.callbackSucceededCount
      snapshot.callbackFailedCount snapshot.callbackStartedCount
  | .acceptedExceedsSubmitted => snapshot.acceptedCount > snapshot.submittedCount
  | .rejectedExceedsSubmitted => snapshot.rejectedCount > snapshot.submittedCount
  | .dequeuedExceedsAccepted => snapshot.dequeuedCount > snapshot.acceptedCount
  | .callbackStartsExceedDequeued => snapshot.callbackStartedCount > snapshot.dequeuedCount
  | _ => False

/-- **A live validation records an accounting issue only if its bound is broken.** -/
theorem live_silent {snapshot : SchedulerSnapshot} {issue : SchedulerValidationIssue}
    (hbound : issue.isBound = true) (hkept : ¬snapshot.Breaks issue) :
    ¬(schedulerSnapshotValidate snapshot .live).Records issue := by
  have hother : ∀ other : SchedulerValidationIssue, other.isBound = false → other ≠ issue := by
    rintro other hfalse rfl
    rw [hfalse] at hbound
    cases hbound
  have hstructural : ∀ result : SchedulerValidationResult, ¬result.Records issue →
      ¬(validateStructural snapshot result).Records issue := by
    intro result h
    unfold validateStructural checkGreater
    iterate 11 refine check_silent (fun heq => absurd heq (hother _ rfl)) ?_
    exact h
  have haccounting : ∀ result : SchedulerValidationResult, ¬result.Records issue →
      ¬(validateAccountingBounds snapshot result).Records issue := by
    intro result h
    unfold validateAccountingBounds checkGreater
    iterate 5 refine check_silent (by rintro rfl; exact hkept) ?_
    exact h
  have hheader : ¬(check (snapshot.consistency ≠ consistencyDomainExact) .consistencyUnsupported
      snapshot.consistency consistencyDomainExact
      (check (snapshot.version ≠ snapshotVersion) .snapshotVersionUnsupported snapshot.version
        snapshotVersion { mode := 1, snapshotVersion := snapshot.version })).Records issue := by
    iterate 2 refine check_silent (fun heq => absurd heq (hother _ rfl)) ?_
    rintro ⟨record, hmem, -⟩
    cases hmem
  unfold schedulerSnapshotValidate
  by_cases hoverflow : snapshot.overflowDetected = true
  · simp only [hoverflow, if_true]
    exact hstructural _ (recordIssue_silent (hother _ rfl) hheader)
  · simp only [hoverflow]
    exact haccounting _ (hstructural _ hheader)

end SchedulingEngine
