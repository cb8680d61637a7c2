import SchedulingEngine.Observability.Exactness

/-!
# The recorded issues as a truncation

A validation makes its checks in a fixed order and records those that fire, as long as the
array has room. What it counts does not depend on the room.

- `firedChecks`: the checks that fire, in the order of the code, with nothing cut off.
- `validate_eq_recordAll`: a validation records exactly these.
- `validate_truncates`: the array is their beginning, and the counters, the flags and the
  derived health are those of the whole list.
-/

namespace SchedulingEngine

open SchedulerValidationIssue in
/-- The issues in the order in which the code checks for them. -/
def issueOrder : List SchedulerValidationIssue :=
  [snapshotVersionUnsupported, consistencyUnsupported, accountingOverflow,
    queueSizeExceedsCapacity, queueHighWaterExceedsCapacity, queueSizeExceedsHighWater,
    createdExceedsConfigured, readyExceedsCreated, activeExceedsCreated, joinedExceedsCreated,
    activeJoinedExceedCreated, runningExceedsActive, startupFailuresExceedConfigured,
    lifecycleFlagsInvalid, callbackOutcomesExceedStarts, acceptedExceedsSubmitted,
    rejectedExceedsSubmitted, dequeuedExceedsAccepted, callbackStartsExceedDequeued,
    quiescentModeNotApplicable, submissionBalanceMismatch, acceptedDequeuedMismatch,
    dequeuedCallbackMismatch, callbackBalanceMismatch, quiescentQueueNotEmpty,
    quiescentCallbackRunning, quiescentWorkerActive, stoppedWorkersNotJoined]

/-! ## The checks that fire -/

/-- One check: its record if it fires. -/
def firing (fires : Prop) [Decidable fires] (issue : SchedulerValidationIssue)
    (severity : SchedulerValidationSeverity) (observed expected : ℕ) :
    List SchedulerValidationIssueRecord :=
  if fires then [⟨issue, severity, observed, expected⟩] else []

/-- The record of a check that `left` is at most `right`. -/
def firingGreater (left right : ℕ) (issue : SchedulerValidationIssue) :
    List SchedulerValidationIssueRecord :=
  firing (left > right) issue .violation left right

/-- The record of a check that `left` equals `right`. -/
def firingUnequal (left right : ℕ) (issue : SchedulerValidationIssue) :
    List SchedulerValidationIssueRecord :=
  firing (left ≠ right) issue .violation left right

section Firings

variable (snapshot : SchedulerSnapshot)

/-- The checks of `scheduler_snapshot_validate` itself, before it calls the others. -/
def headerFirings : List SchedulerValidationIssueRecord :=
  firing (snapshot.version ≠ snapshotVersion) .snapshotVersionUnsupported .violation
    snapshot.version snapshotVersion ++
  firing (snapshot.consistency ≠ consistencyDomainExact) .consistencyUnsupported .violation
    snapshot.consistency consistencyDomainExact ++
  firing (snapshot.overflowDetected = true) .accountingOverflow .incomplete 1 0

/-- The checks of `validate_structural`. -/
def structuralFirings : List SchedulerValidationIssueRecord :=
  firingGreater snapshot.queueCurrentSize snapshot.queueCapacity .queueSizeExceedsCapacity ++
  firingGreater snapshot.queueHighWaterMark snapshot.queueCapacity
    .queueHighWaterExceedsCapacity ++
  firingGreater snapshot.queueCurrentSize snapshot.queueHighWaterMark
    .queueSizeExceedsHighWater ++
  firingGreater snapshot.createdWorkerCount snapshot.configuredWorkerCount
    .createdExceedsConfigured ++
  firingGreater snapshot.readyWorkerCount snapshot.createdWorkerCount .readyExceedsCreated ++
  firingGreater snapshot.activeWorkerCount snapshot.createdWorkerCount .activeExceedsCreated ++
  firingGreater snapshot.joinedWorkerCount snapshot.createdWorkerCount .joinedExceedsCreated ++
  firing
    (snapshot.activeWorkerCount > uint64Sub snapshot.createdWorkerCount
      (if snapshot.joinedWorkerCount > snapshot.createdWorkerCount then snapshot.createdWorkerCount
        else snapshot.joinedWorkerCount))
    .activeJoinedExceedCreated .violation
    (uint64Add snapshot.activeWorkerCount snapshot.joinedWorkerCount)
    snapshot.createdWorkerCount ++
  firingGreater snapshot.currentlyRunningCount snapshot.activeWorkerCount .runningExceedsActive ++
  firingGreater snapshot.workerStartupFailureCount snapshot.configuredWorkerCount
    .startupFailuresExceedConfigured ++
  firing (lifecycleFlagsValid snapshot = false) .lifecycleFlagsInvalid .violation
    snapshot.state.toNat 0

/-- The checks of `validate_accounting_bounds`. -/
def accountingFirings : List SchedulerValidationIssueRecord :=
  firing (addExceeds snapshot.callbackSucceededCount snapshot.callbackFailedCount
      snapshot.callbackStartedCount)
    .callbackOutcomesExceedStarts .violation snapshot.callbackSucceededCount
    snapshot.callbackStartedCount ++
  firingGreater snapshot.acceptedCount snapshot.submittedCount .acceptedExceedsSubmitted ++
  firingGreater snapshot.rejectedCount snapshot.submittedCount .rejectedExceedsSubmitted ++
  firingGreater snapshot.dequeuedCount snapshot.acceptedCount .dequeuedExceedsAccepted ++
  firingGreater snapshot.callbackStartedCount snapshot.dequeuedCount .callbackStartsExceedDequeued

/-- The checks of `validate_quiescent`. -/
def quiescentFirings : List SchedulerValidationIssueRecord :=
  firingUnequal snapshot.submittedCount
    (uint64Add snapshot.acceptedCount snapshot.rejectedCount) .submissionBalanceMismatch ++
  firingUnequal snapshot.acceptedCount snapshot.dequeuedCount .acceptedDequeuedMismatch ++
  firingUnequal snapshot.dequeuedCount snapshot.callbackStartedCount .dequeuedCallbackMismatch ++
  firingUnequal snapshot.callbackStartedCount
    (uint64Add snapshot.callbackSucceededCount snapshot.callbackFailedCount)
    .callbackBalanceMismatch ++
  firingUnequal snapshot.queueCurrentSize 0 .quiescentQueueNotEmpty ++
  firingUnequal snapshot.currentlyRunningCount 0 .quiescentCallbackRunning ++
  firingUnequal snapshot.activeWorkerCount 0 .quiescentWorkerActive ++
  firing (snapshot.state = .stopped ∧ snapshot.joinedWorkerCount ≠ snapshot.createdWorkerCount)
    .stoppedWorkersNotJoined .violation snapshot.joinedWorkerCount snapshot.createdWorkerCount

/-- Quiescent mode: it does not apply, or its balances are checked. -/
def modeFirings : SchedulerValidationMode → List SchedulerValidationIssueRecord
  | .live => []
  | .quiescent =>
    firing (quiescentModeApplicable snapshot = false) .quiescentModeNotApplicable .incomplete
      snapshot.state.toNat SchedulerSnapshotState.stopped.toNat ++
    if quiescentModeApplicable snapshot ∧ snapshot.overflowDetected = false then
      quiescentFirings snapshot
    else []

/-- **The checks that fire**, in the order of the code. -/
def firedChecks (mode : SchedulerValidationMode) : List SchedulerValidationIssueRecord :=
  headerFirings snapshot ++ structuralFirings snapshot ++
    (if snapshot.overflowDetected then [] else accountingFirings snapshot) ++
    modeFirings snapshot mode

end Firings

/-! ## A validation records them -/

/-- `record_issue` on each of the records. -/
def recordAll (records : List SchedulerValidationIssueRecord)
    (result : SchedulerValidationResult) : SchedulerValidationResult :=
  records.foldl (fun result record =>
    recordIssue record.issue record.severity record.observed record.expected result) result

section Recording

variable {snapshot : SchedulerSnapshot} {mode : SchedulerValidationMode}
  (result : SchedulerValidationResult)

/-- Records are taken in one after the other. -/
theorem recordAll_append (records more : List SchedulerValidationIssueRecord) :
    recordAll (records ++ more) result = recordAll more (recordAll records result) :=
  List.foldl_append

/-- One check takes in its record if it fires. -/
theorem recordAll_firing (fires : Prop) [Decidable fires] (issue : SchedulerValidationIssue)
    (severity : SchedulerValidationSeverity) (observed expected : ℕ) :
    recordAll (firing fires issue severity observed expected) result
      = if fires then recordIssue issue severity observed expected result else result := by
  unfold firing
  split
  · rfl
  · rfl

/-- A check of the source is the taking in of its record. -/
theorem check_eq_recordAll (fires : Prop) [Decidable fires] (issue : SchedulerValidationIssue)
    (observed expected : ℕ) :
    check fires issue observed expected result
      = recordAll (firing fires issue .violation observed expected) result :=
  (recordAll_firing result fires issue .violation observed expected).symm

/-- **The structural checks take in the records that they fire, in their order.** -/
theorem validateStructural_eq_recordAll (snapshot : SchedulerSnapshot) :
    validateStructural snapshot result = recordAll (structuralFirings snapshot) result := by
  simp only [structuralFirings, recordAll_append, firingGreater, ← check_eq_recordAll]
  rfl

/-- So do the bounds on the counters. -/
theorem validateAccountingBounds_eq_recordAll (snapshot : SchedulerSnapshot) :
    validateAccountingBounds snapshot result = recordAll (accountingFirings snapshot) result := by
  simp only [accountingFirings, recordAll_append, firingGreater, ← check_eq_recordAll]
  rfl

/-- And so do the equalities of a quiescent scheduler. -/
theorem validateQuiescent_eq_recordAll (snapshot : SchedulerSnapshot) :
    validateQuiescent snapshot result = recordAll (quiescentFirings snapshot) result := by
  simp only [quiescentFirings, recordAll_append, firingUnequal, ← check_eq_recordAll]
  rfl

/-- The checks that both modes make. -/
theorem validateBounds_eq_recordAll (snapshot : SchedulerSnapshot)
    (mode : SchedulerValidationMode) :
    validateBounds snapshot mode
      = recordAll (headerFirings snapshot ++ structuralFirings snapshot ++
          (if snapshot.overflowDetected then [] else accountingFirings snapshot))
        { mode := mode.toInt, snapshotVersion := snapshot.version } := by
  unfold validateBounds
  simp only [headerFirings, recordAll_append, check, recordAll_firing,
    ← validateStructural_eq_recordAll]
  cases snapshot.overflowDetected with
  | true => rfl
  | false =>
    simp only [Bool.false_eq_true, if_false, ← validateAccountingBounds_eq_recordAll]

/-- **A validation records the checks that fire**, one after the other. -/
theorem validate_eq_recordAll (snapshot : SchedulerSnapshot) (mode : SchedulerValidationMode) :
    schedulerSnapshotValidate snapshot mode
      = recordAll (firedChecks snapshot mode)
        { mode := mode.toInt, snapshotVersion := snapshot.version } := by
  rw [firedChecks, recordAll_append, ← validateBounds_eq_recordAll]
  cases mode with
  | live => rfl
  | quiescent =>
    rw [validate_quiescent_eq]
    simp only [modeFirings, recordAll_append, recordAll_firing]
    cases quiescentModeApplicable snapshot with
    | false =>
      simp only [Bool.not_false, if_true, Bool.false_eq_true, false_and, if_false]
      rfl
    | true =>
      cases snapshot.overflowDetected with
      | true => simp [recordAll]
      | false => simp [← validateQuiescent_eq_recordAll]

/-! ## What recording does -/

/-- `record_issue` on a result: the record if there is room, and the counters. -/
theorem recordIssue_issues_eq (record : SchedulerValidationIssueRecord) :
    (recordIssue record.issue record.severity record.observed record.expected result).issues
      = if result.issues.length < issueCapacity then result.issues ++
        [record] else result.issues := by
  obtain ⟨issue, severity, observed, expected⟩ := record
  unfold recordIssue
  cases severity <;> dsimp only <;> split <;> rfl

/-- A record beyond the last place sets the flag. -/
theorem recordIssue_truncated (issue : SchedulerValidationIssue)
    (severity : SchedulerValidationSeverity) (observed expected : ℕ) :
    (recordIssue issue severity observed expected result).issuesTruncated = true ↔
      result.issuesTruncated = true ∨ issueCapacity ≤ result.issues.length := by
  unfold recordIssue
  by_cases hroom : result.issues.length < issueCapacity
  · cases severity <;> simp [hroom, Nat.not_le.mpr hroom]
  · cases severity <;> simp [hroom, Nat.not_lt.mp hroom]

/-- The violation is counted whether or not there was a place. -/
theorem recordIssue_violationCount (issue : SchedulerValidationIssue)
    (severity : SchedulerValidationSeverity) (observed expected : ℕ) :
    (recordIssue issue severity observed expected result).violationCount
      = result.violationCount + if severity = .violation then 1 else 0 := by
  unfold recordIssue
  cases severity <;> dsimp only <;> split <;> rfl

/-- And the incompleteness is noted whether or not there was a place. -/
theorem recordIssue_incomplete (issue : SchedulerValidationIssue)
    (severity : SchedulerValidationSeverity) (observed expected : ℕ) :
    (recordIssue issue severity observed expected result).validationIncomplete = true ↔
      result.validationIncomplete = true ∨ severity = .incomplete := by
  unfold recordIssue
  by_cases hroom : result.issues.length < issueCapacity
  · cases severity <;> simp [hroom]
  · cases severity <;> simp [hroom]

variable {result}

/-- **The array is a truncation**: the records so far, cut off at its capacity. -/
theorem recordAll_issues (hroom : result.issues.length ≤ issueCapacity)
    (records : List SchedulerValidationIssueRecord) :
    (recordAll records result).issues = (result.issues ++ records).take issueCapacity := by
  induction records generalizing result with
  | nil =>
    rw [List.append_nil, List.take_of_length_le hroom]
    rfl
  | cons record records ih =>
    show (recordAll records (recordIssue record.issue record.severity record.observed
      record.expected result)).issues = _
    have hissues := recordIssue_issues_eq result record
    by_cases hfree : result.issues.length < issueCapacity
    · rw [if_pos hfree] at hissues
      have hlength : (result.issues ++ [record]).length ≤ issueCapacity := by
        rw [List.length_append]
        exact hfree
      rw [← hissues] at hlength
      rw [ih hlength, hissues, List.append_assoc]
      rfl
    · rw [if_neg hfree] at hissues
      have hfull : result.issues.length = issueCapacity := by omega
      rw [← hissues] at hroom hfull
      rw [ih hroom, hissues]
      rw [hissues] at hfull
      rw [← hfull, List.take_left, List.take_left]

/-- The flag is raised by the first record that finds no room. -/
theorem recordAll_truncated (hroom : result.issues.length ≤ issueCapacity)
    (records : List SchedulerValidationIssueRecord) :
    (recordAll records result).issuesTruncated = true ↔
      result.issuesTruncated = true ∨ records ≠ [] ∧
        issueCapacity < result.issues.length + records.length := by
  induction records generalizing result with
  | nil => simp [recordAll]
  | cons record records ih =>
    show (recordAll records (recordIssue record.issue record.severity record.observed
      record.expected result)).issuesTruncated = true ↔ _
    have hissues := recordIssue_issues_eq result record
    by_cases hfree : result.issues.length < issueCapacity
    · rw [if_pos hfree] at hissues
      have hlength : (recordIssue record.issue record.severity record.observed record.expected
          result).issues.length = result.issues.length + 1 := by
        rw [hissues, List.length_append]
        rfl
      rw [ih (by omega), recordIssue_truncated, hlength, List.length_cons]
      have hsome : records ≠ [] ↔ 0 < records.length := List.length_pos_iff.symm
      rw [hsome]
      simp only [ne_eq, reduceCtorEq, not_false_eq_true, true_and]
      constructor
      · rintro ((htruncated | hfull) | ⟨-, hlt⟩)
        · exact .inl htruncated
        · omega
        · exact .inr (by omega)
      · rintro (htruncated | hlt)
        · exact .inl (.inl htruncated)
        · exact .inr ⟨by omega, by omega⟩
    · rw [if_neg hfree] at hissues
      rw [ih (by rw [hissues]; exact hroom), recordIssue_truncated, hissues, List.length_cons]
      constructor
      · rintro -
        exact .inr ⟨nofun, by omega⟩
      · rintro -
        exact .inl (.inr (by omega))

/-- All violations are counted, the cut off ones as well. -/
theorem recordAll_violationCount (records : List SchedulerValidationIssueRecord) :
    (recordAll records result).violationCount
      = result.violationCount + records.countP fun record => record.severity = .violation := by
  induction records generalizing result with
  | nil => rfl
  | cons record records ih =>
    show (recordAll records (recordIssue record.issue record.severity record.observed
      record.expected result)).violationCount = _
    rw [ih, recordIssue_violationCount, List.countP_cons]
    simp only [decide_eq_true_eq]
    omega

/-- A single incomplete record makes the validation incomplete. -/
theorem recordAll_incomplete (records : List SchedulerValidationIssueRecord) :
    (recordAll records result).validationIncomplete = true ↔
      result.validationIncomplete = true ∨ ∃ record ∈ records, record.severity = .incomplete := by
  induction records generalizing result with
  | nil => simp [recordAll]
  | cons record records ih =>
    show (recordAll records (recordIssue record.issue record.severity record.observed
      record.expected result)).validationIncomplete = true ↔ _
    rw [ih, recordIssue_incomplete, or_assoc]
    simp only [List.mem_cons, exists_eq_or_imp]

end Recording

/-! ## The list of the checks that fire -/

section Fired

variable (snapshot : SchedulerSnapshot)

/-- A check fires for its own issue only. -/
theorem firing_sublist (fires : Prop) [Decidable fires] (issue : SchedulerValidationIssue)
    (severity : SchedulerValidationSeverity) (observed expected : ℕ) :
    ((firing fires issue severity observed expected).map (·.issue)).Sublist [issue] := by
  unfold firing
  split
  · exact List.Sublist.refl _
  · exact List.nil_sublist _

/-- **The checks fire in the order of the code, each at most once.** -/
theorem firedChecks_sublist (mode : SchedulerValidationMode) :
    ((firedChecks snapshot mode).map (·.issue)).Sublist issueOrder := by
  -- each group of checks fires issues of its own stretch of the order
  have hheader : ((headerFirings snapshot).map (·.issue)).Sublist (issueOrder.take 3) := by
    simp only [headerFirings, List.map_append]
    exact ((firing_sublist ..).append (firing_sublist ..)).append (firing_sublist ..)
  have hstructural : ((structuralFirings snapshot).map (·.issue)).Sublist
      ((issueOrder.drop 3).take 11) := by
    simp only [structuralFirings, firingGreater, List.map_append]
    exact ((((((((((firing_sublist ..).append (firing_sublist ..)).append
      (firing_sublist ..)).append (firing_sublist ..)).append (firing_sublist ..)).append
      (firing_sublist ..)).append (firing_sublist ..)).append (firing_sublist ..)).append
      (firing_sublist ..)).append (firing_sublist ..)).append (firing_sublist ..)
  have haccounting : ((accountingFirings snapshot).map (·.issue)).Sublist
      ((issueOrder.drop 14).take 5) := by
    simp only [accountingFirings, firingGreater, List.map_append]
    exact ((((firing_sublist ..).append (firing_sublist ..)).append (firing_sublist ..)).append
      (firing_sublist ..)).append (firing_sublist ..)
  have hquiescent : ((quiescentFirings snapshot).map (·.issue)).Sublist
      ((issueOrder.drop 20).take 8) := by
    simp only [quiescentFirings, firingUnequal, List.map_append]
    exact (((((((firing_sublist ..).append (firing_sublist ..)).append (firing_sublist ..)).append
      (firing_sublist ..)).append (firing_sublist ..)).append (firing_sublist ..)).append
      (firing_sublist ..)).append (firing_sublist ..)
  have hmode : ((modeFirings snapshot mode).map (·.issue)).Sublist (issueOrder.drop 19) := by
    cases mode with
    | live => exact List.nil_sublist _
    | quiescent =>
      simp only [modeFirings, List.map_append]
      refine (firing_sublist ..).append ?_
      split
      · exact hquiescent
      · exact List.nil_sublist _
  have hbounds : ((if snapshot.overflowDetected then [] else accountingFirings snapshot).map
      (·.issue)).Sublist ((issueOrder.drop 14).take 5) := by
    split
    · exact List.nil_sublist _
    · exact haccounting
  simp only [firedChecks, List.map_append]
  exact ((hheader.append hstructural).append hbounds).append hmode

/-- No mode fires an issue twice. -/
theorem firedChecks_nodup (mode : SchedulerValidationMode) :
    ((firedChecks snapshot mode).map (·.issue)).Nodup :=
  (firedChecks_sublist snapshot mode).nodup (by decide)

/-- All checks are for violations, except two. -/
def ViolationsOnly (records : List SchedulerValidationIssueRecord) : Prop :=
  ∀ record ∈ records, record.severity = .violation

/-- Lists of violations put together. -/
theorem ViolationsOnly.append {records more : List SchedulerValidationIssueRecord}
    (h : ViolationsOnly records) (hmore : ViolationsOnly more) :
    ViolationsOnly (records ++ more) := by
  intro record hrecord
  rcases List.mem_append.mp hrecord with hrecord | hrecord
  · exact h record hrecord
  · exact hmore record hrecord

/-- A check of severity violation fires nothing else. -/
theorem firing_violations (fires : Prop) [Decidable fires] (issue : SchedulerValidationIssue)
    (observed expected : ℕ) : ViolationsOnly (firing fires issue .violation observed expected) := by
  unfold firing
  split
  · intro record hrecord
    rw [List.mem_singleton.mp hrecord]
  · nofun

/-- A violation is not an incomplete check. -/
theorem ViolationsOnly.not_incomplete {records : List SchedulerValidationIssueRecord}
    (h : ViolationsOnly records) : ¬∃ record ∈ records, record.severity = .incomplete := by
  rintro ⟨record, hrecord, hseverity⟩
  rw [h record hrecord] at hseverity
  cases hseverity

/-- All structural checks are violations. -/
theorem structuralFirings_violations : ViolationsOnly (structuralFirings snapshot) := by
  unfold structuralFirings firingGreater
  repeat' apply ViolationsOnly.append
  all_goals exact firing_violations _ _ _ _

/-- So are the bounds on the counters. -/
theorem accountingFirings_violations : ViolationsOnly (accountingFirings snapshot) := by
  unfold accountingFirings firingGreater
  repeat' apply ViolationsOnly.append
  all_goals exact firing_violations _ _ _ _

/-- And the equalities of a quiescent scheduler. -/
theorem quiescentFirings_violations : ViolationsOnly (quiescentFirings snapshot) := by
  unfold quiescentFirings firingUnequal
  repeat' apply ViolationsOnly.append
  all_goals exact firing_violations _ _ _ _

/-- An incomplete record is there if its check fires. -/
theorem firing_incomplete (fires : Prop) [Decidable fires] (issue : SchedulerValidationIssue)
    (observed expected : ℕ) :
    (∃ record ∈ firing fires issue .incomplete observed expected, record.severity = .incomplete) ↔
      fires := by
  unfold firing
  split
  · rename_i hfires
    exact ⟨fun _ => hfires, fun _ => ⟨_, List.mem_singleton_self _, rfl⟩⟩
  · rename_i hfires
    exact ⟨nofun, fun h => absurd h hfires⟩

theorem exists_mem_append {records more : List SchedulerValidationIssueRecord}
    {Q : SchedulerValidationIssueRecord → Prop} :
    (∃ record ∈ records ++ more, Q record) ↔
      (∃ record ∈ records, Q record) ∨ ∃ record ∈ more, Q record := by
  simp only [List.mem_append, or_and_right, exists_or]

/-- **What leaves a validation incomplete.** -/
theorem firedChecks_incomplete (mode : SchedulerValidationMode) :
    (∃ record ∈ firedChecks snapshot mode, record.severity = .incomplete) ↔
      snapshot.overflowDetected = true ∨
        (mode = .quiescent ∧ quiescentModeApplicable snapshot = false) := by
  have haccounting : ¬∃ record ∈ (if snapshot.overflowDetected then []
      else accountingFirings snapshot), record.severity = .incomplete := by
    split
    · nofun
    · exact (accountingFirings_violations snapshot).not_incomplete
  have hbalances : ¬∃ record ∈ (if quiescentModeApplicable snapshot = true ∧
      snapshot.overflowDetected = false then quiescentFirings snapshot else []),
      record.severity = .incomplete := by
    split
    · exact (quiescentFirings_violations snapshot).not_incomplete
    · nofun
  have hheader : (∃ record ∈ headerFirings snapshot, record.severity = .incomplete) ↔
      snapshot.overflowDetected = true := by
    simp only [headerFirings, exists_mem_append, firing_incomplete,
      (firing_violations _ _ _ _).not_incomplete, false_or]
  have hmode : (∃ record ∈ modeFirings snapshot mode, record.severity = .incomplete) ↔
      mode = .quiescent ∧ quiescentModeApplicable snapshot = false := by
    cases mode with
    | live => simp [modeFirings]
    | quiescent =>
      simp only [modeFirings, exists_mem_append, firing_incomplete, hbalances, or_false, true_and]
  simp only [firedChecks, exists_mem_append, hheader, hmode, haccounting, or_false,
    (structuralFirings_violations snapshot).not_incomplete]

end Fired

/-- The health is failed for a failed state or a counted violation. -/
theorem deriveHealth_failed_iff {snapshot : SchedulerSnapshot} {result : SchedulerValidationResult}
    (hversion : result.snapshotVersion = snapshot.version) :
    schedulerSnapshotDeriveHealth snapshot result = some .failed ↔
      snapshot.state = .failed ∨ result.violationCount ≠ 0 := by
  unfold schedulerSnapshotDeriveHealth
  rw [if_neg (Decidable.not_not.mpr hversion)]
  by_cases hfailed : snapshot.state = .failed ∨ result.violationCount ≠ 0
  · exact iff_of_true (if_pos hfailed) hfailed
  · rw [if_neg hfailed]
    refine iff_of_false ?_ hfailed
    split
    · nofun
    · split
      · nofun
      · split <;> nofun

/-- **Truncation hides nothing**: the recorded issues are the beginning of the list of checks
that fire, every record is written inside the array, and the counters, the flags and the
health are those of the whole list. -/
theorem validate_truncates (snapshot : SchedulerSnapshot) (mode : SchedulerValidationMode) :
    let fired := firedChecks snapshot mode
    let result := schedulerSnapshotValidate snapshot mode
    (∀ k, (recordAll (fired.take k)
        { mode := mode.toInt, snapshotVersion := snapshot.version }).issues.length
      ≤ issueCapacity) ∧
    result = recordAll fired { mode := mode.toInt, snapshotVersion := snapshot.version } ∧
    result.issues = fired.take issueCapacity ∧
    result.issues.length = min fired.length issueCapacity ∧
    (result.issuesTruncated = true ↔ issueCapacity < fired.length) ∧
    (result.issues.map (·.issue)).Nodup ∧
    result.violationCount = (fired.countP fun record => record.severity = .violation) ∧
    (result.validationIncomplete = true ↔ snapshot.overflowDetected = true ∨
      (mode = .quiescent ∧ quiescentModeApplicable snapshot = false)) ∧
    (schedulerSnapshotDeriveHealth snapshot result = some .failed ↔
      snapshot.state = .failed ∨ ∃ record ∈ fired, record.severity = .violation) := by
  intro fired result
  have hresult : result =
      recordAll fired { mode := mode.toInt, snapshotVersion := snapshot.version } :=
    validate_eq_recordAll snapshot mode
  have hissues : result.issues = fired.take issueCapacity := by
    rw [hresult]
    exact recordAll_issues (Nat.zero_le _) fired
  have hcount : result.violationCount
      = fired.countP fun record => record.severity = .violation := by
    rw [hresult, recordAll_violationCount]
    exact Nat.zero_add _
  refine ⟨?_, hresult, hissues, ?_, ?_, ?_, hcount, ?_, ?_⟩
  · -- at every moment of the validation
    intro k
    rw [recordAll_issues (Nat.zero_le _), List.length_take]
    exact Nat.min_le_left _ _
  · rw [hissues, List.length_take, Nat.min_comm]
  · rw [hresult, recordAll_truncated (Nat.zero_le _)]
    constructor
    · rintro (hfresh | ⟨-, hlt⟩)
      · cases hfresh
      · exact (Nat.zero_add fired.length) ▸ hlt
    · intro hlt
      refine .inr ⟨?_, (Nat.zero_add fired.length).symm ▸ hlt⟩
      rintro hempty
      rw [hempty] at hlt
      exact Nat.not_lt_zero _ hlt
  · -- no issue twice among the fired records, so none among those that were kept
    rw [hissues, List.map_take]
    exact (List.take_sublist _ _).nodup (firedChecks_nodup snapshot mode)
  · rw [hresult, recordAll_incomplete, firedChecks_incomplete]
    exact or_iff_right nofun
  · -- the health asks for the count, which counts the cut off violations too
    rw [deriveHealth_failed_iff (validate_version snapshot mode), hcount, ne_eq,
      List.countP_eq_zero]
    simp

end SchedulingEngine
