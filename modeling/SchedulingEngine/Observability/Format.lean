import SchedulingEngine.Observability.Validation
import SchedulingEngine.Text.BoundedText

/-!
# Formatting a validation (scheduler_validation.c)

`scheduler_validation_format` builds its text piece by piece: a header line and one line for
each recorded issue. Every piece is written into what is left of the buffer, and the length
of the whole text is counted along.

- `validationText`: the whole text.
- `appendFormat_shows`: one piece, wherever the end of the buffer falls.
- `validation_format_truncates`: the buffer shows the text cut off at its size, and the
  answer does not depend on the size.
-/

namespace SchedulingEngine

open Text

/-! ## The text -/

/-- The severity as an `unsigned`. -/
def SchedulerValidationSeverity.toNat : SchedulerValidationSeverity → ℕ
  | .informational => 1
  | .advisory => 2
  | .violation => 3
  | .incomplete => 4
  | .outside value => (UInt32.ofInt value).toNat

/-- `scheduler_validation_issue_name`. -/
def schedulerValidationIssueName : SchedulerValidationIssue → String
  | .snapshotVersionUnsupported => "SNAPSHOT_VERSION_UNSUPPORTED"
  | .consistencyUnsupported => "CONSISTENCY_UNSUPPORTED"
  | .accountingOverflow => "ACCOUNTING_OVERFLOW"
  | .queueSizeExceedsCapacity => "QUEUE_SIZE_EXCEEDS_CAPACITY"
  | .queueHighWaterExceedsCapacity => "QUEUE_HIGH_WATER_EXCEEDS_CAPACITY"
  | .queueSizeExceedsHighWater => "QUEUE_SIZE_EXCEEDS_HIGH_WATER"
  | .createdExceedsConfigured => "CREATED_EXCEEDS_CONFIGURED"
  | .readyExceedsCreated => "READY_EXCEEDS_CREATED"
  | .activeExceedsCreated => "ACTIVE_EXCEEDS_CREATED"
  | .joinedExceedsCreated => "JOINED_EXCEEDS_CREATED"
  | .activeJoinedExceedCreated => "ACTIVE_JOINED_EXCEED_CREATED"
  | .runningExceedsActive => "RUNNING_EXCEEDS_ACTIVE"
  | .callbackOutcomesExceedStarts => "CALLBACK_OUTCOMES_EXCEED_STARTS"
  | .acceptedExceedsSubmitted => "ACCEPTED_EXCEEDS_SUBMITTED"
  | .rejectedExceedsSubmitted => "REJECTED_EXCEEDS_SUBMITTED"
  | .dequeuedExceedsAccepted => "DEQUEUED_EXCEEDS_ACCEPTED"
  | .callbackStartsExceedDequeued => "CALLBACK_STARTS_EXCEED_DEQUEUED"
  | .lifecycleFlagsInvalid => "LIFECYCLE_FLAGS_INVALID"
  | .quiescentModeNotApplicable => "QUIESCENT_MODE_NOT_APPLICABLE"
  | .submissionBalanceMismatch => "SUBMISSION_BALANCE_MISMATCH"
  | .acceptedDequeuedMismatch => "ACCEPTED_DEQUEUED_MISMATCH"
  | .dequeuedCallbackMismatch => "DEQUEUED_CALLBACK_MISMATCH"
  | .callbackBalanceMismatch => "CALLBACK_BALANCE_MISMATCH"
  | .quiescentQueueNotEmpty => "QUIESCENT_QUEUE_NOT_EMPTY"
  | .quiescentCallbackRunning => "QUIESCENT_CALLBACK_RUNNING"
  | .quiescentWorkerActive => "QUIESCENT_WORKER_ACTIVE"
  | .stoppedWorkersNotJoined => "STOPPED_WORKERS_NOT_JOINED"
  | .startupFailuresExceedConfigured => "STARTUP_FAILURES_EXCEED_CONFIGURED"
  | .outside _ => "UNKNOWN"

/-- The characters of a literal. -/
@[irreducible] def chars (text : String) : List Char := text.toList

/-- The decimal conversions of the formats. -/
def decimal (n : ℕ) : List Char := Nat.toDigits 10 n

/-- The header line. -/
def headerPiece (result : SchedulerValidationResult) : List Char :=
  chars "mode=" ++ chars
    (if result.mode = SchedulerValidationMode.live.toInt then "LIVE" else "QUIESCENT") ++
  chars " version=" ++ decimal result.snapshotVersion ++
  chars " issues=" ++ decimal result.issues.length ++
  chars " violations=" ++ decimal result.violationCount ++
  chars " advisories=" ++ decimal result.advisoryCount ++
  chars " incomplete=" ++ decimal (if result.validationIncomplete then 1 else 0) ++
  chars " truncated=" ++ decimal (if result.issuesTruncated then 1 else 0)

/-- The line of one recorded issue. -/
def issuePiece (record : SchedulerValidationIssueRecord) : List Char :=
  chars "\nissue=" ++ chars (schedulerValidationIssueName record.issue) ++
  chars " severity=" ++ decimal record.severity.toNat ++
  chars " observed=" ++ decimal record.observed ++
  chars " expected=" ++ decimal record.expected

/-- **The full text**: the header line and a line for each recorded issue. -/
def validationText (result : SchedulerValidationResult) : List Char :=
  headerPiece result ++ result.issues.flatMap issuePiece

/-! ## The code -/

/-- `append_format`: the buffer and `*required` afterwards. Where nothing is available the
source passes `NULL`, to which nothing is written either. -/
def appendFormat (bufferSize : ℕ) (piece : List Char) :
    Option Memory × ℕ → Option Memory × ℕ
  | (buffer, required) =>
    let offset := if required < bufferSize then required else bufferSize
    let available := if offset < bufferSize then bufferSize - offset else 0
    let (buffer, count) := vsnprintf buffer offset available piece
    (buffer, if 0 < count then required + count.toNat else required)

/-- `scheduler_validation_format`; a `NULL` buffer is `none`. -/
def schedulerValidationFormat (_snapshot : SchedulerSnapshot) (result : SchedulerValidationResult)
    (buffer : Option Memory) (bufferSize : ℕ) : Option Memory × ℤ :=
  if buffer.isNone ∧ bufferSize ≠ 0 then (buffer, -1)
  else
    let written := appendFormat bufferSize (headerPiece result) (buffer, 0)
    let written := result.issues.foldl
      (fun written record => appendFormat bufferSize (issuePiece record) written) written
    let buffer := if bufferSize ≠ 0 then
        written.1.map fun memory => writeAt memory (bufferSize - 1) [nul]
      else written.1
    (buffer, if written.2 > intMax then intMax else written.2)

/-! ## One piece -/

/-- What has been written of `text`: the length is counted, the buffer shows the text, and the
cells behind the buffer are those of `memory`. -/
structure Written (memory : Memory) (size : ℕ) (text : List Char)
    (written : Option Memory × ℕ) : Prop where
  required : written.2 = text.length
  buffer : ∃ memory', written.1 = some memory' ∧ (text = [] ∨ Shows memory' size text) ∧
    ∀ i, size ≤ i → memory' i = memory i

section Append

variable {memory : Memory} {size : ℕ} {text piece : List Char} {written : Option Memory × ℕ}

/-- The length is counted whatever the buffer. -/
theorem appendFormat_required (hpiece : piece.length ≤ intMax) :
    (appendFormat size piece written).2 = written.2 + piece.length := by
  simp only [appendFormat, vsnprintf, if_pos hpiece, Int.toNat_natCast]
  split
  · rfl
  · rename_i hzero
    omega

/-- **One piece** is appended, cut off or left out, as the room is. -/
theorem appendFormat_shows (h : Written memory size text written)
    (hpiece : piece.length ≤ intMax) :
    Written memory size (text ++ piece) (appendFormat size piece written) := by
  obtain ⟨hrequired, memory', hbuffer, hshows, hframe⟩ := h
  refine ⟨?_, ?_⟩
  · rw [appendFormat_required hpiece, hrequired, List.length_append]
  · obtain ⟨buffer, required⟩ := written
    obtain rfl : required = text.length := hrequired
    obtain rfl : buffer = some memory' := hbuffer
    by_cases hroom : text.length < size
    · -- the piece begins inside the buffer, over the terminator of the text
      have havailable : size - text.length ≠ 0 := by omega
      refine ⟨_, ?_, .inr (shows_append hroom hshows), ?_⟩
      · simp only [appendFormat, vsnprintf, if_pos hroom, if_neg havailable, Option.map_some]
      · intro i hi
        refine (writeAt_outside (.inr ?_)).trans (hframe i hi)
        rw [List.length_append, List.length_take, List.length_singleton]
        omega
    · -- the text fills the buffer already
      refine ⟨memory', ?_, ?_, hframe⟩
      · simp only [appendFormat, vsnprintf, if_neg hroom, Nat.lt_irrefl, if_false, if_true]
      · rcases hshows with rfl | hshows
        · by_cases hempty : piece = []
          · exact .inl hempty
          · right
            intro hsize
            exact absurd (show ([] : List Char).length < size from hsize) hroom
        · exact .inr (shows_cut (Nat.not_lt.mp hroom) hshows)

/-- All the lines of the recorded issues. -/
theorem appendFormat_lines (records : List SchedulerValidationIssueRecord)
    (h : Written memory size text written)
    (hpieces : ∀ record ∈ records, (issuePiece record).length ≤ intMax) :
    Written memory size (text ++ records.flatMap issuePiece)
      (records.foldl (fun written record => appendFormat size (issuePiece record) written)
        written) := by
  induction records generalizing text written with
  | nil =>
    rw [List.flatMap_nil, List.append_nil]
    exact h
  | cons record records ih =>
    obtain ⟨hpiece, hrest⟩ := List.forall_mem_cons.mp hpieces
    have hall := ih (appendFormat_shows h hpiece) hrest
    rw [List.append_assoc] at hall
    rw [List.flatMap_cons]
    exact hall

/-- The length of the lines is counted whatever the buffer. -/
theorem appendFormat_lines_required (records : List SchedulerValidationIssueRecord)
    (hpieces : ∀ record ∈ records, (issuePiece record).length ≤ intMax) :
    (records.foldl (fun written record => appendFormat size (issuePiece record) written)
      written).2 = written.2 + (records.flatMap issuePiece).length := by
  induction records generalizing written with
  | nil => rfl
  | cons record records ih =>
    obtain ⟨hpiece, hrest⟩ := List.forall_mem_cons.mp hpieces
    rw [List.foldl_cons, ih hrest, appendFormat_required hpiece, List.flatMap_cons,
      List.length_append, Nat.add_assoc]

end Append

/-! ## The lengths -/

/-- The fields have the values of their C types. -/
structure SchedulerValidationResult.FitsTypes (result : SchedulerValidationResult) : Prop where
  version : result.snapshotVersion < 2 ^ 32
  violations : result.violationCount < 2 ^ 64
  advisories : result.advisoryCount < 2 ^ 64
  records : ∀ record ∈ result.issues, record.observed < 2 ^ 64 ∧ record.expected < 2 ^ 64

theorem decimal_length_le {n : ℕ} (h : n < 2 ^ 64) : (decimal n).length ≤ 20 := by
  refine (Nat.length_toDigits_le_iff (by decide) (by decide)).mpr ?_
  omega

theorem issueName_length_le (issue : SchedulerValidationIssue) :
    (chars (schedulerValidationIssueName issue)).length ≤ 40 := by
  cases issue <;> simp [schedulerValidationIssueName, chars]

theorem SchedulerValidationSeverity.toNat_lt (severity : SchedulerValidationSeverity) :
    severity.toNat < 2 ^ 64 := by
  cases severity with
  | outside value => exact Nat.lt_trans (UInt32.ofInt value).toNat_lt (by decide)
  | _ => decide

theorem issuePiece_length_le {record : SchedulerValidationIssueRecord}
    (h : record.observed < 2 ^ 64 ∧ record.expected < 2 ^ 64) :
    (issuePiece record).length ≤ 200 := by
  have hname := issueName_length_le record.issue
  have hseverity : (decimal record.severity.toNat).length ≤ 20 :=
    decimal_length_le record.severity.toNat_lt
  have hobserved := decimal_length_le h.1
  have hexpected := decimal_length_le h.2
  have hliterals : (chars "\nissue=").length + (chars " severity=").length
      + (chars " observed=").length + (chars " expected=").length = 37 := by simp [chars]
  simp only [issuePiece, List.length_append]
  omega

theorem flag_length_le (flag : Bool) : (decimal (if flag then 1 else 0)).length ≤ 20 :=
  decimal_length_le (by cases flag <;> decide)

theorem headerPiece_length_le {result : SchedulerValidationResult} (hfits : result.FitsTypes)
    (hcount : result.issues.length ≤ issueCapacity) : (headerPiece result).length ≤ 250 := by
  have hmode : (chars (if result.mode = SchedulerValidationMode.live.toInt then "LIVE"
      else "QUIESCENT")).length ≤ 9 := by
    split <;> simp [chars]
  have hversion : (decimal result.snapshotVersion).length ≤ 20 :=
    decimal_length_le (Nat.lt_of_lt_of_le hfits.version (by decide))
  have hissues : (decimal result.issues.length).length ≤ 20 :=
    decimal_length_le (Nat.lt_of_le_of_lt hcount (by decide))
  have hviolations := decimal_length_le hfits.violations
  have hadvisories := decimal_length_le hfits.advisories
  have hincomplete := flag_length_le result.validationIncomplete
  have htruncated := flag_length_le result.issuesTruncated
  have hliterals : (chars "mode=").length + (chars " version=").length
      + (chars " issues=").length + (chars " violations=").length
      + (chars " advisories=").length + (chars " incomplete=").length
      + (chars " truncated=").length = 69 := by simp [chars]
  simp only [headerPiece, List.length_append]
  omega

theorem lines_length_le {records : List SchedulerValidationIssueRecord}
    (h : ∀ record ∈ records, (issuePiece record).length ≤ 200) :
    (records.flatMap issuePiece).length ≤ 200 * records.length := by
  induction records with
  | nil => exact Nat.le_refl 0
  | cons record records ih =>
    obtain ⟨hrecord, hrest⟩ := List.forall_mem_cons.mp h
    have hlines := ih hrest
    rw [List.flatMap_cons, List.length_append, List.length_cons]
    omega

/-- The full text is short, so its length is an `int`. -/
theorem validationText_length_le {result : SchedulerValidationResult} (hfits : result.FitsTypes)
    (hcount : result.issues.length ≤ issueCapacity) :
    (validationText result).length ≤ intMax := by
  have hheader := headerPiece_length_le hfits hcount
  have hlines := lines_length_le fun record hrecord =>
    issuePiece_length_le (hfits.records record hrecord)
  have hbound : 250 + 200 * issueCapacity ≤ intMax := by decide
  rw [validationText, List.length_append]
  omega

/-! ## The whole call -/

section Format

variable {result : SchedulerValidationResult} (snapshot : SchedulerSnapshot)

/-- **The answer is the length of the full text**, whatever the buffer. -/
theorem schedulerValidationFormat_length (hfits : result.FitsTypes)
    (hcount : result.issues.length ≤ issueCapacity) {buffer : Option Memory} {size : ℕ}
    (hbuffer : buffer = none → size = 0) :
    (schedulerValidationFormat snapshot result buffer size).2 = (validationText result).length := by
  have hguard : ¬(buffer.isNone = true ∧ size ≠ 0) := by
    rintro ⟨hnone, hsize⟩
    exact hsize (hbuffer (Option.isNone_iff_eq_none.mp hnone))
  have htext := validationText_length_le hfits hcount
  have hheader : (headerPiece result).length ≤ intMax :=
    Nat.le_trans (headerPiece_length_le hfits hcount) (by decide)
  have hpieces : ∀ record ∈ result.issues, (issuePiece record).length ≤ intMax :=
    fun record hrecord =>
      Nat.le_trans (issuePiece_length_le (hfits.records record hrecord)) (by decide)
  simp only [schedulerValidationFormat, if_neg hguard, appendFormat_lines_required _ hpieces,
    appendFormat_required hheader, Nat.zero_add, ← List.length_append]
  exact if_neg (Nat.not_lt.mpr htext)

/-- There is nothing to write to behind `NULL`. -/
theorem schedulerValidationFormat_none :
    (schedulerValidationFormat snapshot result none 0).1 = none := by
  have happend : ∀ (piece : List Char) (written : Option Memory × ℕ), written.1 = none →
      (appendFormat 0 piece written).1 = none := fun _ _ h => h
  have hlines : ∀ (records : List SchedulerValidationIssueRecord) (written : Option Memory × ℕ),
      written.1 = none → (records.foldl (fun written record =>
        appendFormat 0 (issuePiece record) written) written).1 = none := by
    intro records
    induction records with
    | nil => exact fun written h => h
    | cons record records ih => exact fun written h => ih _ (happend _ written h)
  have hwritten := hlines result.issues _ (happend (headerPiece result) (none, 0) rfl)
  unfold schedulerValidationFormat
  rw [if_neg (fun h => h.2 rfl)]
  exact hwritten

/-- **The buffer shows the full text**, and the cells behind it are left alone. -/
theorem schedulerValidationFormat_shows (hfits : result.FitsTypes)
    (hcount : result.issues.length ≤ issueCapacity) (memory : Memory) (size : ℕ) :
    ∃ memory', (schedulerValidationFormat snapshot result (some memory) size).1 = some memory' ∧
      Shows memory' size (validationText result) ∧ ∀ i, size ≤ i → memory' i = memory i := by
  have hheader : (headerPiece result).length ≤ intMax :=
    Nat.le_trans (headerPiece_length_le hfits hcount) (by decide)
  have hpieces : ∀ record ∈ result.issues, (issuePiece record).length ≤ intMax :=
    fun record hrecord =>
      Nat.le_trans (issuePiece_length_le (hfits.records record hrecord)) (by decide)
  have hfresh : Written memory size [] (some memory, 0) :=
    ⟨rfl, memory, rfl, .inl rfl, fun _ _ => rfl⟩
  obtain ⟨-, memory', hwritten, hshows, hframe⟩ :=
    appendFormat_lines result.issues (appendFormat_shows hfresh hheader) hpieces
  have hnonempty : headerPiece result ≠ [] := by
    have hmode : chars "mode=" ≠ [] := by simp [chars]
    simp only [headerPiece, ne_eq, List.append_eq_nil_iff, hmode, false_and, not_false_eq_true]
  have hshown : Shows memory' size (validationText result) := by
    refine hshows.resolve_left ?_
    intro hempty
    exact hnonempty (List.append_eq_nil_iff.mp hempty).1
  simp only [schedulerValidationFormat, Option.isNone_some, Bool.false_eq_true, false_and, if_false]
  by_cases hsize : size ≠ 0
  · refine ⟨writeAt memory' (size - 1) [nul], ?_,
      shows_terminated (Nat.pos_of_ne_zero hsize) hshown,
      ?_⟩
    · rw [if_pos hsize, hwritten]
      rfl
    · intro i hi
      refine (writeAt_outside (.inr ?_)).trans (hframe i hi)
      rw [List.length_singleton]
      omega
  · refine ⟨memory', ?_, hshown, hframe⟩
    rw [if_neg hsize, hwritten]

end Format

/-- **Formatting is a truncation that does not depend on the size of the buffer.** -/
theorem validation_format_truncates (snapshot : SchedulerSnapshot)
    {result : SchedulerValidationResult} (hfits : result.FitsTypes)
    (hcount : result.issues.length ≤ issueCapacity) :
    let text := validationText result
    (schedulerValidationFormat snapshot result none 0) = (none, (text.length : ℤ)) ∧
    ∀ memory size, ∃ memory',
      schedulerValidationFormat snapshot result (some memory) size
        = (some memory', (text.length : ℤ)) ∧
      (0 < size →
        (∀ i c, i < min text.length (size - 1) → text[i]? = some c → memory' i = c) ∧
        memory' (min text.length (size - 1)) = nul) ∧
      (∀ i, size ≤ i → memory' i = memory i) ∧
      (size = text.length + 1 →
        (List.range text.length).map memory' = text ∧ memory' text.length = nul) := by
  intro text
  constructor
  · refine Prod.ext ?_ (schedulerValidationFormat_length snapshot hfits hcount fun _ => rfl)
    exact schedulerValidationFormat_none snapshot
  · intro memory size
    obtain ⟨memory', hmemory, hshows, hframe⟩ :=
      schedulerValidationFormat_shows snapshot hfits hcount memory size
    refine ⟨memory', ?_, ?_, hframe, ?_⟩
    · exact Prod.ext hmemory (schedulerValidationFormat_length snapshot hfits hcount nofun)
    · intro hsize
      have hholds := hshows hsize
      have hlength : ((validationText result).take (size - 1)).length
          = min text.length (size - 1) := by
        rw [List.length_take, Nat.min_comm]
      constructor
      · intro i c hi hc
        refine hholds i c ?_
        rw [List.getElem?_append_left (by omega), List.getElem?_take_of_lt (by omega)]
        exact hc
      · refine hholds _ nul ?_
        rw [List.getElem?_append_right (by omega), hlength, Nat.sub_self]
        rfl
    · rintro rfl
      exact hshows.whole

/-- A validation with one issue. -/
def shortResult : SchedulerValidationResult where
  mode := SchedulerValidationMode.live.toInt
  snapshotVersion := 1
  violationCount := 1
  issues := [⟨.readyExceedsCreated, .violation, 3, 2⟩]

/-- Its text in a buffer that cuts it off inside the header. -/
theorem validation_format_truncates_short :
    shortResult.FitsTypes ∧ ∃ memory',
      (schedulerValidationFormat {} shortResult (some fun _ => nul) 8).1 = some memory' ∧
      memory' 0 = 'm' ∧ memory' 7 = nul := by
  have hfits : shortResult.FitsTypes := by
    refine ⟨by decide, by decide, by decide, ?_⟩
    intro record hrecord
    rw [List.mem_singleton.mp hrecord]
    decide
  refine ⟨hfits, ?_⟩
  obtain ⟨-, hsizes⟩ := validation_format_truncates {} hfits (by decide)
  obtain ⟨memory', hformat, hshows, -⟩ := hsizes (fun _ => nul) 8
  obtain ⟨htext, hnul⟩ := hshows (by decide)
  have hlong : 9 ≤ (validationText shortResult).length := by
    simp only [validationText, headerPiece, List.length_append]
    simp [chars, shortResult]
    omega
  have hmin : min (validationText shortResult).length (8 - 1) = 7 := by omega
  rw [hmin] at htext hnul
  refine ⟨memory', congrArg Prod.fst hformat, htext 0 'm' (by decide) ?_, hnul⟩
  simp [validationText, headerPiece, chars]

end SchedulingEngine
