import Mathlib.Data.List.Induction
import SchedulingEngine.Scheduler.FaultInjection

/-!
# What a fault plan did, told from the calls made on it

A plan is driven by three calls (`FaultCall`). Which of them fires is a matter of the whole
history: the last `configure` that succeeded, if no `reset` came after it, and the number of
`should_trigger` calls for its point since (`Armed`).

- `faultRun_armed`: the six fields of an armed plan, as a function of that number.
- `triggered_iff`: the flag of a plan that has fired.
- `fault_plan_fires_once`: the answers and the fields over all histories.
-/

namespace SchedulingEngine

/-- The calls on a plan after `scheduler_fault_plan_init`; an occurrence has 64 bits. -/
inductive FaultCall where
  | configure (point : SchedulerFaultPoint) (triggerOccurrence : UInt64)
  | reset
  | shouldTrigger (point : SchedulerFaultPoint)
  deriving DecidableEq, Repr

/-- One call: the plan afterwards and the answer (`reset` has none). -/
def faultCall (plan : SchedulerFaultPlan) : FaultCall → SchedulerFaultPlan × Bool
  | .configure point triggerOccurrence =>
    schedulerFaultPlanConfigure plan point triggerOccurrence.toNat
  | .reset => (schedulerFaultPlanReset plan, false)
  | .shouldTrigger point => schedulerFaultShouldTrigger plan point

/-- The plan after a history of calls. -/
def faultRun (calls : List FaultCall) : SchedulerFaultPlan :=
  calls.foldl (fun plan call => (faultCall plan call).1) schedulerFaultPlanInit

/-! ## Histories -/

/-- The arguments that `configure` accepts. -/
def Configures (point : SchedulerFaultPoint) (triggerOccurrence : UInt64) : Prop :=
  schedulerFaultPointSupported point = true ∧ triggerOccurrence ≠ 0

instance (point : SchedulerFaultPoint) (triggerOccurrence : UInt64) :
    Decidable (Configures point triggerOccurrence) :=
  inferInstanceAs (Decidable (_ ∧ _))

/-- A call that ends the reign of an earlier `configure`. -/
def FaultCall.Supersedes : FaultCall → Prop
  | .configure point triggerOccurrence => Configures point triggerOccurrence
  | .reset => True
  | .shouldTrigger _ => False

/-- The most recent successful `configure` was `configure(point, occurrence)`, no `reset`
followed it, and `seen` calls of `should_trigger(point)` were made since. -/
def Armed (calls : List FaultCall) (point : SchedulerFaultPoint) (occurrence : UInt64)
    (seen : ℕ) : Prop :=
  ∃ before after, calls = before ++ .configure point occurrence :: after ∧
    Configures point occurrence ∧ (∀ call ∈ after, ¬call.Supersedes) ∧
    after.count (.shouldTrigger point) = seen

/-- The plan at the given number of matching calls. -/
def armedPlan (point : SchedulerFaultPoint) (occurrence : UInt64) (seen : ℕ) :
    SchedulerFaultPlan where
  point := point
  triggerOccurrence := occurrence.toNat
  observedOccurrence := min seen occurrence.toNat
  enabled := true
  triggered := decide (occurrence.toNat ≤ seen)
  occurrenceOverflow := false

/-- The plan has fired: since its last `configure` a call got the answer `true`. -/
def Fired (calls : List FaultCall) : Prop :=
  ∃ earlier point later, calls = earlier ++ .shouldTrigger point :: later ∧
    (faultCall (faultRun earlier) (.shouldTrigger point)).2 = true ∧
    ∀ call ∈ later, ¬call.Supersedes

/-! ## One call -/

theorem toNat_occurrence_eq_zero {occurrence : UInt64} : occurrence.toNat = 0 ↔ occurrence = 0 :=
  ⟨fun h => UInt64.toNat_inj.mp h, fun h => congrArg UInt64.toNat h⟩

theorem configures_iff (plan : SchedulerFaultPlan) (point : SchedulerFaultPoint)
    (occurrence : UInt64) :
    (faultCall plan (.configure point occurrence)).2 = true ↔ Configures point occurrence := by
  unfold faultCall schedulerFaultPlanConfigure Configures
  have hzero : occurrence.toNat = 0 ↔ occurrence = 0 := toNat_occurrence_eq_zero
  by_cases hpoint : schedulerFaultPointSupported point = true
  · by_cases hoccurrence : occurrence = 0
    · simp [hpoint, hoccurrence]
    · simp [hpoint, hoccurrence, hzero]
  · simp [hpoint]

/-- A `configure` that fails changes nothing. -/
theorem faultCall_refused {plan : SchedulerFaultPlan} {point : SchedulerFaultPoint}
    {occurrence : UInt64} (h : ¬Configures point occurrence) :
    faultCall plan (.configure point occurrence) = (plan, false) := by
  have hfalse : (faultCall plan (.configure point occurrence)).2 = false := by
    rw [← Bool.not_eq_true, configures_iff]
    exact h
  unfold faultCall schedulerFaultPlanConfigure at hfalse ⊢
  dsimp only at hfalse ⊢
  split
  · rfl
  · rename_i hguard
    rw [if_neg hguard] at hfalse
    cases hfalse

/-- A `configure` that succeeds arms the plan afresh. -/
theorem faultCall_configured {plan : SchedulerFaultPlan} {point : SchedulerFaultPoint}
    {occurrence : UInt64} (h : Configures point occurrence) :
    (faultCall plan (.configure point occurrence)).1 = armedPlan point occurrence 0 := by
  obtain ⟨hpoint, hoccurrence⟩ := h
  have hpos : occurrence.toNat ≠ 0 := fun hzero => hoccurrence (toNat_occurrence_eq_zero.mp hzero)
  simp [faultCall, schedulerFaultPlanConfigure, armedPlan, hpoint, hpos]

/-- A plan that is not enabled answers no call, and one for another point changes nothing. -/
theorem faultCall_elsewhere {plan : SchedulerFaultPlan} {point : SchedulerFaultPoint}
    (h : plan.enabled = false ∨ plan.point ≠ point) :
    faultCall plan (.shouldTrigger point) = (plan, false) := by
  refine if_pos ?_
  rcases h with henabled | hpoint
  · simp [henabled]
  · simp [hpoint]

/-- **A matching call** counts up to the chosen occurrence, and fires there. The count stays
below the occurrence before that, so it never meets `UINT64_MAX`. -/
theorem faultCall_armed (point : SchedulerFaultPoint) (occurrence : UInt64) (seen : ℕ) :
    faultCall (armedPlan point occurrence seen) (.shouldTrigger point)
      = (armedPlan point occurrence (seen + 1), decide (seen + 1 = occurrence.toNat)) := by
  have hbound : occurrence.toNat < 2 ^ 64 := occurrence.toNat_lt
  unfold faultCall schedulerFaultShouldTrigger
  by_cases hfired : occurrence.toNat ≤ seen
  · have hlater : seen + 1 ≠ occurrence.toNat := by omega
    have hstill : occurrence.toNat ≤ seen + 1 := by omega
    simp [armedPlan, hfired, hlater, hstill]
  · have hroom : min seen occurrence.toNat ≠ uint64Max := by
      unfold uint64Max
      omega
    have hmin : min seen occurrence.toNat = seen := by omega
    have hnext : min (seen + 1) occurrence.toNat = seen + 1 := by omega
    rw [hmin] at hroom
    by_cases hnow : seen + 1 = occurrence.toNat
    · simp [armedPlan, hfired, hmin, hroom, hnow]
    · have hnot : ¬occurrence.toNat ≤ seen + 1 := by omega
      simp [armedPlan, hfired, hmin, hnext, hroom, hnow, hnot]

/-! ## Whole histories -/

theorem faultRun_append (before after : List FaultCall) :
    faultRun (before ++ after)
      = after.foldl (fun plan call => (faultCall plan call).1) (faultRun before) :=
  List.foldl_append

theorem faultRun_snoc (calls : List FaultCall) (call : FaultCall) :
    faultRun (calls ++ [call]) = (faultCall (faultRun calls) call).1 :=
  faultRun_append calls [call]

/-- Calls that do not supersede it move an armed plan along. -/
theorem armedPlan_run (point : SchedulerFaultPoint) (occurrence : UInt64) (seen : ℕ)
    {calls : List FaultCall} (h : ∀ call ∈ calls, ¬call.Supersedes) :
    calls.foldl (fun plan call => (faultCall plan call).1) (armedPlan point occurrence seen)
      = armedPlan point occurrence (seen + calls.count (.shouldTrigger point)) := by
  induction calls generalizing seen with
  | nil => rfl
  | cons call calls ih =>
    obtain ⟨hcall, hcalls⟩ := List.forall_mem_cons.mp h
    rw [List.foldl_cons]
    cases call with
    | configure other occurrence' =>
      have hother : FaultCall.configure other occurrence' ≠ .shouldTrigger point := nofun
      rw [faultCall_refused hcall, ih seen hcalls, List.count_cons_of_ne hother]
    | reset => exact absurd trivial hcall
    | shouldTrigger other =>
      by_cases hsame : other = point
      · subst hsame
        rw [faultCall_armed, ih (seen + 1) hcalls, List.count_cons_self]
        congr 1
        omega
      · have hother : (FaultCall.shouldTrigger other) ≠ .shouldTrigger point := by
          rintro ⟨⟩
          exact hsame rfl
        rw [faultCall_elsewhere (.inr (Ne.symm hsame)), ih seen hcalls,
          List.count_cons_of_ne hother]

/-- **The fields of an armed plan.** -/
theorem faultRun_armed {calls : List FaultCall} {point : SchedulerFaultPoint}
    {occurrence : UInt64} {seen : ℕ} (h : Armed calls point occurrence seen) :
    faultRun calls = armedPlan point occurrence seen := by
  obtain ⟨before, after, rfl, hconfigures, hafter, rfl⟩ := h
  rw [faultRun_append, List.foldl_cons, faultCall_configured hconfigures,
    armedPlan_run point occurrence 0 hafter, Nat.zero_add]

/-- A call that does not supersede the last `configure` leaves the history armed. -/
theorem Armed.snoc {calls : List FaultCall} {point : SchedulerFaultPoint} {occurrence : UInt64}
    {seen : ℕ} (h : Armed calls point occurrence seen) {call : FaultCall}
    (hcall : ¬call.Supersedes) : ∃ seen, Armed (calls ++ [call]) point occurrence seen := by
  obtain ⟨before, after, rfl, hconfigures, hafter, rfl⟩ := h
  refine ⟨_, before, after ++ [call], by simp, hconfigures, ?_, rfl⟩
  intro other hother
  rcases List.mem_append.mp hother with hother | hother
  · exact hafter other hother
  · rw [List.mem_singleton.mp hother]
    exact hcall

/-- **Every history is armed, or leaves the plan as initialised.** -/
theorem faultRun_cases (calls : List FaultCall) :
    (∃ point occurrence seen, Armed calls point occurrence seen) ∨
      faultRun calls = schedulerFaultPlanInit := by
  induction calls using List.reverseRecOn with
  | nil => exact .inr rfl
  | append_singleton calls call ih =>
    have hkeep (hcall : ¬call.Supersedes)
        (hinit : (faultCall schedulerFaultPlanInit call).1 = schedulerFaultPlanInit) :
        (∃ point occurrence seen, Armed (calls ++ [call]) point occurrence seen) ∨
          faultRun (calls ++ [call]) = schedulerFaultPlanInit := by
      rcases ih with ⟨point, occurrence, seen, harmed⟩ | hdisarmed
      · exact .inl ⟨point, occurrence, harmed.snoc hcall⟩
      · right
        rw [faultRun_snoc, hdisarmed, hinit]
    cases call with
    | configure point occurrence =>
      by_cases hconfigures : Configures point occurrence
      · exact .inl ⟨point, occurrence, 0, calls, [], rfl, hconfigures, nofun, rfl⟩
      · exact hkeep hconfigures (by rw [faultCall_refused hconfigures])
    | reset =>
      right
      rw [faultRun_snoc]
      rfl
    | shouldTrigger point => exact hkeep id (by rw [faultCall_elsewhere (.inl rfl)])

/-- `triggered` is set by a call that fires and cleared by one that supersedes. -/
theorem triggered_faultCall (plan : SchedulerFaultPlan) (call : FaultCall) :
    (faultCall plan call).1.triggered = true ↔
      (¬call.Supersedes ∧ plan.triggered = true) ∨
        ∃ point, call = .shouldTrigger point ∧ (faultCall plan call).2 = true := by
  cases call with
  | configure point occurrence =>
    by_cases hconfigures : Configures point occurrence
    · have hpos : ¬occurrence.toNat ≤ 0 := by
        rw [Nat.le_zero, toNat_occurrence_eq_zero]
        exact hconfigures.2
      rw [faultCall_configured hconfigures]
      simp [FaultCall.Supersedes, hconfigures, armedPlan, hpos]
    · rw [faultCall_refused hconfigures]
      simp [FaultCall.Supersedes, hconfigures]
  | reset => simp [faultCall, schedulerFaultPlanReset, FaultCall.Supersedes]
  | shouldTrigger point =>
    simp only [faultCall, schedulerFaultShouldTrigger, FaultCall.Supersedes]
    split
    · simp
    · rename_i hguard
      simp only [Bool.or_eq_true, not_or, Bool.not_eq_true] at hguard
      split
      · simp [hguard]
      · split
        · simp
        · simp [hguard]

theorem fired_snoc (calls : List FaultCall) (call : FaultCall) :
    Fired (calls ++ [call]) ↔ (¬call.Supersedes ∧ Fired calls) ∨
      ∃ point, call = .shouldTrigger point ∧ (faultCall (faultRun calls) call).2 = true := by
  constructor
  · rintro ⟨earlier, point, later, hcalls, hfires, hlater⟩
    -- the call that fired is the last one, or stands before it
    rcases List.eq_nil_or_concat later with rfl | ⟨later, last, rfl⟩
    · obtain ⟨rfl, rfl⟩ : calls = earlier ∧ call = .shouldTrigger point := by
        simpa using List.append_inj' hcalls rfl
      exact .inr ⟨point, rfl, hfires⟩
    · have hsplit : calls ++ [call] = (earlier ++ .shouldTrigger point :: later) ++ [last] := by
        rw [hcalls]
        simp
      obtain ⟨rfl, hlast⟩ := List.append_inj' hsplit rfl
      obtain rfl : call = last := by simpa using hlast
      exact .inl ⟨hlater call (by simp), earlier, point, later, rfl, hfires,
        fun other hother => hlater other (by simp [hother])⟩
  · rintro (⟨hcall, earlier, point, later, rfl, hfires, hlater⟩ | ⟨point, rfl, hfires⟩)
    · refine ⟨earlier, point, later ++ [call], by simp, hfires, ?_⟩
      intro other hother
      rcases List.mem_append.mp hother with hother | hother
      · exact hlater other hother
      · rw [List.mem_singleton.mp hother]
        exact hcall
    · exact ⟨calls, point, [], rfl, hfires, nofun⟩

theorem triggered_iff (calls : List FaultCall) :
    (faultRun calls).triggered = true ↔ Fired calls := by
  induction calls using List.reverseRecOn with
  | nil =>
    constructor
    · nofun
    · rintro ⟨earlier, point, later, hcalls, -⟩
      simp at hcalls
  | append_singleton calls call ih =>
    rw [faultRun_snoc, triggered_faultCall, fired_snoc, ih]

/-- **A plan fires exactly once**, at the chosen occurrence. -/
theorem fault_plan_fires_once (calls : List FaultCall) :
    (∀ point, (faultCall (faultRun calls) (.shouldTrigger point)).2 = true ↔
      ∃ occurrence seen, Armed calls point occurrence seen ∧ seen + 1 = occurrence.toNat) ∧
    (∀ point, (¬∃ occurrence seen, Armed calls point occurrence seen) →
      faultCall (faultRun calls) (.shouldTrigger point) = (faultRun calls, false)) ∧
    (∀ point occurrence,
      ((faultCall (faultRun calls) (.configure point occurrence)).2 = true ↔
        Configures point occurrence) ∧
      ((faultCall (faultRun calls) (.configure point occurrence)).2 = false →
        (faultCall (faultRun calls) (.configure point occurrence)).1 = faultRun calls)) ∧
    (∀ point occurrence seen, Armed calls point occurrence seen →
      (faultRun calls).observedOccurrence = min seen occurrence.toNat) ∧
    ((¬∃ point occurrence seen, Armed calls point occurrence seen) →
      (faultRun calls).observedOccurrence = 0) ∧
    ((faultRun calls).triggered = true ↔ Fired calls) ∧
    (faultRun calls).occurrenceOverflow = false := by
  refine ⟨?_, ?_, ?_, ?_, ?_, triggered_iff calls, ?_⟩
  · intro point
    constructor
    · -- a plan that fires is armed, for this point and at this occurrence
      intro hfires
      rcases faultRun_cases calls with ⟨point', occurrence, seen, harmed⟩ | hdisarmed
      · rw [faultRun_armed harmed] at hfires
        by_cases hsame : point' = point
        · subst hsame
          rw [faultCall_armed] at hfires
          exact ⟨occurrence, seen, harmed, of_decide_eq_true hfires⟩
        · rw [faultCall_elsewhere (.inr hsame)] at hfires
          cases hfires
      · rw [hdisarmed, faultCall_elsewhere (.inl rfl)] at hfires
        cases hfires
    · rintro ⟨occurrence, seen, harmed, hnow⟩
      rw [faultRun_armed harmed, faultCall_armed]
      exact decide_eq_true hnow
  · intro point hnot
    rcases faultRun_cases calls with ⟨point', occurrence, seen, harmed⟩ | hdisarmed
    · refine faultCall_elsewhere (.inr ?_)
      rw [faultRun_armed harmed]
      rintro rfl
      exact hnot ⟨occurrence, seen, harmed⟩
    · rw [hdisarmed]
      exact faultCall_elsewhere (.inl rfl)
  · intro point occurrence
    have hiff := configures_iff (faultRun calls) point occurrence
    refine ⟨hiff, fun hfalse => ?_⟩
    -- a refused configuration changes nothing
    have hnot : ¬Configures point occurrence := by
      rw [← hiff, hfalse]
      nofun
    rw [faultCall_refused hnot]
  · intro point occurrence seen harmed
    rw [faultRun_armed harmed]
    rfl
  · intro hnot
    rw [(faultRun_cases calls).resolve_left hnot]
    rfl
  · rcases faultRun_cases calls with ⟨point, occurrence, seen, harmed⟩ | hdisarmed
    · rw [faultRun_armed harmed]
      rfl
    · rw [hdisarmed]
      rfl

end SchedulingEngine
