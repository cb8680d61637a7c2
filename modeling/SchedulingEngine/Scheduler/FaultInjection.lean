import SchedulingEngine.Observability.Snapshot

/-!
# Fault plans (scheduler_fault_injection.c)

A plan names one fault point and the occurrence at which it fires. The scheduler
consults it before the guarded action (`schedulerFaultShouldTrigger`), in test builds
only.
-/

namespace SchedulingEngine

/-- `SchedulerFaultPoint`; a test may pass a value that is not one of its constants. -/
inductive SchedulerFaultPoint where
  | none
  | allocation
  | workerCreation
  | workerStartup
  | workerJoin
  | outside (value : ℤ)
  deriving DecidableEq, Repr

structure SchedulerFaultPlan where
  point : SchedulerFaultPoint
  triggerOccurrence : ℕ
  observedOccurrence : ℕ
  enabled : Bool
  triggered : Bool
  occurrenceOverflow : Bool
  deriving DecidableEq, Repr

/-- `scheduler_fault_point_supported`. -/
def schedulerFaultPointSupported : SchedulerFaultPoint → Bool
  | .allocation | .workerCreation | .workerJoin => true
  | .none | .workerStartup | .outside _ => false

/-- `scheduler_fault_plan_init`. -/
def schedulerFaultPlanInit : SchedulerFaultPlan where
  point := .none
  triggerOccurrence := 0
  observedOccurrence := 0
  enabled := false
  triggered := false
  occurrenceOverflow := false

/-- `scheduler_fault_plan_configure`. -/
def schedulerFaultPlanConfigure (plan : SchedulerFaultPlan) (point : SchedulerFaultPoint)
    (triggerOccurrence : ℕ) : SchedulerFaultPlan × Bool :=
  if !schedulerFaultPointSupported point || triggerOccurrence = 0 then (plan, false)
  else
    ({ point, triggerOccurrence, observedOccurrence := 0, enabled := true, triggered := false,
       occurrenceOverflow := false }, true)

/-- `scheduler_fault_plan_reset`. -/
def schedulerFaultPlanReset (_plan : SchedulerFaultPlan) : SchedulerFaultPlan where
  point := .none
  triggerOccurrence := 0
  observedOccurrence := 0
  enabled := false
  triggered := false
  occurrenceOverflow := false

/-- `scheduler_fault_should_trigger`. -/
def schedulerFaultShouldTrigger (plan : SchedulerFaultPlan) (point : SchedulerFaultPoint) :
    SchedulerFaultPlan × Bool :=
  if !plan.enabled || plan.point ≠ point || plan.triggered then (plan, false)
  else if plan.observedOccurrence = uint64Max then ({ plan with occurrenceOverflow := true }, false)
  else
    let plan := { plan with observedOccurrence := plan.observedOccurrence + 1 }
    if plan.observedOccurrence = plan.triggerOccurrence then ({ plan with triggered := true }, true)
    else (plan, false)

end SchedulingEngine
