import SchedulingEngine.Queue.Accounting
import SchedulingEngine.Scheduler.Threads

/-!
# Conservation of submissions and Tasks

Every thread carries an account of what it has done and not yet reported:

- `registered`: one for a submission between `register_submitter` and
  `deregister_submitter`;
- `inFlight`: the pointer that a submission has inserted and not yet reported as
  accepted;
- `held`: the pointer that a worker has removed and not yet passed to the callback;
- `executing`: the pointer that a worker has passed to the callback and that has not
  come back.

`Ledger` says what one step does to the scheduler and to the account of its thread;
from it each conservation law follows by the balance rule, in every reachable state.
-/

namespace SchedulingEngine

open Concurrency

variable {W : ℕ} {C P : Type}

/-! ## Accounts -/

/-- The call that a thread is in, if any. -/
def SchedulerPc.toCall : SchedulerPc W P → CallPc P
  | .call pc | .worker _ (.callback _ _ pc) => pc
  | _ => .idle

/-- A submitter from its registration to its deregistration. -/
def CallPc.registered : CallPc P → ℕ
  | .registerUnlock _ _ .ok | .enqueue _ _ _ | .deregisterLock _ _ => 1
  | _ => 0

/-- Reported as accepted in the lifecycle domain, and not yet returned. -/
def CallPc.reported : CallPc P → ℕ
  | .deregisterUnlock _ .ok => 1
  | _ => 0

/-- The Task that the call has inserted, until it returns. -/
def CallPc.inFlight : CallPc P → Multiset P
  | .enqueue _ _ q => q.inserted
  | .deregisterLock task .ok | .deregisterUnlock task .ok => {task}
  | _ => 0

def SchedulerPc.registered (pc : SchedulerPc W P) : ℕ := pc.toCall.registered

def SchedulerPc.reported (pc : SchedulerPc W P) : ℕ := pc.toCall.reported

def SchedulerPc.inFlight (pc : SchedulerPc W P) : Multiset P := pc.toCall.inFlight

/-- The Task that a worker has removed and not yet passed to its callback. -/
def WorkerPc.held : WorkerPc P → Multiset P
  | .dequeue q => q.removed
  | .accountDequeued task | .accountStarted task | .accountRunning task | .invoke task _ => {task}
  | _ => 0

def SchedulerPc.held : SchedulerPc W P → Multiset P
  | .worker _ pc => pc.held
  | _ => 0

/-- The Task whose callback runs. -/
def SchedulerPc.executing : SchedulerPc W P → Multiset P
  | .worker _ (.callback task _ _) => {task}
  | _ => 0

/-- The queue call that the thread is in, by its own code. -/
def CallPc.operation : CallPc P → Option (QueueOperation P)
  | .enqueue kind task _ => some (kind.operation task)
  | .captureQueue _ _ => some .captureRuntimeSnapshot
  | _ => none

/-- The operation of the queue under way. -/
def SchedulerPc.operation : SchedulerPc W P → Option (QueueOperation P)
  | .call pc | .worker _ (.callback _ _ pc) => pc.operation
  | .worker _ (.dequeue _) => some .dequeue
  | .worker _ (.queueShutdown _ _) => some .shutdown
  | .controller (.abortQueue _) | .controller (.shutdownQueue _) => some .shutdown
  | _ => none

section Wake

variable (pc : SchedulerPc W P)

/-- A wakeup inside a call is a wakeup of the call. -/
theorem SchedulerPc.toCall_wake : pc.wake.toCall = pc.toCall.wake := by
  cases pc with
  | call pc => rfl
  | worker i pc => cases pc <;> rfl
  | controller pc => rfl

/-- A wakeup changes none of what is counted here: it moves a thread within its operation. -/
theorem SchedulerPc.registered_wake : pc.wake.registered = pc.registered := by
  rw [registered, toCall_wake, registered]
  cases pc.toCall <;> rfl

theorem SchedulerPc.reported_wake : pc.wake.reported = pc.reported := by
  rw [reported, toCall_wake, reported]
  cases pc.toCall <;> rfl

theorem SchedulerPc.inFlight_wake : pc.wake.inFlight = pc.inFlight := by
  rw [inFlight, toCall_wake, inFlight]
  cases pc.toCall with
  | enqueue kind task q => exact q.inserted_wake
  | _ => rfl

theorem SchedulerPc.held_wake : pc.wake.held = pc.held := by
  cases pc with
  | call pc => rfl
  | worker i pc =>
    cases pc with
    | dequeue q => exact q.removed_wake
    | _ => rfl
  | controller pc => rfl

theorem SchedulerPc.executing_wake : pc.wake.executing = pc.executing := by
  cases pc with
  | call pc => rfl
  | worker i pc => cases pc <;> rfl
  | controller pc => rfl

theorem SchedulerPc.operation_wake : pc.wake.operation = pc.operation := by
  cases pc with
  | call pc => cases pc <;> rfl
  | worker i pc =>
    cases pc with
    | callback task runningAccounted call => cases call <;> rfl
    | _ => rfl
  | controller pc => cases pc <;> rfl

end Wake

/-! ## What one step does to the accounts -/

/-- The moves of one step, from `sh` and the account of `pc` to `sh'` and that of `pc'`. -/
structure Ledger (sh sh' : Scheduler W C P) (pc pc' : SchedulerPc W P) : Prop where
  operation : pc'.queue.operation = pc'.operation
  registered : sh'.lifecycle.activeSubmitterCount + pc.registered
    = sh.lifecycle.activeSubmitterCount + pc'.registered
  inserted : (sh'.queue.inserted : Multiset P) + ((sh.history.accepted : Multiset P) + pc.inFlight)
    = (sh.queue.inserted : Multiset P) + ((sh'.history.accepted : Multiset P) + pc'.inFlight)
  removed : (sh'.queue.removed : Multiset P) + ((sh.history.invoked : Multiset P) + pc.held)
    = (sh.queue.removed : Multiset P) + ((sh'.history.invoked : Multiset P) + pc'.held)
  invoked : (sh'.history.invoked : Multiset P)
      + ((sh.history.completed : Multiset P) + pc.executing)
    = (sh.history.invoked : Multiset P) + ((sh'.history.completed : Multiset P) + pc'.executing)

variable [DecidableEq C]

section Steps

variable {cfg : SchedulerConfig W} {t : Thread W C} {choice : SchedulerChoice W C P}
  {sh sh' : Scheduler W C P} {f : ClosableFifo P}

omit [DecidableEq C] in
/-- A step that touches no account. -/
theorem Ledger.idle {pc pc' : SchedulerPc W P} (hqueue : sh'.queue = sh.queue)
    (hactive : sh'.lifecycle.activeSubmitterCount = sh.lifecycle.activeSubmitterCount)
    (hhistory : sh'.history.accepted = sh.history.accepted ∧
      sh'.history.invoked = sh.history.invoked ∧ sh'.history.completed = sh.history.completed)
    (hoperation : pc'.queue.operation = pc'.operation)
    (hregistered : pc'.registered = pc.registered)
    (hinFlight : pc'.inFlight = pc.inFlight) (hheld : pc'.held = pc.held)
    (hexecuting : pc'.executing = pc.executing) : Ledger sh sh' pc pc' := by
  obtain ⟨h₁, h₂, h₃⟩ := hhistory
  exact ⟨hoperation, by rw [hactive, hregistered], by rw [hqueue, h₁, hinFlight],
    by rw [hqueue, h₂, hheld], by rw [h₂, h₃, hexecuting]⟩

/-- A step of the queue, inside a call whose account is the account of the queue call. -/
theorem Ledger.run (inside : QueuePc P → SchedulerPc W P) {q q' : QueuePc P}
    {queue : ConcurrentTaskQueue (Thread W C) P} {fx : List (QueueEffect (Thread W C))}
    (habs : Abstracts sh.queue f)
    (hact : queueAct cfg.queue t choice.queue sh.queue q = some (queue, q', fx))
    (hleave : ∀ op r, q ≠ .returned op r) (hcall : q.operation = (inside q).operation)
    (hin : ∃ op, ∀ q, (inside q).operation = some op ∧
      (q.operation = some op → (inside q).inFlight = q.inserted ∧ (inside q).held = q.removed))
    (hqueue : ∀ q, (inside q).queue = q)
    (hregistered : ∀ q q', (inside q).registered = (inside q').registered)
    (hexecuting : ∀ q q', (inside q).executing = (inside q').executing) :
    Ledger sh { sh with queue } (inside q) (inside q') := by
  obtain ⟨op, hop⟩ := hin
  have hidle : q ≠ .idle := by
    rintro rfl
    rw [(hop _).1] at hcall
    cases hcall
  obtain ⟨h₁, h₂, h₃⟩ := (queueAct_spec habs hact).accounts hidle hleave
  have hq : q.operation = some op := hcall.trans (hop q).1
  obtain ⟨hins, hrem⟩ := (hop q).2 hq
  obtain ⟨hins', hrem'⟩ := (hop q').2 (h₁.trans hq)
  refine ⟨?_, ?_, ?_, ?_, ?_⟩
  · rw [hqueue, (hop q').1, ← hq]
    exact h₁
  · rw [hregistered q' q]
  · rw [hins, hins']
    dsimp only at h₂ ⊢
    rw [add_left_comm, h₂, add_left_comm]
  · rw [hrem, hrem']
    dsimp only at h₃ ⊢
    rw [add_left_comm, h₃, add_left_comm]
  · rw [hexecuting q' q]

/-- How a thread stands in a call: directly, or inside a worker's callback. -/
structure Wraps (wrap : CallPc P → SchedulerPc W P) : Prop where
  toCall : ∀ pc, (wrap pc).toCall = pc
  queue : ∀ pc, (wrap pc).queue = pc.queue
  operation : ∀ pc, (wrap pc).operation = pc.operation
  held : ∀ pc, (wrap pc).held = 0
  executing : ∀ pc pc', (wrap pc).executing = (wrap pc').executing

/-- A client's call is the call itself. -/
theorem wraps_call : Wraps (SchedulerPc.call : CallPc P → SchedulerPc W P) :=
  ⟨fun _ => rfl, fun _ => rfl, fun _ => rfl, fun _ => rfl, fun _ _ => rfl⟩

/-- And so is the call that a callback makes. -/
theorem wraps_callback (i : Fin W) (task : P) (runningAccounted : Bool) :
    Wraps fun pc => SchedulerPc.worker i (.callback task runningAccounted pc) :=
  ⟨fun _ => rfl, fun _ => rfl, fun _ => rfl, fun _ => rfl, fun _ _ => rfl⟩

variable {wrap : CallPc P → SchedulerPc W P}

omit [DecidableEq C] in
/-- A step of a call outside the queue, which reports what it did to the lifecycle
domain. -/
theorem Ledger.report (hwrap : Wraps wrap) {pc pc' : CallPc P} (hqueue : sh'.queue = sh.queue)
    (hinvoked : sh'.history.invoked = sh.history.invoked)
    (hcompleted : sh'.history.completed = sh.history.completed)
    (hoperation : pc'.queue.operation = pc'.operation)
    (hregistered : sh'.lifecycle.activeSubmitterCount + pc.registered
      = sh.lifecycle.activeSubmitterCount + pc'.registered)
    (haccepted : (sh.history.accepted : Multiset P) + pc.inFlight
      = (sh'.history.accepted : Multiset P) + pc'.inFlight) :
    Ledger sh sh' (wrap pc) (wrap pc') := by
  refine ⟨?_, ?_, ?_, ?_, ?_⟩
  · rw [hwrap.queue, hwrap.operation, hoperation]
  · rwa [SchedulerPc.registered, hwrap.toCall, SchedulerPc.registered, hwrap.toCall]
  · rw [hqueue, SchedulerPc.inFlight, hwrap.toCall, SchedulerPc.inFlight, hwrap.toCall, haccepted]
  · rw [hqueue, hinvoked, hwrap.held, hwrap.held]
  · rw [hinvoked, hcompleted, hwrap.executing pc pc']

/-- A submitter becomes active when the gate lets it in. -/
theorem registerSubmitter_active {T : Type} (l : LifecycleDomain T) :
    (registerSubmitter l).1.activeSubmitterCount = l.activeSubmitterCount
      + (if (registerSubmitter l).2 = .ok then 1 else 0) := by
  unfold registerSubmitter
  dsimp only
  split
  · split <;> rfl
  · rfl

/-- A submitter that is counted is taken off the count, and its result stands. -/
theorem deregisterSubmitter_active {T : Type} {l : LifecycleDomain T} (r : SchedulerResult)
    (hpos : 0 < l.activeSubmitterCount) :
    (deregisterSubmitter l r).1.activeSubmitterCount + 1 = l.activeSubmitterCount ∧
      (deregisterSubmitter l r).2.1 = r := by
  have hne : l.activeSubmitterCount ≠ 0 := Nat.ne_of_gt hpos
  unfold deregisterSubmitter
  by_cases hr : r = .ok
  · simp only [hr, if_true, hne, if_false]
    exact ⟨Nat.sub_add_cancel hpos, trivial⟩
  · simp only [hr, if_false, hne]
    exact ⟨Nat.sub_add_cancel hpos, trivial⟩

/-- What a submission has put into the queue is what its result says. -/
theorem SubmitKind.inserted_eq (kind : SubmitKind) (task : P) (r : QueueReturn P) :
    (kind.operation task).inserted r
      = (CallPc.deregisterLock task (kind.mapResult r.result)).inFlight := by
  cases r with
  | status result output => cases kind <;> cases result <;> rfl
  | _ => cases kind <;> rfl

/-- A submission removes nothing from the queue. -/
theorem SubmitKind.removed_eq_zero (kind : SubmitKind) (task : P) (r : QueueReturn P) :
    (kind.operation task).removed r = 0 := by
  cases kind <;> rfl

/-- **A step of a submission or a capture keeps the accounts.** -/
theorem CallStepSpec.ledger (hwrap : Wraps wrap) {pc : CallPc P}
    {out : SchedulerStep W C P (CallPc P)} (h : CallStepSpec cfg t choice sh pc out)
    (habs : Abstracts sh.queue f) (hoperation : pc.queue.operation = pc.operation)
    (hactive : pc.registered ≤ sh.lifecycle.activeSubmitterCount) :
    Ledger sh out.1 (wrap pc) (wrap out.2.1) := by
  cases h with
  | register kind task hfree =>
    refine .report hwrap rfl rfl rfl rfl ?_ ?_
    · have hactive := registerSubmitter_active (sh.lockLifecycle t).lifecycle
      generalize registerSubmitter (sh.lockLifecycle t).lifecycle = registration at hactive ⊢
      obtain ⟨l, r⟩ := registration
      cases r <;> exact hactive
    · rfl
  | enqueue kind task hq =>
    cases hq with
    | run hact hleave =>
      refine .run (fun q => wrap (.enqueue kind task q)) habs hact hleave ?_
        ⟨kind.operation task, fun q => ⟨hwrap.operation _, fun hq => ⟨?_, ?_⟩⟩⟩
        (fun _ => hwrap.queue _) (fun _ _ => ?_) fun _ _ => hwrap.executing _ _
      · rw [hwrap.operation]
        exact hoperation
      · rw [SchedulerPc.inFlight, hwrap.toCall]
        rfl
      · rw [hwrap.held, QueuePc.removed_eq_zero hq (kind.removed_eq_zero task)]
      · rw [SchedulerPc.registered, hwrap.toCall, SchedulerPc.registered, hwrap.toCall]
        rfl
    | leave op r =>
      -- the queue's answer is the account that the submission goes on with
      obtain rfl : op = kind.operation task := Option.some.inj hoperation
      refine .report hwrap rfl rfl rfl rfl rfl ?_
      show _ + (kind.operation task).inserted r = _
      rw [kind.inserted_eq]
  | deregister task r hfree =>
    obtain ⟨h₁, h₂⟩ := deregisterSubmitter_active
      (l := (sh.lockLifecycle t).lifecycle) r hactive
    refine .report hwrap rfl rfl rfl rfl h₁ ?_
    dsimp only
    rw [h₂]
    cases r <;> rfl
  | deregistered task r hheld =>
    refine .report hwrap rfl rfl rfl rfl rfl ?_
    cases r with
    | ok =>
      show (sh.history.accepted : Multiset P) + {task} =
          ((sh.history.accepted ++ [task] : List P) : Multiset P) + 0
      rw [← Multiset.coe_add, add_zero]
      rfl
    | _ => rfl
  | rejected kind task r hr hheld =>
    refine .report hwrap rfl rfl rfl rfl ?_ rfl
    cases r with
    | ok => exact absurd rfl hr
    | _ => rfl
  | captureQueue temporary hq =>
    cases hq with
    | run hact hleave =>
      refine .run (fun q => wrap (.captureQueue temporary q)) habs hact hleave ?_
        ⟨.captureRuntimeSnapshot, fun q => ⟨hwrap.operation _, fun hq => ⟨?_, ?_⟩⟩⟩
        (fun _ => hwrap.queue _) (fun _ _ => ?_) fun _ _ => hwrap.executing _ _
      · rw [hwrap.operation]
        exact hoperation
      · rw [SchedulerPc.inFlight, hwrap.toCall, QueuePc.inserted_eq_zero hq fun _ => rfl]
        rfl
      · rw [hwrap.held, QueuePc.removed_eq_zero hq fun _ => rfl]
      · rw [SchedulerPc.registered, hwrap.toCall, SchedulerPc.registered, hwrap.toCall]
        rfl
    | leave op r => exact .report hwrap rfl rfl rfl rfl rfl rfl
  | _ => exact .report hwrap rfl rfl rfl rfl rfl rfl

/-- The answer of a dequeue hands the removed pointer over to the worker. -/
theorem afterDequeue_held (i : Fin W) (r : QueueReturn P) :
    (afterDequeue r).held = QueueOperation.dequeue.removed r ∧
      (SchedulerPc.worker i (afterDequeue r)).queue.operation
        = (SchedulerPc.worker i (afterDequeue r)).operation ∧
      (SchedulerPc.worker i (afterDequeue r)).toCall = .idle ∧
      (SchedulerPc.worker i (afterDequeue r)).executing = 0 := by
  cases r with
  | status result output => cases result <;> cases output <;> exact ⟨rfl, rfl, rfl, rfl⟩
  | _ => exact ⟨rfl, rfl, rfl, rfl⟩

/-- **A step of a worker keeps the accounts.** -/
theorem WorkerStepSpec.ledger {i : Fin W} {pc : WorkerPc P}
    {out : SchedulerStep W C P (WorkerPc P)} (h : WorkerStepSpec cfg t choice sh i pc out)
    (habs : Abstracts sh.queue f)
    (hoperation : (SchedulerPc.worker i pc).queue.operation = (SchedulerPc.worker i pc).operation)
    (hactive : (SchedulerPc.worker i pc).registered ≤ sh.lifecycle.activeSubmitterCount) :
    Ledger sh out.1 (.worker i pc) (.worker i out.2.1) := by
  cases h with
  -- a Task goes from the queue to the worker
  | dequeue hq =>
    cases hq with
    | run hact hleave =>
      refine .run (fun q => .worker i (.dequeue q)) habs hact hleave hoperation
        ⟨.dequeue, fun q => ⟨rfl, fun hq => ⟨?_, rfl⟩⟩⟩ (fun _ => rfl)
          (fun _ _ => rfl) fun _ _ => rfl
      exact (QueuePc.inserted_eq_zero hq fun _ => rfl).symm
    | leave op r =>
      obtain rfl : op = .dequeue := Option.some.inj hoperation
      obtain ⟨hheld, hop, hcall, hexecuting⟩ := afterDequeue_held i r
      refine .idle rfl rfl ⟨rfl, rfl, rfl⟩ hop ?_ ?_ hheld hexecuting
      · rw [SchedulerPc.registered, hcall]
        rfl
      · rw [SchedulerPc.inFlight, hcall]
        rfl
  -- from the worker to its callback
  | invoke task runningAccounted =>
    refine ⟨rfl, rfl, rfl, ?_, ?_⟩
    · show _ + (_ + {task}) = _ + (((sh.history.invoked ++ [task] : List P) : Multiset P) + 0)
      rw [← Multiset.coe_add, add_zero]
      rfl
    · show ((sh.history.invoked ++ [task] : List P) : Multiset P) + (_ + 0) = _ + (_ + {task})
      rw [← Multiset.coe_add, add_zero, add_assoc, add_comm (_ : Multiset P) {task}]
      rfl
  -- and from the callback to the completed ones
  | callbackReturns task runningAccounted succeeded =>
    refine ⟨rfl, rfl, rfl, rfl, ?_⟩
    show _ + (_ + {task}) = _ + (((sh.history.completed ++ [task] : List P) : Multiset P) + 0)
    rw [← Multiset.coe_add, add_zero]
    rfl
  | call task runningAccounted hcall =>
    exact hcall.ledger (wraps_callback i task runningAccounted) habs hoperation hactive
  | queueShutdown r hq =>
    cases hq with
    | run hact hleave =>
      refine .run (fun q => .worker i (.queueShutdown q r)) habs hact hleave hoperation
        ⟨.shutdown, fun q => ⟨rfl, fun hq => ⟨?_, ?_⟩⟩⟩ (fun _ => rfl)
          (fun _ _ => rfl) fun _ _ => rfl
      · exact (QueuePc.inserted_eq_zero hq fun _ => rfl).symm
      · exact (QueuePc.removed_eq_zero hq fun _ => rfl).symm
    | leave op r' => exact .idle rfl rfl ⟨rfl, rfl, rfl⟩ rfl rfl rfl rfl rfl
  | _ => exact .idle rfl rfl ⟨rfl, rfl, rfl⟩ rfl rfl rfl rfl rfl

/-- Lifecycle calls submit nothing and run nothing. -/
theorem ControllerStepSpec.ledger {pc : ControllerPc P} {out : SchedulerStep W C P (ControllerPc P)}
    (h : ControllerStepSpec cfg choice sh pc out) (habs : Abstracts sh.queue f)
    (hoperation : (SchedulerPc.controller pc : SchedulerPc W P).queue.operation
      = (SchedulerPc.controller pc : SchedulerPc W P).operation) :
    Ledger sh out.1 (.controller pc) (.controller out.2.1) := by
  -- the controller enters the queue to close it, so it moves no Task
  have hrun : ∀ {inside : QueuePc P → ControllerPc P} {q q' : QueuePc P}
      {queue : ConcurrentTaskQueue (Thread W C) P} {fx : List (QueueEffect (Thread W C))},
      queueAct cfg.queue .controller choice.queue sh.queue q = some (queue, q', fx) →
      (∀ op r, q ≠ .returned op r) →
      q.operation = (SchedulerPc.controller (inside q) : SchedulerPc W P).operation →
      (∀ q, (inside q).queue = q) →
      (∀ q, (SchedulerPc.controller (inside q) : SchedulerPc W P).operation = some .shutdown) →
      Ledger sh { sh with queue } (.controller (inside q)) (.controller (inside q')) := by
    intro inside q q' queue fx hact hleave hq hqueue hinside
    refine .run (fun q => .controller (inside q)) habs hact hleave hq
      ⟨.shutdown, fun q => ⟨hinside q, fun hq => ⟨?_, ?_⟩⟩⟩ hqueue (fun _ _ => rfl) fun _ _ => rfl
    · exact (QueuePc.inserted_eq_zero hq fun _ => rfl).symm
    · exact (QueuePc.removed_eq_zero hq fun _ => rfl).symm
  -- all its other steps leave the queue and the submitters alone
  have hidle : ∀ {sh' : Scheduler W C P} {pc' : ControllerPc P}, sh'.queue = sh.queue →
      sh'.lifecycle.activeSubmitterCount = sh.lifecycle.activeSubmitterCount →
      sh'.history.accepted = sh.history.accepted ∧ sh'.history.invoked = sh.history.invoked ∧
        sh'.history.completed = sh.history.completed →
      pc'.queue.operation = (SchedulerPc.controller pc' : SchedulerPc W P).operation →
      Ledger sh sh' (.controller pc) (.controller pc') :=
    fun hqueue hactive hhistory hop => .idle hqueue hactive hhistory hop rfl rfl rfl rfl
  cases h with
  | call call pc hcall =>
    refine hidle rfl rfl ⟨rfl, rfl, rfl⟩ ?_
    rcases beginCall_quiet hcall with rfl | rfl | rfl | rfl | rfl <;> rfl
  | allocationFailed sh' hsh => subst hsh; exact hidle rfl rfl ⟨rfl, rfl, rfl⟩ rfl
  | allocated sh' hsh => subst hsh; exact hidle rfl rfl ⟨rfl, rfl, rfl⟩ rfl
  | readyLock hfree hinit =>
    refine hidle rfl rfl ⟨rfl, rfl, rfl⟩ ?_
    rcases readyTest_cases sh with ⟨hpc, -⟩ | ⟨hpc, -⟩ <;> rw [hpc] <;> rfl
  | readyAgain hfree hinit =>
    refine hidle rfl rfl ⟨rfl, rfl, rfl⟩ ?_
    rcases readyTest_cases sh with ⟨hpc, -⟩ | ⟨hpc, -⟩ <;> rw [hpc] <;> rfl
  | abortQueue hq =>
    cases hq with
    | run hact hleave => exact hrun hact hleave hoperation (fun _ => rfl) fun _ => rfl
    | leave op r => exact hidle rfl rfl ⟨rfl, rfl, rfl⟩ rfl
  | releaseIncomplete caller index result hindex =>
    refine hidle rfl rfl ⟨rfl, rfl, rfl⟩ ?_
    obtain ⟨state, call, r, hpc⟩ := afterRelease_cases sh caller .errorSystem
    rw [hpc]
    rfl
  -- where several places may come next, none of them holds a Task
  | foldUnlock caller result hheld =>
    refine hidle rfl rfl ⟨rfl, rfl, rfl⟩ ?_
    obtain ⟨state, call, r, hpc⟩ := afterRelease_cases sh caller result
    rw [hpc]
    rfl
  | shutdownQueue hq =>
    cases hq with
    | run hact hleave => exact hrun hact hleave hoperation (fun _ => rfl) fun _ => rfl
    | leave op r => exact hidle rfl rfl ⟨rfl, rfl, rfl⟩ rfl
  | drainLock caller hfree =>
    refine hidle rfl rfl ⟨rfl, rfl, rfl⟩ ?_
    rcases drainTest_cases sh caller with ⟨hpc, -⟩ | ⟨hpc, -⟩ <;> rw [hpc] <;> rfl
  | drainAgain caller hfree =>
    refine hidle rfl rfl ⟨rfl, rfl, rfl⟩ ?_
    rcases drainTest_cases sh caller with ⟨hpc, -⟩ | ⟨hpc, -⟩ <;> rw [hpc] <;> rfl
  | join hfree hstate =>
    refine hidle rfl rfl ⟨rfl, rfl, rfl⟩ ?_
    rcases drainTest_cases sh .join with ⟨hpc, -⟩ | ⟨hpc, -⟩ <;> rw [hpc] <;> rfl
  | _ => exact hidle rfl rfl ⟨rfl, rfl, rfl⟩ rfl

/-- **One step keeps the books balanced**, whichever thread takes it. -/
theorem SchedulerStepSpec.ledger {pc : SchedulerPc W P}
    {out : SchedulerStep W C P (SchedulerPc W P)} (h : SchedulerStepSpec cfg choice sh t pc out)
    (habs : Abstracts sh.queue f) (hoperation : pc.queue.operation = pc.operation)
    (hactive : pc.registered ≤ sh.lifecycle.activeSubmitterCount) :
    Ledger sh out.1 pc out.2.1 := by
  cases h with
  | call c h => exact h.ledger wraps_call habs hoperation hactive
  | worker i h => exact h.ledger habs hoperation hactive
  | controller h => exact h.ledger habs hoperation

omit f in
/-- A step goes on with a call, or leaves its thread in no call. -/
theorem SchedulerStepSpec.call_cases {pc : SchedulerPc W P}
    {out : SchedulerStep W C P (SchedulerPc W P)} (h : SchedulerStepSpec cfg choice sh t pc out) :
    (pc.toCall = .idle ∧ out.2.1.toCall = .idle) ∨ ∃ call : SchedulerStep W C P (CallPc P),
      CallStepSpec cfg t choice sh pc.toCall call ∧ out.1 = call.1 ∧ out.2.1.toCall = call.2.1 := by
  cases h with
  | call c h => exact .inr ⟨_, h, rfl, rfl⟩
  | worker i h =>
    cases h with
    | dequeue hq =>
      cases hq with
      | run hact hleave => exact .inl ⟨rfl, rfl⟩
      | leave op r => exact .inl ⟨rfl, (afterDequeue_held i r).2.2.1⟩
    | call task runningAccounted hcall => exact .inr ⟨_, hcall, rfl, rfl⟩
    | queueShutdown r hq => cases hq <;> exact .inl ⟨rfl, rfl⟩
    | _ => exact .inl ⟨rfl, rfl⟩
  | controller h => exact .inl ⟨rfl, rfl⟩

end Steps

/-! ## Reachable states -/

section Reachable

variable [Fintype C] {cfg : SchedulerConfig W} {t : Thread W C} {choice : SchedulerChoice W C P}
  {s s' : SchedulerPool W C P}

/-- The books of a scheduler: what was submitted, queued and run is accounted for. -/
structure Accounts (s : SchedulerPool W C P) : Prop where
  operation : ∀ u, (s.pc u).queue.operation = (s.pc u).operation
  registered : s.shared.lifecycle.activeSubmitterCount = Program.total SchedulerPc.registered s.pc
  inserted : (s.shared.queue.inserted : Multiset P)
    = (s.shared.history.accepted : Multiset P) + Program.total SchedulerPc.inFlight s.pc
  removed : (s.shared.queue.removed : Multiset P)
    = (s.shared.history.invoked : Multiset P) + Program.total SchedulerPc.held s.pc
  invoked : (s.shared.history.invoked : Multiset P)
    = (s.shared.history.completed : Multiset P) + Program.total SchedulerPc.executing s.pc

omit [DecidableEq C] in
/-- A weight that no thread carries before it has begun. -/
theorem total_initial {M : Type} [AddCommMonoid M] (queue : TaskQueue P) (w : SchedulerPc W P → M)
    (hcontroller : w (.controller .idle) = 0) (hworker : ∀ i, w (.worker i .notCreated) = 0)
    (hcall : w (.call .idle) = 0) :
    Program.total w (schedulerInitial queue : SchedulerPool W C P).pc = 0 := by
  refine Finset.sum_eq_zero ?_
  rintro (_ | i | c) -
  · exact hcontroller
  · exact hworker i
  · exact hcall

omit [DecidableEq C] in
/-- Nothing has been submitted after `scheduler_init`. -/
theorem accounts_initial (queue : TaskQueue P) :
    Accounts (schedulerInitial queue : SchedulerPool W C P) := by
  refine ⟨?_, ?_, ?_, ?_, ?_⟩
  · rintro (_ | i | c) <;> rfl
  all_goals
    rw [total_initial queue _ rfl (fun _ => rfl) rfl]
    rfl

/-- A registered submitter is among the active ones. -/
theorem Accounts.registered_le (h : Accounts s) (u : Thread W C) :
    (s.pc u).registered ≤ s.shared.lifecycle.activeSubmitterCount := by
  rw [h.registered, Program.total_eq_add _ _ u]
  exact Nat.le_add_right _ _

/-- **One step keeps the books.** -/
theorem accounts_step (hinv : ThreadInv cfg s) (h : Accounts s)
    (hstep : (schedulerProgram cfg).step t choice s = some s') : Accounts s' := by
  obtain ⟨pc, fx, hspec, hfx⟩ := hinv.step_spec hstep
  obtain ⟨f, habs, -⟩ := hinv.abstracts
  have hledger := hspec.ledger habs (h.operation t) (h.registered_le t)
  refine ⟨?_, ?_, ?_, ?_, ?_⟩
  · refine Program.forall_step (fun _ _ (pc : SchedulerPc W P) => pc.queue.operation =
      pc.operation) ?_ hfx
      hledger.operation (fun _ _ hu => hu) h.operation
    intro u sh
    refine schedulerProgram_blind (fun pc => ?_) fun _ => rfl
    rw [SchedulerPc.queue_wake, QueuePc.operation_wake, SchedulerPc.operation_wake]
  · exact Program.sum_step (fun sh : Scheduler W C P => sh.lifecycle.activeSubmitterCount)
      (schedulerProgram_blind SchedulerPc.registered_wake fun _ => rfl) hfx
        hledger.registered h.registered
  · exact Program.balance_step (fun sh : Scheduler W C P => (sh.queue.inserted : Multiset P))
      (fun sh => (sh.history.accepted : Multiset P))
      (schedulerProgram_blind SchedulerPc.inFlight_wake fun _ => rfl) hfx
        hledger.inserted h.inserted
  · exact Program.balance_step (fun sh : Scheduler W C P => (sh.queue.removed : Multiset P))
      (fun sh => (sh.history.invoked : Multiset P))
      (schedulerProgram_blind SchedulerPc.held_wake fun _ => rfl) hfx hledger.removed h.removed
  · exact Program.balance_step (fun sh : Scheduler W C P => (sh.history.invoked : Multiset P))
      (fun sh => (sh.history.completed : Multiset P))
      (schedulerProgram_blind SchedulerPc.executing_wake fun _ => rfl) hfx hledger.invoked h.invoked

/-- The books are balanced in every reachable state. -/
theorem SchedulerReachable.accounts (h : SchedulerReachable cfg s) : Accounts s :=
  h.invariant (fun queue _ => accounts_initial queue) fun hu => accounts_step hu.threads

end Reachable

end SchedulingEngine
