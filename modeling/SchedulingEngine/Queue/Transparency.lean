import SchedulingEngine.Concurrency.Projection
import SchedulingEngine.Queue.ProfilingTallies

/-!
# A profiling build runs the queue of the other builds

The profiling code of concurrent_task_queue.c reads the timer, the ring and the counters of
the queue between the statements that do the work, and a profiled call chooses its branches anew.
Whatever the timer answers, whichever thread has a worker index, and also where a wait fails,
a schedule of a profiling build goes through the states of the queue that it goes through without
profiling: the profile is never looked at (`profiling_transparent`).
-/

namespace SchedulingEngine

open Concurrency

variable {T P : Type} [DecidableEq T]

/-- The locals of a profiled call are forgotten with the profile. -/
def profiledSeen (out : ProfiledQueue T P × ProfiledPc P × List (QueueEffect T)) :
    QueueSection T P :=
  (out.1.queue, out.2.1.pc, out.2.2)

omit [DecidableEq T] in
/-- What a profiled section leaves of the queue does not depend on the profile it finds. -/
theorem Profiles.seen {m : ProfilingM (ProfiledSection T P)} {out : QueueSection T P}
    {es : List ProfilingCounter} (h : Profiles m out es) (sh : ProfiledQueue T P) :
    profiledSeen (sh.runSection m) = out :=
  (h sh.profiling).1

omit [DecidableEq T] in
/-- The call of a queue operation only reads the timer. -/
theorem profiledCall_profiles (op : QueueOperation P) (choice : ProfilingChoice T P)
    (q : ConcurrentTaskQueue T P) :
    Profiles (do
      let locals ← profiledCall op choice
      return ((q, .lock op, []), locals)) (q, .lock op, []) [] := by
  refine Counts.silentProfiles ?_ fun _ => Profiles.pure _ _
  cases op with
  | enqueue task => exact (Counts.now _).silent fun _ => Counts.pure _
  | dequeue => exact (Counts.now _).silent fun _ => Counts.pure _
  | _ => exact Counts.pure _

omit [DecidableEq T] in
/-- The code after a wait, whether it succeeded or failed. -/
theorem profiledResumeWait_seen (cfg : QueueConfig) (w : Waiter P) (choice : ProfilingChoice T P)
    (locals : ProfilingLocals) (sh : ProfiledQueue T P) (t : T) :
    profiledSeen (sh.runSection
        (profiledResumeWait cfg w choice locals { sh.queue with mutex := some t }))
      = resumeWait cfg w choice.queue.waitSucceeds choice.queue.woken
          { sh.queue with mutex := some t } := by
  cases hwait : choice.queue.waitSucceeds with
  | true => exact (profiledResumeWait_profiles cfg choice locals sh.queue w t hwait).seen sh
  | false =>
    -- a failed wait leaves before the profiling code
    simp only [profiledResumeWait, resumeWait, hwait, Bool.false_eq_true, if_false]
    rfl

/-- **Step lemma**: a step of a profiling build is a step of the queue, in both directions. -/
theorem profiledAct_seen (cfg : QueueConfig) (t : T) (choice : ProfilingChoice T P)
    (sh : ProfiledQueue T P) (pc : ProfiledPc P) :
    (profiledAct cfg t choice sh pc).map profiledSeen
      = queueAct cfg t choice.queue sh.queue pc.pc := by
  obtain ⟨pc, locals⟩ := pc
  cases pc with
  | idle =>
    simp only [profiledAct, queueAct, Option.map_map]
    refine Option.map_congr fun call _ => ?_
    obtain ⟨op, nonNull⟩ := call
    cases nonNull with
    | false => rfl
    | true => exact (profiledCall_profiles op choice sh.queue).seen sh
  | lock op =>
    simp only [profiledAct, queueAct]
    split
    · exact congrArg some ((profiledOperation_profiles cfg choice locals sh.queue op t).seen sh)
    · rfl
  | woken w =>
    simp only [profiledAct, queueAct]
    split
    · exact congrArg some (profiledResumeWait_seen cfg w choice locals sh t)
    · rfl
  | _ =>
    -- the steps without profiling code
    simp only [profiledAct, Option.map_map]
    exact congrFun Option.map_id _

/-- A profiling build carries the queue. -/
theorem profiledProgram_projects (cfg : QueueConfig) :
    (profiledProgram (T := T) (P := P) cfg).Projects (queueProgram cfg) ProfiledQueue.queue
      ProfiledPc.pc ProfilingChoice.queue where
  act := profiledAct_seen cfg
  asleepOn _ := rfl
  wake _ := rfl
  dormant _ := rfl
  start _ := rfl
  finished _ := rfl

/-- The pool without its profile. -/
def ProfiledPool.unprofiled (s : ProfiledPool T P) : QueuePool T P :=
  Program.appearance ProfiledQueue.queue ProfiledPc.pc s

/-- **Profiling changes nothing**: from every state and under every schedule, whatever the timer
answers at each reading, a profiling build can take the steps that the queue of the other builds can
take, and no others, and brings the queue and all its threads to the same state, with the same
answers. -/
theorem profiling_transparent [Fintype T] (cfg : QueueConfig) (ls : List (T × ProfilingChoice T P))
    (s : ProfiledPool T P) :
    ((profiledProgram cfg).run ls s).map ProfiledPool.unprofiled
      = (queueProgram cfg).run (ls.map (Prod.map id ProfilingChoice.queue)) s.unprofiled :=
  (profiledProgram_projects cfg).run ls s

end SchedulingEngine
