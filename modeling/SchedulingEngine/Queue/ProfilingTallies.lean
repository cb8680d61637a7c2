import SchedulingEngine.Queue.Profiling

/-!
# What a step writes into the profile

The counters a step increments are read off the step itself (`stepTallies`), and a profile
without overflow has been incremented exactly so (`Gains`). `Counts` and `Profiles` say this of
the code that updates the profile, piece by piece, in the order of the code.

The profiling code changes nothing else: forgetting the profile and the locals, a step of a
profiling build is a step of the queue (`profiledAct_spec`).
-/

namespace SchedulingEngine

open Concurrency

variable {T P α β : Type}

/-! ## Which counters were incremented -/

/-- The counters that count events; the others add up times and sizes, or are kept for each
worker. -/
def ProfilingCounter.tallied : ProfilingCounter → Bool
  | .side _ .lockWaitTicks | .side _ .waitTicks | .side _ .inferredContended => false
  | .side _ _ => true
  | .occupancySampleCount | .occupancyZeroObservations | .occupancyFullObservations => true
  | .shutdownBroadcasts | .occupancySampleSum | .worker _ _ => false

/-- Unless a counter overflowed, the profile went from `p` to `p'` by the increments `es`. -/
def Gains (p p' : SchedulerProfilingSnapshot) (es : List ProfilingCounter) : Prop :=
  p'.counterOverflow = false → p.counterOverflow = false ∧
    ∀ c, c.tallied = true → p'.counter c = p.counter c + es.count c

namespace Gains

variable {p p' p'' : SchedulerProfilingSnapshot} {es es' : List ProfilingCounter}

/-- Nothing is gained by doing nothing. -/
theorem refl (p : SchedulerProfilingSnapshot) : Gains p p [] :=
  fun h => ⟨h, fun _ _ => rfl⟩

/-- What is gained one after the other adds up. -/
theorem trans (h : Gains p p' es) (h' : Gains p' p'' es') : Gains p p'' (es ++ es') := by
  intro hover
  obtain ⟨hover', hnew⟩ := h' hover
  obtain ⟨hover₀, hold⟩ := h hover'
  refine ⟨hover₀, fun c hc => ?_⟩
  rw [hnew c hc, hold c hc, List.count_append]
  omega

end Gains

/-- However the profile stands, `m` increments the counters `es`. -/
def Counts (m : ProfilingM α) (es : List ProfilingCounter) : Prop :=
  ∀ p, Gains p (m.run p).2 es

namespace Counts

variable {m : ProfilingM α} {f : α → ProfilingM β} {es es' : List ProfilingCounter}

/-- Returning a value counts nothing. -/
theorem pure (a : α) : Counts (Pure.pure a : ProfilingM α) [] := Gains.refl

/-- What two actions count is counted one after the other. -/
theorem bind (h : Counts m es) (h' : ∀ a, Counts (f a) es') : Counts (m >>= f) (es ++ es') := by
  intro p
  have hsecond := h' (m.run p).1 (m.run p).2
  exact (h p).trans hsecond

/-- A step of the code that increments nothing. -/
theorem silent (h : Counts m []) (h' : ∀ a, Counts (f a) es') : Counts (m >>= f) es' := by
  have hboth := h.bind h'
  rwa [List.nil_append] at hboth

/-- A branch counts what its side counts. -/
theorem ite {b : Prop} [Decidable b] {m' : ProfilingM α} (h : Counts m es) (h' : Counts m' es') :
    Counts (if b then m else m') (if b then es else es') := by
  split
  · exact h
  · exact h'

/-- A branch without an `else`, and the code after it. -/
theorem branch {b : Prop} [Decidable b] {m : ProfilingM Unit} {f : Unit → ProfilingM β}
    (h : Counts m es) (h' : ∀ a, Counts (f a) es') :
    Counts (if b then m >>= f else f ()) ((if b then es else []) ++ es') := by
  split
  · exact h.bind h'
  · exact h' ()

/-- Updates of other fields increment nothing. -/
theorem modify {g : SchedulerProfilingSnapshot → SchedulerProfilingSnapshot}
    (hcounter : ∀ p, (g p).counter = p.counter)
    (hoverflow : ∀ p, (g p).counterOverflow = p.counterOverflow) :
    Counts (modify g : ProfilingM Unit) [] := by
  intro p hover
  have hsame : (g p).counterOverflow = false := hover
  rw [hoverflow p] at hsame
  refine ⟨hsame, fun c _ => ?_⟩
  show (g p).counter c = p.counter c
  rw [hcounter p]

/-- Reading the clock counts nothing but a failure, which is no tally. -/
theorem now (timer : Option ℕ) : Counts (profilingNow timer) [] := by
  cases timer with
  | some value => exact pure value
  | none => exact (modify (fun _ => rfl) fun _ => rfl).silent fun _ => pure 0

/-- Neither does a difference of two readings. -/
theorem elapsed (start finish : ℕ) : Counts (profilingElapsed start finish) [] := by
  unfold profilingElapsed
  split
  · exact (modify (fun _ => rfl) fun _ => rfl).silent fun _ => pure 0
  · exact pure _

/-- An addition that does not overflow adds to its own counter only. -/
theorem add_run (target : ProfilingCounter) (value : ℕ) (p : SchedulerProfilingSnapshot)
    (hover : ((profilingAdd target value).run p).2.counterOverflow = false) :
    p.counterOverflow = false ∧ ∀ c,
      ((profilingAdd target value).run p).2.counter c
        = p.counter c + if c = target then value else 0 := by
  have hrun : ((profilingAdd target value).run p).2
      = if uint64Max - p.counter target < value then { p with counterOverflow := true }
        else { p with
          counter := Function.update p.counter target (p.counter target + value) } := rfl
  rw [hrun] at hover ⊢
  split at hover
  · cases hover
  · rename_i hfits
    rw [if_neg hfits]
    refine ⟨hover, fun c => ?_⟩
    by_cases hc : c = target
    · subst hc
      simp
    · simp [hc]

/-- An addition to a counter that counts no events. -/
theorem add {target : ProfilingCounter} (h : target.tallied = false) (value : ℕ) :
    Counts (profilingAdd target value) [] := by
  intro p hover
  obtain ⟨hover₀, hcounter⟩ := add_run target value p hover
  refine ⟨hover₀, fun c hc => ?_⟩
  have hne : c ≠ target := by
    rintro rfl
    rw [h] at hc
    cases hc
  rw [hcounter c, if_neg hne]
  rfl

/-- An increment is one tally of its counter. -/
theorem increment (target : ProfilingCounter) : Counts (profilingIncrement target) [target] := by
  intro p hover
  obtain ⟨hover₀, hcounter⟩ := add_run target 1 p hover
  refine ⟨hover₀, fun c _ => ?_⟩
  show ((profilingAdd target 1).run p).2.counter c = _
  rw [hcounter c, List.count_singleton]
  by_cases hc : c = target
  · subst hc
    simp
  · simp [hc, Ne.symm hc]

/-- A contended lock is inferred from durations, so it is no tally. -/
theorem inferredContended (start finish : ℕ) :
    Counts (profilingInferredContended start finish) [] := by
  unfold profilingInferredContended
  refine silent (Gains.refl ·) fun _ => ?_
  exact (elapsed start finish).silent fun _ => pure _

/-- Totals and maxima of durations are no tallies either. -/
theorem recordDuration (start finish : ℕ) {total : ProfilingCounter} (h : total.tallied = false)
    (maximum : ProfilingMaximum) :
    Counts (profilingRecordDuration start finish total maximum) [] := by
  refine (elapsed start finish).silent fun duration => (add h duration).silent fun _ => ?_
  refine modify (fun p => ?_) fun p => ?_
  · split <;> rfl
  · split <;> rfl

/-- Nor are the counters kept for each worker. -/
theorem addWorker (counter : WorkerCounter) (workerIndex : ℕ) {value : ProfilingM ℕ}
    (h : Counts value []) : Counts (profilingAddWorker counter workerIndex value) [] := by
  unfold profilingAddWorker
  split
  · exact h.silent fun ticks => add rfl ticks
  · exact pure _

end Counts

/-! ## What a section writes down -/

/-- The increments of `profiling_record_occupancy`. -/
def occupancyTallies (queue : TaskQueue P) : List ProfilingCounter :=
  [.occupancySampleCount]
    ++ (if taskQueueSize queue = 0 then [.occupancyZeroObservations] else [])
    ++ (if taskQueueSize queue = taskQueueCapacity queue then [.occupancyFullObservations] else [])

/-- The side of a call. -/
def QueueOperation.side : QueueOperation P → Option QueueSide
  | .enqueue _ => some .enqueue
  | .dequeue => some .dequeue
  | _ => none

/-- Who waits for room enqueues, who waits for a Task dequeues. -/
def Waiter.side : Waiter P → QueueSide
  | .producer _ => .enqueue
  | .consumer => .dequeue

/-- Whether a success of one side that finds `q` and leaves `q'` signals the other. -/
def QueueSide.signals (cfg : QueueConfig) (q q' : ConcurrentTaskQueue T P) : QueueSide → Bool
  | .enqueue => !cfg.transitionSignaling || (taskQueueIsEmpty q.queue || q'.waitingConsumers > 0)
  | .dequeue => !cfg.transitionSignaling || (taskQueueIsFull q.queue || q'.waitingProducers > 0)

/-- The increments of a call of one side that leaves the test of its wait loop with `out`. -/
def outcomeTallies (cfg : QueueConfig) (side : QueueSide) (waited : Bool)
    (q : ConcurrentTaskQueue T P) (out : QueueSection T P) : List ProfilingCounter :=
  match out.2.1 with
  | .wait _ => [.side side .blockedObservations, .side side .waitCount]
  | .unlock _ (.status .ok _) =>
    [.side side (if waited then .successesAfterWait else .immediateSuccesses)]
      ++ occupancyTallies out.1.queue
      ++ [.side side (if side.signals cfg q out.1 then .signals else .avoidedSignals)]
  | _ => []

/-- One sample of the occupancy, and one more where it is empty or full. -/
theorem counts_recordOccupancy (queue : TaskQueue P) :
    Counts (profilingRecordOccupancy queue) (occupancyTallies queue) := by
  unfold profilingRecordOccupancy occupancyTallies
  rw [List.append_assoc]
  refine (Counts.increment _).bind fun _ => (Counts.add rfl _).silent fun _ => ?_
  refine (Counts.modify (fun p => ?_) fun p => ?_).silent fun _ => ?_
  · rfl
  · rfl
  · refine (Counts.increment _).branch fun _ => ?_
    exact (Counts.increment _).ite (Counts.pure _)

/-- Taking the mutex is one attempt of its side and one of its locks. -/
theorem counts_locked (side : QueueSide) (locals : ProfilingLocals) (timer : Option ℕ) :
    Counts (profilingLocked side locals timer)
      [.side side .attempts, .side side .lockAttempts] := by
  refine (Counts.now timer).silent fun lockEnd => ?_
  show Counts _ ([_] ++ ([_] ++ []))
  refine (Counts.increment _).bind fun _ => (Counts.increment _).bind fun _ => ?_
  refine (Counts.recordDuration _ _ rfl _).silent fun _ => ?_
  refine (Counts.inferredContended _ _).silent fun contended => ?_
  -- `inferred_contended` counts no event
  split
  · exact (Counts.add rfl 1).silent fun _ => Counts.pure lockEnd
  · exact Counts.pure lockEnd

/-- Coming back from a wait is one return. -/
theorem counts_resumed (side : QueueSide) (locals : ProfilingLocals) (timer : Option ℕ) :
    Counts (profilingResumed side locals timer) [.side side .waitReturns] := by
  refine (Counts.now timer).silent fun waitEnd => ?_
  show Counts _ ([_] ++ [])
  refine (Counts.increment _).bind fun _ => ?_
  exact (Counts.recordDuration _ _ rfl _).silent fun _ => Counts.pure waitEnd

/-- A success came at once or after a wait. -/
theorem counts_succeeded (side : QueueSide) (waited : Bool) :
    Counts (profilingSucceeded side waited)
      [.side side (if waited then .successesAfterWait else .immediateSuccesses)] := by
  unfold profilingSucceeded
  split
  · exact Counts.increment _
  · exact Counts.increment _

/-- A signal was sent or avoided. -/
theorem counts_signalled (side : QueueSide) (signalled : Bool) :
    Counts (profilingSignalled side signalled)
      [.side side (if signalled then .signals else .avoidedSignals)] := by
  unfold profilingSignalled
  split
  · exact Counts.increment _
  · exact Counts.increment _

/-- However the profile stands, the profiled section `m` is the section `out`, and increments the
counters `es`. -/
def Profiles (m : ProfilingM (ProfiledSection T P)) (out : QueueSection T P)
    (es : List ProfilingCounter) : Prop :=
  ∀ p, (m.run p).1.1 = out ∧ Gains p (m.run p).2 es

section Profiles

variable {out : QueueSection T P} {m : ProfilingM α} {f : α → ProfilingM (ProfiledSection T P)}
  {es es' : List ProfilingCounter}

/-- The unprofiled section with nothing counted. -/
theorem Profiles.pure (out : QueueSection T P) (locals : ProfilingLocals) :
    Profiles (Pure.pure (out, locals)) out [] :=
  fun p => ⟨rfl, Gains.refl p⟩

/-- What is counted before a section is counted in it. -/
theorem Counts.profiles (h : Counts m es) (h' : ∀ a, Profiles (f a) out es') :
    Profiles (m >>= f) out (es ++ es') := by
  intro p
  obtain ⟨hout, hgains⟩ := h' (m.run p).1 (m.run p).2
  exact ⟨hout, (h p).trans hgains⟩

/-- In particular what counts nothing. -/
theorem Counts.silentProfiles (h : Counts m []) (h' : ∀ a, Profiles (f a) out es') :
    Profiles (m >>= f) out es' := by
  have hboth := h.profiles h'
  rwa [List.nil_append] at hboth

/-- A tally behind a test of the body is counted when the test holds. -/
theorem Counts.branchProfiles {b : Prop} [Decidable b] {m : ProfilingM Unit}
    {f : Unit → ProfilingM (ProfiledSection T P)} (h : Counts m es)
    (h' : ∀ a, Profiles (f a) out es') :
    Profiles (if b then m >>= f else f ()) out ((if b then es else []) ++ es') := by
  split
  · exact h.profiles h'
  · exact h' ()

end Profiles

section Sections

variable (cfg : QueueConfig) (choice : ProfilingChoice T P) (locals : ProfilingLocals)
  (q : ConcurrentTaskQueue T P)

/-- What `enqueue` writes down from the test of its wait loop on. -/
theorem profiledEnqueue_profiles (task : P) :
    Profiles (profiledEnqueue cfg task choice locals q)
      (concurrentTaskQueueEnqueue cfg task choice.queue.woken q)
      (outcomeTallies cfg .enqueue locals.waited q
        (concurrentTaskQueueEnqueue cfg task choice.queue.woken q)) := by
  unfold profiledEnqueue concurrentTaskQueueEnqueue
  split
  · show Profiles _ _ ([_] ++ ([_] ++ []))
    refine (Counts.increment _).profiles fun _ => (Counts.increment _).profiles fun _ => ?_
    exact (Counts.now _).silentProfiles fun _ => Profiles.pure _ _
  · rcases insertTask cfg .errorSystem task choice.queue.woken q with ⟨q', result, signals⟩
    by_cases hok : result = .ok
    · subst hok
      show Profiles (profilingSucceeded .enqueue locals.waited >>= fun _ => _) _
        (_ ++ _ ++ ([_] ++ []))
      rw [List.append_assoc]
      refine (counts_succeeded _ _).profiles fun _ => ?_
      refine (counts_recordOccupancy _).profiles fun _ => ?_
      exact (counts_signalled _ _).profiles fun _ => Profiles.pure _ _
    · have hnone : outcomeTallies cfg .enqueue locals.waited q
          (q', .unlock (.enqueue task) (.status result none), signals) = [] := by
        cases result with
        | ok => exact absurd rfl hok
        | _ => rfl
      simp only [if_neg hok]
      rw [hnone]
      exact Profiles.pure _ _

/-- What `dequeue` writes down from the test of its wait loop on. -/
theorem profiledDequeue_profiles :
    Profiles (profiledDequeue cfg choice locals q)
      (concurrentTaskQueueDequeue cfg choice.queue.woken q)
      (outcomeTallies cfg .dequeue locals.waited q
        (concurrentTaskQueueDequeue cfg choice.queue.woken q)) := by
  unfold profiledDequeue concurrentTaskQueueDequeue
  split
  · show Profiles _ _ ([_] ++ ([_] ++ []))
    refine (Counts.increment _).profiles fun _ => (Counts.increment _).profiles fun _ => ?_
    refine (Counts.addWorker _ _ (Counts.pure 1)).silentProfiles fun _ => ?_
    exact (Counts.now _).silentProfiles fun _ => Profiles.pure _ _
  · rcases removeTask cfg .errorShutdown choice.queue.woken q with ⟨q', r, signals⟩
    cases r with
    | status result output =>
      cases result with
      | ok =>
        show Profiles (profilingSucceeded .dequeue locals.waited >>= fun _ => _) _
          (_ ++ _ ++ ([_] ++ []))
        rw [List.append_assoc]
        refine (counts_succeeded _ _).profiles fun _ => ?_
        refine (Counts.addWorker _ _ (Counts.pure 1)).silentProfiles fun _ => ?_
        refine (counts_recordOccupancy _).profiles fun _ => ?_
        exact (counts_signalled _ _).profiles fun _ => Profiles.pure _ _
      | _ => exact Profiles.pure _ _
    | _ => exact Profiles.pure _ _

/-- The increments on the way into the critical section: after `sched_mutex_lock`, or after
`sched_condition_wait`. -/
def entryTallies (q : ConcurrentTaskQueue T P) : QueuePc P → List ProfilingCounter
  | .lock op => op.side.elim [] fun side => [.side side .attempts, .side side .lockAttempts]
  | .woken w =>
    [.side w.side .waitReturns]
      ++ if w.loopCondition q then [.side w.side .predicateFalseWakeups] else []
  | _ => []

/-- The side of a call that enters the critical section. -/
def QueuePc.entering : QueuePc P → Option QueueSide
  | .lock op => op.side
  | .woken w => some w.side
  | _ => none

/-- The increments of one step. -/
def stepTallies (cfg : QueueConfig) (waited : Bool) (q : ConcurrentTaskQueue T P) (pc : QueuePc P)
    (out : QueueSection T P) : List ProfilingCounter :=
  entryTallies q pc
    ++ pc.entering.elim [] fun side => outcomeTallies cfg side waited q out

/-- **The profiled body of an operation** does what the plain one does and counts what it does. -/
theorem profiledOperation_profiles (op : QueueOperation P) (t : T) :
    Profiles (profiledOperation cfg op choice locals { q with mutex := some t })
      (runOperation cfg choice.queue.woken op { q with mutex := some t })
      (stepTallies cfg locals.waited q (.lock op)
        (runOperation cfg choice.queue.woken op { q with mutex := some t })) := by
  cases op with
  | enqueue task =>
    exact (counts_locked _ _ _).profiles fun _ => profiledEnqueue_profiles cfg choice locals _ task
  | dequeue =>
    refine (counts_locked _ _ _).profiles fun lockEnd => ?_
    refine (Counts.addWorker _ _ (Counts.elapsed _ _)).silentProfiles fun _ => ?_
    exact profiledDequeue_profiles cfg choice locals _
  | shutdown => exact (Counts.add rfl 2).silentProfiles fun _ => Profiles.pure _ _
  | _ => exact Profiles.pure _ _

/-- The same for a body resumed after a wait that succeeded. -/
theorem profiledResumeWait_profiles (w : Waiter P) (t : T) (h : choice.queue.waitSucceeds = true) :
    Profiles (profiledResumeWait cfg w choice locals { q with mutex := some t })
      (resumeWait cfg w true choice.queue.woken { q with mutex := some t })
      (stepTallies cfg locals.waited q (.woken w)
        (resumeWait cfg w true choice.queue.woken { q with mutex := some t })) := by
  unfold profiledResumeWait stepTallies entryTallies
  rw [if_pos h, List.append_assoc]
  cases w with
  | producer task =>
    refine (counts_resumed _ _ _).profiles fun _ => (Counts.increment _).branchProfiles fun _ => ?_
    exact profiledEnqueue_profiles cfg choice locals _ task
  | consumer =>
    refine (counts_resumed _ _ _).profiles fun waitEnd => ?_
    refine (Counts.addWorker _ _ (Counts.elapsed _ _)).silentProfiles fun _ => ?_
    refine (Counts.increment _).branchProfiles fun _ => ?_
    exact profiledDequeue_profiles cfg choice locals _

end Sections

/-! ## The queue underneath -/

section Erasure

variable [DecidableEq T] {cfg : QueueConfig} {t : T} {choice : ProfilingChoice T P}
  {sh sh' : ProfiledQueue T P} {pc pc' : ProfiledPc P} {fx : List (QueueEffect T)}

omit [DecidableEq T] in
/-- Put into the program, a profiled section is the plain one and the tallies are gained. -/
theorem Profiles.runSection {m : ProfilingM (ProfiledSection T P)} {out : QueueSection T P}
    {es : List ProfilingCounter} (h : Profiles m out es)
    (hrun : sh.runSection m = (sh', pc', fx)) :
    out = (sh'.queue, pc'.pc, fx) ∧ Gains sh.profiling sh'.profiling es := by
  obtain ⟨hout, hgains⟩ := h sh.profiling
  cases hrun
  exact ⟨hout.symm, hgains⟩

/-- **A step of a profiling build is a step of the queue**, and increments what `stepTallies`
says. -/
theorem profiledAct_spec (hwait : cfg.waitMayFail = false)
    (h : profiledAct cfg t choice sh pc = some (sh', pc', fx)) :
    queueAct cfg t choice.queue sh.queue pc.pc = some (sh'.queue, pc'.pc, fx) ∧
      Gains sh.profiling sh'.profiling
        (stepTallies cfg pc.locals.waited sh.queue pc.pc (sh'.queue, pc'.pc, fx)) := by
  obtain ⟨pc, locals⟩ := pc
  cases pc with
  | idle =>
    obtain ⟨⟨op, nonNull⟩, hcall, h⟩ := Option.map_eq_some_iff.mp h
    cases nonNull with
    | false =>
      cases h
      exact ⟨by simp [queueAct, hcall], Gains.refl _⟩
    | true =>
      have hprofiles : Profiles (do
          let locals ← profiledCall op choice
          return ((sh.queue, .lock op, []), locals)) (sh.queue, .lock op, []) [] := by
        refine Counts.silentProfiles ?_ fun _ => Profiles.pure _ _
        cases op with
        | enqueue task => exact (Counts.now _).silent fun _ => Counts.pure _
        | dequeue => exact (Counts.now _).silent fun _ => Counts.pure _
        | _ => exact Counts.pure _
      obtain ⟨hout, hgains⟩ := hprofiles.runSection h
      exact ⟨by simp [queueAct, hcall, ← hout], hgains⟩
  | lock op =>
    simp only [profiledAct, Option.ite_none_right_eq_some, Option.some.injEq] at h
    obtain ⟨hmutex, h⟩ := h
    obtain ⟨hout, hgains⟩ := (profiledOperation_profiles cfg choice locals _ op t).runSection h
    rw [hout] at hgains
    exact ⟨by simp [queueAct, hmutex, hout], hgains⟩
  | woken w =>
    simp only [profiledAct, Option.ite_none_right_eq_some, Option.some.injEq] at h
    obtain ⟨⟨hmutex, hsucceeds⟩, h⟩ := h
    have hsucceeds : choice.queue.waitSucceeds = true := by simpa [hwait] using hsucceeds
    obtain ⟨hout, hgains⟩ :=
      (profiledResumeWait_profiles cfg choice locals _ w t hsucceeds).runSection h
    rw [hout] at hgains
    exact ⟨by simp [queueAct, hmutex, hsucceeds, hout], hgains⟩
  | _ =>
    -- the steps without profiling code
    simp only [profiledAct, Option.map_eq_some_iff] at h
    obtain ⟨out, hact, h⟩ := h
    cases h
    exact ⟨hact, Gains.refl _⟩

end Erasure

end SchedulingEngine
