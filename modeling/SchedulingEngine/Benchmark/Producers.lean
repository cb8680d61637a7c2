import Mathlib.Algebra.Order.BigOperators.Group.Finset
import Mathlib.Data.Fintype.BigOperators
import SchedulingEngine.Benchmark.Assembly

/-!
# What the producers do

Whatever fails and however the threads interleave:

- nobody passes the barrier, and no Task is submitted, before all producers stand at it and the
  clock was read (`start_barrier_gates`);
- no Task is submitted twice, and if all producers are joined with result `0` each was submitted
  exactly once (`producers_submit_once`);
- where native joins succeed, nobody uses the barrier any more when it is destroyed
  (`barrier_outlives_producers`).
-/

namespace SchedulingEngine

open Concurrency

variable {cfg : BarrierConfig} {t u : BarrierThread cfg} {choice : BarrierChoice}
  {m : Meeting (BarrierThread cfg)} {s s' : BarrierPool cfg}

/-! ## The gate -/

/-- Past the barrier, as the results tell: who did not pass returns `3` or `4`. -/
def ProducerPc.through : ProducerPc → Bool
  | .unlock none | .submit _ => true
  | .unlock (some r) | .finished r => r = 0 || 6 ≤ r
  | _ => false

def BarrierPc.through : BarrierPc → Bool
  | .producer pc => pc.through
  | .iteration _ => false

/-- A barrier that is open and not aborted was opened for all. -/
theorem IterationPc.Phase.started {pc : IterationPc} (h : pc.Phase m)
    (hreleased : m.barrier.released = true) (haborted : m.barrier.aborted = false) :
    m.totalStart = true := by
  have hquiet : m.Quiet → m.totalStart = true := fun h => by cases hreleased.symm.trans h.released
  have hgone : m.Aborted → m.totalStart = true := fun h => by cases haborted.symm.trans h.aborted
  have hpassed : ∀ {passed : Bool},
      (if passed then m.Started ∧ m.joined = cfg.producers else m.Aborted) →
        m.totalStart = true := by
    intro passed h
    cases passed with
    | true => exact h.1.totalStart
    | false => exact hgone h
  cases pc with
  | create index => exact hquiet h.2.2.1
  | barrierLock => exact hquiet h.2.1
  | wait => exact hquiet h.2.1
  | asleep => exact hquiet h.2.1
  | woken => exact hquiet h.2.1
  | barrierUnlock released =>
    cases released with
    | true => exact h.2.1.totalStart
    | false => exact hquiet h.2.1
  | releaseCallback => exact h.2.1.totalStart
  | join index => exact h.2.1.totalStart
  | abortLock => exact h.2.1.elim hquiet fun h => h.totalStart
  | abortUnlock => exact hgone h.2.1
  | cleanupJoin index passed => exact hpassed h.2.1
  | cleaned passed => exact hpassed h.2

theorem IterationPc.Phase.created_le {pc : IterationPc} (h : pc.Phase m) :
    m.created ≤ cfg.producers := by
  cases pc with
  | create index => exact h.1.trans_le h.2.1
  | barrierUnlock released =>
    cases released with
    | true => exact h.1.le
    | false => exact h.1
  | abortLock => exact h.1
  | abortUnlock => exact h.1
  | cleanupJoin index passed => exact h.1
  | cleaned passed => exact h.1
  | _ => exact h.1.le

/-- Nobody is through, and nothing is submitted, before the clock was read. -/
structure Gated (s : BarrierPool cfg) : Prop where
  through : ∀ u, (s.pc u).through = true → s.shared.totalStart = true
  submitted : s.shared.submitted ≠ [] → s.shared.totalStart = true

theorem BarrierStepSpec.gated {pc : BarrierPc} {out : BarrierStep cfg BarrierPc}
    (h : BarrierStepSpec cfg choice m t pc out)
    (hstarted : m.barrier.released = true → m.barrier.aborted = false → m.totalStart = true)
    (hthrough : pc.through = true → m.totalStart = true)
    (hsubmitted : m.submitted ≠ [] → m.totalStart = true) :
    (m.totalStart = true → out.1.totalStart = true) ∧
      (out.2.1.through = true → out.1.totalStart = true) ∧
      (out.1.submitted ≠ [] → out.1.totalStart = true) := by
  have htest : (BarrierPc.producer (producerTest m.barrier)).through = true →
      m.totalStart = true := by
    intro hthrough
    unfold producerTest at hthrough
    cases hreleased : m.barrier.released <;> cases haborted : m.barrier.aborted <;>
      rw [hreleased, haborted] at hthrough
    · cases hthrough
    · cases hthrough
    · exact hstarted hreleased haborted
    · cases hthrough
  cases h with
  | producer i h =>
    cases h with
    | arrive hfree => exact ⟨id, htest, hsubmitted⟩
    | retest hfree => exact ⟨id, htest, hsubmitted⟩
    | leave r hheld => exact ⟨id, hthrough, hsubmitted⟩
    | pass hheld => exact ⟨id, fun _ => hthrough rfl, hsubmitted⟩
    | submit index hindex =>
      obtain ⟨passed, hm, -⟩ := submitTask_fst m choice.outcome index
      rw [hm]
      exact ⟨id, fun _ => hthrough rfl, fun _ => hthrough rfl⟩
    | done index hindex => exact ⟨id, fun _ => hthrough rfl, hsubmitted⟩
    | _ => exact ⟨id, nofun, hsubmitted⟩
  | iteration h =>
    cases h with
    | release pc htests hfree hready => exact ⟨fun _ => rfl, nofun, fun _ => rfl⟩
    | _ => exact ⟨id, nofun, hsubmitted⟩

theorem gated_step (hs : Assembled s) (h : Gated s)
    (hstep : (barrierProgram cfg).step t choice s = some s') : Gated s' := by
  obtain ⟨pc, fx, hspec, hfx⟩ := barrier_step_spec hstep
  obtain ⟨ipc, hipc⟩ := barrier_iteration hs.runs
  obtain ⟨hkept, hself, hsubmitted⟩ := hspec.gated (hs.phase ipc hipc).started (h.through t)
    h.submitted
  have hblind : (barrierProgram cfg).Blind BarrierPc.through := barrierProgram_blind rfl rfl rfl
  obtain ⟨hacted, hothers⟩ := Program.step_blind hblind hfx
  refine ⟨fun u hthrough => ?_, hsubmitted⟩
  by_cases hu : u = t
  · subst hu
    exact hself (hacted ▸ hthrough)
  · exact hkept (h.through u (hothers u hu ▸ hthrough))

theorem BarrierReachable.gated (h : BarrierReachable cfg s) : Gated s := by
  have hboth : Assembled s ∧ Gated s := by
    refine Program.Steps.invariant (I := fun s => Assembled s ∧ Gated s) h
      ⟨assembled_initial cfg, fun u => ?_, fun hne => absurd rfl hne⟩ ?_
    · cases u <;> exact nofun
    · rintro u u' - ⟨hu, hgated⟩ ⟨t, choice, hstep⟩
      exact ⟨assembled_step hu hstep, gated_step hu hgated hstep⟩
  exact hboth.2

/-- When all have been counted, all have arrived. -/
theorem Assembled.all_arrived (h : Assembled s)
    (hready : cfg.producers ≤ s.shared.barrier.readyCount) (i : Fin cfg.producers) :
    (s.pc (some i)).arrived = 1 := by
  have hone : ∀ u, (s.pc u).arrived ≤ 1 := by
    intro u
    cases s.pc u with
    | producer pc => cases pc <;> simp [BarrierPc.arrived]
    | iteration pc => exact Nat.zero_le _
  obtain ⟨ipc, hipc⟩ := barrier_iteration h.runs
  have hsum : cfg.producers ≤ ∑ i : Fin cfg.producers, (s.pc (some i)).arrived := by
    rw [h.ready] at hready
    unfold Program.total at hready
    rw [Fintype.sum_option, hipc] at hready
    exact hready.trans_eq (Nat.zero_add _)
  by_contra hne
  have hlt : ∑ i : Fin cfg.producers, (s.pc (some i)).arrived < ∑ _i : Fin cfg.producers, 1 :=
    Finset.sum_lt_sum (fun i _ => hone _) ⟨i, Finset.mem_univ i, lt_of_le_of_ne (hone _) hne⟩
  have hcount : ∑ _i : Fin cfg.producers, 1 = cfg.producers := by simp
  rw [hcount] at hlt
  exact absurd hlt (Nat.not_lt.mpr hsum)

/-- **The start barrier opens for all producers or for none.** In every reachable state, whatever
has failed, once a producer is past the barrier or a Task is submitted, every producer has been
created and has come to the barrier, and the clock had been read; so a start that is aborted
before submits nothing. -/
theorem start_barrier_gates (h : BarrierReachable cfg s)
    (hpassed : s.shared.submitted ≠ [] ∨ ∃ u, (s.pc u).through = true) :
    s.shared.totalStart = true ∧ s.shared.created = cfg.producers ∧
      ∀ i, (s.pc (some i)).arrived = 1 := by
  have hs := h.assembled
  have htotal : s.shared.totalStart = true :=
    hpassed.elim h.gated.submitted fun ⟨u, hu⟩ => h.gated.through u hu
  have hall := hs.all_arrived (hs.clock htotal)
  refine ⟨htotal, ?_, hall⟩
  obtain ⟨ipc, hipc⟩ := barrier_iteration hs.runs
  refine Nat.le_antisymm (hs.phase ipc hipc).created_le (Nat.le_of_not_lt fun hlt => ?_)
  have hcreated : (s.pc (some ⟨_, hlt⟩)).isCreated = true := by
    have harrived := hall ⟨_, hlt⟩
    obtain ⟨pc, hpc⟩ := barrier_producer hs.runs ⟨_, hlt⟩
    rw [hpc] at harrived ⊢
    cases pc <;> first | rfl | cases harrived
  exact Nat.lt_irrefl _ ((hs.created ⟨_, hlt⟩).mp hcreated)

/-- Three Tasks and two producers. -/
def twoProducers : BarrierConfig where
  tasks := 3
  producers := 2
  createMayFail := true
  waitMayFail := false
  joinMayFail := false
  timerMayFail := false
  callbackMayFail := false

abbrev MeetingSchedule := List (BarrierThread twoProducers × BarrierChoice)

def turns (t : BarrierThread twoProducers) (n : ℕ) : MeetingSchedule := List.replicate n (t, {})

def firstProducer : BarrierThread twoProducers := some ⟨0, Nat.zero_lt_two⟩

def secondProducer : BarrierThread twoProducers := some ⟨1, Nat.one_lt_two⟩

/-- All go to sleep at the barrier; the last to come wakes the others. -/
def gatherSchedule : MeetingSchedule :=
  turns none 5 ++ turns firstProducer 2 ++ turns secondProducer 2 ++ turns none 2

/-- The Tasks are submitted and the producers joined. -/
def meetingSchedule : MeetingSchedule :=
  gatherSchedule ++ turns firstProducer 5 ++ turns secondProducer 4 ++ turns none 5

theorem start_barrier_gates_first : ∃ s : BarrierPool twoProducers,
    BarrierReachable twoProducers s ∧ s.shared.submitted = [0] ∧ s.shared.totalStart = true ∧
      s.shared.created = 2 ∧ ∀ i, (s.pc (some i)).arrived = 1 := by
  obtain ⟨s, hs, hsubmitted⟩ := (barrierProgram twoProducers).exists_of_run
    (gatherSchedule ++ turns firstProducer 3) (barrierInitial twoProducers)
    (fun s => s.shared.submitted) (v := [0]) (by decide +kernel)
  exact ⟨s, hs, hsubmitted,
    start_barrier_gates hs (.inl (by rw [hsubmitted]; exact List.cons_ne_nil _ _))⟩

/-! ## The submissions -/

/-- Task `k` is in the range of producer `i`. -/
def BarrierConfig.Owns (cfg : BarrierConfig) (i : Fin cfg.producers) (k : ℕ) : Prop :=
  producerBegin cfg.tasks cfg.producers i ≤ k ∧ k < producerEnd cfg.tasks cfg.producers i

instance (i : Fin cfg.producers) (k : ℕ) : Decidable (cfg.Owns i k) :=
  inferInstanceAs (Decidable (_ ∧ _))

/-- The Tasks that producer `i` has submitted. -/
def Meeting.tasksOf (m : Meeting (BarrierThread cfg)) (i : Fin cfg.producers) : List ℕ :=
  m.submitted.filter (cfg.Owns i)

/-- Where a producer stands when it has submitted the first `n` Tasks of its range. -/
def ProducerPc.Has (i : Fin cfg.producers) (n : ℕ) : ProducerPc → Prop
  | .submit index => index = producerBegin cfg.tasks cfg.producers i + n
  | .finished r =>
    r = 0 → producerBegin cfg.tasks cfg.producers i + n = producerEnd cfg.tasks cfg.producers i
  | .unlock (some r) => n = 0 ∧ r ≠ 0
  | _ => n = 0

/-- A producer submits the Tasks of its range in order. -/
def BarrierPc.Submits (m : Meeting (BarrierThread cfg)) : BarrierThread cfg → BarrierPc → Prop
  | some i, .producer pc => ∃ n,
    m.tasksOf i = List.range' (producerBegin cfg.tasks cfg.producers i) n ∧
      producerBegin cfg.tasks cfg.producers i + n ≤ producerEnd cfg.tasks cfg.producers i ∧
      pc.Has i n
  | _, _ => True

/-- Two ranges do not overlap. -/
theorem BarrierConfig.Owns.unique (htasks : cfg.tasks ≤ sizeMax) {i j : Fin cfg.producers} {k : ℕ}
    (hi : cfg.Owns i k) (hj : cfg.Owns j k) : i = j := by
  obtain ⟨hibegin, hiend⟩ := hi
  obtain ⟨hjbegin, hjend⟩ := hj
  rw [(producerBegin_eq htasks i.isLt).1] at hibegin
  rw [(producerBegin_eq htasks j.isLt).1] at hjbegin
  rw [(producerEnd_eq htasks i.isLt).1] at hiend
  rw [(producerEnd_eq htasks j.isLt).1] at hjend
  by_contra hne
  rcases Nat.lt_or_gt_of_ne (Fin.val_ne_of_ne hne) with hlt | hlt
  · have hmono := rangeBegin_mono cfg.tasks cfg.producers (Nat.succ_le_of_lt hlt)
    exact absurd (hiend.trans_le (hmono.trans hjbegin)) (Nat.lt_irrefl k)
  · have hmono := rangeBegin_mono cfg.tasks cfg.producers (Nat.succ_le_of_lt hlt)
    exact absurd (hjend.trans_le (hmono.trans hibegin)) (Nat.lt_irrefl k)

/-- Every range lies in the array. -/
theorem BarrierConfig.Owns.lt (htasks : cfg.tasks ≤ sizeMax) {i : Fin cfg.producers} {k : ℕ}
    (h : cfg.Owns i k) : k < cfg.tasks := by
  have hend := h.2
  rw [(producerEnd_eq htasks i.isLt).1] at hend
  exact hend.trans_le (rangeBegin_le i.isLt)

/-- The ranges cover the array. -/
theorem BarrierConfig.exists_owner (htasks : cfg.tasks ≤ sizeMax) (hpos : 0 < cfg.producers) {k : ℕ}
    (hk : k < cfg.tasks) : ∃ i : Fin cfg.producers, cfg.Owns i k := by
  have hmem : k ∈ List.range (rangeBegin cfg.tasks cfg.producers cfg.producers) := by
    rwa [rangeBegin_last hpos, List.mem_range]
  rw [← flatMap_ranges, List.mem_flatMap] at hmem
  obtain ⟨i, hi, hk⟩ := hmem
  rw [List.mem_range] at hi
  rw [List.mem_range'_1] at hk
  refine ⟨⟨i, hi⟩, ?_, ?_⟩
  · rw [(producerBegin_eq htasks hi).1]
    exact hk.1
  · rw [(producerEnd_eq htasks hi).1]
    have hmono := rangeBegin_mono cfg.tasks cfg.producers (Nat.le_add_right i 1)
    omega

/-- A step submits at most the next Task of the range of its thread. -/
theorem BarrierStepSpec.submits {pc : BarrierPc} {out : BarrierStep cfg BarrierPc}
    (h : BarrierStepSpec cfg choice m t pc out) (hsubmits : pc.Submits m t) :
    out.2.1.Submits out.1 t ∧ ∃ passed, out.1.submitted = m.submitted ++ passed ∧
      ∀ k ∈ passed, ∃ i, t = some i ∧ cfg.Owns i k := by
  have hnone : ∀ {m' : Meeting (BarrierThread cfg)}, m'.submitted = m.submitted →
      ∃ passed, m'.submitted = m.submitted ++ passed ∧
        ∀ k ∈ passed, ∃ i, t = some i ∧ cfg.Owns i k :=
    fun hsame => ⟨[], by rw [hsame, List.append_nil], List.forall_mem_nil _⟩
  cases h with
  | producer i h =>
    obtain ⟨n, htasks, hle, hhas⟩ := hsubmits
    have htest : n = 0 → (producerTest m.barrier).Has i n := by
      intro hn
      unfold producerTest
      split
      · exact hn
      · split
        · exact ⟨hn, by decide⟩
        · exact hn
    cases h with
    -- before its first submission a producer has passed no Task
    | arrive hfree => exact ⟨⟨n, htasks, hle, htest hhas⟩, hnone rfl⟩
    | sleep hheld => exact ⟨⟨n, htasks, hle, hhas⟩, hnone rfl⟩
    | spurious => exact ⟨⟨n, htasks, hle, hhas⟩, hnone rfl⟩
    | retest hfree => exact ⟨⟨n, htasks, hle, htest hhas⟩, hnone rfl⟩
    | waitFailed hfree hfail => exact ⟨⟨n, htasks, hle, hhas, by decide⟩, hnone rfl⟩
    | leave r hheld => exact ⟨⟨n, htasks, hle, fun hr => absurd hr hhas.2⟩, hnone rfl⟩
    | pass hheld =>
      obtain rfl : n = 0 := hhas
      exact ⟨⟨0, htasks, hle, rfl⟩, hnone rfl⟩
    | done index hindex =>
      obtain rfl : index = producerBegin cfg.tasks cfg.producers i + n := hhas
      exact ⟨⟨n, htasks, hle, fun _ => Nat.le_antisymm hle hindex⟩, hnone rfl⟩
    -- a Task that is passed is the next one of the producer's range
    | submit index hindex =>
      obtain rfl : index = producerBegin cfg.tasks cfg.producers i + n := hhas
      obtain ⟨passed, hm, hpassed⟩ := submitTask_fst m choice.outcome
        (producerBegin cfg.tasks cfg.producers i + n)
      have howns : cfg.Owns i (producerBegin cfg.tasks cfg.producers i + n) :=
        ⟨Nat.le_add_right _ _, hindex⟩
      rcases hpassed with rfl | ⟨rfl, hpc⟩
      · refine ⟨⟨n + 1, ?_, hindex, ?_⟩, [_], by rw [hm], fun k hk => ⟨i, rfl, ?_⟩⟩
        · rw [hm, List.range'_1_concat, ← htasks]
          unfold Meeting.tasksOf
          rw [List.filter_append, List.filter_cons_of_pos (by simpa using howns), List.filter_nil]
        · rcases submitTask_snd m choice.outcome
            (producerBegin cfg.tasks cfg.producers i + n) with hpc | ⟨r, hr, hpc⟩
          · rw [hpc]
            rfl
          · rw [hpc]
            exact fun hzero => absurd hr (by omega)
        · rwa [List.mem_singleton.mp hk]
      · rw [hm, hpc, List.append_nil]
        exact ⟨⟨n, htasks, hle, nofun⟩, hnone rfl⟩
  -- `run_iteration` submits nothing itself
  | iteration h => exact ⟨trivial, hnone (by cases h <;> rfl)⟩

/-- What the producers have submitted. -/
structure Submitted (s : BarrierPool cfg) : Prop where
  each : ∀ u, (s.pc u).Submits s.shared u
  owned : ∀ k ∈ s.shared.submitted, ∃ i, cfg.Owns i k

theorem submitted_step (htasks : cfg.tasks ≤ sizeMax) (h : Submitted s)
    (hstep : (barrierProgram cfg).step t choice s = some s') : Submitted s' := by
  obtain ⟨pc, fx, hspec, hfx⟩ := barrier_step_spec hstep
  obtain ⟨hself, passed, hpassed, howned⟩ := hspec.submits (h.each t)
  refine ⟨Program.forall_step (fun u m pc => pc.Submits m u)
    (fun u m => ?_) hfx hself (fun u hu hsubmits => ?_) h.each, fun k hk => ?_⟩
  · cases u <;> exact barrierProgram_blind rfl rfl rfl
  · -- nobody submits a Task of another's range
    cases hpc : s.pc u with
    | iteration pc => cases u <;> trivial
    | producer pc =>
      cases u with
      | none => trivial
      | some j =>
        rw [hpc] at hsubmits
        obtain ⟨n, hn, hrest⟩ := hsubmits
        refine ⟨n, ?_, hrest⟩
        rw [← hn]
        unfold Meeting.tasksOf
        have hnone : passed.filter (cfg.Owns j) = [] := by
          refine List.filter_eq_nil_iff.mpr fun k hk hj => ?_
          obtain ⟨i, rfl, hi⟩ := howned k hk
          exact hu (congrArg some (BarrierConfig.Owns.unique htasks (of_decide_eq_true hj) hi))
        rw [show s'.shared.submitted = s.shared.submitted ++ passed from hpassed,
          List.filter_append,
          hnone, List.append_nil]
  · rw [show s'.shared.submitted = s.shared.submitted ++ passed from hpassed, List.mem_append] at hk
    rcases hk with hk | hk
    · exact h.owned k hk
    · obtain ⟨i, -, hi⟩ := howned k hk
      exact ⟨i, hi⟩

theorem submitted_initial (cfg : BarrierConfig) (htasks : cfg.tasks ≤ sizeMax) :
    Submitted (barrierInitial cfg) := by
  refine ⟨fun u => ?_, List.forall_mem_nil _⟩
  cases u with
  | none => trivial
  | some i =>
    refine ⟨0, rfl, ?_, rfl⟩
    rw [Nat.add_zero, (producerBegin_eq htasks i.isLt).1, (producerEnd_eq htasks i.isLt).1]
    exact rangeBegin_mono cfg.tasks cfg.producers (Nat.le_add_right _ 1)

theorem BarrierReachable.submitted (h : BarrierReachable cfg s) (htasks : cfg.tasks ≤ sizeMax) :
    Submitted s := by
  refine Program.Steps.invariant h (submitted_initial cfg htasks) ?_
  rintro u u' - hu ⟨t, choice, hstep⟩
  exact submitted_step htasks hu hstep

/-- What a producer has submitted is the beginning of its range. -/
theorem Submitted.begins (h : Submitted s) (hs : Assembled s) (i : Fin cfg.producers) :
    s.shared.tasksOf i <+: List.range' (producerBegin cfg.tasks cfg.producers i)
      (producerEnd cfg.tasks cfg.producers i - producerBegin cfg.tasks cfg.producers i) := by
  obtain ⟨pc, hpc⟩ := barrier_producer hs.runs i
  have hsubmits := h.each (some i)
  rw [hpc] at hsubmits
  obtain ⟨n, htasks, hle, -⟩ := hsubmits
  rw [htasks, ← Nat.add_sub_of_le (Nat.le_sub_of_add_le' hle), ← List.range'_append_1]
  exact List.prefix_append _ _

/-! ## The joins -/

/-- `run_iteration` has not turned to its abort path. -/
def BarrierPc.content : BarrierPc → Bool
  | .iteration .abortLock | .iteration .abortUnlock => false
  | .iteration (.cleanupJoin _ passed) | .iteration (.cleaned passed) => passed
  | _ => true

/-- How many of the producers have been joined, in the clean-up at the latest. -/
def BarrierPc.reaped (m : Meeting (BarrierThread cfg)) : BarrierPc → ℕ
  | .iteration (.cleanupJoin index _) => index
  | .iteration (.cleaned _) => m.created
  | _ => m.joined

/-- All producers were joined with result `0`. -/
def BarrierPc.passed : BarrierPc → Bool
  | .iteration (.cleanupJoin _ passed) | .iteration (.cleaned passed) => passed
  | _ => false

/-- A step joins the next producer, or nobody. -/
theorem IterationStepSpec.reaps {pc : IterationPc} {out : BarrierStep cfg IterationPc}
    (h : IterationStepSpec cfg choice m pc out) (hphase : pc.Phase m) :
    ((BarrierPc.iteration out.2.1).content = true → (BarrierPc.iteration pc).content = true ∧
        (out.1.joined = m.joined ∨ out.1.joined = m.joined + 1 ∧
          ∃ i : Fin cfg.producers, (i : ℕ) = m.joined ∧ .await (some i) 0 ∈ out.2.2)) ∧
      (cfg.joinMayFail = false →
        (BarrierPc.iteration out.2.1).reaped out.1 ≤ (BarrierPc.iteration pc).reaped m ∨
          (BarrierPc.iteration out.2.1).reaped out.1 = (BarrierPc.iteration pc).reaped m + 1 ∧
          ∃ (i : Fin cfg.producers) (r : ℕ), (i : ℕ) = (BarrierPc.iteration pc).reaped m ∧
            .await (some i) r ∈ out.2.2) := by
  have htests : ∀ {pc : IterationPc}, pc.tests = true →
      (BarrierPc.iteration pc).content = true ∧ (BarrierPc.iteration pc).reaped m = m.joined := by
    intro pc htests
    cases pc <;> first | exact ⟨rfl, rfl⟩ | cases htests
  cases h with
  | unready pc htest hfree hready =>
    obtain ⟨hcontent, hreaped⟩ := htests htest
    exact ⟨fun _ => ⟨hcontent, .inl rfl⟩, fun _ => .inl hreaped.ge⟩
  | release pc htest hfree hready =>
    obtain ⟨hcontent, hreaped⟩ := htests htest
    exact ⟨fun _ => ⟨hcontent, .inl rfl⟩, fun _ => .inl hreaped.ge⟩
  | giveUp pc htest hfree hfail =>
    obtain ⟨hcontent, hreaped⟩ := htests htest
    exact ⟨fun _ => ⟨hcontent, .inl rfl⟩, fun _ => .inl hreaped.ge⟩
  | joined index hindex =>
    have hjoined : (index : ℕ) = m.joined := hphase.2.2.1.symm
    exact ⟨fun _ => ⟨rfl, .inr ⟨rfl, index, hjoined, List.mem_singleton_self _⟩⟩,
      fun _ => .inr ⟨rfl, index, 0, hjoined, List.mem_singleton_self _⟩⟩
  | joinedFailure index r hindex hr =>
    exact ⟨nofun, fun _ => .inr ⟨rfl, index, r, hphase.2.2.1.symm, List.mem_singleton_self _⟩⟩
  | createFailed index hindex hfail => exact ⟨nofun, fun _ => .inl (Nat.le_refl _)⟩
  | unlockToAbort hheld => exact ⟨nofun, fun _ => .inl (Nat.le_refl _)⟩
  | callbackFailed hfail => exact ⟨nofun, fun _ => .inl (Nat.le_refl _)⟩
  | joinFailed index hindex hfail => exact ⟨nofun, fun _ => .inl (Nat.le_refl _)⟩
  | abort hfree => exact ⟨nofun, fun _ => .inl (Nat.le_refl _)⟩
  | aborted hheld => exact ⟨nofun, fun _ => .inl (Nat.le_refl _)⟩
  | cleanupJoined index passed r hindex =>
    exact ⟨fun hcontent => ⟨hcontent, .inl rfl⟩,
      fun _ => .inr ⟨rfl, index, r, rfl, List.mem_singleton_self _⟩⟩
  | cleanupFailed index passed hindex hfail =>
    exact ⟨fun hcontent => ⟨hcontent, .inl rfl⟩, fun hjoin => by cases hjoin.symm.trans hfail⟩
  | cleaned index passed hindex =>
    exact ⟨fun hcontent => ⟨hcontent, .inl rfl⟩, fun _ => .inl hindex⟩
  | _ => exact ⟨fun _ => ⟨rfl, .inl rfl⟩, fun _ => .inl (Nat.le_refl _)⟩

theorem BarrierStepSpec.reaps {pc : BarrierPc} {out : BarrierStep cfg BarrierPc}
    (h : BarrierStepSpec cfg choice m none pc out) (hphase : pc.Phase m) :
    (out.2.1.content = true → pc.content = true ∧
        (out.1.joined = m.joined ∨ out.1.joined = m.joined + 1 ∧
          ∃ i : Fin cfg.producers, (i : ℕ) = m.joined ∧ .await (some i) 0 ∈ out.2.2)) ∧
      (cfg.joinMayFail = false → out.2.1.reaped out.1 ≤ pc.reaped m ∨
        out.2.1.reaped out.1 = pc.reaped m + 1 ∧ ∃ (i : Fin cfg.producers) (r : ℕ),
          (i : ℕ) = pc.reaped m ∧ .await (some i) r ∈ out.2.2) := by
  cases h with
  | iteration h => exact h.reaps hphase

/-- The producers join nobody. -/
theorem BarrierStepSpec.reaps_nobody {i : Fin cfg.producers} {pc : BarrierPc}
    {out : BarrierStep cfg BarrierPc} (h : BarrierStepSpec cfg choice m (some i) pc out) :
    out.1.created = m.created ∧ out.1.joined = m.joined := by
  cases h with
  | producer i h =>
    cases h with
    | submit index hindex =>
      obtain ⟨passed, hm, -⟩ := submitTask_fst m choice.outcome index
      rw [hm]
      exact ⟨rfl, rfl⟩
    | _ => exact ⟨rfl, rfl⟩

/-- Who was joined had returned. -/
structure Reaped (s : BarrierPool cfg) : Prop where
  results : (s.pc none).content = true → ∀ i : Fin cfg.producers, (i : ℕ) < s.shared.joined →
    (s.pc (some i)).finished = some 0
  reaped : cfg.joinMayFail = false → ∀ i : Fin cfg.producers,
    (i : ℕ) < (s.pc none).reaped s.shared → (s.pc (some i)).finished.isSome = true

theorem barrier_finished_blind : (barrierProgram cfg).Blind BarrierPc.finished :=
  barrierProgram_blind rfl rfl rfl

theorem barrier_finished_stays
    (hstep : (barrierProgram cfg).step t choice s = some s') {r : ℕ}
    (hfinished : (s.pc u).finished = some r) : (s'.pc u).finished = some r := by
  obtain ⟨pc, fx, hspec, hfx⟩ := barrier_step_spec hstep
  have hne : u ≠ t := by
    rintro rfl
    generalize s.pc u = upc at hspec hfinished
    generalize (s'.shared, pc, fx) = out at hspec
    cases hspec with
    | producer i h => cases h <;> cases hfinished
    | iteration h => cases hfinished
  rw [(Program.step_blind barrier_finished_blind hfx).2 u hne]
  exact hfinished

theorem reaped_step (hs : Assembled s) (h : Reaped s)
    (hstep : (barrierProgram cfg).step t choice s = some s') : Reaped s' := by
  have hresult : ∀ {i : Fin cfg.producers}, (s.pc (some i)).finished = some 0 →
      (s'.pc (some i)).finished = some 0 := barrier_finished_stays hstep
  have hreturned : ∀ {i : Fin cfg.producers}, (s.pc (some i)).finished.isSome = true →
      (s'.pc (some i)).finished.isSome = true := by
    intro i hsome
    obtain ⟨r, hr⟩ := Option.isSome_iff_exists.mp hsome
    rw [barrier_finished_stays hstep hr]
    rfl
  have hcontent : (barrierProgram cfg).Blind BarrierPc.content := barrierProgram_blind rfl rfl rfl
  have hreaped : ∀ m : Meeting (BarrierThread cfg),
      (barrierProgram cfg).Blind (BarrierPc.reaped m) :=
    fun m => barrierProgram_blind rfl rfl rfl
  obtain ⟨pc, fx, hspec, hfx⟩ := barrier_step_spec hstep
  cases t with
  -- a producer joins nobody, so only what the others have returned may change
  | some j =>
    obtain ⟨hcreated, hjoined⟩ := hspec.reaps_nobody
    dsimp only at hcreated hjoined
    have hsame : (s.pc none).reaped s'.shared = (s.pc none).reaped s.shared := by
      unfold BarrierPc.reaped
      rw [hcreated, hjoined]
    refine ⟨fun hc i hi => hresult (h.results ?_ i (hi.trans_eq hjoined)),
      fun hjoin i hi => hreturned (h.reaped hjoin i ?_)⟩
    · rwa [(Program.step_blind hcontent hfx).2 none (Option.some_ne_none j).symm] at hc
    · rwa [(Program.step_blind (hreaped _) hfx).2 none (Option.some_ne_none j).symm, hsame] at hi
  -- a native join returns what the producer has returned
  | none =>
    have hawait : ∀ {i : Fin cfg.producers} {r : ℕ}, .await (some i) r ∈ fx →
        (s'.pc (some i)).finished = some r := by
      intro i r hi
      have hfinished := Program.applyEffects_await barrier_finished_blind hfx hi
      rw [Function.update_of_ne (Option.some_ne_none i)] at hfinished
      exact barrier_finished_stays hstep hfinished
    obtain ⟨hresults, hreaps⟩ := hspec.reaps (hs.phases none)
    dsimp only at hresults hreaps
    refine ⟨fun hc i hi => ?_, fun hjoin i hi => ?_⟩
    · rw [(Program.step_blind hcontent hfx).1] at hc
      obtain ⟨hbefore, hsame | ⟨hnext, j, hj, hjoined⟩⟩ := hresults hc
      · exact hresult (h.results hbefore i (hi.trans_eq hsame))
      · rcases Nat.lt_succ_iff_lt_or_eq.mp (hi.trans_eq hnext) with hlt | heq
        · exact hresult (h.results hbefore i hlt)
        · rw [Fin.ext (heq.trans hj.symm)]
          exact hawait hjoined
    · rw [(Program.step_blind (hreaped _) hfx).1] at hi
      rcases hreaps hjoin with hle | ⟨hnext, j, r, hj, hjoined⟩
      · exact hreturned (h.reaped hjoin i (hi.trans_le hle))
      · rcases Nat.lt_succ_iff_lt_or_eq.mp (hi.trans_eq hnext) with hlt | heq
        · exact hreturned (h.reaped hjoin i hlt)
        · rw [Fin.ext (heq.trans hj.symm), hawait hjoined]
          rfl

theorem BarrierReachable.reaped (h : BarrierReachable cfg s) : Reaped s := by
  have hboth : Assembled s ∧ Reaped s := by
    refine Program.Steps.invariant (I := fun s => Assembled s ∧ Reaped s) h
      ⟨assembled_initial cfg, fun _ i hi => absurd hi (Nat.not_lt_zero _),
        fun _ i hi => absurd hi (Nat.not_lt_zero _)⟩ ?_
    rintro u u' - ⟨hu, hreaped⟩ ⟨t, choice, hstep⟩
    exact ⟨assembled_step hu hstep, reaped_step hu hreaped hstep⟩
  exact hboth.2

/-! ## Main results -/

theorem Submitted.nodup (h : Submitted s) (hs : Assembled s) : s.shared.submitted.Nodup := by
  refine List.nodup_iff_count_le_one.mpr fun k => ?_
  by_cases hk : k ∈ s.shared.submitted
  · obtain ⟨i, hi⟩ := h.owned k hk
    have hcount : (s.shared.tasksOf i).count k = s.shared.submitted.count k :=
      List.count_filter (by simpa using hi)
    rw [← hcount]
    exact List.nodup_iff_count_le_one.mp ((h.begins hs i).sublist.nodup (List.nodup_range' ..)) k
  · rw [List.count_eq_zero_of_not_mem hk]
    exact Nat.zero_le 1

/-- All producers were joined, with result `0`. -/
theorem Assembled.joined_all (h : Assembled s) (hpassed : (s.pc none).passed = true) :
    s.shared.joined = cfg.producers ∧ (s.pc none).content = true := by
  obtain ⟨pc, hpc⟩ := barrier_iteration h.runs
  have hphase := h.phase pc hpc
  rw [hpc] at hpassed ⊢
  cases pc with
  | cleanupJoin index passed =>
    obtain rfl : passed = true := hpassed
    exact ⟨hphase.2.1.2, rfl⟩
  | cleaned passed =>
    obtain rfl : passed = true := hpassed
    exact ⟨hphase.2.2, rfl⟩
  | _ => cases hpassed

/-- **Each Task is submitted at most once, and on success exactly once.** In every reachable state,
whatever has failed, no Task has been submitted twice, no index lies outside the array, and each
producer has submitted the beginning of its own range in order. When `run_iteration` has joined all
producers with result `0`, every Task of the array has been submitted exactly once. -/
theorem producers_submit_once (h : BarrierReachable cfg s) (htasks : cfg.tasks ≤ sizeMax) :
    s.shared.submitted.Nodup ∧ (∀ k ∈ s.shared.submitted, k < cfg.tasks) ∧
      (∀ i, s.shared.tasksOf i <+: List.range' (producerBegin cfg.tasks cfg.producers i)
        (producerEnd cfg.tasks cfg.producers i - producerBegin cfg.tasks cfg.producers i)) ∧
      (0 < cfg.producers → (s.pc none).passed = true →
        s.shared.submitted.Perm (List.range cfg.tasks)) := by
  have hs := h.assembled
  have hsubmitted := h.submitted htasks
  have hlt : ∀ k ∈ s.shared.submitted, k < cfg.tasks := by
    intro k hk
    obtain ⟨i, hi⟩ := hsubmitted.owned k hk
    exact hi.lt htasks
  refine ⟨hsubmitted.nodup hs, hlt, hsubmitted.begins hs, fun hpos hpassed => ?_⟩
  obtain ⟨hjoined, hcontent⟩ := hs.joined_all hpassed
  refine (List.perm_ext_iff_of_nodup (hsubmitted.nodup hs) List.nodup_range).mpr fun k => ?_
  rw [List.mem_range]
  refine ⟨hlt k, fun hk => ?_⟩
  -- the owner of the Task has returned `0`, so it has been through its whole range
  obtain ⟨i, hi⟩ := BarrierConfig.exists_owner htasks hpos hk
  have hfinished := h.reaped.results hcontent i (i.isLt.trans_eq hjoined.symm)
  obtain ⟨pc, hpc⟩ := barrier_producer hs.runs i
  have hsubmits := hsubmitted.each (some i)
  rw [hpc] at hfinished hsubmits
  obtain ⟨n, hn, -, hhas⟩ := hsubmits
  have hend : producerBegin cfg.tasks cfg.producers i + n =
      producerEnd cfg.tasks cfg.producers i := by
    cases pc with
    | finished r => exact hhas (Option.some.inj hfinished)
    | _ => cases hfinished
  have hmem : k ∈ s.shared.tasksOf i := by
    rw [hn, List.mem_range'_1, hend]
    exact hi
  exact List.mem_of_mem_filter hmem

theorem producers_submit_once_three : ∃ s : BarrierPool twoProducers,
    BarrierReachable twoProducers s ∧ (s.pc none).passed = true ∧
      s.shared.submitted.Perm (List.range 3) := by
  obtain ⟨s, hs, hpassed⟩ := (barrierProgram twoProducers).exists_of_run meetingSchedule
    (barrierInitial twoProducers) (fun s => (s.pc none).passed) (v := true) (by decide +kernel)
  exact ⟨s, hs, hpassed,
    (producers_submit_once hs (by decide)).2.2.2 Nat.zero_lt_two hpassed⟩

/-- **The barrier outlives its users.** `run_iteration` destroys the barrier, which stands on its
stack, after the clean-up. Where native joins succeed, nobody then holds its mutex, and every
producer thread that was created has returned, whatever else has failed. -/
theorem barrier_outlives_producers (h : BarrierReachable cfg s) (hjoin : cfg.joinMayFail = false)
    {passed : Bool} (hcleaned : s.pc none = .iteration (.cleaned passed)) :
    s.shared.barrier.mutex = none ∧ ∀ i : Fin cfg.producers,
      s.pc (some i) = .producer .notCreated ∨ ∃ r, s.pc (some i) = .producer (.finished r) := by
  have hs := h.assembled
  have hend : ∀ i : Fin cfg.producers,
      s.pc (some i) = .producer .notCreated ∨ ∃ r, s.pc (some i) = .producer (.finished r) := by
    intro i
    obtain ⟨pc, hpc⟩ := barrier_producer hs.runs i
    have hcreated := hs.created i
    have hreaped := h.reaped.reaped hjoin i
    rw [hcleaned, hpc] at hreaped
    rw [hpc] at hcreated ⊢
    by_cases hlt : (i : ℕ) < s.shared.created
    · have hfinished := hreaped hlt
      cases pc with
      | finished r => exact .inr ⟨r, rfl⟩
      | _ => cases hfinished
    · cases pc with
      | notCreated => exact .inl rfl
      | _ => exact absurd (hcreated.mp rfl) hlt
  refine ⟨Option.eq_none_iff_forall_ne_some.mpr fun u hu => ?_, hend⟩
  have hholds := (hs.owned u).mp hu
  cases u with
  | none =>
    rw [hcleaned] at hholds
    cases hholds
  | some i =>
    rcases hend i with hpc | ⟨r, hpc⟩
    · rw [hpc] at hholds
      cases hholds
    · rw [hpc] at hholds
      cases hholds

/-- The second creation fails while the first producer sleeps at the barrier. -/
def forlornSchedule : MeetingSchedule :=
  turns none 1 ++ turns firstProducer 2 ++ [(none, { succeeds := false })] ++ turns none 2
    ++ turns firstProducer 2 ++ [(none, { result := 4 })] ++ turns none 1

theorem barrier_outlives_producers_aborted : ∃ s : BarrierPool twoProducers,
    BarrierReachable twoProducers s ∧ s.pc none = .iteration (.cleaned false) ∧
      s.shared.barrier.mutex = none ∧ ∀ i : Fin 2,
        s.pc (some i) = .producer .notCreated ∨ ∃ r, s.pc (some i) = .producer (.finished r) := by
  obtain ⟨s, hs, hcleaned⟩ := (barrierProgram twoProducers).exists_of_run forlornSchedule
    (barrierInitial twoProducers) (fun s => s.pc none) (v := .iteration (.cleaned false))
    (by decide +kernel)
  exact ⟨s, hs, hcleaned, barrier_outlives_producers hs rfl hcleaned⟩

end SchedulingEngine
