import SchedulingEngine.Benchmark.Options

/-!
# The command line of the benchmark (benchmark_scheduler.c)

`parse_arguments` goes through the options from left to right and stores each value in the
configuration; a later option overwrites an earlier one, and a scenario overwrites the counts
it fixes. What it prints on failure is the text of the error; most refusals print nothing.

`parseArguments_accepted` says what an accepted command line promises: every count is a positive
`size_t`, and there are at least as many Tasks as producers. No count is bounded otherwise.
-/

namespace SchedulingEngine

/-- `callback_profile`. -/
inductive CallbackProfile where
  | noop
  | lightCpu
  | mediumCpu
  | heavyCpu
  | controlledBlocking
  deriving DecidableEq, Repr

/-- `benchmark_mode`. -/
inductive BenchmarkMode where
  | validated
  | lowOverhead
  deriving DecidableEq, Repr

/-- `accounting_mode`. -/
inductive AccountingMode where
  | standard
  | partitioned
  deriving DecidableEq, Repr

/-- `benchmark_config`. -/
structure BenchmarkConfig where
  scenario : String
  profile : CallbackProfile
  mode : BenchmarkMode
  accounting : AccountingMode
  workers : ℕ
  producers : ℕ
  capacity : ℕ
  tasks : ℕ
  warmup : ℕ
  iterations : ℕ
  output : String
  deriving DecidableEq, Repr

/-- The configuration that `main` starts from. -/
def defaultConfig : BenchmarkConfig where
  scenario := "throughput"
  profile := .noop
  mode := .validated
  accounting := .standard
  workers := 4
  producers := 4
  capacity := 16
  tasks := 1000
  warmup := 3
  iterations := 10
  output := "benchmark-results.csv"

/-! ## Values -/

/-- `parse_profile`. -/
def parseProfile (text : String) : Option CallbackProfile :=
  if text = "noop" then some .noop
  else if text = "light_cpu" then some .lightCpu
  else if text = "medium_cpu" then some .mediumCpu
  else if text = "heavy_cpu" then some .heavyCpu
  else if text = "controlled_blocking" then some .controlledBlocking
  else none

/-- `parse_mode`. -/
def parseMode (text : String) : Option BenchmarkMode :=
  if text = "validated" then some .validated
  else if text = "low-overhead" then some .lowOverhead
  else none

/-- `parse_accounting`. -/
def parseAccounting (text : String) : Option AccountingMode :=
  if text = "standard" then some .standard
  else if text = "partitioned" then some .partitioned
  else none

/-- The counts and the profile that most scenarios fix. -/
def BenchmarkConfig.fix (config : BenchmarkConfig) (workers producers : ℕ)
    (profile : CallbackProfile) : BenchmarkConfig :=
  { config with workers, producers, profile }

def applyScenario (config : BenchmarkConfig) (scenario : String) : Option BenchmarkConfig :=
  let config := { config with scenario }
  if scenario = "throughput" then some config
  else if scenario = "s1" then some (config.fix 1 1 .noop)
  else if scenario = "s2" then some (config.fix 4 1 .noop)
  else if scenario = "s3" then some (config.fix 4 4 .noop)
  else if scenario = "s4" then some (config.fix 8 4 .noop)
  else if scenario = "s5" then some (config.fix 4 4 .lightCpu)
  else if scenario = "s6" then some (config.fix 4 4 .mediumCpu)
  else if scenario = "s7" then some { config.fix 1 1 .controlledBlocking with capacity := 1 }
  else if scenario = "s8" then some (config.fix 4 4 .noop)
  else none

/-! ## Options -/

/-- A numeric option: `parse_size` stores into the field that holds `current`. -/
def sizeOption (value : String) (current : ℕ) (store : ℕ → BenchmarkConfig) :
    Except String BenchmarkConfig :=
  match parseSize (some value.toList) current with
  | (true, n) => .ok (store n)
  | (false, _) => .error ""

/-- An option with a fixed set of values, and what is printed in front of any other. -/
def namedOption {α : Type} (parsed : Option α) (complaint value : String)
    (store : α → BenchmarkConfig) : Except String BenchmarkConfig :=
  match parsed with
  | some a => .ok (store a)
  | none => .error (complaint ++ value ++ "\n")

/-- One option with its value; `--accounting` exists in profiling builds only. -/
def applyOption (profiling : Bool) (option value : String) (config : BenchmarkConfig) :
    Except String BenchmarkConfig :=
  if option = "--scenario" then
    namedOption (applyScenario config value) "Unsupported scenario: " value id
  else if option = "--workers" then
    sizeOption value config.workers fun workers => { config with workers }
  else if option = "--producers" then
    sizeOption value config.producers fun producers => { config with producers }
  else if option = "--capacity" then
    sizeOption value config.capacity fun capacity => { config with capacity }
  else if option = "--tasks" then
    sizeOption value config.tasks fun tasks => { config with tasks }
  else if option = "--warmup" then
    sizeOption value config.warmup fun warmup => { config with warmup }
  else if option = "--iterations" then
    sizeOption value config.iterations fun iterations => { config with iterations }
  else if option = "--callback-profile" then
    namedOption (parseProfile value) "Unsupported callback profile: " value
      fun profile => { config with profile }
  else if option = "--mode" then
    namedOption (parseMode value) "Unsupported mode: " value fun mode => { config with mode }
  else if profiling = true ∧ option = "--accounting" then
    namedOption (parseAccounting value) "Unsupported accounting mode: " value
      fun accounting => { config with accounting }
  else if option = "--output" then
    if value = "" then .error "" else .ok { config with output := value }
  else .error ("Unknown option: " ++ option ++ "\n")

structure ParsedArguments where
  config : BenchmarkConfig
  helpRequested : Bool
  selfTestRequested : Bool
  deriving DecidableEq, Repr

/-- The loop of `parse_arguments`. -/
def parseOptions (profiling : Bool) :
    List String → ParsedArguments → Except String ParsedArguments
  | [], parsed => .ok parsed
  | option :: rest, parsed =>
    if option = "--help" then parseOptions profiling rest { parsed with helpRequested := true }
    else if option = "--self-test" then
      parseOptions profiling rest { parsed with selfTestRequested := true }
    else
      match rest with
      | [] => .error ("Missing value for " ++ option ++ ".\n")
      | value :: rest =>
        match applyOption profiling option value parsed.config with
        | .error complaint => .error complaint
        | .ok config => parseOptions profiling rest { parsed with config }

/-- `parse_arguments`, for the arguments behind the program's name. -/
def parseArguments (profiling : Bool) (arguments : List String) : Except String ParsedArguments :=
  match parseOptions profiling arguments ⟨defaultConfig, false, false⟩ with
  | .error complaint => .error complaint
  | .ok parsed =>
    if parsed.config.tasks ≥ parsed.config.producers then .ok parsed else .error ""

/-! ## What is accepted -/

/-- A positive `size_t`. -/
def PositiveSize (n : ℕ) : Prop := 1 ≤ n ∧ n ≤ sizeMax

/-- Every count is a positive `size_t`. -/
structure BenchmarkConfig.Counts (config : BenchmarkConfig) : Prop where
  workers : PositiveSize config.workers
  producers : PositiveSize config.producers
  capacity : PositiveSize config.capacity
  tasks : PositiveSize config.tasks
  warmup : PositiveSize config.warmup
  iterations : PositiveSize config.iterations

/-- What `parse_arguments` lets through. -/
structure BenchmarkConfig.Accepted (config : BenchmarkConfig) : Prop where
  counts : config.Counts
  producers_le : config.producers ≤ config.tasks

/-- The small constants of the scenarios are sizes. -/
theorem positiveSize_of_lt {n : ℕ} (hpos : 0 < n) (hn : n < 2000) : PositiveSize n := by
  unfold PositiveSize sizeMax
  omega

/-- The defaults are positive. -/
theorem defaultConfig_counts : defaultConfig.Counts := by
  constructor <;> exact positiveSize_of_lt (by decide) (by decide)

/-- A scenario fixes positive counts. -/
theorem BenchmarkConfig.Counts.fix {config : BenchmarkConfig} (h : config.Counts)
    {workers producers : ℕ} (hworkers : 0 < workers ∧ workers < 2000)
    (hproducers : 0 < producers ∧ producers < 2000) (profile : CallbackProfile) :
    (config.fix workers producers profile).Counts :=
  { h with
    workers := positiveSize_of_lt hworkers.1 hworkers.2
    producers := positiveSize_of_lt hproducers.1 hproducers.2 }

/-- Whatever scenario is chosen leaves positive counts. -/
def ScenarioCounts (result : Option BenchmarkConfig) : Prop :=
  ∀ config ∈ result, config.Counts

/-- A scenario matched by name, or one of the later ones. -/
theorem ScenarioCounts.ite {c : Prop} [Decidable c] {config : BenchmarkConfig}
    {y : Option BenchmarkConfig} (hconfig : config.Counts) (hy : ScenarioCounts y) :
    ScenarioCounts (if c then some config else y) := by
  by_cases hc : c
  · rw [if_pos hc]
    rintro _ ⟨⟩
    exact hconfig
  · rwa [if_neg hc]

/-- **Every scenario leaves positive counts.** -/
theorem applyScenario_counts {config : BenchmarkConfig} (h : config.Counts) (scenario : String) :
    ScenarioCounts (applyScenario config scenario) := by
  have hnamed : { config with scenario }.Counts := { h with }
  have hone : PositiveSize 1 := positiveSize_of_lt (by decide) (by decide)
  have hblocking : ({ config with scenario }.fix 1 1 .controlledBlocking).Counts :=
    hnamed.fix (by decide) (by decide) _
  unfold applyScenario
  refine .ite hnamed ?_
  refine .ite (hnamed.fix (by decide) (by decide) _) ?_
  refine .ite (hnamed.fix (by decide) (by decide) _) ?_
  refine .ite (hnamed.fix (by decide) (by decide) _) ?_
  refine .ite (hnamed.fix (by decide) (by decide) _) ?_
  refine .ite (hnamed.fix (by decide) (by decide) _) ?_
  refine .ite (hnamed.fix (by decide) (by decide) _) ?_
  refine .ite { hblocking with capacity := hone } ?_
  refine .ite (hnamed.fix (by decide) (by decide) _) ?_
  rintro _ ⟨⟩

/-- What an option leaves behind, if it is accepted, has positive counts. -/
def KeepsCounts (result : Except String BenchmarkConfig) : Prop :=
  ∀ config, result = .ok config → config.Counts

/-- An option matched by name, or one of the later ones. -/
theorem KeepsCounts.ite {c : Prop} [Decidable c] {x y : Except String BenchmarkConfig}
    (hx : KeepsCounts x) (hy : KeepsCounts y) : KeepsCounts (if c then x else y) := by
  by_cases hc : c
  · rwa [if_pos hc]
  · rwa [if_neg hc]

/-- A rejected option leaves no configuration. -/
theorem keepsCounts_error (complaint : String) : KeepsCounts (.error complaint) := by
  intro config h
  cases h

/-- An accepted one leaves a configuration with positive counts. -/
theorem keepsCounts_ok {config : BenchmarkConfig} (h : config.Counts) :
    KeepsCounts (.ok config) := by
  intro config' h'
  cases h'
  exact h

/-- A number is stored only when it is a positive size. -/
theorem sizeOption_keepsCounts (value : String) (current : ℕ) {store : ℕ → BenchmarkConfig}
    (hstore : ∀ n, PositiveSize n → (store n).Counts) :
    KeepsCounts (sizeOption value current store) := by
  unfold sizeOption
  split
  · rename_i n hparsed
    exact keepsCounts_ok (hstore n (parseSize_range hparsed))
  · exact keepsCounts_error _

/-- A name is stored only when it is one of the known ones. -/
theorem namedOption_keepsCounts {α : Type} {parsed : Option α} (complaint value : String)
    {store : α → BenchmarkConfig} (hstore : ∀ a, parsed = some a → (store a).Counts) :
    KeepsCounts (namedOption parsed complaint value store) := by
  unfold namedOption
  split
  · exact keepsCounts_ok (hstore _ rfl)
  · exact keepsCounts_error _

/-- **Every option that is accepted leaves positive counts.** -/
theorem applyOption_keepsCounts (profiling : Bool) (option value : String)
    {config : BenchmarkConfig} (h : config.Counts) :
    KeepsCounts (applyOption profiling option value config) := by
  unfold applyOption
  refine .ite (namedOption_keepsCounts _ _ (applyScenario_counts h value)) ?_
  refine .ite (sizeOption_keepsCounts _ _ fun _ hn => { h with workers := hn }) ?_
  refine .ite (sizeOption_keepsCounts _ _ fun _ hn => { h with producers := hn }) ?_
  refine .ite (sizeOption_keepsCounts _ _ fun _ hn => { h with capacity := hn }) ?_
  refine .ite (sizeOption_keepsCounts _ _ fun _ hn => { h with tasks := hn }) ?_
  refine .ite (sizeOption_keepsCounts _ _ fun _ hn => { h with warmup := hn }) ?_
  refine .ite (sizeOption_keepsCounts _ _ fun _ hn => { h with iterations := hn }) ?_
  -- The options left do not touch a count.
  refine .ite (namedOption_keepsCounts _ _ fun _ _ => { h with }) ?_
  refine .ite (namedOption_keepsCounts _ _ fun _ _ => { h with }) ?_
  refine .ite (namedOption_keepsCounts _ _ fun _ _ => { h with }) ?_
  exact .ite (.ite (keepsCounts_error _) (keepsCounts_ok { h with })) (keepsCounts_error _)

/-- The loop keeps the counts positive, whatever comes first. -/
theorem parseOptions_counts {profiling : Bool} {arguments : List String}
    {parsed parsed' : ParsedArguments}
    (h : parseOptions profiling arguments parsed = .ok parsed') (hcounts : parsed.config.Counts) :
    parsed'.config.Counts := by
  fun_induction parseOptions profiling arguments parsed with
  | case1 parsed =>
    cases h
    exact hcounts
  | case2 parsed rest ih => exact ih h hcounts
  | case3 parsed rest hhelp ih => exact ih h hcounts
  | case4 parsed option hhelp hself => cases h
  | case5 parsed option hhelp hself value rest complaint happly => cases h
  | case6 parsed option hhelp hself value rest config happly ih =>
    exact ih h (applyOption_keepsCounts _ _ _ hcounts config happly)

/-- What an accepted command line promises. -/
theorem parseArguments_accepted {profiling : Bool} {arguments : List String}
    {parsed : ParsedArguments} (h : parseArguments profiling arguments = .ok parsed) :
    parsed.config.Accepted := by
  unfold parseArguments at h
  split at h
  · cases h
  · rename_i parsed' hoptions
    split at h
    · rename_i hle
      cases h
      exact ⟨parseOptions_counts hoptions defaultConfig_counts, hle⟩
    · cases h

end SchedulingEngine
