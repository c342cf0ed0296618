import EmsDnp3.Python.PerformanceIteration

/-!
# Metrics and thresholds

What `performance.py` and `soak.py` compute of samples, and the checks of the thresholds. The `sum` of floats is a
parameter: since 3.12 the interpreter compensates its rounding. Arithmetic that raises ends the run.
-/

namespace EmsDnp3.Python

/-! ## Floats -/

/-- `float(n)` -/
def floatOf (n : Int) : Except Fault Double :=
  match floatOfInt n with
  | .ok x => .ok x
  | .error _ => .error (.exception "int too large to convert to float")

/-- `x / y` -/
def quotient (x y : Double) : Except Fault Double :=
  match Double.div x y with
  | some z => .ok z
  | none => .error (.exception "float division by zero")

/-- `x ** 2` -/
def squared (x : Double) : Except Fault Double :=
  match x, Double.mul x x with
  | .finite _, .infinite _ => .error (.exception "(34, 'Numerical result out of range')")
  | _, y => .ok y

/-- `max(values)`, the first of the largest. -/
def maximum : List Double → Option Double
  | [] => none
  | x :: rest => some (rest.foldl (fun largest y => if Double.lt largest y then y else largest) x)

/-- The value of a limit as it is compared. -/
def PyNumber.exact : PyNumber → Double
  | .int n => .finite n
  | .float x => x

/-- Integers of 53 bits are their own floats. -/
theorem floatOf_small {n : Nat} (small : n ≤ 2 ^ 53) : floatOf n = .ok (.finite n) := by
  have exact_ : Double.nearest (n : ℚ) = n := by
    unfold Double.nearest
    rw [if_pos]
    exact ⟨Rat.den_natCast n, by rw [Rat.num_natCast]; simpa using small⟩
  have below : (n : ℚ) < Double.limit := by
    have power := Double.pow_lt_limit (n := 53) (by decide)
    have bound : (n : ℚ) ≤ 2 ^ 53 := by exact_mod_cast small
    linarith
  have above : -Double.limit < (n : ℚ) := by
    have positive : (0 : ℚ) ≤ n := n.cast_nonneg
    linarith
  have rounds : Double.round ((n : Int) : ℚ) = .finite n := by
    unfold Double.round
    rw [Int.cast_natCast, exact_]
    exact if_pos ⟨above, below⟩
  unfold floatOf floatOfInt
  rw [rounds]

/-! ## Distributions -/

/-- `max(1, math.ceil(percentile / 100.0 * length))` -/
def rankOf (percentile length : Nat) : Except Fault Nat := do
  let count ← floatOf length
  match Double.mul (.finite (literal64 (percentile / 100))) count with
  | .finite q => .ok (max 1 ⌈q⌉).toNat
  | _ => .error (.exception "cannot convert float to integer")

/-- `nearest_rank` -/
def nearestRank (values : List Double) (percentile : Nat) : Except Fault (Option Double) :=
  match values with
  | [] => .ok none
  | values => do
    rejectIf (values.any fun value => !value.isFinite)
      (.exception "percentile population must contain only finite values")
    let rank ← rankOf percentile values.length
    match (values.insertionSort fun a b => Double.le a b = true)[rank - 1]? with
    | some value => .ok (some value)
    | none => .error (.exception "list index out of range")

/-- `Distribution`: the percentiles of some samples. -/
structure Distribution where
  sampleCount : Nat
  p50 : Option Double
  p95 : Option Double
  p99 : Option Double
  max : Option Double

/-- `_distribution` -/
def distribution (values : List Double) : Except Fault Distribution := do
  let p50 ← nearestRank values 50
  let p95 ← nearestRank values 95
  let p99 ← nearestRank values 99
  return { sampleCount := values.length, p50, p95, p99, max := maximum values }

/-- A distribution is over all its samples. -/
theorem distribution_ok {values : List Double} {d : Distribution} (ok : distribution values = .ok d) :
    d.sampleCount = values.length := by
  obtain ⟨_, _, ok⟩ := ok_bind_iff.mp ok
  obtain ⟨_, _, ok⟩ := ok_bind_iff.mp ok
  obtain ⟨_, _, ok⟩ := ok_bind_iff.mp ok
  rw [← ok_pure_iff.mp ok]

/-! ## Resources -/

/-- One sample of the host process. -/
structure ProcessResourceSample where
  monotonicNs : Int
  processCpuSeconds : Double
  workingSetBytes : Int
  privateBytes : Int
  handleCount : Int
  threadCount : Int

/-- The percentage of one core between two samples. -/
def cpuPercentage (before after : ProcessResourceSample) : Except Fault (Option Double) := do
  let elapsed ← floatOf (after.monotonicNs - before.monotonicNs)
  let wallSeconds ← quotient elapsed (.finite (10 ^ 9))
  let cpuSeconds := Double.sub after.processCpuSeconds before.processCpuSeconds
  if Double.lt (.finite 0) wallSeconds && Double.le (.finite 0) cpuSeconds then do
    let cores ← quotient cpuSeconds wallSeconds
    return some (Double.mul cores (.finite 100))
  else return none

/-- `_growth_per_hour` -/
def growthPerHour (sum : List Double → Double) (samples : List ProcessResourceSample)
    (field : ProcessResourceSample → Int) : Except Fault Double :=
  match samples with
  | first :: second :: rest => do
    let samples := first :: second :: rest
    let xs ← samples.mapM fun sample => do
      let elapsed ← floatOf (sample.monotonicNs - first.monotonicNs)
      quotient elapsed (.finite 3600000000000)
    let ys ← samples.mapM fun sample => floatOf (field sample)
    let count ← floatOf samples.length
    let meanX ← quotient (sum xs) count
    let meanY ← quotient (sum ys) count
    let squares ← xs.mapM fun x => squared (Double.sub x meanX)
    let products := List.zipWith (fun x y => Double.mul (Double.sub x meanX) (Double.sub y meanY)) xs ys
    if sum squares = .finite 0 then return .finite 0 else quotient (sum products) (sum squares)
  | _ => .ok (.finite 0)

/-- What is reported of one field of the samples. -/
structure ResourceField where
  maximum : Int
  first : Int
  last : Int

/-- The resources of a run, each against its baseline. -/
structure ResourceReport where
  cpuMaximum : Option Double
  workingSetBytes : ResourceField
  privateBytes : ResourceField
  handleCount : ResourceField
  threadCount : ResourceField
  privateGrowthPerHour : Double
  workingSetGrowthPerHour : Double

/-- `_resource_report` and `_resource_summary`; without samples nothing is available. -/
def resourceReport (sum : List Double → Double) (samples : List ProcessResourceSample) (cpuPercentages : List Double) :
    Except Fault (Option ResourceReport) :=
  match samples with
  | [] => .ok none
  | first :: rest => do
    let field (f : ProcessResourceSample → Int) : ResourceField :=
      { maximum := rest.foldl (fun largest s => max largest (f s)) (f first), first := f first,
        last := f (rest.getLastD first) }
    let privateGrowthPerHour ← growthPerHour sum samples (·.privateBytes)
    let workingSetGrowthPerHour ← growthPerHour sum samples (·.workingSetBytes)
    return some {
      cpuMaximum := maximum cpuPercentages
      workingSetBytes := field (·.workingSetBytes)
      privateBytes := field (·.privateBytes)
      handleCount := field (·.handleCount)
      threadCount := field (·.threadCount)
      privateGrowthPerHour, workingSetGrowthPerHour }

/-! ## Thresholds -/

/-- A measured value, its limit and the direction of the comparison. -/
structure ThresholdCheck where
  name : Text
  observed : Option Double
  limit : Double
  isMinimum : Bool := false

/-- A metric that is not there does not pass. -/
def ThresholdCheck.passed (check : ThresholdCheck) : Bool :=
  match check.observed with
  | none => false
  | some observed => if check.isMinimum then Double.le check.limit observed else Double.le observed check.limit

/-- The checks of the latencies, their names after a prefix. -/
def latencyChecks (start : Text) (latency : Distribution) (thresholds : PerformanceThresholds) :
    Except Fault (List ThresholdCheck) := do
  let samples ← floatOf latency.sampleCount
  let minimum ← floatOf thresholds.minimumSamples.val
  return [
    { name := start ++ text "minimum_samples", observed := some samples, limit := minimum, isMinimum := true },
    { name := start ++ text "max_task_p95_ms", observed := latency.p95, limit := thresholds.maxTaskP95Ms.raw.exact },
    { name := start ++ text "max_task_p99_ms", observed := latency.p99, limit := thresholds.maxTaskP99Ms.raw.exact },
    { name := start ++ text "max_task_ms", observed := latency.max, limit := thresholds.maxTaskMs.raw.exact }]

/-- A limit that is a number; beside metrics that are not available it is reported as a `float`. -/
def numberLimit {low high : ℚ} (available : Bool) (limit : NumberIn low high) : Double :=
  if available then limit.raw.exact else .finite limit.value

/-- One check of a counter of the process. -/
def counterCheck (name : String) (observed : Option Int) (limit : Nat) : Except Fault ThresholdCheck :=
  match observed with
  | none => do
    let limit ← floatOf limit
    return { name := text name, observed := none, limit := limit }
  | some observed => do
    let observed ← floatOf observed
    let limit ← floatOf limit
    return { name := text name, observed := some observed, limit := limit }

/-- The checks of the resources. -/
def resourceChecks (resources : Option ResourceReport) (thresholds : PerformanceThresholds) :
    Except Fault (List ThresholdCheck) := do
  let workingSet ← counterCheck "max_working_set_bytes" (resources.map (·.workingSetBytes.maximum))
    thresholds.maxWorkingSetBytes
  let privateBytes ← counterCheck "max_private_bytes" (resources.map (·.privateBytes.maximum)) thresholds.maxPrivateBytes
  let handles ← counterCheck "max_handle_count" (resources.map (·.handleCount.maximum)) thresholds.maxHandleCount
  let threads ← counterCheck "max_thread_count" (resources.map (·.threadCount.maximum)) thresholds.maxThreadCount
  let handleGrowth ← counterCheck "max_handle_growth"
    (resources.map fun r => r.handleCount.last - r.handleCount.first) thresholds.maxHandleGrowth
  let threadGrowth ← counterCheck "max_thread_growth"
    (resources.map fun r => r.threadCount.last - r.threadCount.first) thresholds.maxThreadGrowth
  return [
    { name := text "max_cpu_core_percent", observed := resources.bind (·.cpuMaximum),
      limit := numberLimit resources.isSome thresholds.maxCpuCorePercent },
    workingSet, privateBytes, handles, threads,
    { name := text "max_private_growth_bytes_per_hour", observed := resources.map (·.privateGrowthPerHour),
      limit := numberLimit resources.isSome thresholds.maxPrivateGrowthBytesPerHour },
    { name := text "max_working_set_growth_bytes_per_hour", observed := resources.map (·.workingSetGrowthPerHour),
      limit := numberLimit resources.isSome thresholds.maxWorkingSetGrowthBytesPerHour },
    handleGrowth, threadGrowth]

/-- `_threshold_checks` -/
def thresholdChecks (latency : Distribution) (resources : Option ResourceReport) (thresholds : PerformanceThresholds) :
    Except Fault (List ThresholdCheck) := do
  let latencies ← latencyChecks [] latency thresholds
  let others ← resourceChecks resources thresholds
  return latencies ++ others

/-! ## What the checks say -/

/-- A metric that is there and does not exceed its limit. -/
def IsWithin (observed : Option Double) (limit : Double) : Prop := ∃ x, observed = some x ∧ Double.le x limit = true

/-- The first integer is not above the second one, both as floats. -/
def FloatLe (m n : Int) : Prop := ∃ x y, floatOf m = .ok x ∧ floatOf n = .ok y ∧ Double.le x y = true

/-- The population is large enough, and its percentiles and its maximum are within their limits. -/
structure LatencyWithin (latency : Distribution) (thresholds : PerformanceThresholds) : Prop where
  samples : FloatLe thresholds.minimumSamples.val latency.sampleCount
  p95 : IsWithin latency.p95 thresholds.maxTaskP95Ms.raw.exact
  p99 : IsWithin latency.p99 thresholds.maxTaskP99Ms.raw.exact
  max : IsWithin latency.max thresholds.maxTaskMs.raw.exact

/-- The process has stayed within the limits of its resources. -/
structure ResourcesWithin (r : ResourceReport) (thresholds : PerformanceThresholds) : Prop where
  cpu : IsWithin r.cpuMaximum thresholds.maxCpuCorePercent.raw.exact
  workingSet : FloatLe r.workingSetBytes.maximum thresholds.maxWorkingSetBytes.val
  privateBytes : FloatLe r.privateBytes.maximum thresholds.maxPrivateBytes.val
  handles : FloatLe r.handleCount.maximum thresholds.maxHandleCount.val
  threads : FloatLe r.threadCount.maximum thresholds.maxThreadCount.val
  privateGrowth : Double.le r.privateGrowthPerHour thresholds.maxPrivateGrowthBytesPerHour.raw.exact = true
  workingSetGrowth : Double.le r.workingSetGrowthPerHour thresholds.maxWorkingSetGrowthBytesPerHour.raw.exact = true
  handleGrowth : FloatLe (r.handleCount.last - r.handleCount.first) thresholds.maxHandleGrowth.val
  threadGrowth : FloatLe (r.threadCount.last - r.threadCount.first) thresholds.maxThreadGrowth.val

/-- An upper limit is kept exactly by a metric that is there and within it. -/
theorem passed_iff {name : Text} {observed : Option Double} {limit : Double} :
    ThresholdCheck.passed { name, observed, limit } = true ↔ IsWithin observed limit := by
  cases observed with
  | none =>
    refine iff_of_false Bool.false_ne_true ?_
    rintro ⟨x, none_, -⟩
    cases none_
  | some x =>
    constructor
    · intro within
      exact ⟨x, rfl, within⟩
    · rintro ⟨_, ⟨⟩, within⟩
      exact within

/-- A counter that is there is compared with its limit, both as floats. -/
theorem counterCheck_passed {name : String} {observed : Int} {limit : Nat} {check : ThresholdCheck}
    (ok : counterCheck name (some observed) limit = .ok check) : check.passed = true ↔ FloatLe observed limit := by
  obtain ⟨x, left, ok⟩ := ok_bind_iff.mp ok
  obtain ⟨y, right, ok⟩ := ok_bind_iff.mp ok
  obtain rfl := ok_pure_iff.mp ok
  rw [passed_iff]
  constructor
  · rintro ⟨_, ⟨⟩, within⟩
    exact ⟨x, y, left, right, within⟩
  · rintro ⟨x', y', left', right', within⟩
    rw [left] at left'
    rw [right] at right'
    obtain rfl := Except.ok.inj left'
    obtain rfl := Except.ok.inj right'
    exact ⟨x, rfl, within⟩

/-- The checks of the latencies. -/
theorem latencyChecks_passed {start : Text} {latency : Distribution} {thresholds : PerformanceThresholds}
    {checks : List ThresholdCheck} (ok : latencyChecks start latency thresholds = .ok checks) :
    (∀ check ∈ checks, check.passed = true) ↔ LatencyWithin latency thresholds := by
  obtain ⟨samples, ofCount, ok⟩ := ok_bind_iff.mp ok
  obtain ⟨minimum, ofMinimum, ok⟩ := ok_bind_iff.mp ok
  obtain rfl := ok_pure_iff.mp ok
  simp only [List.forall_mem_cons, List.not_mem_nil, false_implies, implies_true, and_true, passed_iff]
  constructor
  · rintro ⟨enough, p95, p99, largest⟩
    exact ⟨⟨minimum, samples, ofMinimum, ofCount, enough⟩, p95, p99, largest⟩
  · rintro ⟨⟨x, y, left, right, enough⟩, p95, p99, largest⟩
    rw [ofMinimum] at left
    rw [ofCount] at right
    obtain rfl := Except.ok.inj left
    obtain rfl := Except.ok.inj right
    exact ⟨enough, p95, p99, largest⟩

/-- The checks of the resources; they fail where none were sampled. -/
theorem resourceChecks_passed {resources : Option ResourceReport} {thresholds : PerformanceThresholds}
    {checks : List ThresholdCheck} (ok : resourceChecks resources thresholds = .ok checks) :
    (∀ check ∈ checks, check.passed = true) ↔ ∃ r, resources = some r ∧ ResourcesWithin r thresholds := by
  obtain ⟨workingSet, ofWorkingSet, ok⟩ := ok_bind_iff.mp ok
  obtain ⟨privateBytes, ofPrivateBytes, ok⟩ := ok_bind_iff.mp ok
  obtain ⟨handles, ofHandles, ok⟩ := ok_bind_iff.mp ok
  obtain ⟨threads, ofThreads, ok⟩ := ok_bind_iff.mp ok
  obtain ⟨handleGrowth, ofHandleGrowth, ok⟩ := ok_bind_iff.mp ok
  obtain ⟨threadGrowth, ofThreadGrowth, ok⟩ := ok_bind_iff.mp ok
  obtain rfl := ok_pure_iff.mp ok
  cases resources with
  | none =>
    refine iff_of_false ?_ ?_
    · intro all
      cases all _ List.mem_cons_self
    · rintro ⟨r, none_, -⟩
      cases none_
  | some r =>
    simp only [List.forall_mem_cons, List.not_mem_nil, false_implies, implies_true, and_true, passed_iff,
      counterCheck_passed ofWorkingSet, counterCheck_passed ofPrivateBytes, counterCheck_passed ofHandles,
      counterCheck_passed ofThreads, counterCheck_passed ofHandleGrowth, counterCheck_passed ofThreadGrowth]
    constructor
    · rintro ⟨cpu, set, bytes, handle, thread, ⟨_, ⟨⟩, growth⟩, ⟨_, ⟨⟩, setGrowth⟩, moreHandles, moreThreads⟩
      exact ⟨r, rfl, cpu, set, bytes, handle, thread, growth, setGrowth, moreHandles, moreThreads⟩
    · rintro ⟨_, ⟨⟩, cpu, set, bytes, handle, thread, growth, setGrowth, moreHandles, moreThreads⟩
      exact ⟨cpu, set, bytes, handle, thread, ⟨_, rfl, growth⟩, ⟨_, rfl, setGrowth⟩, moreHandles, moreThreads⟩

/-- Every check of a report passes exactly when the latencies and the resources are within the limits. -/
theorem thresholdChecks_passed {latency : Distribution} {resources : Option ResourceReport}
    {thresholds : PerformanceThresholds} {checks : List ThresholdCheck}
    (ok : thresholdChecks latency resources thresholds = .ok checks) :
    (∀ check ∈ checks, check.passed = true) ↔
      LatencyWithin latency thresholds ∧ ∃ r, resources = some r ∧ ResourcesWithin r thresholds := by
  obtain ⟨latencies, ofLatencies, ok⟩ := ok_bind_iff.mp ok
  obtain ⟨others, ofOthers, ok⟩ := ok_bind_iff.mp ok
  obtain rfl := ok_pure_iff.mp ok
  rw [List.forall_mem_append, latencyChecks_passed ofLatencies, resourceChecks_passed ofOthers]

/-- The population that a threshold asks for; the floats of so small a number are exact. -/
theorem LatencyWithin.minimumSamples_le {latency : Distribution} {thresholds : PerformanceThresholds}
    (within : LatencyWithin latency thresholds) : thresholds.minimumSamples.val ≤ latency.sampleCount := by
  obtain ⟨minimum, samples, ofMinimum, ofCount, enough⟩ := within.samples
  have bound : thresholds.minimumSamples.val ≤ 1000000 := thresholds.minimumSamples.property.2
  by_contra fewer
  rw [floatOf_small (by omega)] at ofCount ofMinimum
  obtain rfl := Except.ok.inj ofCount
  obtain rfl := Except.ok.inj ofMinimum
  have enough : (thresholds.minimumSamples.val : ℚ) ≤ latency.sampleCount := of_decide_eq_true enough
  exact fewer (by exact_mod_cast enough)

end EmsDnp3.Python
