import EmsDnp3.Python.LocalOutstation
import EmsDnp3.Python.RequestMappings

/-!
# Performance profiles

`load_performance_profile` of `performance.py`, with every exception that can leave it. As in `Requests`, a value
carries what its `__post_init__` checks, so far as later code relies on it.
-/

namespace EmsDnp3.Python

/-! ## Fields -/

/-- `_number` -/
def numberIn (value : Json) (name : String) (low high : ℚ) : Except Raised (NumberIn low high) :=
  match number? value with
  | none => refuse s!"{name} must be a finite number"
  | some raw =>
    match isFloat : raw.toFloat with
    | .error e => .error (.python e)
    | .ok (.finite q) => do
      let ⟨inside⟩ ← require (low ≤ q ∧ q ≤ high) (Raised.own s!"{name} is outside of its range")
      return { raw := raw, value := q, isFloat := isFloat, low_le := inside.1, le_high := inside.2 }
    | .ok _ => refuse s!"{name} is outside of its range"

/-- `_integer` -/
def integerIn (value : Json) (name : String) (low high : Nat) : Except Raised (NatIn low high) :=
  match value with
  | .int n => do
    let ⟨inside⟩ ← require ((low : Int) ≤ n ∧ n ≤ high)
      (Raised.own s!"{name} must be an integer between {low} and {high}")
    return ⟨n.toNat, toNat_inside inside⟩
  | _ => refuse s!"{name} must be an integer between {low} and {high}"

/-- `_token` -/
def profileToken (value : Json) (name : String) : Except Raised Text :=
  match value with
  | .str s => do
    let length ← lift (encodedLength s)
    rejectIf (length < 1 || 128 < length || !s.all scenarioCharacters.contains)
      (.own s!"{name} must be a 1-128 byte ASCII token")
    return s
  | _ => refuse s!"{name} must be a 1-128 byte ASCII token"

/-! ## Thresholds and soak settings -/

/-- The limits of a profile. -/
structure PerformanceThresholds where
  minimumSamples : NatIn 1 1000000
  maxTaskP95Ms : NumberIn 0 (10 ^ 18)
  maxTaskP99Ms : NumberIn 0 (10 ^ 18)
  maxTaskMs : NumberIn 0 (10 ^ 18)
  maxCpuCorePercent : NumberIn 0 (10 ^ 18)
  maxWorkingSetBytes : NatIn 0 (2 ^ 63)
  maxPrivateBytes : NatIn 0 (2 ^ 63)
  maxHandleCount : NatIn 0 (2 ^ 63)
  maxThreadCount : NatIn 0 (2 ^ 63)
  maxPrivateGrowthBytesPerHour : NumberIn 0 (10 ^ 18)
  maxWorkingSetGrowthBytesPerHour : NumberIn 0 (10 ^ 18)
  maxHandleGrowth : NatIn 0 (2 ^ 63)
  maxThreadGrowth : NatIn 0 (2 ^ 63)
  maxCaptureOverheadPercent : NumberIn 0 (10 ^ 18)

/-- `PerformanceThresholds.from_mapping` -/
def PerformanceThresholds.ofMapping (value : Json) : Except Raised PerformanceThresholds := do
  exactFields value ["minimum_samples", "max_task_p95_ms", "max_task_p99_ms", "max_task_ms", "max_cpu_core_percent",
    "max_working_set_bytes", "max_private_bytes", "max_handle_count", "max_thread_count",
    "max_private_growth_bytes_per_hour", "max_working_set_growth_bytes_per_hour", "max_handle_growth",
    "max_thread_growth", "max_capture_overhead_percent"] [] "thresholds"
  translate do
    let number (name : String) := numberIn (field value name) s!"thresholds.{name}" 0 (10 ^ 18)
    let count (name : String) := integerIn (field value name) s!"thresholds.{name}" 0 (2 ^ 63)
    let minimumSamples ← integerIn (field value "minimum_samples") "thresholds.minimum_samples" 1 1000000
    let maxTaskP95Ms ← number "max_task_p95_ms"
    let maxTaskP99Ms ← number "max_task_p99_ms"
    let maxTaskMs ← number "max_task_ms"
    let maxCpuCorePercent ← number "max_cpu_core_percent"
    let maxPrivateGrowthBytesPerHour ← number "max_private_growth_bytes_per_hour"
    let maxWorkingSetGrowthBytesPerHour ← number "max_working_set_growth_bytes_per_hour"
    let maxCaptureOverheadPercent ← number "max_capture_overhead_percent"
    let maxWorkingSetBytes ← count "max_working_set_bytes"
    let maxPrivateBytes ← count "max_private_bytes"
    let maxHandleCount ← count "max_handle_count"
    let maxThreadCount ← count "max_thread_count"
    let maxHandleGrowth ← count "max_handle_growth"
    let maxThreadGrowth ← count "max_thread_growth"
    return {
      minimumSamples, maxTaskP95Ms, maxTaskP99Ms, maxTaskMs, maxCpuCorePercent, maxWorkingSetBytes, maxPrivateBytes,
      maxHandleCount, maxThreadCount, maxPrivateGrowthBytesPerHour, maxWorkingSetGrowthBytesPerHour,
      maxHandleGrowth, maxThreadGrowth, maxCaptureOverheadPercent }

/-- The settings of a soak run. -/
structure SoakSettings where
  targetDurationSeconds : NumberIn (literal64 (1 / 10)) 604800
  cycleIntervalSeconds : NumberIn 0 3600
  checkpointIntervalSeconds : NumberIn (literal64 (1 / 10)) 86400
  resourceSampleIntervalSeconds : NumberIn (literal64 (1 / 10)) 3600
  watchdogTimeoutSeconds : NumberIn (literal64 (1 / 10)) 3600
  maxCheckpoints : NatIn 2 10000
  maxEvidenceBytes : NatIn 65536 (2 ^ 50)
  minFreeDiskBytes : NatIn 0 (2 ^ 60)
  allowedReconnects : NatIn 0 10000
  maxConsecutiveFailures : NatIn 0 10000

/-- `SoakSettings.from_mapping` -/
def SoakSettings.ofMapping (value : Json) : Except Raised SoakSettings := do
  exactFields value ["target_duration_seconds", "cycle_interval_seconds", "checkpoint_interval_seconds",
    "resource_sample_interval_seconds", "watchdog_timeout_seconds", "max_checkpoints", "max_evidence_bytes",
    "min_free_disk_bytes", "allowed_reconnects", "max_consecutive_failures"] [] "soak"
  translate do
    let number (name : String) (low high : ℚ) := numberIn (field value name) s!"soak.{name}" low high
    let count (name : String) (low high : Nat) := integerIn (field value name) s!"soak.{name}" low high
    let targetDurationSeconds ← number "target_duration_seconds" (literal64 (1 / 10)) 604800
    let cycleIntervalSeconds ← number "cycle_interval_seconds" 0 3600
    let checkpointIntervalSeconds ← number "checkpoint_interval_seconds" (literal64 (1 / 10)) 86400
    let resourceSampleIntervalSeconds ← number "resource_sample_interval_seconds" (literal64 (1 / 10)) 3600
    let watchdogTimeoutSeconds ← number "watchdog_timeout_seconds" (literal64 (1 / 10)) 3600
    let maxCheckpoints ← count "max_checkpoints" 2 10000
    let maxEvidenceBytes ← count "max_evidence_bytes" 65536 (2 ^ 50)
    let minFreeDiskBytes ← count "min_free_disk_bytes" 0 (2 ^ 60)
    let allowedReconnects ← count "allowed_reconnects" 0 10000
    let maxConsecutiveFailures ← count "max_consecutive_failures" 0 10000
    return {
      targetDurationSeconds, cycleIntervalSeconds, checkpointIntervalSeconds, resourceSampleIntervalSeconds,
      watchdogTimeoutSeconds, maxCheckpoints, maxEvidenceBytes, minFreeDiskBytes, allowedReconnects,
      maxConsecutiveFailures }

/-! ## Scenarios -/

/-- The operations a scenario can measure. -/
inductive ReadOperationName where
  | read
  | integrityPoll
  | classPoll
deriving DecidableEq, Repr

def ReadOperationName.name : ReadOperationName → String
  | .read => "read"
  | .integrityPoll => "integrity_poll"
  | .classPoll => "class_poll"

def ReadOperationName.all : List ReadOperationName := [.read, .integrityPoll, .classPoll]

/-- `_EXPECTED_KINDS` -/
def expectedKinds : List String :=
  ["analog_input", "analog_output_status", "binary_input", "binary_output_status", "counter", "double_bit_binary_input",
   "frozen_counter", "octet_string", "time_and_interval"]

/-- A dictionary of counts. -/
structure Counts where
  items : Dict Text Nat
  distinct : (items.map (·.1)).Nodup

namespace Counts

def empty : Counts := ⟨[], List.nodup_nil⟩

def total (counts : Counts) : Nat := (counts.items.map (·.2)).sum

/-- `counts[key] = count` -/
def set (counts : Counts) (key : Text) (count : Nat) : Counts :=
  ⟨counts.items.set key count, Dict.nodup_set counts.distinct key count⟩

/-- `dict(sorted(counts.items()))` -/
def sortItems (counts : Counts) : Counts :=
  ⟨counts.items.insertionSort fun a b => ¬ b.1 < a.1,
    ((List.perm_insertionSort _ counts.items).map (·.1)).nodup_iff.mpr counts.distinct⟩

end Counts

/-- `([0-9]{1,3}):([0-9]{1,3})` with both numbers up to 255 and without leading zeros. -/
def isGroupVariation (key : Text) : Bool :=
  match key.splitOn (CodePoint.ofChar ':') with
  | [group, variation] => [group, variation].all fun part =>
      1 ≤ part.length && part.length ≤ 3 && part.all isDigit && digitsValue part ≤ 255 &&
        decimal (digitsValue part) = part
  | _ => false

/-- `_expected_count_mapping` -/
def expectedCounts (value : Json) (context : String) (groupVariation : Bool) : Except Raised Counts :=
  match value with
  | .obj members => do
    rejectIf (256 < members.length) (.own s!"{context} must be an object with at most 256 entries")
    let counts ← members.foldlM (fun counts m => do
      rejectIf (groupVariation && !isGroupVariation m.1)
        (.own s!"{context} key must be canonical group:variation within 0-255")
      rejectIf (!groupVariation && !(expectedKinds.map text).contains m.1) (.own s!"{context} contains unsupported kind")
      let count ← integerIn m.2 s!"{context} count" 1 1000000
      return counts.set m.1 count.val) Counts.empty
    return counts.sortItems
  | _ => refuse s!"{context} must be an object with at most 256 entries"

/-- The element of `{1, 2, 3}` that an item of `classes` is equal to: `1`, `true` and `1.0` are equal. -/
def classNumber? (item : Json) : Option Nat := [1, 2, 3].find? fun n => equalsPositive item n

/-- `item not in {1, 2, 3}` -/
def knownClass (item : Json) : Except PyError (PLift ((classNumber? item).isSome = true)) :=
  match item with
  | .arr _ => .error (.type "unhashable type: 'list'")
  | .obj _ => .error (.type "unhashable type: 'dict'")
  | _ => require _ (.value "class_poll scenario requires unique Class 1/2/3 values")

/-- The classes of an operation. -/
structure ClassesFit (operation : ReadOperationName) (classes : List Json) : Prop where
  size : operation = .classPoll → 1 ≤ classes.length ∧ classes.length ≤ 3
  known : ∀ item ∈ classes, (classNumber? item).isSome = true
  unique : (classes.map classNumber?).Nodup
  others : operation ≠ .classPoll → classes = []

/-- The checks of the classes. -/
def fitClasses (operation : ReadOperationName) (classes : List Json) :
    Except Raised (PLift (ClassesFit operation classes)) :=
  if isClassPoll : operation = .classPoll then do
    let ⟨size⟩ ← require (1 ≤ classes.length ∧ classes.length ≤ 3)
      (Raised.own "class_poll scenario requires unique Class 1/2/3 values")
    let ⟨known⟩ ← lift (checkAll knownClass classes)
    let ⟨unique⟩ ← require (classes.map classNumber?).Nodup
      (Raised.own "class_poll scenario requires unique Class 1/2/3 values")
    return ⟨⟨fun _ => size, known, unique, fun differs => absurd isClassPoll differs⟩⟩
  else do
    let ⟨empty⟩ ← require (classes = []) (Raised.own "only class_poll scenarios accept classes")
    return ⟨by
      subst empty
      exact ⟨fun same => absurd same isClassPoll, by simp, List.nodup_nil, fun _ => rfl⟩⟩

/-- The headers of an operation. -/
structure HeadersFit (operation : ReadOperationName) (headers : List ReadHeader) : Prop where
  size : operation = .read → 1 ≤ headers.length ∧ headers.length ≤ 64
  others : operation ≠ .read → headers = []

/-- The checks of the headers. -/
def fitHeaders (operation : ReadOperationName) (headers : List ReadHeader) :
    Except Raised (PLift (HeadersFit operation headers)) :=
  if isRead : operation = .read then do
    let ⟨size⟩ ← require (1 ≤ headers.length ∧ headers.length ≤ 64) (Raised.own "read scenario requires 1-64 headers")
    return ⟨⟨fun _ => size, fun differs => absurd isRead differs⟩⟩
  else do
    let ⟨empty⟩ ← require (headers.length = 0) (Raised.own "only read scenarios accept headers")
    return ⟨⟨fun same => absurd same isRead, fun _ => List.eq_nil_of_length_eq_zero empty⟩⟩

/-- The points of a static capture by kind. -/
def captureByKind (ranges : List CapturePointRange) : Dict Text Nat :=
  ranges.foldl (fun d r => d.set r.kind ((d.get? r.kind).getD 0 + r.pointCount)) []

/-- `_capture_from_mapping` -/
def captureFromMapping (value : Json) : Except Raised (Option CaptureConfig) :=
  match value with
  | .null => .ok none
  | value => do
    exactFields value ["mode", "sources", "duration_limit_seconds"]
      ["point_ranges", "event_manifest", "mismatch_sample_limit", "queue_capacity"] "scenario.capture"
    let ranges ← arrayOr (getOr value "point_ranges" (.arr [])) "capture.point_ranges must be an array"
    rejectIf (!ranges.all Json.isObj) (.own "capture point range must be an object")
    let ranges ← lift (ranges.mapM CapturePointRange.ofMapping)
    let manifest ← manifestOf (given value "event_manifest")
    let config ← translate (lift (CaptureConfig.ofArguments (field value "mode") (field value "sources")
      (field value "duration_limit_seconds") ranges manifest (getOr value "mismatch_sample_limit" (.nat 100))
      (getOr value "queue_capacity" (.nat 4096))))
    return some config
where
  manifestOf : Option Json → Except Raised (Option CaptureEventManifest)
    | none => .ok none
    | some value => do
      rejectIf (!value.isObj) (.own "capture.event_manifest must be an object")
      let manifest ← translate (lift (CaptureEventManifest.ofKeywords value))
      return some manifest

/-- `ReadPerformanceScenario`, with what `__post_init__` checks. -/
structure ReadPerformanceScenario where
  scenarioId : Text
  operation : ReadOperationName
  headers : List ReadHeader
  classes : List Json
  capture : Option CaptureConfig
  warmupIterations : NatIn 0 10000
  measurementIterations : NatIn 1 1000000
  intervalSeconds : NumberIn 0 3600
  cooldownSeconds : NumberIn 0 3600
  taskTimeoutSeconds : NumberIn (literal64 (5 / 100)) 300
  maxMeasurements : NatIn 1 1000000
  expectedObjectsPerIteration : NatIn 0 maxMeasurements
  expectedByKind : Counts
  expectedByGroupVariation : Counts
  baselineScenarioId : Option Text
  headersFit : HeadersFit operation headers
  classesFit : ClassesFit operation classes
  kindTotal : expectedByKind.total = expectedObjectsPerIteration
  groupVariationTotal : expectedByGroupVariation.total = expectedObjectsPerIteration

/-- `baseline_scenario_id` -/
def baselineOf (value : Json) (capture : Option CaptureConfig) : Except Raised (Option Text) :=
  match value with
  | .null => .ok none
  | value => do
    let baseline ← profileToken value "baseline_scenario_id"
    rejectIf capture.isNone (.own "baseline_scenario_id is only valid for a capture-enabled scenario")
    return some baseline

/-- The points of a static capture are those that are expected. -/
def captureFits (capture : Option CaptureConfig) (byKind : Counts) : Bool :=
  match capture with
  | none => true
  | some config => config.mode ≠ .staticSet || (captureByKind config.pointRanges).same byKind.items

/-- `ReadPerformanceScenario.from_mapping` -/
def ReadPerformanceScenario.ofMapping (value : Json) : Except Raised ReadPerformanceScenario := do
  exactFields value ["scenario_id", "operation", "headers", "classes", "capture", "warmup_iterations",
    "measurement_iterations", "interval_seconds", "cooldown_seconds", "task_timeout_seconds", "max_measurements",
    "expected_objects_per_iteration", "expected_by_kind", "expected_by_group_variation", "baseline_scenario_id"] []
    "scenario"
  translate do
    let rawHeaders ← arrayOr (field value "headers") "scenario.headers must be an array"
    rejectIf (!rawHeaders.all Json.isObj) (.own "scenario header must be an object")
    let headers ← lift (rawHeaders.mapM ReadHeader.ofMapping)
    let classes ← arrayOr (field value "classes") "scenario.classes must be an array"
    let capture ← captureFromMapping (field value "capture")
    let scenarioId ← profileToken (field value "scenario_id") "scenario_id"
    let operation ← lift (nameIn (field value "operation") ReadOperationName.all ReadOperationName.name
      "operation must be read, integrity_poll, or class_poll")
    let ⟨headersFit⟩ ← fitHeaders operation headers
    let ⟨classesFit⟩ ← fitClasses operation classes
    let warmupIterations ← integerIn (field value "warmup_iterations") "warmup_iterations" 0 10000
    let measurementIterations ← integerIn (field value "measurement_iterations") "measurement_iterations" 1 1000000
    let intervalSeconds ← numberIn (field value "interval_seconds") "interval_seconds" 0 3600
    let cooldownSeconds ← numberIn (field value "cooldown_seconds") "cooldown_seconds" 0 3600
    let taskTimeoutSeconds ← numberIn (field value "task_timeout_seconds") "task_timeout_seconds"
      (literal64 (5 / 100)) 300
    let maxMeasurements ← integerIn (field value "max_measurements") "max_measurements" 1 1000000
    let expectedObjectsPerIteration ← integerIn (field value "expected_objects_per_iteration")
      "expected_objects_per_iteration" 0 maxMeasurements
    let expectedByKind ← expectedCounts (field value "expected_by_kind") "expected_by_kind" false
    let expectedByGroupVariation ← expectedCounts (field value "expected_by_group_variation")
      "expected_by_group_variation" true
    let ⟨kindTotal⟩ ← require (expectedByKind.total = expectedObjectsPerIteration)
      (Raised.own "expected_by_kind must sum to expected_objects_per_iteration")
    let ⟨groupVariationTotal⟩ ← require (expectedByGroupVariation.total = expectedObjectsPerIteration)
      (Raised.own "expected_by_group_variation must sum to expected_objects_per_iteration")
    rejectIf (!captureFits capture expectedByKind)
      (.own "static capture point_ranges must exactly match expected_by_kind")
    let baselineScenarioId ← baselineOf (field value "baseline_scenario_id") capture
    return {
      scenarioId, operation, headers, classes, capture, warmupIterations, measurementIterations, intervalSeconds,
      cooldownSeconds, taskTimeoutSeconds, maxMeasurements, expectedObjectsPerIteration, expectedByKind,
      expectedByGroupVariation, baselineScenarioId, headersFit, classesFit, kindTotal, groupVariationTotal }

/-! ## The profile -/

/-- What a profile's result may be taken for. -/
inductive PerformanceScope where
  | localLoopbackOnly
  | targetEnvironmentPendingReview
deriving DecidableEq, Repr

def PerformanceScope.name : PerformanceScope → String
  | .localLoopbackOnly => "LOCAL_LOOPBACK_ONLY"
  | .targetEnvironmentPendingReview => "TARGET_ENVIRONMENT_PENDING_REVIEW"

def PerformanceScope.all : List PerformanceScope := [.localLoopbackOnly, .targetEnvironmentPendingReview]

/-- The exact value of a setting. -/
def NumberIn.exact {low high : ℚ} (x : NumberIn low high) : ℚ := x.raw.value?.getD x.value

namespace ReadPerformanceScenario

/-- `comparable` -/
def sameAs (baseline s : ReadPerformanceScenario) : Bool :=
  baseline.operation = s.operation && baseline.headers = s.headers &&
    baseline.classes.map classNumber? = s.classes.map classNumber? &&
    baseline.taskTimeoutSeconds.exact = s.taskTimeoutSeconds.exact &&
    baseline.maxMeasurements.val = s.maxMeasurements.val &&
    baseline.expectedObjectsPerIteration.val = s.expectedObjectsPerIteration.val &&
    baseline.expectedByKind.items.same s.expectedByKind.items &&
    baseline.expectedByGroupVariation.items.same s.expectedByGroupVariation.items &&
    baseline.measurementIterations.val = s.measurementIterations.val

/-- The time that the calls of one iteration take at most. -/
def iterationBound (s : ReadPerformanceScenario) : Double :=
  let read := Double.add (.finite s.taskTimeoutSeconds.value) (.finite 1)
  let drain := min 300 (max 1 s.taskTimeoutSeconds.value)
  let captured := if s.capture.isSome then Double.add (Double.add (.finite 2) (.finite drain)) (.finite 1) else .finite 0
  Double.add read captured

end ReadPerformanceScenario

/-- `PerformanceProfile`, with what `__post_init__` checks. -/
structure PerformanceProfile where
  profileId : Text
  scope : PerformanceScope
  seed : NatIn 0 (2 ^ 63 - 1)
  scenarios : List ReadPerformanceScenario
  thresholds : PerformanceThresholds
  soak : SoakSettings
  sourceSha256 : Text
  scenarioCount : 1 ≤ scenarios.length ∧ scenarios.length ≤ 64
  unique : (scenarios.map (·.scenarioId)).Nodup

/-- The check of one baseline. -/
def checkBaseline (scenarios : List ReadPerformanceScenario) (s : ReadPerformanceScenario) : Except Raised Unit :=
  match s.baselineScenarioId with
  | none => .ok ()
  | some baselineId =>
    match scenarios.find? fun other => other.scenarioId = baselineId with
    | none => refuse "baseline scenario does not exist"
    | some baseline => do
      rejectIf baseline.capture.isSome (.own "capture baseline scenario must disable capture")
      rejectIf (!baseline.sameAs s) (.own "capture and baseline scenarios must use the same population")

/-- `scope not in _SCOPES`, outside of any `try`. -/
def scopeOf : Json → Except Raised PerformanceScope
  | .arr _ => .error (.python (.type "unhashable type: 'list'"))
  | .obj _ => .error (.python (.type "unhashable type: 'dict'"))
  | scope => translate (lift (nameIn scope PerformanceScope.all PerformanceScope.name
    "scope must be LOCAL_LOOPBACK_ONLY or TARGET_ENVIRONMENT_PENDING_REVIEW"))

/-- `PerformanceProfile(..)` -/
def PerformanceProfile.ofArguments (profileId scope seed : Json) (scenarios : List ReadPerformanceScenario)
    (thresholds : PerformanceThresholds) (soak : SoakSettings) (sourceSha256 : Text) :
    Except Raised PerformanceProfile := do
  let profileId ← profileToken profileId "profile_id"
  let scope ← scopeOf scope
  let seed ← integerIn seed "seed" 0 (2 ^ 63 - 1)
  let ⟨scenarioCount⟩ ← require (1 ≤ scenarios.length ∧ scenarios.length ≤ 64)
    (Raised.own "profile must contain 1-64 scenarios")
  let ⟨unique⟩ ← require (scenarios.map (·.scenarioId)).Nodup (Raised.own "scenario_id values must be unique")
  scenarios.forM (checkBaseline scenarios)
  rejectIf (scenarios.any fun s => Double.le (.finite soak.watchdogTimeoutSeconds.exact) s.iterationBound)
    (.own "soak watchdog_timeout_seconds must exceed the bounded begin/read/end RPC budget")
  rejectIf (!isLowerSha256 sourceSha256) (.own "source_sha256 must be lowercase SHA-256")
  return { profileId, scope, seed, scenarios, thresholds, soak, sourceSha256, scenarioCount, unique }

def maxProfileBytes : Nat := 1024 * 1024

/-- `load_performance_profile` on the bytes of the file. -/
def loadPerformanceProfile (sha256 : List Byte → Text) (limit : Nat) (raw : List Byte) :
    Except Raised PerformanceProfile := do
  rejectIf (raw.isEmpty || maxProfileBytes < raw.length)
    (.own s!"performance profile must contain 1-{maxProfileBytes} bytes")
  let value ← loadSig "invalid performance profile JSON" limit raw
  exactFields value ["schema_version", "profile_id", "scope", "seed", "scenarios", "thresholds", "soak"] []
    "performance profile"
  rejectIf (!equalsPositive (field value "schema_version") 1) (.own "schema_version must be 1")
  let rawScenarios ← arrayOr (field value "scenarios") "scenarios must be an array"
  rejectIf (!(field value "thresholds").isObj || !(field value "soak").isObj)
    (.own "thresholds and soak must be objects")
  rejectIf (!rawScenarios.all Json.isObj) (.own "each scenario must be an object")
  let scenarios ← rawScenarios.mapM ReadPerformanceScenario.ofMapping
  let thresholds ← PerformanceThresholds.ofMapping (field value "thresholds")
  let soak ← SoakSettings.ofMapping (field value "soak")
  PerformanceProfile.ofArguments (field value "profile_id") (field value "scope") (field value "seed") scenarios
    thresholds soak (sha256 raw)

end EmsDnp3.Python
