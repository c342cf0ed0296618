import EmsDnp3.Python.PerformanceMetrics

/-!
# The performance suite

`run_performance_suite` of `performance.py` against a client and a sampler that may do anything. Pauses between
iterations, clock readings and the parts of the report that no check reads are left out.
-/

namespace EmsDnp3.Python

open Effect

/-- What the suite needs of the client. -/
structure SuiteClient (σ : Type) extends ReadClient σ where
  sample : EStateM Fault σ ProcessResourceSample

/-- The local variables of one scenario. -/
structure Measured where
  latencies : List Double := []
  resourceSamples : List ProcessResourceSample := []
  cpuPercentages : List Double := []
  captureResults : List CaptureResult := []
  receivedObjects : Nat := 0
  fragments : Nat := 0
  completedIterations : Nat := 0
  receivedByKind : Dict Text Int := []
  receivedByGroupVariation : Dict Text Int := []

namespace Measured

def addSamples (before after : ProcessResourceSample) (m : Measured) : Measured :=
  { m with resourceSamples := m.resourceSamples ++ [before, after] }

/-- The processor share between them, where there is one. -/
def addPercentage (percentage : Option Double) (m : Measured) : Measured :=
  { m with cpuPercentages := m.cpuPercentages ++ percentage.toList }

def addResult (duration : Double) (result : ReadTaskResult) (m : Measured) : Measured :=
  { m with
    latencies := m.latencies ++ [duration]
    receivedObjects := m.receivedObjects + result.receivedTotal
    fragments := m.fragments + result.fragmentsReceived }

def setByKind (receivedByKind : Dict Text Int) (m : Measured) : Measured := { m with receivedByKind }

/-- The objects received of each group and variation. -/
def setByGroupVariation (receivedByGroupVariation : Dict Text Int) (m : Measured) : Measured :=
  { m with receivedByGroupVariation }

def complete (capture : Option CaptureResult) (m : Measured) : Measured :=
  { m with
    captureResults := m.captureResults ++ capture.toList
    completedIterations := m.completedIterations + 1 }

end Measured

/-- An entry of `failures`. -/
structure SuiteFailure where
  stage : String
  error : Fault
deriving DecidableEq

/-- What the suite reports of a scenario. -/
structure ScenarioReport where
  scenarioId : Text
  captureEnabled : Bool
  baselineScenarioId : Option Text
  attemptedIterations : Nat
  completedIterations : Nat
  expectedObjectsPerIteration : Nat
  expectedByKind : Counts
  expectedByGroupVariation : Counts
  receivedObjects : Nat
  receivedByKind : Dict Text Int
  receivedByGroupVariation : Dict Text Int
  fragments : Nat
  taskLatencyMs : Distribution
  captures : List CaptureResult
  resources : Option ResourceReport
  failures : List SuiteFailure
  thresholdChecks : List ThresholdCheck
  passed : Bool

/-- What capturing cost against the baseline. -/
structure OverheadReport where
  scenarioId : Text
  baselineScenarioId : Text
  captureOverheadPercent : Option Double
  limit : Double
  passed : Bool

/-- What the suite reports. -/
structure SuiteReport where
  scenarios : List ScenarioReport
  captureOverhead : List OverheadReport
  passed : Bool

/-! ## One scenario -/

/-- `except Exception` -/
def attempt {σ α : Type} (x : EStateM Fault σ α) : EStateM Fault σ (Except Fault α) := do
  let result ← settle x
  match result with
  | .ok a => return .ok a
  | .error e => if e.isException then return .error e else throw e

/-- The latency of a task; a `bool` is an `int`. -/
def durationOf (duration : Json) : Except Fault Double :=
  match duration with
  | .bool b => .ok (.finite b.toNat)
  | other =>
    match number? other with
    | none => .error (.exception "read task did not expose finite duration_ms")
    | some (.int n) => floatOf n
    | some (.float x) =>
      if x.isFinite then .ok x else .error (.exception "read task did not expose finite duration_ms")

/-- `target[key] = target.get(key, 0) + int(count)` for the items of a mapping. -/
def accumulate (target : Dict Text Int) (population : Option Population) : Except Fault (Dict Text Int) :=
  match population with
  | none => .error (.exception "summary has no such mapping")
  | some population => population.items.foldlM (fun target item =>
      match truncated item.2 with
      | some count => .ok (target.set item.1 ((target.get? item.1).getD 0 + count))
      | none => .error (.exception "count is no number")) target

section
variable {σ : Type} (sum : List Double → Double) (client : SuiteClient σ) (thresholds : PerformanceThresholds)
  (s : ReadPerformanceScenario)

/-- The warm-ups, up to the first that fails. -/
def warmUps : Nat → EStateM Fault σ (List SuiteFailure)
  | 0 => pure []
  | n + 1 => do
    let result ← attempt (executeIteration client.toReadClient s)
    match result with
    | .ok _ => warmUps n
    | .error e => return [{ stage := "warmup", error := e }]

/-- The body of the `try` of one measurement. -/
def measurement : EStateM Fault (σ × Measured) (ReadTaskResult × Option CaptureResult) := do
  let before ← onFst client.sample
  let run ← onFst (executeIteration client.toReadClient s)
  let after ← onFst client.sample
  onSnd (Measured.addSamples before after)
  let percentage ← outcome (cpuPercentage before after)
  onSnd (Measured.addPercentage percentage)
  let duration ← outcome (durationOf run.1.duration)
  onSnd (Measured.addResult duration run.1)
  let m ← snd
  let receivedByKind ← outcome (accumulate m.receivedByKind run.1.byKind)
  onSnd (Measured.setByKind receivedByKind)
  let receivedByGroupVariation ← outcome (accumulate m.receivedByGroupVariation run.1.byGroupVariation)
  onSnd (Measured.setByGroupVariation receivedByGroupVariation)
  onSnd (Measured.complete run.2)
  return run

/-- The measurements, up to the first that fails. -/
def measurements : Nat → EStateM Fault (σ × Measured) (List SuiteFailure)
  | 0 => pure []
  | n + 1 => do
    let result ← attempt (measurement client s)
    match result with
    | .ok _ => measurements n
    | .error e => return [{ stage := "measurement", error := e }]

/-- The report of a scenario. -/
def reportScenario (failures : List SuiteFailure) (m : Measured) : Except Fault ScenarioReport := do
  let resources ← resourceReport sum m.resourceSamples m.cpuPercentages
  let taskLatencyMs ← distribution m.latencies
  let thresholdChecks ← thresholdChecks taskLatencyMs resources thresholds
  return {
    scenarioId := s.scenarioId
    captureEnabled := s.capture.isSome
    baselineScenarioId := s.baselineScenarioId
    attemptedIterations := s.measurementIterations.val
    completedIterations := m.completedIterations
    expectedObjectsPerIteration := s.expectedObjectsPerIteration.val
    expectedByKind := s.expectedByKind
    expectedByGroupVariation := s.expectedByGroupVariation
    receivedObjects := m.receivedObjects
    receivedByKind := m.receivedByKind
    receivedByGroupVariation := m.receivedByGroupVariation
    fragments := m.fragments
    taskLatencyMs
    captures := m.captureResults
    resources, failures, thresholdChecks
    passed := failures = [] && thresholdChecks.all (·.passed) }

/-- One scenario of the suite. -/
def runScenario : EStateM Fault σ ScenarioReport := do
  let failures ← warmUps client s s.warmupIterations
  let result ← locally {} (if failures = [] then measurements client s s.measurementIterations else pure failures)
  outcome (reportScenario sum thresholds s result.1 result.2)

end

/-! ## The suite -/

/-- The overhead between two medians. -/
def overheadPercent (measured baseline : Option Double) : Except Fault (Option Double) :=
  match measured, baseline with
  | some measured, some baseline =>
    if Double.lt (.finite 0) baseline then do
      let ratio ← quotient (Double.sub measured baseline) baseline
      return some (Double.mul ratio (.finite 100))
    else return none
  | _, _ => return none

/-- `by_id[scenario_id]` -/
def reportOf (reports : List ScenarioReport) (scenarioId : Text) : Except Fault ScenarioReport :=
  match reports.find? fun report => report.scenarioId = scenarioId with
  | some report => .ok report
  | none => .error (.exception "KeyError")

/-- The comparison of a scenario with its baseline. -/
def compareOverhead (reports : List ScenarioReport) (limit : Double) (pair : Text × Text) :
    Except Fault OverheadReport := do
  let measured ← reportOf reports pair.1
  let baseline ← reportOf reports pair.2
  let overhead ← overheadPercent measured.taskLatencyMs.p50 baseline.taskLatencyMs.p50
  return {
    scenarioId := pair.1
    baselineScenarioId := pair.2
    captureOverheadPercent := overhead
    limit
    passed := overhead.any fun percent => Double.le percent limit }

/-- The scenarios that have a baseline. -/
def PerformanceProfile.baselines (profile : PerformanceProfile) : List (Text × Text) :=
  profile.scenarios.filterMap fun s => s.baselineScenarioId.map fun baseline => (s.scenarioId, baseline)

/-- `by_id[scenario_id]["passed"] = False` where the comparison failed. -/
def withOverhead (comparisons : List OverheadReport) (report : ScenarioReport) : ScenarioReport :=
  { report with passed := report.passed && comparisons.all fun c => c.scenarioId ≠ report.scenarioId || c.passed }

/-- `run_performance_suite` -/
def runPerformanceSuite {σ : Type} (sum : List Double → Double) (client : SuiteClient σ) (profile : PerformanceProfile) :
    EStateM Fault σ SuiteReport := do
  let reports ← collect (runScenario sum client profile.thresholds) profile.scenarios
  let comparisons ← outcome (profile.baselines.mapM
    (compareOverhead reports profile.thresholds.maxCaptureOverheadPercent.raw.exact))
  let scenarios := reports.map (withOverhead comparisons)
  return { scenarios, captureOverhead := comparisons, passed := scenarios.all (·.passed) }

end EmsDnp3.Python
