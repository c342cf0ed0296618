import EmsDnp3.Python.Evidence
import EmsDnp3.Python.PerformanceMetrics
import EmsDnp3.Python.PerformanceSuite
import EmsDnp3.Python.Soak

/-!
# A soak run

`run_soak` of `soak.py` as a whole. The client, the sampler, the clock, the stop request and the answers of the file
system are whatever changes a state of the world and returns or raises; the local variables of `run_soak` are the
second part of the state, and what was assigned before an exception stays. The loop has fuel, and a run that is out
of it has not returned. Pauses have no length here.
-/

namespace EmsDnp3.Python

open Effect

def maxFailureSamples : Nat := 32
def maxLatencySamples : Nat := 1000000
def maxResourceSamples : Nat := 100000

/-! ## The world -/

/-- What `run_soak` calls. -/
structure SoakWorld (σ : Type) extends SuiteClient σ where
  waitEvent : EStateM Fault σ Json
  getStatus : EStateM Fault σ Json
  stopRequested : EStateM Fault σ Bool
  monotonic : EStateM Fault σ Double
  sleep : EStateM Fault σ Unit
  closeSampler : EStateM Fault σ Unit
  /-- The answers of the file system to the next call of the writer. -/
  answers : EStateM Fault σ CheckpointAnswers

/-- How a run may end. -/
inductive SoakStatus where
  | internalError
  | interrupted
  | hostExit
  | completed
  | resourceLimit
  | watchdog
  | failureLimit
  | connectionLimit
  | evidenceWrite
  | failedThresholds
deriving DecidableEq, Repr

/-- The status as the report spells it. -/
def SoakStatus.name : SoakStatus → String
  | .internalError => "INCOMPLETE_INTERNAL_ERROR"
  | .interrupted => "INCOMPLETE_INTERRUPTED"
  | .hostExit => "INCOMPLETE_HOST_EXIT"
  | .completed => "COMPLETED"
  | .resourceLimit => "INCOMPLETE_RESOURCE_LIMIT"
  | .watchdog => "INCOMPLETE_WATCHDOG"
  | .failureLimit => "INCOMPLETE_FAILURE_LIMIT"
  | .connectionLimit => "INCOMPLETE_CONNECTION_LIMIT"
  | .evidenceWrite => "INCOMPLETE_EVIDENCE_WRITE"
  | .failedThresholds => "COMPLETED_FAILED_THRESHOLDS"

/-! ## Local variables -/

/-- What the captures counted together. -/
structure CaptureTotals where
  receivedTotal : Nat := 0
  queueOverflow : Nat := 0
  maxQueueDepth : Nat := 0

/-- The variables of `run_soak`. -/
structure SoakLocals where
  latencies : Dict Text (List Double)
  resources : List ProcessResourceSample := []
  scenarioCounts : Dict Text Nat
  captureTotals : CaptureTotals := {}
  failures : List (Option Text × Fault) := []
  failureCount : Nat := 0
  consecutiveFailures : Nat := 0
  counters : ChannelCounters := {}
  cycleCount : Nat := 0
  checkpointSequence : Nat := 0
  lastSuccessfulScenario : Option Text := none
  status : SoakStatus := .internalError
  statusReason : String := "runner did not reach a terminal decision"
  start : Double
  lastCheckpoint : Double
  lastResource : Double := .infinite true
  elapsed : Double := .nan
  terminalStatus : Json := .null
  writer : EvidenceWriter

namespace SoakLocals

/-- The variables before the `try`. -/
def initial (profile : PerformanceProfile) (start : Double) (writer : EvidenceWriter) : SoakLocals where
  latencies := profile.scenarios.map fun s => (s.scenarioId, [])
  scenarioCounts := profile.scenarios.map fun s => (s.scenarioId, 0)
  start := start
  lastCheckpoint := start
  writer := writer

variable (l : SoakLocals)

def latenciesOf (scenarioId : Text) : List Double := (l.latencies.get? scenarioId).getD []

def countOf (scenarioId : Text) : Nat := (l.scenarioCounts.get? scenarioId).getD 0

/-- `status = ..` and `status_reason = ..` -/
def conclude (status : SoakStatus) (reason : String) : SoakLocals := { l with status, statusReason := reason }

/-- What a successful cycle adds. -/
def succeed (scenarioId : Text) (duration : Double) (capture : Option CaptureResult) : SoakLocals :=
  { l with
    latencies := l.latencies.set scenarioId (l.latenciesOf scenarioId ++ [duration])
    scenarioCounts := l.scenarioCounts.set scenarioId (l.countOf scenarioId + 1)
    captureTotals := match capture with
      | none => l.captureTotals
      | some capture => {
        receivedTotal := l.captureTotals.receivedTotal + capture.receivedTotal
        queueOverflow := l.captureTotals.queueOverflow + capture.queueOverflow
        maxQueueDepth := max l.captureTotals.maxQueueDepth capture.maxQueueDepth }
    consecutiveFailures := 0
    lastSuccessfulScenario := some scenarioId }

/-- An entry of `failures`, if there is room. -/
def noteFailure (scenarioId : Option Text) (error : Fault) : List (Option Text × Fault) :=
  if l.failures.length < maxFailureSamples then l.failures ++ [(scenarioId, error)] else l.failures

/-- What a failed cycle adds. -/
def fail (scenarioId : Text) (error : Fault) : SoakLocals :=
  { l with
    failureCount := l.failureCount + 1
    consecutiveFailures := l.consecutiveFailures + 1
    failures := l.noteFailure (some scenarioId) error }

def endCycle : SoakLocals := { l with cycleCount := l.cycleCount + 1 }

def addResource (sample : ProcessResourceSample) (now : Double) : SoakLocals :=
  { l with resources := l.resources ++ [sample], lastResource := now }

end SoakLocals

/-! ## Steps -/

/-- The error of the channel as an exception. -/
def Fault.ofChannel : SoakError → Fault
  | .connection message => .connection message
  | .python _ => .exception "unhashable type"

/-- The error of the writer as an exception. -/
def Fault.ofWriter : EvidenceError → Fault
  | .runner message => .soak message
  | .os => .exception "OSError"
  | .encode => .exception "ValueError"
  | .index => .exception "IndexError"

/-- The configuration of a run. -/
structure SoakSetup where
  profile : PerformanceProfile
  tools : EvidenceTools
  /-- The preflight record. -/
  preflight : Json
  /-- The members of a checkpoint, of the local variables, the time and whether the host runs. -/
  checkpoint : SoakLocals → Double → Bool → List (Text × Json)
  /-- The members of the final report but its verdict. -/
  report : SoakLocals → Double → List (String × Json)

namespace SoakSetup

/-- The limits of the writer. -/
def limits (setup : SoakSetup) : EvidenceLimits where
  maxCheckpoints := setup.profile.soak.maxCheckpoints.val
  maxEvidenceBytes := setup.profile.soak.maxEvidenceBytes.val
  minFreeDiskBytes := setup.profile.soak.minFreeDiskBytes.val
  keepsTwo := setup.profile.soak.maxCheckpoints.property.1

end SoakSetup

section
variable {σ : Type} (world : SoakWorld σ) (setup : SoakSetup)

/-- A step of the channel's counters. -/
def onCounters (f : ChannelCounters → Except SoakError Unit × ChannelCounters) : EStateM Fault (σ × SoakLocals) Unit :=
  fun s =>
    match (f s.2.counters).1 with
    | .ok _ => .ok () (s.1, { s.2 with counters := (f s.2.counters).2 })
    | .error e => .error (.ofChannel e) (s.1, { s.2 with counters := (f s.2.counters).2 })

/-- A call of the writer. -/
def onWriter (f : EvidenceWriter → Except EvidenceError Unit × EvidenceWriter) : EStateM Fault (σ × SoakLocals) Unit :=
  fun s =>
    match (f s.2.writer).1 with
    | .ok _ => .ok () (s.1, { s.2 with writer := (f s.2.writer).2 })
    | .error e => .error (.ofWriter e) (s.1, { s.2 with writer := (f s.2.writer).2 })

/-- `_drain_channel_events`, with the batches that are left. -/
def drainChannelEvents : Nat → List Text → EStateM Fault σ (List Text × Nat)
  | 0, _ => throw (.connection "channel event queue could not be drained within its 1,024-entry bound")
  | batches + 1, states => do
    let batch ← world.waitEvent
    let (more, remaining, dropped) ← outcome ((readEventBatch batch).mapError .ofChannel)
    if remaining = 0 then return (states ++ more, dropped) else drainChannelEvents batches (states ++ more)

/-- `observe_channel_events` -/
def observeChannelEvents : EStateM Fault (σ × SoakLocals) Unit := do
  let (states, dropped) ← onFst (drainChannelEvents world maxChannelEventBatches [])
  onCounters (ChannelCounters.observeChannelEvents setup.profile.soak.allowedReconnects.val states dropped)

/-- `checkpoint` -/
def checkpoint (now : Double) : EStateM Fault (σ × SoakLocals) Unit := do
  let running ← onFst world.isRunning
  let answers ← onFst world.answers
  let l ← snd
  onWriter (EvidenceWriter.writeCheckpoint setup.tools setup.limits answers l.checkpointSequence
    (setup.checkpoint l now running))
  onSnd fun l => { l with checkpointSequence := l.checkpointSequence + 1 }

/-- The initial drain and the baseline. -/
def openBaseline : EStateM Fault (σ × SoakLocals) Unit := do
  let (states, dropped) ← onFst (drainChannelEvents world maxChannelEventBatches [])
  onCounters (ChannelCounters.initialEvents states dropped)
  let status ← onFst world.getStatus
  outcome ((ChannelCounters.requireOpen "soak must start with an OPEN DNP3 channel" status).mapError .ofChannel)
  onSnd fun l => { l with counters := { l.counters with observedChannelState := text "OPEN" } }

/-- `if seconds: sleep(..)` -/
def pause (seconds : ℚ) : EStateM Fault (σ × SoakLocals) Unit := if seconds = 0 then pure () else onFst world.sleep

/-- One warm-up. -/
def warmUp (s : ReadPerformanceScenario) : EStateM Fault (σ × SoakLocals) (ReadTaskResult × Option CaptureResult) := do
  let run ← onFst (executeIteration world.toReadClient s)
  observeChannelEvents world setup
  pause world s.intervalSeconds.value
  return run

/-- The status snapshot of a cycle. -/
def observeStatus : EStateM Fault (σ × SoakLocals) Unit := do
  let status ← onFst world.getStatus
  onCounters (ChannelCounters.observeStatus setup.profile.soak.allowedReconnects.val status)

/-- The resource sample of a cycle, if one is due; `false` leaves the loop. -/
def sampleResources (now : Double) : EStateM Fault (σ × SoakLocals) Bool := do
  let l ← snd
  if Double.le setup.profile.soak.resourceSampleIntervalSeconds.raw.exact (Double.sub now l.lastResource) then
    if maxResourceSamples ≤ l.resources.length then do
      onSnd (·.conclude .resourceLimit "resource sample capacity reached")
      return false
    else do
      let sample ← onFst world.sample
      onSnd (·.addResource sample now)
      return true
  else return true

/-- The latency of a cycle; a `bool` is none. -/
def soakDuration (duration : Json) : Except Fault Double :=
  match number? duration with
  | none => .error (.soak "read task duration_ms is unavailable")
  | some (.int n) => floatOf n
  | some (.float x) => if x.isFinite then .ok x else .error (.soak "read task duration_ms is unavailable")

/-- The body of the `try` of a cycle; `false` leaves the loop. -/
def scenarioBody (s : ReadPerformanceScenario) (started : Double) : EStateM Fault (σ × SoakLocals) Bool := do
  let run ← onFst (executeIteration world.toReadClient s)
  let ended ← onFst world.monotonic
  if Double.lt setup.profile.soak.watchdogTimeoutSeconds.raw.exact (Double.sub ended started) then do
    onSnd (·.conclude .watchdog "one scenario exceeded the watchdog bound")
    return false
  else do
    let duration ← outcome (soakDuration run.1.duration)
    let l ← snd
    if maxLatencySamples ≤ (l.latenciesOf s.scenarioId).length then do
      onSnd (·.conclude .resourceLimit "latency sample capacity reached")
      return false
    else do
      onSnd (·.succeed s.scenarioId duration run.2)
      return true

/-- The scenario of a cycle. -/
def runCycleScenario (s : ReadPerformanceScenario) : EStateM Fault (σ × SoakLocals) Bool := do
  let started ← onFst world.monotonic
  let result ← attempt (scenarioBody world setup s started)
  match result with
  | .ok goOn => return goOn
  | .error e => do
    onSnd (·.fail s.scenarioId e)
    let l ← snd
    if setup.profile.soak.maxConsecutiveFailures.val < l.consecutiveFailures then do
      onSnd (·.conclude .failureLimit "consecutive scenario failures exceed profile")
      return false
    else return true

/-- The end of a cycle. -/
def finishCycle : EStateM Fault (σ × SoakLocals) Unit := do
  onSnd (·.endCycle)
  let now ← onFst world.monotonic
  let l ← snd
  if Double.le setup.profile.soak.checkpointIntervalSeconds.raw.exact (Double.sub now l.lastCheckpoint) then do
    checkpoint world setup now
    onSnd fun l => { l with lastCheckpoint := now }
  pause world setup.profile.soak.cycleIntervalSeconds.value

/-- `profile.scenarios[cycle_count % len(profile.scenarios)]` -/
def PerformanceProfile.scenarioAt (profile : PerformanceProfile) (cycle : Nat) : ReadPerformanceScenario :=
  profile.scenarios.get ⟨cycle % profile.scenarios.length, Nat.mod_lt _ profile.scenarioCount.1⟩

/-- What is left of a turn of the loop that does not end it at once. -/
def cycleBody (now : Double) : EStateM Fault (σ × SoakLocals) Bool := do
  observeChannelEvents world setup
  observeStatus world setup
  let sampled ← sampleResources world setup now
  if sampled then do
    let l ← snd
    let goOn ← runCycleScenario world setup (setup.profile.scenarioAt l.cycleCount)
    if goOn then do
      finishCycle world setup
      return true
    else return false
  else return false

/-- One turn of the loop; `false` leaves it. -/
def cycle : EStateM Fault (σ × SoakLocals) Bool := do
  let now ← onFst world.monotonic
  onSnd fun l => { l with elapsed := Double.sub now l.start }
  let stop ← onFst world.stopRequested
  if stop then do
    onSnd (·.conclude .interrupted "stop was requested")
    return false
  else do
    let running ← onFst world.isRunning
    let l ← snd
    if !running then do
      onSnd (·.conclude .hostExit "native host process exited")
      return false
    else if Double.le setup.profile.soak.targetDurationSeconds.raw.exact l.elapsed then do
      onSnd (·.conclude .completed "target duration reached")
      return false
    else cycleBody world setup now

/-- `while True` -/
def cycles : Nat → EStateM Fault (σ × SoakLocals) Unit
  | 0 => throw .exit
  | fuel + 1 => do
    let goOn ← cycle world setup
    if goOn then cycles fuel else return ()

/-- The terminal status snapshot. -/
def terminalSnapshot : EStateM Fault (σ × SoakLocals) Unit := do
  let l ← snd
  if l.status = .completed then do
    let status ← onFst world.getStatus
    onSnd fun l => { l with terminalStatus := status }
    outcome ((ChannelCounters.requireOpen "soak must finish with an OPEN DNP3 channel" status).mapError .ofChannel)
  else return ()

/-- The last drain. -/
def finalDrain : EStateM Fault (σ × SoakLocals) Unit := do
  let running ← onFst world.isRunning
  if running then observeChannelEvents world setup else return ()

/-- The last sample, once nothing speaks against the terminal state. -/
def acceptEnd : EStateM Fault (σ × SoakLocals) Unit := do
  let l ← snd
  raiseIf (l.counters.observedChannelState ≠ text "OPEN") (.connection "final channel event state is not OPEN")
  raiseIf (maxResourceSamples ≤ l.resources.length) (.soak "resource sample capacity reached")
  let sample ← onFst world.sample
  onSnd fun l => { l with resources := l.resources ++ [sample] }

/-- What is verified after the last drain. -/
def verifyEnd : EStateM Fault (σ × SoakLocals) Unit := do
  let l ← snd
  if l.status = .completed then do
    let stop ← onFst world.stopRequested
    if stop then onSnd (·.conclude .interrupted "stop was requested during final verification")
    else do
      let running ← onFst world.isRunning
      if !running then onSnd (·.conclude .hostExit "native host process exited during final verification")
      else acceptEnd world
  else return ()

/-- The audit of the final interval. -/
def finalAudit : EStateM Fault (σ × SoakLocals) Unit := do
  terminalSnapshot world
  finalDrain world setup
  verifyEnd world

/-- The `try` of `run_soak`. -/
def soakBody (fuel : Nat) : EStateM Fault (σ × SoakLocals) Unit := do
  openBaseline world
  let _ ← collect (fun s => repeatedly (warmUp world setup s) s.warmupIterations.val) setup.profile.scenarios
  let start ← onFst world.monotonic
  onSnd fun l => { l with start, lastCheckpoint := start }
  checkpoint world setup start
  cycles world setup fuel
  finalAudit world setup

/-- The handlers of that `try`; nothing takes `exit`. -/
def handled (fault : Fault) : EStateM Fault (σ × SoakLocals) Unit :=
  match fault with
  | .keyboardInterrupt => onSnd (·.conclude .interrupted "operator interrupted the run")
  | .connection message => onSnd (·.conclude .connectionLimit message)
  | .soak message => onSnd (·.conclude .resourceLimit message)
  | .exception message => onSnd fun l => { l.conclude .internalError message with
      failures := l.noteFailure none fault
      failureCount := l.failureCount + 1 }
  | .exit => throw .exit

/-- After the `try`. -/
def handleResult (result : Except Fault Unit) : EStateM Fault (σ × SoakLocals) Unit :=
  match result with
  | .ok _ => return ()
  | .error e => handled e

/-- Its `finally`. -/
def cleanUp : EStateM Fault (σ × SoakLocals) Unit := do
  let closed ← attempt (onFst world.closeSampler)
  let l ← snd
  match closed with
  | .ok _ => return ()
  | .error _ =>
    if l.status = .completed then onSnd (·.conclude .internalError "resource sampler cleanup failed") else return ()

/-! ## The report -/

/-- An entry of `scenario_reports`. -/
structure SoakScenarioReport where
  scenarioId : Text
  successfulCycles : Nat
  taskLatencyMs : Distribution

/-- What the run reports. -/
structure SoakReport where
  status : SoakStatus
  statusReason : String
  passed : Bool
  elapsedSeconds : Double
  cycleCount : Nat
  lastSuccessfulScenario : Option Text
  scenarioResults : List SoakScenarioReport
  failureCount : Nat
  failureSamples : List (Option Text × Fault)
  counters : ChannelCounters
  capture : CaptureTotals
  resources : Option ResourceReport
  thresholdChecks : List ThresholdCheck
  members : List (String × Json)

/-- The report as it is written. -/
def SoakReport.toJson (r : SoakReport) : Json :=
  .object ([("schema_version", .nat 1), ("report_type", .str (text "DNP3_READ_ONLY_SOAK")),
    ("status", .str (text r.status.name)), ("status_reason", .str (text r.statusReason)),
    ("passed", .bool r.passed)] ++ r.members)

/-- `_resource_summary` -/
def resourceSummary (sum : List Double → Double) (samples : List ProcessResourceSample) :
    Except Fault (Option ResourceReport) := do
  let percentages ← (samples.zip samples.tail).mapM fun pair => cpuPercentage pair.1 pair.2
  resourceReport sum samples (percentages.filterMap id)

/-- The report of one scenario. -/
def scenarioReport (l : SoakLocals) (s : ReadPerformanceScenario) : Except Fault SoakScenarioReport := do
  let taskLatencyMs ← distribution (l.latenciesOf s.scenarioId)
  return { scenarioId := s.scenarioId, successfulCycles := l.countOf s.scenarioId, taskLatencyMs }

/-- `_soak_threshold_checks` -/
def soakThresholdChecks (reports : List SoakScenarioReport) (resources : Option ResourceReport)
    (thresholds : PerformanceThresholds) : Except Fault (List ThresholdCheck) := do
  let latencies ← reports.mapM fun r => latencyChecks (r.scenarioId ++ text ".") r.taskLatencyMs thresholds
  let others ← resourceChecks resources thresholds
  return latencies.flatten ++ others

/-- The status after the thresholds. -/
def finalStatus (l : SoakLocals) (thresholdsPassed : Bool) : SoakStatus × String :=
  if l.status = .completed ∧ thresholdsPassed = false then
    (.failedThresholds, "target duration reached but one or more thresholds failed")
  else (l.status, l.statusReason)

/-- The verdict and the report. -/
def soakReport (sum : List Double → Double) (profile : PerformanceProfile) (members : List (String × Json))
    (ended : Double) (l : SoakLocals) : Except Fault SoakReport := do
  let scenarioResults ← profile.scenarios.mapM (scenarioReport l)
  let resources ← resourceSummary sum l.resources
  let thresholdChecks ← soakThresholdChecks scenarioResults resources profile.thresholds
  let thresholdsPassed := thresholdChecks.all (·.passed)
  let elapsed := Double.sub ended l.start
  return {
    status := (finalStatus l thresholdsPassed).1
    statusReason := (finalStatus l thresholdsPassed).2
    passed := (finalStatus l thresholdsPassed).1 = .completed && l.failureCount = 0 &&
      l.captureTotals.queueOverflow = 0 && l.counters.channelEventDroppedTotal = 0 &&
      l.counters.reconnectCount ≤ profile.soak.allowedReconnects.val && thresholdsPassed
    elapsedSeconds := if Double.lt (.finite 0) elapsed then elapsed else .finite 0
    cycleCount := l.cycleCount
    lastSuccessfulScenario := l.lastSuccessfulScenario
    scenarioResults
    failureCount := l.failureCount
    failureSamples := l.failures
    counters := l.counters
    capture := l.captureTotals
    resources, thresholdChecks, members }

/-- The final checkpoint; what it raises changes the status. -/
def finalCheckpoint (ended : Double) : EStateM Fault (σ × SoakLocals) Unit := do
  let written ← attempt (checkpoint world setup ended)
  match written with
  | .ok _ => return ()
  | .error _ => onSnd (·.conclude .evidenceWrite "final checkpoint failed")

/-- The final report; what its writing raises changes the verdict that is returned. -/
def finalReport (report : SoakReport) : EStateM Fault (σ × SoakLocals) SoakReport := do
  let written ← attempt do
    let answers ← onFst world.answers
    onWriter (EvidenceWriter.writeFinal setup.tools setup.limits answers.file report.toJson)
  match written with
  | .ok _ => return report
  | .error _ => return { report with passed := false, status := .evidenceWrite, statusReason := "final report failed" }

/-- `run_soak` after the preflight record is written. -/
def runSoakLocals (sum : List Double → Double) (fuel : Nat) : EStateM Fault (σ × SoakLocals) SoakReport := do
  let result ← settle (soakBody world setup fuel)
  let taken ← settle (handleResult result)
  cleanUp world
  outcome taken
  let ended ← onFst world.monotonic
  finalCheckpoint world setup ended
  let l ← snd
  let report ← outcome (soakReport sum setup.profile (setup.report l ended) ended l)
  finalReport world setup report

/-- `run_soak` up to its `try`: the local variables there. -/
def beginSoak : EStateM Fault σ SoakLocals := do
  let running ← world.isRunning
  raiseIf (!running) (.soak "client must own a running native host process")
  let answers ← world.answers
  let written := ({} : EvidenceWriter).writePreflight setup.tools setup.limits answers.file setup.preflight
  outcome (written.1.mapError .ofWriter)
  let start ← world.monotonic
  return .initial setup.profile start written.2

/-- `run_soak`, with the local variables at its end. -/
def runSoak (sum : List Double → Double) (fuel : Nat) : EStateM Fault σ (SoakReport × SoakLocals) := do
  let l ← beginSoak world setup
  locally l (runSoakLocals world setup sum fuel)

end

end EmsDnp3.Python
