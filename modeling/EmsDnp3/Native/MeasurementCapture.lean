import EmsDnp3.Base.Bitmap
import EmsDnp3.Base.Tally
import EmsDnp3.Json.Dump
import EmsDnp3.Native.CaptureConfig

/-!
# The measurement capture

`MeasurementCapture.cpp`: one bounded capture per session. Stack callbacks record
fragments and objects, a worker thread takes the objects off the queue, request threads
begin, inspect, end and abort. All of them hold one mutex, so a run is a sequence of
critical sections (`Action`); only `end` gives the mutex up, while it waits for the queue
to drain. A critical section reads the clock once, in nanoseconds.

SHA-256 and the two floating-point quotients of a snapshot are parameters (`Platform`).
-/

namespace EmsDnp3.Native

/-- What the host takes from the platform: `BCryptFinishHash` as the lower-case
hexadecimal digest of a text, and the quotients printed in a snapshot. -/
structure Platform where
  sha256 : Text → Text
  durationMs : Nat → FloatLit
  throughputPerSec : Nat → Nat → FloatLit

/-- A platform with a constant digest and constant quotients. -/
def examplePlatform : Platform where
  sha256 _ := text "00"
  durationMs _ := ⟨false, 0, [0], none, FloatLit.zero_isFloat⟩
  throughputPerSec _ _ := ⟨false, 0, [0], none, FloatLit.zero_isFloat⟩

/-- The states of a capture. -/
inductive CaptureState where
  | idle
  | active
  | finalizing
  | finalized
  | timedOut
  | aborted
deriving DecidableEq, Repr

/-- `state_name`: a finalizing capture still reports `ACTIVE`. -/
def CaptureState.name : CaptureState → String
  | .idle => "IDLE"
  | .active => "ACTIVE"
  | .finalizing => "ACTIVE"
  | .finalized => "FINALIZED"
  | .timedOut => "TIMED_OUT"
  | .aborted => "ABORTED"

/-- The states a capture never leaves by itself. -/
def CaptureState.terminal (s : CaptureState) : Bool :=
  s = .finalized || s = .timedOut || s = .aborted

/-- A measurement as the capture receives it. -/
structure CaptureMeasurement where
  source : CaptureSource
  kind : Text
  group : Fin 256
  variation : Fin 256
  index : Option PointIndex
  value : Json
  receivedMonotonicNs : Nat
deriving DecidableEq

/-- A range and the bitmap of its points. -/
structure RangeState where
  range : CapturePointRange
  bits : Bitmap
deriving DecidableEq

/-- Counts by name, `std::map<std::string, std::uint64_t>` in order of first use. -/
abbrev Dimension := Counts Text

/-- `MeasurementCapture`, with the fields its mutex guards. -/
structure Capture where
  accepting : Bool := false
  processing : Bool := false
  state : CaptureState := .idle
  config : CaptureConfig := {}
  captureId : Text := []
  sessionId : Nat := 0
  nextCaptureSequence : Nat := 0
  deadline : Nat := 0
  queue : List CaptureMeasurement := []
  ranges : List RangeState := []
  expectedTotal : Nat := 0
  offeredTotal : Nat := 0
  receivedTotal : Nat := 0
  receivedUnique : Nat := 0
  duplicates : Nat := 0
  unmatchedTotal : Nat := 0
  fragmentsTotal : Nat := 0
  queueOverflow : Nat := 0
  discardedOnAbort : Nat := 0
  maxQueueDepth : Nat := 0
  mismatchSample : List Json := []
  byKind : Dimension := []
  byGroupVariation : Dimension := []
  invalidReasons : List Text := []
  startedMonotonicNs : Nat := 0
  deadlineMonotonicNs : Nat := 0
  endedMonotonicNs : Nat := 0
  firstFragmentMonotonicNs : Option Nat := none
  firstObjectMonotonicNs : Option Nat := none
  lastObjectMonotonicNs : Option Nat := none
  -- the canonical lines fed to the digest, while it is open
  sequenceDigest : Option (List Text) := none
  receivedSequenceSha256 : Option Text := none
  sequenceMatch : Option Bool := none

/-- `std::numeric_limits<std::uint64_t>::max()` -/
def maxCounter : Nat := 2 ^ 64 - 1

namespace Capture

/-- `add_invalid_reason_locked`: each reason once. -/
def addInvalidReasonLocked (s : Capture) (reason : Text) : Capture :=
  if s.invalidReasons.contains reason then s
  else { s with invalidReasons := s.invalidReasons ++ [reason] }

/-- `increment_locked` on the counter that `read` and `write` select. -/
def incrementLocked (read : Capture → Nat) (write : Capture → Nat → Capture) (s : Capture) : Capture :=
  if read s = maxCounter then s.addInvalidReasonLocked "CAPTURE_COUNTER_OVERFLOW"
  else write s (read s + 1)

/-- `increment_dimension_locked`: a 257th name is not counted. -/
def incrementDimensionLocked (read : Capture → Dimension) (write : Capture → Dimension → Capture)
    (key : Text) (s : Capture) : Capture :=
  match Counts.find (read s) key with
  | some count =>
    if count = maxCounter then s.addInvalidReasonLocked "CAPTURE_COUNTER_OVERFLOW"
    else write s (Counts.bump (read s) key)
  | none =>
    if 256 ≤ (read s).length then s.addInvalidReasonLocked "CAPTURE_DIMENSION_LIMIT"
    else write s (read s ++ [(key, 1)])

/-- The loop over the ranges: the first range that holds the point takes it. The flag says
whether its bit was set already; `none` is a point outside every range. -/
def markRanges (kind : Text) (index : PointIndex) : List RangeState → Option (Bool × List RangeState)
  | [] => none
  | r :: rest =>
    if r.range.kind ≠ kind ∨ index < r.range.start ∨ r.range.stop < index then
      (markRanges kind index rest).map fun found => (found.1, r :: found.2)
    else
      let offset := index.val - r.range.start.val
      if r.bits.test offset then some (true, r :: rest)
      else some (false, { r with bits := r.bits.insert offset } :: rest)

/-- `record_unmatched_locked`: counted always, sampled while there is room. -/
def recordUnmatchedLocked (m : CaptureMeasurement) (s : Capture) : Capture :=
  let s := s.incrementLocked unmatchedTotal fun s n => { s with unmatchedTotal := n }
  if s.config.mismatchSampleLimit ≤ s.mismatchSample.length then s
  else
    { s with mismatchSample := s.mismatchSample ++ [.object
        [("reason", .str "UNEXPECTED_POINT"), ("source", .str m.source.name), ("kind", .str m.kind),
         ("group", .nat m.group.val), ("variation", .nat m.variation.val),
         ("index", .ofOption (fun i : PointIndex => .nat i.val) m.index),
         ("received_monotonic_ns", .nat m.receivedMonotonicNs)]] }

/-- `std::to_string(group) + ":" + std::to_string(variation)` -/
def groupVariation (m : CaptureMeasurement) : Text :=
  decimal m.group.val ++ text ":" ++ decimal m.variation.val

/-- The line of one object in the canonical event stream. -/
def canonicalLine (m : CaptureMeasurement) : Text :=
  (Json.arr [.str m.kind, .ofOption (fun i : PointIndex => .nat i.val) m.index, m.value]).dump ++ text "\n"

/-- The counters every mode keeps, the first half of `process_locked`. -/
def countMeasurement (m : CaptureMeasurement) (s : Capture) : Capture :=
  let s := s.incrementLocked receivedTotal fun s n => { s with receivedTotal := n }
  let s := { s with
    firstObjectMonotonicNs := some (s.firstObjectMonotonicNs.getD m.receivedMonotonicNs)
    lastObjectMonotonicNs := some m.receivedMonotonicNs }
  let s := s.incrementDimensionLocked byKind (fun s d => { s with byKind := d }) m.kind
  s.incrementDimensionLocked byGroupVariation (fun s d => { s with byGroupVariation := d }) (groupVariation m)

/-- The bitmap update of a static set. -/
def processStatic (m : CaptureMeasurement) (s : Capture) : Capture :=
  match m.index with
  | none => s.recordUnmatchedLocked m
  | some index =>
    match markRanges m.kind index s.ranges with
    | none => s.recordUnmatchedLocked m
    | some (true, _) => s.incrementLocked duplicates fun s n => { s with duplicates := n }
    | some (false, ranges) =>
      incrementLocked receivedUnique (fun s n => { s with receivedUnique := n }) { s with ranges }

/-- `process_locked`; an exception leaves the state reached so far in `.error`. -/
def processLocked (m : CaptureMeasurement) (s : Capture) : Except Capture Capture :=
  let s := s.countMeasurement m
  match s.config.mode with
  | .eventSequence =>
    match s.sequenceDigest with
    | none => .error s
    | some lines => .ok { s with sequenceDigest := some (lines ++ [canonicalLine m]) }
  | .observation => .ok s
  | .staticSet => .ok (s.processStatic m)

/-- `lowercase_ascii`: only `A` to `F` change. -/
def lowercaseAscii (value : Text) : Text :=
  value.map fun c => if 0x41 ≤ c.val ∧ c.val ≤ 0x46 then CodePoint.ofNat (c.val + 0x20) else c

/-- `finalize_event_sequence_locked`: the digest is closed once. -/
def finalizeEventSequenceLocked (platform : Platform) (s : Capture) : Capture :=
  if s.config.mode ≠ .eventSequence ∨ s.receivedSequenceSha256.isSome then s
  else
    match s.sequenceDigest, s.config.eventManifest with
    | some lines, some manifest =>
      let digest := platform.sha256 lines.flatten
      let matched := s.receivedTotal = manifest.eventTotal && digest = lowercaseAscii manifest.sha256
      let s := { s with
        receivedSequenceSha256 := some digest, sequenceDigest := none, sequenceMatch := some matched }
      if matched then s
      else
        let s := s.addInvalidReasonLocked "EVENT_SEQUENCE_MISMATCH"
        if s.mismatchSample.length < s.config.mismatchSampleLimit then
          { s with mismatchSample := s.mismatchSample ++ [.object
              [("reason", .str "EVENT_SEQUENCE_MISMATCH"), ("expected_total", .nat manifest.eventTotal),
               ("received_total", .nat s.receivedTotal),
               ("expected_sha256", .str (lowercaseAscii manifest.sha256)), ("received_sha256", .str digest)]] }
        else s
    | _, _ =>
      addInvalidReasonLocked { s with sequenceDigest := none, sequenceMatch := some false }
        "EVENT_SEQUENCE_DIGEST_FAILURE"

/-- Expected points not seen, as finalization and snapshot compute it. -/
def missing (s : Capture) : Nat :=
  if s.receivedUnique ≤ s.expectedTotal then s.expectedTotal - s.receivedUnique else 0

/-- `finalize_static_set_locked`: a missing, repeated or foreign point makes the set invalid. -/
def finalizeStaticSetLocked (s : Capture) : Capture :=
  if s.config.mode ≠ .staticSet then s
  else if s.missing ≠ 0 ∨ s.duplicates ≠ 0 ∨ s.unmatchedTotal ≠ 0 then
    s.addInvalidReasonLocked "STATIC_SET_MISMATCH"
  else s

def sourceAllowedLocked (s : Capture) (source : CaptureSource) : Bool := s.config.sources.contains source

/-- `expire_locked`: an active capture ends at its deadline. -/
def expireLocked (now : Nat) (s : Capture) : Capture :=
  if s.state = .active ∧ s.deadline ≤ now then
    addInvalidReasonLocked
      { s with accepting := false, state := .timedOut, endedMonotonicNs := s.deadlineMonotonicNs }
      "CAPTURE_DEADLINE_EXCEEDED"
  else s

/-- Everything but the sequence number of the last capture and the deadline. -/
def resetLocked (s : Capture) : Capture :=
  { nextCaptureSequence := s.nextCaptureSequence, deadline := s.deadline }

/-- The manifest as the snapshot shows it. -/
def eventManifestJson (m : CaptureEventManifest) : Json :=
  .object [("generator", .str m.generator), ("generator_version", .str m.generatorVersion),
    ("scenario_id", .str m.scenarioId), ("seed", .nat m.seed), ("start_sequence", .nat m.startSequence),
    ("end_sequence", .nat m.endSequence), ("event_total", .nat m.eventTotal), ("sha256", .str m.sha256),
    ("match_rule", .str m.matchRule)]

/-- The verdict of a capture, `null` until it is terminal. -/
def verdict (s : Capture) : Json :=
  if s.state.terminal then .bool (s.state = .finalized && s.invalidReasons.isEmpty) else .null

/-- A counter that only a static set reports. -/
def staticCounter (s : Capture) (n : Nat) : Json := if s.config.mode = .staticSet then .nat n else .null

/-- How many objects the mode expects; none when it only observes. -/
def expectedTotalJson (s : Capture) : Json :=
  match s.config.mode with
  | .staticSet => .nat s.expectedTotal
  | .eventSequence => .ofOption (fun m => .nat m.eventTotal) s.config.eventManifest
  | .observation => .null

/-- How far the result can speak for completeness. -/
def completenessScope (s : Capture) : String :=
  match s.config.mode with
  | .staticSet => "NATIVE_STATIC_SET"
  | .eventSequence =>
    if s.sequenceMatch = some true then "EXTERNAL_EVENT_MANIFEST_MATCHED" else "EXTERNAL_EVENT_MANIFEST_REQUIRED"
  | .observation => "OBSERVATION_ONLY"

/-- Why it cannot, where it cannot. -/
def unknownReason (s : Capture) : Json :=
  match s.config.mode with
  | .staticSet => .null
  | .eventSequence =>
    if s.sequenceMatch = some true then .null
    else if s.receivedSequenceSha256.isSome then .str "EVENT_SEQUENCE_MISMATCH_REQUIRES_MANIFEST_DIFF"
    else .str "EVENT_SEQUENCE_NOT_FINALIZED"
  | .observation => .str "UNKNOWN_WITHOUT_GROUND_TRUTH_MATCH"

/-- The times of a capture. -/
def timingsJson (s : Capture) : Json :=
  .object [("started_monotonic_ns", .nat s.startedMonotonicNs),
    ("deadline_monotonic_ns", .nat s.deadlineMonotonicNs),
    ("first_fragment_monotonic_ns", .ofOption .nat s.firstFragmentMonotonicNs),
    ("first_object_monotonic_ns", .ofOption .nat s.firstObjectMonotonicNs),
    ("last_object_monotonic_ns", .ofOption .nat s.lastObjectMonotonicNs),
    ("ended_monotonic_ns", if s.endedMonotonicNs = 0 then .null else .nat s.endedMonotonicNs)]

def dimensionJson (d : Dimension) : Json := .obj (d.map fun e => (e.1, .nat e.2))

/-- The time from the start to the end, or to now while there is no end. -/
def durationNs (now : Nat) (s : Capture) : Nat :=
  (if s.endedMonotonicNs = 0 then now else s.endedMonotonicNs) - s.startedMonotonicNs

/-- `snapshot_locked`. -/
def snapshotLocked (platform : Platform) (now : Nat) (s : Capture) : Json :=
  if s.state = .idle then
    .object [("capture_id", .null), ("state", .str "IDLE"), ("valid", .null), ("current_queue_depth", .nat 0),
      ("max_queue_depth", .nat 0), ("queue_overflow", .nat 0)]
  else
    .object
      [("capture_id", .str s.captureId), ("session_id", .nat s.sessionId), ("state", .str s.state.name),
       ("valid", s.verdict), ("mode", .str s.config.mode.name),
       ("sources", .arr (s.config.sources.map fun source => .str source.name)),
       ("expected_total", s.expectedTotalJson), ("offered_total", .nat s.offeredTotal),
       ("received_total", .nat s.receivedTotal), ("received_unique", s.staticCounter s.receivedUnique),
       ("duplicates", s.staticCounter s.duplicates), ("missing", s.staticCounter s.missing),
       ("unmatched_total", .nat s.unmatchedTotal), ("fragments_total", .nat s.fragmentsTotal),
       ("duration_ms", .float (platform.durationMs (s.durationNs now))),
       ("throughput_per_sec", .float (platform.throughputPerSec s.receivedTotal (s.durationNs now))),
       ("current_queue_depth", .nat s.queue.length), ("max_queue_depth", .nat s.maxQueueDepth),
       ("queue_capacity", .nat s.config.queueCapacity), ("queue_overflow", .nat s.queueOverflow),
       ("discarded_on_abort", .nat s.discardedOnAbort),
       ("invalid_reasons", .arr (s.invalidReasons.map .str)),
       ("completeness_scope", .str s.completenessScope), ("unknown_reason", s.unknownReason),
       ("received_sequence_sha256", .ofOption .str s.receivedSequenceSha256),
       ("sequence_match", .ofOption .bool s.sequenceMatch),
       ("canonical_record_format",
        if s.config.mode = .eventSequence then .str "compact-json-array-[kind,index,value]-plus-LF" else .null),
       ("mismatch_sample", .arr s.mismatchSample), ("mismatch_sample_limit", .nat s.config.mismatchSampleLimit),
       ("by_kind", dimensionJson s.byKind), ("by_group_variation", dimensionJson s.byGroupVariation),
       ("timings", s.timingsJson), ("event_manifest", .ofOption eventManifestJson s.config.eventManifest)]

/-- `result_locked`: an overflow is an error, else the snapshot is the result. -/
def resultLocked (platform : Platform) (now : Nat) (s : Capture) : BackendOperationResult :=
  if 0 < s.queueOverflow then
    .error { code := .queueOverflow, message := "measurement capture queue overflowed",
             details := .object [("capture_id", .str s.captureId), ("queue_overflow", .nat s.queueOverflow),
               ("operation_result", s.snapshotLocked platform now)] }
  else .ok (s.snapshotLocked platform now)

/-- `validate_reference_locked`: the capture id names the current capture. -/
def validateReferenceLocked (platform : Platform) (now : Nat) (requestedId : Text) (s : Capture) :
    Option BackendError :=
  if s.state ≠ .idle ∧ requestedId = s.captureId then none
  else some { code := .invalidState, message := "capture_id does not identify the current capture",
              details := .object [("requested_capture_id", .str requestedId),
                ("current", s.snapshotLocked platform now)] }

/-! ## The operations

Each is one critical section: the state it leaves and the reply it gives. The allocation and
digest failures that `begin` catches are not modelled. -/

/-- The state of a capture that has just begun. -/
def begun (now session : Nat) (requested : CaptureConfig) (s : Capture) : Capture :=
  { s.resetLocked with
    config := requested
    sessionId := session
    captureId := text "cap-" ++ decimal session ++ text "-" ++ decimal ((s.nextCaptureSequence + 1) % 2 ^ 64)
    nextCaptureSequence := (s.nextCaptureSequence + 1) % 2 ^ 64
    startedMonotonicNs := now
    deadlineMonotonicNs := now + requested.durationLimitMs * 1000000
    deadline := now + requested.durationLimitMs * 1000000
    ranges := requested.pointRanges.map fun range =>
      { range, bits := Bitmap.clear ((range.count + 63) / 64) }
    expectedTotal := (requested.pointRanges.map (·.count)).sum
    sequenceDigest := if requested.mode = .eventSequence then some [] else none
    state := .active
    accepting := true }

/-- The capture cannot be replaced yet. -/
def busy (s : Capture) : Bool :=
  s.state = .active || s.state = .finalizing || s.queue ≠ [] || s.processing

/-- `begin`: a capture that is busy is not replaced. -/
def begin (platform : Platform) (now session : Nat) (requested : CaptureConfig) (s : Capture) :
    Capture × BackendOperationResult :=
  let s := s.expireLocked now
  if s.busy then
    (s, .error { code := .alreadyExecuting, message := "a measurement capture is already active or draining",
                 details := .object [("current", s.snapshotLocked platform now)] })
  else
    let s := s.begun now session requested
    (s, .ok (s.snapshotLocked platform now))

/-- `progress`: the snapshot of the named capture. -/
def progress (platform : Platform) (now : Nat) (reference : CaptureReferenceConfig) (s : Capture) :
    Capture × BackendOperationResult :=
  let s := s.expireLocked now
  match s.validateReferenceLocked platform now reference.captureId with
  | some error => (s, .error error)
  | none => (s, s.resultLocked platform now)

/-- `end` up to its wait; without a reply it is waiting for the queue to drain. -/
def endEnter (platform : Platform) (now : Nat) (reference : CaptureReferenceConfig) (s : Capture) :
    Capture × Option BackendOperationResult :=
  let s := s.expireLocked now
  match s.validateReferenceLocked platform now reference.captureId with
  | some error => (s, some (.error error))
  | none => (if s.state = .active then { s with state := .finalizing, accepting := false } else s, none)

/-- The predicate of the wait in `end`. -/
def drained (s : Capture) : Bool := s.queue = [] && !s.processing

/-- The branches of `end` after its wait; the wait of an undrained capture has run out. -/
def endWait (platform : Platform) (now : Nat) (s : Capture) : Capture :=
  if !s.drained then
    addInvalidReasonLocked
      { s with
        discardedOnAbort := s.discardedOnAbort + s.queue.length
        queue := []
        accepting := false
        state := .aborted
        endedMonotonicNs := now }
      "CAPTURE_DRAIN_TIMEOUT"
  else if s.state = .finalizing then
    { (s.finalizeEventSequenceLocked platform).finalizeStaticSetLocked with
      state := .finalized, endedMonotonicNs := now }
  else if (s.state = .timedOut ∨ s.state = .aborted) ∧ s.endedMonotonicNs = 0 then
    { s with endedMonotonicNs := now }
  else s

/-- `end` from its wait on. -/
def endReturn (platform : Platform) (now : Nat) (s : Capture) : Capture × BackendOperationResult :=
  let s := s.endWait platform now
  let s := if s.state = .timedOut ∨ s.state = .aborted then s.finalizeEventSequenceLocked platform else s
  (s, s.resultLocked platform now)

/-- `abort` has something to abort. -/
def abortable (s : Capture) : Bool := s.state = .active || s.state = .finalizing || s.state = .timedOut

/-- `abort`: a capture that has not ended ends here. -/
def abort (platform : Platform) (now : Nat) (reason : Text) (s : Capture) : Capture × Json :=
  let s :=
    if s.abortable then
      finalizeEventSequenceLocked platform <| addInvalidReasonLocked
        { s with
          accepting := false
          discardedOnAbort := s.discardedOnAbort + s.queue.length
          queue := []
          state := .aborted
          endedMonotonicNs := now }
        reason
    else s
  (s, s.snapshotLocked platform now)

/-- `status`: the snapshot, whatever the state. -/
def status (platform : Platform) (now : Nat) (s : Capture) : Capture × Json :=
  let s := s.expireLocked now
  (s, s.snapshotLocked platform now)

/-- `record_fragment`: counted while the capture accepts its source. -/
def recordFragment (now : Nat) (source : CaptureSource) (receivedAt : Nat) (s : Capture) : Capture :=
  let s := s.expireLocked now
  if !s.accepting || !s.sourceAllowedLocked source then s
  else
    incrementLocked fragmentsTotal (fun s n => { s with fragmentsTotal := n })
      { s with firstFragmentMonotonicNs := some (s.firstFragmentMonotonicNs.getD receivedAt) }

/-- `record_object`: put on the queue, or refused where it is full. -/
def recordObject (now : Nat) (m : CaptureMeasurement) (s : Capture) : Capture :=
  let s := s.expireLocked now
  if !s.accepting || !s.sourceAllowedLocked m.source then s
  else
    let s := s.incrementLocked offeredTotal fun s n => { s with offeredTotal := n }
    if s.config.queueCapacity ≤ s.queue.length then
      (s.incrementLocked queueOverflow fun s n => { s with queueOverflow := n }).addInvalidReasonLocked
        "CAPTURE_QUEUE_OVERFLOW"
    else
      { s with queue := s.queue ++ [m], maxQueueDepth := max s.maxQueueDepth (s.queue.length + 1) }

/-- The worker has popped `m`; a failure to process it is a reason and counts as a lost object. -/
def work (m : CaptureMeasurement) (rest : List CaptureMeasurement) (s : Capture) : Capture :=
  match processLocked m { s with queue := rest, processing := true } with
  | .ok s => { s with processing := false }
  | .error s =>
    { (s.addInvalidReasonLocked "CAPTURE_PROCESSING_FAILURE").incrementLocked queueOverflow
        fun s n => { s with queueOverflow := n } with processing := false }

/-- One round of the worker's loop; an empty queue sends it back to its wait. -/
def run (now : Nat) (s : Capture) : Capture :=
  let s := s.expireLocked now
  match s.queue with
  | [] => s
  | m :: rest => s.work m rest

end Capture

/-- A configuration that `parse_capture_config` accepted. -/
abbrev AcceptedConfig := { config : CaptureConfig // ∃ params, parseCaptureConfig params = .ok config }

/-- A critical section of some thread, with the clock it reads. -/
inductive Action where
  | begin (now session : Nat) (config : AcceptedConfig)
  | recordFragment (now : Nat) (source : CaptureSource) (receivedAt : Nat)
  | recordObject (now : Nat) (m : CaptureMeasurement)
  | run (now : Nat)
  | progress (now : Nat) (reference : CaptureReferenceConfig)
  | endEnter (now : Nat) (reference : CaptureReferenceConfig)
  | endReturn (now : Nat)
  | abort (now : Nat) (reason : Text)
  | status (now : Nat)

/-- The capture and the number of `end` calls that wait for its queue. -/
structure CaptureSystem where
  capture : Capture := {}
  draining : Nat := 0

namespace CaptureSystem

/-- One critical section. An `endReturn` without a waiting `end` is no step. -/
def step (platform : Platform) (y : CaptureSystem) : Action → CaptureSystem
  | .begin now session config => { y with capture := (y.capture.begin platform now session config.val).1 }
  | .recordFragment now source receivedAt => { y with capture := y.capture.recordFragment now source receivedAt }
  | .recordObject now m => { y with capture := y.capture.recordObject now m }
  | .run now => { y with capture := y.capture.run now }
  | .progress now reference => { y with capture := (y.capture.progress platform now reference).1 }
  | .endEnter now reference =>
    let (capture, reply) := y.capture.endEnter platform now reference
    { capture, draining := if reply.isNone then y.draining + 1 else y.draining }
  | .endReturn now =>
    if y.draining = 0 then y
    else { capture := (y.capture.endReturn platform now).1, draining := y.draining - 1 }
  | .abort now reason => { y with capture := (y.capture.abort platform now reason).1 }
  | .status now => { y with capture := (y.capture.status platform now).1 }

/-- A run from the freshly constructed capture, in any interleaving. -/
def runs (platform : Platform) (actions : List Action) : CaptureSystem :=
  actions.foldl (step platform) {}

end CaptureSystem

end EmsDnp3.Native
