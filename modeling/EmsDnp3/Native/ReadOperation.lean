import EmsDnp3.Native.MeasurementCapture
import EmsDnp3.Native.UnsolicitedStore

/-!
# Read tasks

`OpenDnp3ReadSupport.cpp`: the store of IIN observations, the state of one read task and one
call of `execute`. Stack callbacks drive the task, the calling thread waits for it, and any
thread may cancel it. The counters are `std::uint64_t`; no run is long enough to overflow one.
-/

namespace EmsDnp3.Native

def kIinObservationCapacity : Nat := 1024
def kFragmentRecordCapacity : Nat := 4096

/-- Whether a read returns its measurements. -/
inductive ReturnMode where
  | detail
  | summary
deriving DecidableEq, Repr

/-- `return_mode_name` -/
def ReturnMode.name : ReturnMode → String
  | .detail => "detail"
  | .summary => "summary"

/-- The options of a read, with their defaults. -/
structure ReadOptions where
  timeoutMs : Nat := 5000
  maxMeasurements : Nat := 10000
  returnMode : ReturnMode := .detail
deriving DecidableEq

/-! ## Internal indications -/

/-- `IINField` -/
structure IinField where
  lsb : BitVec 8
  msb : BitVec 8
deriving DecidableEq

/-- The indications of one response. -/
structure IinObservation where
  sequence : Nat
  observedMonotonicNs : Nat
  lsb : BitVec 8
  msb : BitVec 8
deriving DecidableEq

/-- `IinStore`: the last observations, and how many were lost. -/
structure IinStore where
  observations : List IinObservation := []
  lastSequence : Nat := 0
  dropped : Nat := 0
deriving DecidableEq

namespace IinStore

/-- The oldest observation makes room. -/
def record (now : Nat) (value : IinField) (s : IinStore) : IinStore :=
  let s := if s.observations.length = kIinObservationCapacity then
      { s with observations := s.observations.tail, dropped := s.dropped + 1 }
    else s
  { s with
    observations := s.observations ++ [⟨s.lastSequence + 1, now, value.lsb, value.msb⟩]
    lastSequence := s.lastSequence + 1 }

/-- What `after` returns: the observations, the total of dropped ones, and how many of the
window are lost. -/
structure Window where
  observations : List IinObservation
  droppedTotal : Nat
  windowDropped : Nat
deriving DecidableEq

/-- The observations behind a sequence number, with those of them that were lost. -/
def after (sequence : Nat) (s : IinStore) : Window :=
  let result := s.observations.filter fun o => sequence < o.sequence
  let windowTotal := if sequence ≤ s.lastSequence then s.lastSequence - sequence else 0
  { observations := result, droppedTotal := s.dropped
    windowDropped := if result.length < windowTotal then windowTotal - result.length else 0 }

end IinStore

/-- The bits of the first octet, lowest first. -/
def kIin1Names2012 : List String :=
  ["BROADCAST", "CLASS1_EVENTS", "CLASS2_EVENTS", "CLASS3_EVENTS", "NEED_TIME", "LOCAL_CONTROL", "DEVICE_TROUBLE",
   "DEVICE_RESTART"]

/-- The bits of the second octet, lowest first. -/
def kIin2Names2012 : List String :=
  ["NO_FUNC_CODE_SUPPORT", "OBJECT_UNKNOWN", "PARAMETER_ERROR", "EVENT_BUFFER_OVERFLOW", "ALREADY_EXECUTING",
   "CONFIG_CORRUPT", "RESERVED_2", "RESERVED_1"]

/-- `byte_hex` -/
def byteHex (b : BitVec 8) : Text := hexPair b.toFin

/-- `"IINn." + std::to_string(bit) + "." + name`, if the bit is set. -/
def iinBit (label : String) (names : List String) (value : BitVec 8) (bit : Nat) : List Json :=
  if value.getLsbD bit then
    [.str (text label ++ decimal bit ++ text "." ++ text (names[bit]?.getD ""))]
  else []

/-- The indications of a window, joined. -/
def iinJson (window : IinStore.Window) : Json :=
  let lsb := window.observations.foldl (fun value o => value ||| o.lsb) 0
  let msb := window.observations.foldl (fun value o => value ||| o.msb) 0
  .object
    [("correlation", .str "master_callback_task_window"), ("lsb", .nat lsb.toNat), ("msb", .nat msb.toNat),
     ("raw_hex", .str (byteHex lsb ++ byteHex msb)),
     ("bits", .arr ((List.range 8).flatMap fun bit =>
       iinBit "IIN1." kIin1Names2012 lsb bit ++ iinBit "IIN2." kIin2Names2012 msb bit)),
     ("observations", .arr (window.observations.map fun o => .object
       [("sequence", .nat o.sequence), ("observed_monotonic_ns", .nat o.observedMonotonicNs), ("lsb", .nat o.lsb.toNat),
        ("msb", .nat o.msb.toNat), ("raw_hex", .str (byteHex o.lsb ++ byteHex o.msb))])),
     ("observation_store_dropped_total", .nat window.droppedTotal),
     ("observation_window_dropped", .nat window.windowDropped),
     ("observation_store_capacity", .nat kIinObservationCapacity)]

/-! ## The task -/

/-- A fragment of the response; `ended` is the time of its end. -/
structure FragmentRecord where
  fragmentIndex : Nat
  source : CaptureSource
  fir : Bool
  fin : Bool
  beginMonotonicNs : Nat
  ended : Option Nat := none

/-- A fragment record as the reply lists it. -/
def FragmentRecord.json (f : FragmentRecord) : Json :=
  .object <|
    [("fragment_index", .nat f.fragmentIndex), ("source", .str f.source.name), ("fir", .bool f.fir),
     ("fin", .bool f.fin), ("begin_monotonic_ns", .nat f.beginMonotonicNs), ("ended", .bool f.ended.isSome)] ++
    match f.ended with
    | some at_ => [("end_monotonic_ns", .nat at_)]
    | none => []

/-- `ReadOperation`: one read task and what it has received. -/
structure ReadOperation where
  taskId : Nat
  options : ReadOptions
  iinStartSequence : Nat
  submittedMonotonicNs : Nat
  hasCapture : Bool := true
  started : Bool := false
  done : Bool := false
  waitTimedOut : Bool := false
  destroyed : Bool := false
  pendingCompletion : Option TaskCompletion := none
  completion : Option TaskCompletion := none
  startedMonotonicNs : Option Nat := none
  completedMonotonicNs : Option Nat := none
  firstFragmentMonotonicNs : Option Nat := none
  firstObjectMonotonicNs : Option Nat := none
  lastObjectMonotonicNs : Option Nat := none
  fragmentCount : Nat := 0
  currentFragmentIndex : Nat := 0
  currentUnsolicited : Bool := false
  currentFragmentRecorded : Bool := false
  fragments : List FragmentRecord := []
  measurements : List Json := []
  receivedTotal : Nat := 0
  overflow : Nat := 0
  fragmentOverflow : Nat := 0
  firstReceiveSequence : Option Nat := none
  lastReceiveSequence : Option Nat := none
  byKind : Counts Text := []
  byGroupVariation : Counts Text := []

namespace ReadOperation

def finalizeLocked (now : Nat) (completion : TaskCompletion) (op : ReadOperation) : ReadOperation :=
  { op with completion := some completion, completedMonotonicNs := some now, done := true }

def markStarted (now : Nat) (op : ReadOperation) : ReadOperation :=
  if op.started then op else { op with started := true, startedMonotonicNs := some now }

/-- A response that came is finalized only after its IIN. -/
def markComplete (now : Nat) (completion : TaskCompletion) (op : ReadOperation) : ReadOperation :=
  if op.done then op
  else
    let op := { op with pendingCompletion := some completion }
    if completion ≠ .success ∧ completion ≠ .failureBadResponse then op.finalizeLocked now completion else op

/-- The response is final once its indications were processed. -/
def finalizeResponseAfterIin (now : Nat) (op : ReadOperation) : ReadOperation :=
  match op.done, op.pendingCompletion with
  | false, some pending => op.finalizeLocked now pending
  | _, _ => op

/-- A task that is destroyed without a pending completion has failed. -/
def markDestroyed (now : Nat) (op : ReadOperation) : ReadOperation :=
  let op := { op with destroyed := true }
  if !op.done ∧ op.pendingCompletion = none then op.finalizeLocked now .failureNoComms else op

/-- A cancelled task has failed, whatever was pending. -/
def cancel (now : Nat) (op : ReadOperation) : ReadOperation :=
  let op := { op with destroyed := true }
  if !op.done then finalizeLocked now .failureNoComms { op with pendingCompletion := none } else op

def sourceOf (unsolicited : Bool) : CaptureSource := if unsolicited then .unsolicited else .solicited

/-- `begin_fragment`: counted, recorded while there is room, and shown to the capture. -/
def beginFragment (now : Nat) (info : ResponseInfo) (op : ReadOperation) : ReadOperation × List CaptureCall :=
  let op := { op with
    firstFragmentMonotonicNs := some (op.firstFragmentMonotonicNs.getD now)
    currentFragmentIndex := op.fragmentCount
    fragmentCount := op.fragmentCount + 1
    currentUnsolicited := info.unsolicited
    currentFragmentRecorded := decide (op.fragments.length < kFragmentRecordCapacity) }
  let calls : List CaptureCall := if op.hasCapture then [.fragment (sourceOf info.unsolicited) now] else []
  if !op.currentFragmentRecorded then ({ op with fragmentOverflow := op.fragmentOverflow + 1 }, calls)
  else
    ({ op with fragments := op.fragments ++
        [{ fragmentIndex := op.currentFragmentIndex, source := sourceOf info.unsolicited, fir := info.fir, fin := info.fin
           beginMonotonicNs := now }] }, calls)

/-- `fragments_.back()` has ended. -/
def endLast (now : Nat) : List FragmentRecord → List FragmentRecord
  | [] => []
  | [f] => [{ f with ended := some now }]
  | f :: rest => f :: endLast now rest

def endFragment (now : Nat) (op : ReadOperation) : ReadOperation :=
  let op := if op.currentFragmentRecorded then { op with fragments := endLast now op.fragments } else op
  { op with currentFragmentRecorded := false }

/-- The record of a measurement, with what the measurement adds at the end. -/
def measurementJson (receiveSequence receivedAt : Nat) (info : HeaderInfo) (r : Reading) (unsolicited : Bool)
    (fragment : Nat) : Json :=
  .object <|
    [("receive_seq", .nat receiveSequence), ("received_monotonic_ns", .nat receivedAt)]
      ++ measurementFields info r (sourceOf unsolicited) fragment ++ r.extra

/-- `record`, with the receive sequence that `fetch_add` gave it. -/
def record (receiveSequence now : Nat) (info : HeaderInfo) (r : Reading) (op : ReadOperation) :
    ReadOperation × List CaptureCall :=
  let calls : List CaptureCall :=
    if op.hasCapture then
      [.object ⟨sourceOf op.currentUnsolicited, r.kind, info.group, info.variation, r.index, r.value, now⟩]
    else []
  let op := { op with
    firstObjectMonotonicNs := some (op.firstObjectMonotonicNs.getD now)
    lastObjectMonotonicNs := some now
    receivedTotal := op.receivedTotal + 1
    byKind := op.byKind.increment (text r.kind)
    byGroupVariation := op.byGroupVariation.increment (UnsolicitedStore.groupVariationKey info)
    firstReceiveSequence := some (op.firstReceiveSequence.getD receiveSequence)
    lastReceiveSequence := some receiveSequence }
  if op.options.maxMeasurements < op.receivedTotal then ({ op with overflow := op.overflow + 1 }, calls)
  else if op.options.returnMode = .summary then (op, calls)
  else
    ({ op with measurements := op.measurements ++
        [measurementJson receiveSequence now info r op.currentUnsolicited op.currentFragmentIndex] }, calls)

/-- The end of `wait_for_completion`: what the predicate of the wait says then. -/
def waitEnded (op : ReadOperation) : ReadOperation := { op with waitTimedOut := op.waitTimedOut || !op.done }

def durationNs (completedAt : Nat) (op : ReadOperation) : Nat :=
  if op.submittedMonotonicNs ≤ completedAt then completedAt - op.submittedMonotonicNs else 0

/-- The counters of the reply. -/
def summaryJson (op : ReadOperation) : Json :=
  .object
    [("received_total", .nat op.receivedTotal), ("stored_detail", .nat op.measurements.length),
     ("overflow", .nat op.overflow), ("fragments_received", .nat op.fragmentCount),
     ("fragments_stored", .nat op.fragments.length), ("fragment_overflow", .nat op.fragmentOverflow),
     ("max_fragments", .nat kFragmentRecordCapacity), ("max_measurements", .nat op.options.maxMeasurements),
     ("first_receive_seq", .ofOption .nat op.firstReceiveSequence),
     ("last_receive_seq", .ofOption .nat op.lastReceiveSequence), ("by_kind", countsJson op.byKind),
     ("by_group_variation", countsJson op.byGroupVariation)]

/-- The times of the reply. -/
def timingsJson (platform : Platform) (completedAt : Nat) (op : ReadOperation) : Json :=
  .object
    [("submitted_monotonic_ns", .nat op.submittedMonotonicNs),
     ("started_monotonic_ns", .ofOption .nat op.startedMonotonicNs),
     ("first_fragment_monotonic_ns", .ofOption .nat op.firstFragmentMonotonicNs),
     ("first_object_monotonic_ns", .ofOption .nat op.firstObjectMonotonicNs),
     ("last_object_monotonic_ns", .ofOption .nat op.lastObjectMonotonicNs), ("completed_monotonic_ns", .nat completedAt),
     ("duration_ms", .float (platform.durationMs (op.durationNs completedAt)))]

/-- The reply of a read that ended. -/
def resultJson (platform : Platform) (now : Nat) (window : IinStore.Window) (completion : TaskCompletion)
    (op : ReadOperation) : Json :=
  let completedAt := op.completedMonotonicNs.getD now
  .object
    [("task_id", .nat op.taskId), ("task_status", .str completion.name), ("task_started", .bool op.started),
     ("task_destroyed", .bool op.destroyed), ("return_mode", .str op.options.returnMode.name),
     ("measurements", .arr op.measurements), ("summary", op.summaryJson),
     ("fragments", .arr (op.fragments.map (·.json))), ("iin", iinJson window),
     ("timings", op.timingsJson platform completedAt)]

/-- What `wait` returns. -/
def outcome (platform : Platform) (now : Nat) (window : IinStore.Window) (op : ReadOperation) : BackendOperationResult :=
  match op.completion with
  | none => timedOut
  | some completion =>
    if op.waitTimedOut || !op.done then timedOut
    else
      let result := op.resultJson platform now window completion
      if 0 < op.overflow ∨ 0 < op.fragmentOverflow ∨ 0 < window.windowDropped then
        .error { code := .queueOverflow, message := "read result metadata exceeded a bounded collection capacity",
                 details := .object [("task_id", .nat op.taskId), ("overflow", .nat op.overflow),
                   ("fragment_overflow", .nat op.fragmentOverflow),
                   ("iin_observation_window_dropped", .nat window.windowDropped), ("operation_result", result)] }
      else if completion = .success then .ok result
      else
        .error { code := if completion = .failureResponseTimeout then .responseTimeout else .taskFailed
                 message := "DNP3 read task did not complete successfully"
                 details := .object [("task_id", .nat op.taskId), ("task_status", .str completion.name),
                   ("operation_result", result)] }
where
  timedOut : BackendOperationResult :=
    .error { code := .responseTimeout, message := "DNP3 read task did not complete before the configured deadline",
             details := .object [("task_id", .nat op.taskId), ("timeout_ms", .nat op.options.timeoutMs),
               ("task_started", .bool op.started), ("received_total", .nat op.receivedTotal)] }

end ReadOperation

end EmsDnp3.Native
