import EmsDnp3.Base.Ring
import EmsDnp3.Base.Utf8
import EmsDnp3.Native.Models

/-!
# The protocol trace

`ProtocolTrace.cpp`: a bounded queue of stack log records. Log callbacks copy bounded text
into a preallocated ring, and a full ring loses its oldest record; request threads start, read
and stop a trace. All of them hold one mutex, so a run is a sequence of critical sections
(`TraceAction`); a `read` that finds nothing gives the mutex up while it waits, and its return is
a critical section of its own.
-/

namespace EmsDnp3.Native

/-! ## Bounded copies -/

/-- A string that ends at its first NUL. -/
structure CString where
  bytes : List Byte
  noNul : ∀ b ∈ bytes, b ≠ Byte.ofNat 0

/-- The length of the UTF-8 sequence that `first` announces. -/
def sequenceLength (first : Byte) : Nat :=
  if 0xC2 ≤ first.val ∧ first.val ≤ 0xDF then 2
  else if 0xE0 ≤ first.val ∧ first.val ≤ 0xEF then 3
  else if 0xF0 ≤ first.val ∧ first.val ≤ 0xF4 then 4
  else 1

/-- The test of `source[read + index]`; past the end stands the NUL. -/
def continuesAt (first : Byte) (rest : List Byte) (index : Nat) : Bool :=
  let next := rest.getD (index - 1) (Byte.ofNat 0)
  (0x80 ≤ next.val && next.val ≤ 0xBF) &&
    (index ≠ 1 || (!(first.val = 0xE0 && next.val < 0xA0) && !(first.val = 0xED && 0xA0 ≤ next.val)
      && !(first.val = 0xF0 && next.val < 0x90) && !(first.val = 0xF4 && 0x90 ≤ next.val)))

/-- A valid sequence stands at the head of `first :: rest`. -/
def validSequence (first : Byte) (rest : List Byte) : Bool :=
  let length := sequenceLength first
  (first.val < 0x80 || 1 < length) && (List.range' 1 (length - 1)).all (continuesAt first rest)

/-- The loop of `copy_utf8`; a round consumes at least one byte. -/
def copyLoop (maximum : Nat) : Nat → List Byte → List Byte → Bool → List Byte × Bool
  | 0, _, target, changed => (target, changed)
  | _ + 1, [], target, changed => (target, changed)
  | fuel + 1, first :: rest, target, changed =>
    let length := sequenceLength first
    if !validSequence first rest then
      if target.length = maximum then (target, true)
      else copyLoop maximum fuel rest (target ++ [Byte.ofNat 0x3F]) true
    else if maximum - target.length < length then (target, true)
    else copyLoop maximum fuel ((first :: rest).drop length) (target ++ (first :: rest).take length) changed

/-- `copy_utf8`: the copy, and whether it differs from the source. -/
def copyUtf8 (source : Option CString) (maximum : Nat) : List Byte × Bool :=
  match source with
  | none => ([], true)
  | some source => copyLoop maximum source.bytes.length source.bytes [] false

def levelNames : List String :=
  ["EVENT", "ERR", "WARN", "INFO", "DBG", "LINK_RX", "LINK_RX_HEX", "LINK_TX", "LINK_TX_HEX", "TRANSPORT_RX",
   "TRANSPORT_TX", "APP_HEADER_RX", "APP_HEADER_TX", "APP_OBJECT_RX", "APP_OBJECT_TX", "APP_HEX_RX", "APP_HEX_TX"]

/-- `level_name` -/
def levelName (level : Int) : String :=
  match levelNames.zipIdx.find? fun name => level = 2 ^ name.2 with
  | some name => name.1
  | none => "OTHER"

/-! ## State -/

/-- A trace record. -/
structure Record where
  sequence : Nat := 0
  sessionId : Nat := 0
  monotonicNs : Nat := 0
  logger : List Byte := []
  level : String := "OTHER"
  message : List Byte := []
  messageTruncated : Bool := false
deriving DecidableEq

/-- The trace that was started last. -/
structure Trace where
  traceId : Text
  ring : Ring Record
  dropped : Nat := 0
  truncated : Nat := 0
  sequence : Nat := 0
  active : Bool := true

/-- Before the first start there is no trace: `trace_id_` is empty. -/
structure ProtocolTrace where
  nextTrace : Nat := 0
  trace : Option Trace := none

/-- What `status` shows of a trace. -/
structure Snapshot where
  traceId : Option Text
  state : String
  capacity : Nat
  queued : Nat
  dropped : Nat
  truncated : Nat
  sequence : Nat
deriving DecidableEq

/-- The snapshot of a trace. -/
def Trace.snapshotLocked (t : Trace) : Snapshot where
  traceId := t.traceId
  state := if t.active then "ACTIVE" else "STOPPED"
  capacity := t.ring.capacity
  queued := t.ring.queued
  dropped := t.dropped
  truncated := t.truncated
  sequence := t.sequence

/-- Without a trace an idle one is shown. -/
def ProtocolTrace.snapshotLocked (p : ProtocolTrace) : Snapshot :=
  match p.trace with
  | some t => t.snapshotLocked
  | none => ⟨none, "IDLE", 16384, 0, 0, 0, 0⟩

/-- The members of a serialized snapshot. -/
def Snapshot.members (s : Snapshot) : List (String × Json) :=
  [("trace_id", .ofOption .str s.traceId), ("state", .str s.state), ("scope", .str "opendnp3_stack"),
   ("queue_capacity", .nat s.capacity), ("queued_records", .nat s.queued), ("dropped_records", .nat s.dropped),
   ("truncated_records", .nat s.truncated), ("last_sequence", .nat s.sequence),
   ("complete", .bool (s.dropped = 0 && s.truncated = 0))]

def serialize (s : Snapshot) : Json := .object s.members

/-- `invalid_state` -/
def traceInvalidState (reason : String) : BackendError :=
  ⟨.invalidState, "protocol trace operation is not allowed", .object [("reason", .str reason)]⟩

def uint64Max : Nat := 2 ^ 64 - 1

/-! ## Operations -/

/-- What a read takes out. -/
structure ReadResult where
  snapshot : Snapshot
  selected : List Record

/-- A string member; `dump` throws on one that is not UTF-8. -/
def string? (bytes : List Byte) : Option Json := (Utf8.decode bytes).map .str

/-- A record as it is written, where its texts can be. -/
def Record.json? (r : Record) : Option Json := do
  let logger ← string? r.logger
  let message ← string? r.message
  return .object [("sequence", .nat r.sequence), ("session_id", .nat r.sessionId), ("monotonic_ns", .nat r.monotonicNs),
    ("logger", logger), ("level", .str r.level), ("message", message), ("message_truncated", .bool r.messageTruncated)]

/-- The result object of a read. -/
def ReadResult.json? (r : ReadResult) : Option Json := do
  let records ← r.selected.mapM (·.json?)
  return .object (r.snapshot.members ++ [("records", .arr records), ("timed_out", .bool r.selected.isEmpty)])

/-- One record more in a running trace. -/
def Trace.append (r : Record) (t : Trace) : Trace :=
  { t with
    ring := t.ring.push r
    dropped := if t.ring.queued = t.ring.capacity ∧ t.dropped ≠ uint64Max then t.dropped + 1 else t.dropped
    sequence := r.sequence
    truncated := if r.messageTruncated ∧ t.truncated ≠ uint64Max then t.truncated + 1 else t.truncated }

namespace ProtocolTrace

/-- `start` -/
def start (queueCapacity : Nat) (p : ProtocolTrace) : BackendOperationResult × ProtocolTrace :=
  if valid : queueCapacity = 0 ∨ 65536 < queueCapacity then
    (.error ⟨.invalidRequest, "trace queue capacity is out of range", .object []⟩, p)
  else if p.trace.any (·.active) then (.error (traceInvalidState "trace_already_active"), p)
  else if p.trace.any (·.ring.queued ≠ 0) then (.error (traceInvalidState "unread_trace_records"), p)
  else if p.nextTrace = uint64Max then (.error (traceInvalidState "trace_id_exhausted"), p)
  else
    let t : Trace :=
      { traceId := text "trace-" ++ decimal (p.nextTrace + 1)
        ring := .make queueCapacity (by omega) {} }
    let p := { nextTrace := p.nextTrace + 1, trace := some t }
    (.ok (serialize p.snapshotLocked), p)

/-- The record of a log line. -/
def makeRecord (sequence : Nat) (sessionId : UInt64) (logger : Option CString) (level : Int) (message : Option CString)
    (now : UInt64) : Record where
  sequence := sequence
  sessionId := sessionId.toNat
  monotonicNs := now.toNat
  level := levelName level
  logger := (copyUtf8 logger 128).1
  message := (copyUtf8 message 1024).1
  messageTruncated := (copyUtf8 logger 128).2 || (copyUtf8 message 1024).2

/-- `record`: a log line of a session. A sequence that cannot advance is loss without measure. -/
def record (sessionId : UInt64) (logger : Option CString) (level : Int) (message : Option CString) (now : UInt64)
    (p : ProtocolTrace) : ProtocolTrace :=
  match p.trace with
  | none => p
  | some t =>
    if !t.active || sessionId = 0 then p
    else if t.sequence = uint64Max then { p with trace := some { t with dropped := uint64Max } }
    else { p with trace := some (t.append (makeRecord (t.sequence + 1) sessionId logger level message now)) }

/-- `stop` -/
def stop (traceId : Text) (p : ProtocolTrace) : BackendOperationResult × ProtocolTrace :=
  match p.trace with
  | none => (.error (traceInvalidState "unknown_trace_id"), p)
  | some t =>
    if traceId ≠ t.traceId then (.error (traceInvalidState "unknown_trace_id"), p)
    else
      let p := { p with trace := some { t with active := false } }
      (.ok (serialize p.snapshotLocked), p)

/-- `shutdown` -/
def shutdown (p : ProtocolTrace) : ProtocolTrace :=
  { p with trace := p.trace.map fun t => { t with active := false } }

/-- The part of `read` behind the wait: the oldest records and the state without them. -/
def take (maxRecords : Nat) (p : ProtocolTrace) : ReadResult × ProtocolTrace :=
  match p.trace with
  | none => (⟨p.snapshotLocked, []⟩, p)
  | some t =>
    let (selected, ring) := t.ring.takeFront (min t.ring.queued maxRecords)
    let t := { t with ring }
    (⟨t.snapshotLocked, selected⟩, { p with trace := some t })

/-- The part of `read` before the wait: an error, or whether it has to wait. -/
def enterRead (traceId : Text) (maxRecords timeoutMs : Nat) (p : ProtocolTrace) : Except BackendError Bool :=
  if maxRecords = 0 ∨ 1024 < maxRecords ∨ 60000 < timeoutMs then
    .error ⟨.invalidRequest, "trace read bounds are invalid", .object []⟩
  else
    match p.trace with
    | none => .error (traceInvalidState "unknown_trace_id")
    | some t =>
      if traceId ≠ t.traceId then .error (traceInvalidState "unknown_trace_id")
      else .ok (t.ring.queued = 0 && t.active && 0 < timeoutMs)

end ProtocolTrace

/-! ## Runs -/

/-- A critical section. -/
inductive TraceAction where
  | start (queueCapacity : Nat)
  | record (sessionId : UInt64) (logger : Option CString) (level : Int) (message : Option CString) (now : UInt64)
  | read (traceId : Text) (maxRecords timeoutMs : Nat)
  /-- The wait of a read ends: something was queued, the trace was stopped, or time is up. -/
  | wake (maxRecords : Nat)
  | stop (traceId : Text)
  | shutdown

/-- The trace, and the bounds of the reads that wait. -/
structure TraceHost where
  trace : ProtocolTrace := {}
  waiting : List Nat := []

/-- One critical section, and the result of a read that ends with it. -/
def TraceHost.step (a : TraceAction) (h : TraceHost) : TraceHost × Option ReadResult :=
  match a with
  | .start queueCapacity => ({ h with trace := (h.trace.start queueCapacity).2 }, none)
  | .record sessionId logger level message now =>
    ({ h with trace := h.trace.record sessionId logger level message now }, none)
  | .read traceId maxRecords timeoutMs =>
    match h.trace.enterRead traceId maxRecords timeoutMs with
    | .error _ => (h, none)
    | .ok true => ({ h with waiting := maxRecords :: h.waiting }, none)
    | .ok false =>
      let (result, trace) := h.trace.take maxRecords
      ({ h with trace }, some result)
  | .wake maxRecords =>
    if maxRecords ∈ h.waiting then
      let (result, trace) := h.trace.take maxRecords
      ({ trace, waiting := h.waiting.erase maxRecords }, some result)
    else (h, none)
  | .stop traceId => ({ h with trace := (h.trace.stop traceId).2 }, none)
  | .shutdown => ({ h with trace := h.trace.shutdown }, none)

end EmsDnp3.Native
