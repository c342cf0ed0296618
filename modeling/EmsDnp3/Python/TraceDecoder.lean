import EmsDnp3.Python.TraceApplication

/-!
# The trace decoder

`TraceDecoder` of `trace.py`: one per trace, fed with every read result in order. Link
records are collected into frames by session, direction and logger, and the transport
segments of the frames into application fragments by session, direction and addresses.
`decode_batch` checks its whole argument before it changes the decoder.
-/

namespace EmsDnp3.Python

/-- A category of `_issues`. -/
inductive Issue where
  | droppedRecords
  | truncatedRecords
  | recordSequenceGap
  | incompleteLinkFrame
  | incompleteTransportFragment
  | invalidLinkHex
  | orphanLinkHex
  | linkRouteLimit
  | invalidLinkHexLength
  | link (error : LinkError)
  | transportRestartBeforeFin
  | transportRouteLimit
  | orphanTransportSegment
  | transportSequenceGap
  | transportReassemblyLimit
  | application (category : AppCategory)
deriving DecidableEq, Repr

/-- What octets of one frame have in common. -/
structure LinkKey where
  sessionId : Nat
  direction : Direction
  logger : Text
deriving DecidableEq

/-- What segments of one fragment have in common. -/
structure Route where
  sessionId : Nat
  direction : Direction
  source : Nat
  destination : Nat
deriving DecidableEq

/-- A fragment under way. -/
structure TransportPending where
  nextSequence : Nat
  data : List Byte := []
  frames : List Nat := []
deriving DecidableEq

abbrev Links := AList fun _ : LinkKey => LinkPending

abbrev Transports := AList fun _ : Route => TransportPending

/-- `TraceDecoder`. -/
structure TraceDecoder where
  traceId : Option Text := none
  lastSequence : Nat := 0
  lastSummary : Option TraceSummary := none
  issues : List Issue := []
  links : Links := ∅
  transports : Transports := ∅

/-- What a batch is decoded to. -/
structure TraceBatch where
  summary : TraceSummary
  records : List TraceRecord
  frames : List TraceFrame
  applications : List TraceApplication
  timedOut : Bool
  issues : List Issue
  complete : Bool

def maxApdu : Nat := 65536
def maxRoutes : Nat := 16
def maxSegments : Nat := 1024

namespace TraceDecoder

/-- `_issue` -/
def issue (value : Issue) (d : TraceDecoder) : TraceDecoder :=
  if value ∈ d.issues then d else { d with issues := d.issues ++ [value] }

/-- `_clear_pending` -/
def clearPending (d : TraceDecoder) : TraceDecoder := { d with links := ∅, transports := ∅ }

/-- The key under which the records of one frame are collected. -/
def linkKey (record : TraceRecord) : LinkKey := ⟨record.sessionId, record.hexDirection, record.logger⟩

/-- A pending frame with one more record: complete, or kept for the next. -/
def advanceLink (record : TraceRecord) (pending : LinkPending) (d : TraceDecoder) :
    TraceDecoder × Option TraceFrame :=
  if pending.data.length ≠ pending.expected then
    ({ d with links := d.links.insert (linkKey record) pending }, none)
  else
    let d := { d with links := d.links.erase (linkKey record) }
    let frame := linkFrame pending record
    match frame.decodeError with
    | some error => (d.issue (.link error), some frame)
    | none => (d, some frame)

/-- A chunk that can start a frame. -/
def isFrameStart (chunk : List Byte) : Bool :=
  chunk.length = 10 && (byteAt chunk 0).val = 0x05 && (byteAt chunk 1).val = 0x64 && 5 ≤ (byteAt chunk 2).val

/-- `_consume_link` -/
def consumeLink (record : TraceRecord) (d : TraceDecoder) : TraceDecoder × Option TraceFrame :=
  let key := linkKey record
  match linkHex? record.message with
  | none => ({ d.issue .invalidLinkHex with links := d.links.erase key }, none)
  | some chunk =>
    match d.links.lookup key with
    | none =>
      if !isFrameStart chunk then (d.issue .orphanLinkHex, none)
      else if maxRoutes ≤ d.links.entries.length then (d.issue .linkRouteLimit, none)
      else d.advanceLink record ⟨record, expectedSize (byteAt chunk 2), chunk⟩
    | some pending =>
      if chunk.length ≠ min 18 (pending.expected - pending.data.length) then
        ({ d.issue .invalidLinkHexLength with links := d.links.erase key }, none)
      else d.advanceLink record { pending with data := pending.data ++ chunk }

def route (frame : TraceFrame) : Route := ⟨frame.sessionId, frame.direction, frame.link.source, frame.link.destination⟩

/-- A segment for the fragment `pending` of its route. -/
def appendSegment (frame : TraceFrame) (header : TransportHeader) (pending : TransportPending) (d : TraceDecoder) :
    TraceDecoder × Option TraceApplication :=
  let key := route frame
  let payload := frame.payload.drop 1
  if pending.nextSequence ≠ header.sequence then
    ({ d.issue .transportSequenceGap with transports := d.transports.erase key }, none)
  else if maxApdu < pending.data.length + payload.length ∨ maxSegments ≤ pending.frames.length then
    ({ d.issue .transportReassemblyLimit with transports := d.transports.erase key }, none)
  else
    let pending : TransportPending :=
      { nextSequence := (header.sequence + 1) % 64
        data := pending.data ++ payload
        frames := pending.frames ++ [frame.firstSequence] }
    if !header.fin then ({ d with transports := d.transports.insert key pending }, none)
    else
      let app := decodeApplication pending.data frame.sessionId frame.direction pending.frames
      let d := { d with transports := d.transports.erase key }
      match app.decodeError with
      | some error => (d.issue (.application error.category), some app)
      | none => (d, some app)

/-- `_consume_transport`; a first segment replaces what its route had pending. -/
def consumeTransport (frame : TraceFrame) (d : TraceDecoder) : TraceDecoder × Option TraceApplication :=
  let key := route frame
  if frame.decodeError.isSome then ({ d with transports := d.transports.erase key }, none)
  else
    match frame.transport with
    | none => (d, none)
    | some header =>
      match d.transports.lookup key with
      | some pending =>
        if header.fir then
          (d.issue .transportRestartBeforeFin).appendSegment frame header { nextSequence := header.sequence }
        else d.appendSegment frame header pending
      | none =>
        if header.fir then
          if maxRoutes ≤ d.transports.entries.length then (d.issue .transportRouteLimit, none)
          else d.appendSegment frame header { nextSequence := header.sequence }
        else (d.issue .orphanTransportSegment, none)

/-- What one record adds to the batch. -/
structure Emitted where
  frame : Option TraceFrame := none
  application : Option TraceApplication := none

/-- The body of the loop over the records. -/
def consume (record : TraceRecord) (d : TraceDecoder) : TraceDecoder × Emitted :=
  let d := if record.sequence ≠ d.lastSequence + 1 then (d.issue .recordSequenceGap).clearPending else d
  let d := { d with lastSequence := record.sequence }
  if record.messageTruncated then ((d.issue .truncatedRecords).clearPending, {})
  else if record.level ≠ .linkRxHex ∧ record.level ≠ .linkTxHex then (d, {})
  else
    match d.consumeLink record with
    | (d, none) => (d, {})
    | (d, some frame) =>
      let (d, application) := d.consumeTransport frame
      (d, { frame := some frame, application })

/-- The loop over the records. -/
def consumeAll (d : TraceDecoder) : List TraceRecord → TraceDecoder × List Emitted
  | [] => (d, [])
  | record :: rest =>
    let (d, emitted) := d.consume record
    let (d, more) := d.consumeAll rest
    (d, emitted :: more)

/-- The loss counters of a new summary: a change clears what is pending. -/
def noteLoss (counter : TraceSummary → Nat) (value : Issue) (summary : TraceSummary) (d : TraceDecoder) :
    TraceDecoder :=
  if counter summary = 0 then d
  else
    let d := d.issue value
    if d.lastSummary.map counter ≠ some (counter summary) then d.clearPending else d

/-- The end of a batch: the consumed boundary, and the drained end of a stopped trace. -/
def finishBatch (summary : TraceSummary) (d : TraceDecoder) : TraceDecoder :=
  let d :=
    if (d.lastSequence : Int) ≠ summary.lastSequence - summary.queuedRecords then
      (d.issue .recordSequenceGap).clearPending
    else d
  let d :=
    if summary.state = .stopped ∧ summary.queuedRecords = 0 then
      let d := if d.links.entries ≠ [] then d.issue .incompleteLinkFrame else d
      let d := if d.transports.entries ≠ [] then d.issue .incompleteTransportFragment else d
      d.clearPending
    else d
  { d with lastSummary := some summary }

/-- `decode_batch` on checked arguments. -/
def decodeRecords (summary : TraceSummary) (records : List TraceRecord) (timedOut : Bool) (d : TraceDecoder) :
    TraceDecoder × TraceBatch :=
  let d := { d with traceId := summary.traceId }
  let d := d.noteLoss (·.droppedRecords) .droppedRecords summary
  let d := d.noteLoss (·.truncatedRecords) .truncatedRecords summary
  let (d, emitted) := d.consumeAll records
  let d := d.finishBatch summary
  (d, { summary, records, timedOut
        frames := emitted.filterMap (·.frame)
        applications := emitted.filterMap (·.application)
        issues := d.issues
        complete := summary.complete && d.issues.isEmpty })

end TraceDecoder

def summaryKeys : List String :=
  ["trace_id", "state", "scope", "queue_capacity", "queued_records", "dropped_records", "truncated_records",
   "last_sequence", "complete"]

/-- `data["records"]` as an array of at most 1024 records. -/
def readRecords (value : Json) : Except ValueError (List TraceRecord) :=
  match value with
  | .arr items =>
    if 1024 < items.length then .error "trace records must be an array of at most 1024 entries"
    else items.mapM TraceRecord.fromDict
  | _ => .error "trace records must be an array of at most 1024 entries"

/-- The parts of a batch that `decode_batch` checks without its own state. -/
def readBatch (value : Json) : Except ValueError (TraceSummary × List TraceRecord × Bool) := do
  fields value (summaryKeys ++ ["records", "timed_out"]) "trace batch"
  let summary ← TraceSummary.fromDict value
  rejectIf (summary.state = .idle) "cannot decode an IDLE trace"
  let records ← readRecords (member value "records")
  let timedOut ← boolean (member value "timed_out") "timed_out"
  rejectIf (timedOut ≠ records.isEmpty) "timed_out must equal absence of records"
  rejectIf ((records.isEmpty && summary.queuedRecords ≠ 0)
      || summary.lastSequence < records.length + summary.queuedRecords)
    "trace batch record counts are inconsistent"
  rejectIf (records.any fun r => summary.lastSequence < r.sequence) "record sequence exceeds trace summary"
  rejectIf ((records.any fun r => r.messageTruncated) && summary.truncatedRecords = 0)
    "record truncation disagrees with summary"
  return (summary, records, timedOut)

/-- The checks of a summary against the previous one. -/
def checkPrevious (previous : Option TraceSummary) (summary : TraceSummary) : Except ValueError Unit :=
  match previous with
  | none => .ok ()
  | some previous => do
    rejectIf (summary.queueCapacity ≠ previous.queueCapacity) "trace queue_capacity changed"
    rejectIf (summary.droppedRecords < previous.droppedRecords) "trace dropped_records decreased"
    rejectIf (summary.truncatedRecords < previous.truncatedRecords) "trace truncated_records decreased"
    rejectIf (summary.lastSequence < previous.lastSequence) "trace last_sequence decreased"
    rejectIf (previous.state = .stopped && summary.state ≠ .stopped) "stopped trace became active"

/-- `decode_batch`: a `ValueError`, or the new decoder and the batch. -/
def TraceDecoder.decodeBatch (value : Json) (d : TraceDecoder) : Except ValueError (TraceDecoder × TraceBatch) := do
  let (summary, records, timedOut) ← readBatch value
  rejectIf (d.traceId.isSome && d.traceId ≠ summary.traceId) "trace_id changed; reset the decoder for a new trace"
  checkPrevious d.lastSummary summary
  return d.decodeRecords summary records timedOut

/-- `decode_batch` on one value after the other; the first `ValueError` ends it. -/
def TraceDecoder.decodeBatches (d : TraceDecoder) : List Json → Except ValueError (TraceDecoder × List TraceBatch)
  | [] => .ok (d, [])
  | value :: rest => do
    let (d, batch) ← d.decodeBatch value
    let (d, batches) ← d.decodeBatches rest
    return (d, batch :: batches)

/-! ## Batches of the host -/

/-- A read result of the host as JSON. -/
def batchValue (s : TraceSummary) (records : List TraceRecord) : Json :=
  .object [("trace_id", .ofOption .str s.traceId), ("state", .str s.state.name), ("scope", .str "opendnp3_stack"),
    ("queue_capacity", .nat s.queueCapacity), ("queued_records", .nat s.queuedRecords),
    ("dropped_records", .nat s.droppedRecords), ("truncated_records", .nat s.truncatedRecords),
    ("last_sequence", .nat s.lastSequence), ("complete", .bool s.complete),
    ("records", .arr (records.map (·.toDict))), ("timed_out", .bool records.isEmpty)]

/-- A batch whose counters agree with each other and with its records. -/
structure BatchValid (s : TraceSummary) (records : List TraceRecord) : Prop where
  summary : s.Valid
  each : ∀ r ∈ records, r.Valid
  few : records.length ≤ 1024
  drained : records = [] → s.queuedRecords = 0
  counted : records.length + s.queuedRecords ≤ s.lastSequence
  inRange : ∀ r ∈ records, r.sequence ≤ s.lastSequence
  truncated : (∃ r ∈ records, r.messageTruncated = true) → s.truncatedRecords ≠ 0

/-- Valid records are read in order. -/
theorem readRecords_arr {records : List TraceRecord} (few : records.length ≤ 1024) (valid : ∀ r ∈ records, r.Valid) :
    readRecords (.arr (records.map (·.toDict))) = .ok records := by
  have all : (records.map (·.toDict)).mapM TraceRecord.fromDict = .ok records := by
    clear few
    induction records with
    | nil => rfl
    | cons r rest ih =>
      rw [List.forall_mem_cons] at valid
      rw [List.map_cons, List.mapM_cons, TraceRecord.fromDict_toDict valid.1, ih valid.2]
      rfl
  rw [readRecords, if_neg (by rw [List.length_map]; omega), all]

/-- The summary of a batch is read back. -/
theorem summaryFromDict_batchValue {s : TraceSummary} {records : List TraceRecord} (valid : s.Valid) :
    TraceSummary.fromDict (batchValue s records) = .ok s := by
  obtain ⟨id, traceId, isId⟩ := valid.traceId
  have state : TraceState.ofJson? (.str s.state.name) = some s.state := by
    cases s.state <;> decide
  have idOk : readTraceId s.state (.str id) = .ok s.traceId := by
    have := valid.started
    cases state : s.state <;> simp_all [readTraceId]
  have idle : decide (s.state = .idle) = false := decide_eq_false valid.started
  have complete : decide (s.complete ≠ (s.droppedRecords = 0 && s.truncatedRecords = 0)) = false :=
    decide_eq_false (not_not_intro valid.complete)
  have counters : (decide (s.lastSequence < s.queuedRecords) || decide (s.lastSequence < s.droppedRecords)
      || decide (s.lastSequence < s.truncatedRecords)) = false := by
    have := valid.queued.2
    have := valid.dropped
    have := valid.truncated
    simp only [Bool.or_eq_false_iff, decide_eq_false_iff_not]
    omega
  have bound := valid.lastSequence
  have dropped : s.droppedRecords ≤ maxUint64 := valid.dropped.trans bound
  have truncated : s.truncatedRecords ≤ maxUint64 := valid.truncated.trans bound
  unfold TraceSummary.fromDict
  simp only [member, batchValue, Json.get?_object_cons]
  simp only [String.reduceEq, if_true, if_false, Option.getD_some, state, traceId, Json.ofOption, idOk, ok_bind,
    integer_nat _ valid.queueCapacity.1 valid.queueCapacity.2, integer_nat _ (Nat.zero_le _) valid.queued.1,
    integer_nat _ (Nat.zero_le _) dropped, integer_nat _ (Nat.zero_le _) truncated,
    integer_nat _ (Nat.zero_le _) bound, boolean, complete, counters, idle, Bool.false_and, rejectIf,
    ne_eq, not_true, decide_false, Bool.false_eq_true]
  rw [← traceId]
  rfl

/-- A valid batch passes every check that needs no state. -/
theorem readBatch_batchValue {s : TraceSummary} {records : List TraceRecord} (valid : BatchValid s records) :
    readBatch (batchValue s records) = .ok (s, records, records.isEmpty) := by
  have shape : fields (batchValue s records) (summaryKeys ++ ["records", "timed_out"]) "trace batch" = .ok () :=
    fields_object _ rfl rfl
  have records_eq : member (batchValue s records) "records" = .arr (records.map (·.toDict)) := by
    simp [member, batchValue]
  have timedOut_eq : member (batchValue s records) "timed_out" = .bool records.isEmpty := by
    simp [member, batchValue]
  have empty : (records.isEmpty && decide (s.queuedRecords ≠ 0)) = false := by
    cases records with
    | nil => simp [valid.drained rfl]
    | cons r rest => rfl
  have counted : decide (s.lastSequence < records.length + s.queuedRecords) = false :=
    decide_eq_false (by have := valid.counted; omega)
  have inRange : (records.any fun r => s.lastSequence < r.sequence) = false := by
    simpa using valid.inRange
  have truncated : ((records.any fun r => r.messageTruncated) && decide (s.truncatedRecords = 0)) = false := by
    have := valid.truncated
    by_cases zero : s.truncatedRecords = 0
    · simpa [zero] using this
    · simp [zero]
  unfold readBatch
  rw [shape, summaryFromDict_batchValue valid.summary]
  simp only [ok_bind, records_eq, timedOut_eq, readRecords_arr valid.few valid.each, boolean, empty, counted,
    inRange, truncated, valid.summary.started, rejectIf, ne_eq, not_true, decide_false, Bool.or_false,
    Bool.false_eq_true, if_false]
  rfl

end EmsDnp3.Python
