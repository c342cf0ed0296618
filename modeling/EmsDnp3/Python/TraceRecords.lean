import EmsDnp3.Base.Except
import EmsDnp3.Base.Utf8
import EmsDnp3.Json.Decimal

/-!
# Trace summaries and records

`trace.py`, the parsed form of a `trace.read` result. Every field is checked before it is
used, and a failed check is a `ValueError`; nothing here has a side effect.
-/

namespace EmsDnp3.Python

/-- The message of a `ValueError`. -/
abbrev ValueError := String

/-- `_LEVELS` -/
inductive Level where
  | event | err | warn | info | dbg
  | linkRx | linkRxHex | linkTx | linkTxHex
  | transportRx | transportTx
  | appHeaderRx | appHeaderTx | appObjectRx | appObjectTx | appHexRx | appHexTx
  | other
deriving DecidableEq, Repr

namespace Level

/-- The level as the host spells it. -/
def name : Level → String
  | .event => "EVENT"
  | .err => "ERR"
  | .warn => "WARN"
  | .info => "INFO"
  | .dbg => "DBG"
  | .linkRx => "LINK_RX"
  | .linkRxHex => "LINK_RX_HEX"
  | .linkTx => "LINK_TX"
  | .linkTxHex => "LINK_TX_HEX"
  | .transportRx => "TRANSPORT_RX"
  | .transportTx => "TRANSPORT_TX"
  | .appHeaderRx => "APP_HEADER_RX"
  | .appHeaderTx => "APP_HEADER_TX"
  | .appObjectRx => "APP_OBJECT_RX"
  | .appObjectTx => "APP_OBJECT_TX"
  | .appHexRx => "APP_HEX_RX"
  | .appHexTx => "APP_HEX_TX"
  | .other => "OTHER"

def all : List Level :=
  [.event, .err, .warn, .info, .dbg, .linkRx, .linkRxHex, .linkTx, .linkTxHex, .transportRx, .transportTx,
   .appHeaderRx, .appHeaderTx, .appObjectRx, .appObjectTx, .appHexRx, .appHexTx, .other]

def ofName? (name : Text) : Option Level := all.find? fun level => text level.name = name

theorem ofName?_name (level : Level) : ofName? level.name = some level := by
  cases level <;> decide

end Level

/-- `_integer` -/
def integer (value : Json) (name : String) (minimum maximum : Nat) : Except ValueError Nat :=
  match value with
  | .int n =>
    if minimum ≤ n ∧ n ≤ maximum then .ok n.toNat
    else .error s!"{name} must be an integer in [{minimum}, {maximum}]"
  | _ => .error s!"{name} must be an integer in [{minimum}, {maximum}]"

def maxUint64 : Nat := 2 ^ 64 - 1

/-- `_boolean` -/
def boolean (value : Json) (name : String) : Except ValueError Bool :=
  match value with
  | .bool b => .ok b
  | _ => .error s!"{name} must be boolean"

/-- `_text`; the `UnicodeEncodeError` of a lone surrogate is a `ValueError` too. -/
def boundedText (value : Json) (name : String) (maximum : Nat) : Except ValueError Text :=
  match value with
  | .str s =>
    match Utf8.encode s with
    | none => .error "'utf-8' codec can't encode character: surrogates not allowed"
    | some bytes =>
      if bytes.length ≤ maximum then .ok s
      else .error s!"{name} must be a string of at most {maximum} UTF-8 bytes"
  | _ => .error s!"{name} must be a string of at most {maximum} UTF-8 bytes"

/-- `_fields`: the keys of an object, all of them and no other. -/
def fields (value : Json) (keys : List String) (name : String) : Except ValueError Unit :=
  rejectIf (!(value.isObj && keys.all (fun key => (value.get? key).isSome)
      && value.keys.all (fun key => (keys.map text).contains key)))
    s!"{name} has missing or unknown fields"

/-- A member that `fields` has shown to be there. -/
def member (value : Json) (key : String) : Json := (value.get? key).getD .null

/-- The states of a trace. -/
inductive TraceState where
  | idle
  | active
  | stopped
deriving DecidableEq, Repr

def TraceState.name : TraceState → String
  | .idle => "IDLE"
  | .active => "ACTIVE"
  | .stopped => "STOPPED"

def TraceState.ofJson? (value : Json) : Option TraceState :=
  [TraceState.idle, .active, .stopped].find? fun state => value = .str state.name

/-- `re.fullmatch(r"trace-[1-9][0-9]{0,57}", trace_id)` -/
def isTraceId (value : Text) : Bool :=
  match value.drop 6 with
  | first :: digits =>
    value.take 6 = text "trace-" && isDigit first && first.val ≠ 0x30 && digits.all isDigit && digits.length ≤ 57
  | [] => false

/-- The counters of a trace. -/
structure TraceSummary where
  traceId : Option Text
  state : TraceState
  queueCapacity : Nat
  queuedRecords : Nat
  droppedRecords : Nat
  truncatedRecords : Nat
  lastSequence : Nat
  complete : Bool
deriving DecidableEq

/-- The id of a trace that is not idle; an idle one has none. -/
def readTraceId (state : TraceState) (value : Json) : Except ValueError (Option Text) :=
  match state, value with
  | .idle, .null => .ok none
  | .idle, _ => .error "IDLE trace_id must be null"
  | _, .str id => if isTraceId id then .ok (some id) else .error "invalid trace_id"
  | _, _ => .error "invalid trace_id"

/-- `TraceSummary.from_dict`, after the check of the key set. `scope` has one admissible value
and is not kept. -/
def TraceSummary.fromDict (data : Json) : Except ValueError TraceSummary := do
  match TraceState.ofJson? (member data "state") with
  | none => throw "invalid trace state"
  | some state =>
    let traceId ← readTraceId state (member data "trace_id")
    rejectIf (member data "scope" ≠ .str "opendnp3_stack") "unsupported trace scope"
    let queueCapacity ← integer (member data "queue_capacity") "queue_capacity" 1 65536
    let queuedRecords ← integer (member data "queued_records") "queued_records" 0 queueCapacity
    let droppedRecords ← integer (member data "dropped_records") "dropped_records" 0 maxUint64
    let truncatedRecords ← integer (member data "truncated_records") "truncated_records" 0 maxUint64
    let lastSequence ← integer (member data "last_sequence") "last_sequence" 0 maxUint64
    let complete ← boolean (member data "complete") "complete"
    rejectIf (complete ≠ (droppedRecords = 0 && truncatedRecords = 0)) "trace complete disagrees with loss counters"
    rejectIf (lastSequence < queuedRecords || lastSequence < droppedRecords || lastSequence < truncatedRecords)
      "trace counters exceed last_sequence"
    rejectIf (state = .idle &&
        (queuedRecords ≠ 0 || droppedRecords ≠ 0 || truncatedRecords ≠ 0 || lastSequence ≠ 0))
      "IDLE trace counters must be zero"
    rejectIf (state = .idle && queueCapacity ≠ 16384) "IDLE trace capacity must be the default 16384"
    return { traceId, state, queueCapacity, queuedRecords, droppedRecords, truncatedRecords, lastSequence, complete }

/-- A record of a trace. -/
structure TraceRecord where
  sequence : Nat
  sessionId : Nat
  monotonicNs : Nat
  logger : Text
  level : Level
  message : Text
  messageTruncated : Bool
deriving DecidableEq

def recordKeys : List String :=
  ["sequence", "session_id", "monotonic_ns", "logger", "level", "message", "message_truncated"]

/-- The member `level` as a level. -/
def readLevel (value : Json) : Except ValueError Level :=
  match value with
  | .str name =>
    match Level.ofName? name with
    | some level => .ok level
    | none => .error "unknown trace log level"
  | _ => .error "unknown trace log level"

/-- `TraceRecord.from_dict`. -/
def TraceRecord.fromDict (value : Json) : Except ValueError TraceRecord := do
  fields value recordKeys "trace record"
  let level ← readLevel (member value "level")
  let sequence ← integer (member value "sequence") "sequence" 1 maxUint64
  let sessionId ← integer (member value "session_id") "session_id" 1 maxUint64
  let monotonicNs ← integer (member value "monotonic_ns") "monotonic_ns" 0 maxUint64
  let logger ← boundedText (member value "logger") "logger" 128
  let message ← boundedText (member value "message") "message" 1024
  let messageTruncated ← boolean (member value "message_truncated") "message_truncated"
  return { sequence, sessionId, monotonicNs, logger, level, message, messageTruncated }

/-! ## Records and batches as JSON -/

/-- `TraceRecord.to_dict`, which is also how the host prints a record. -/
def TraceRecord.toDict (r : TraceRecord) : Json :=
  .object [("sequence", .nat r.sequence), ("session_id", .nat r.sessionId), ("monotonic_ns", .nat r.monotonicNs),
    ("logger", .str r.logger), ("level", .str r.level.name), ("message", .str r.message),
    ("message_truncated", .bool r.messageTruncated)]

/-- The bounds of a record. -/
structure TraceRecord.Valid (r : TraceRecord) : Prop where
  sequence : 1 ≤ r.sequence ∧ r.sequence ≤ maxUint64
  sessionId : 1 ≤ r.sessionId ∧ r.sessionId ≤ maxUint64
  monotonicNs : r.monotonicNs ≤ maxUint64
  logger : ∃ bytes, Utf8.encode r.logger = some bytes ∧ bytes.length ≤ 128
  message : ∃ bytes, Utf8.encode r.message = some bytes ∧ bytes.length ≤ 1024

/-- The bounds of the summary of a trace that was started. -/
structure TraceSummary.Valid (s : TraceSummary) : Prop where
  traceId : ∃ id, s.traceId = some id ∧ isTraceId id = true
  started : s.state ≠ .idle
  queueCapacity : 1 ≤ s.queueCapacity ∧ s.queueCapacity ≤ 65536
  queued : s.queuedRecords ≤ s.queueCapacity ∧ s.queuedRecords ≤ s.lastSequence
  dropped : s.droppedRecords ≤ s.lastSequence
  truncated : s.truncatedRecords ≤ s.lastSequence
  lastSequence : s.lastSequence ≤ maxUint64
  complete : s.complete = (s.droppedRecords = 0 && s.truncatedRecords = 0)

instance (t : Text) (maximum : Nat) : Decidable (∃ bytes, Utf8.encode t = some bytes ∧ bytes.length ≤ maximum) :=
  decidable_of_iff ((Utf8.encode t).any (·.length ≤ maximum) = true) (by cases Utf8.encode t <;> simp)

instance (r : TraceRecord) : Decidable r.Valid :=
  decidable_of_iff ((1 ≤ r.sequence ∧ r.sequence ≤ maxUint64) ∧ (1 ≤ r.sessionId ∧ r.sessionId ≤ maxUint64) ∧
      r.monotonicNs ≤ maxUint64 ∧ (∃ bytes, Utf8.encode r.logger = some bytes ∧ bytes.length ≤ 128) ∧
      ∃ bytes, Utf8.encode r.message = some bytes ∧ bytes.length ≤ 1024)
    ⟨fun ⟨a, b, c, d, e⟩ => ⟨a, b, c, d, e⟩, fun ⟨a, b, c, d, e⟩ => ⟨a, b, c, d, e⟩⟩

theorem integer_nat {n minimum maximum : Nat} (name : String) (low : minimum ≤ n) (high : n ≤ maximum) :
    integer (.nat n) name minimum maximum = .ok n := by
  have range : (minimum : Int) ≤ n ∧ (n : Int) ≤ maximum := by omega
  simp [integer, Json.nat, range]

theorem boundedText_str {t : Text} {bytes : List Byte} {maximum : Nat} (name : String)
    (encoded : Utf8.encode t = some bytes) (short : bytes.length ≤ maximum) :
    boundedText (.str t) name maximum = .ok t := by
  simp [boundedText, encoded, short]

/-- A dictionary with exactly the expected members passes `fields`. -/
theorem fields_object {members : List (String × Json)} {keys : List String} (name : String)
    (complete : keys.all (fun key => (members.map (·.1)).contains key) = true)
    (known : (members.map (·.1)).all (fun key => keys.contains key) = true) :
    fields (.object members) keys name = .ok () := by
  have present : ∀ key : String, key ∈ members.map (·.1) → ((Json.object members).get? key).isSome = true := by
    intro key mem
    clear complete known
    induction members with
    | nil => simp at mem
    | cons m rest ih =>
      obtain ⟨k, v⟩ := m
      rw [Json.get?_object_cons]
      split
      · rfl
      · next other =>
        rw [List.map_cons, List.mem_cons] at mem
        exact ih (mem.resolve_left (Ne.symm other))
  have all : keys.all (fun key => ((Json.object members).get? key).isSome) = true := by
    rw [List.all_eq_true] at complete ⊢
    exact fun key mem => present key (List.contains_iff_mem.mp (complete key mem))
  have only : (Json.object members).keys.all (fun key => (keys.map text).contains key) = true := by
    rw [List.all_eq_true] at known ⊢
    intro key mem
    obtain ⟨m, inside, rfl⟩ : ∃ m ∈ members, text m.1 = key := by simpa [Json.object, Json.keys] using mem
    have := List.contains_iff_mem.mp (known m.1 (List.mem_map_of_mem inside))
    exact List.contains_iff_mem.mpr (List.mem_map_of_mem this)
  have isObj : (Json.object members).isObj = true := rfl
  rw [fields, isObj, all, only]
  rfl

/-- A valid record is read back. -/
theorem TraceRecord.fromDict_toDict {r : TraceRecord} (valid : r.Valid) : TraceRecord.fromDict r.toDict = .ok r := by
  obtain ⟨loggerBytes, loggerEncoded, loggerShort⟩ := valid.logger
  obtain ⟨messageBytes, messageEncoded, messageShort⟩ := valid.message
  have shape : fields r.toDict recordKeys "trace record" = .ok () :=
    fields_object _ rfl rfl
  have level : readLevel (.str r.level.name) = .ok r.level := by simp [readLevel, Level.ofName?_name]
  unfold TraceRecord.fromDict
  rw [shape]
  simp only [member, toDict, Json.get?_object_cons]
  simp [level, integer_nat _ valid.sequence.1 valid.sequence.2, integer_nat _ valid.sessionId.1 valid.sessionId.2,
    integer_nat _ (Nat.zero_le _) valid.monotonicNs, boundedText_str _ loggerEncoded loggerShort,
    boundedText_str _ messageEncoded messageShort, boolean]

end EmsDnp3.Python
