import EmsDnp3.Python.CaptureModels

/-!
# Capture results

`CaptureResult.from_mapping`: the client's own check of a capture snapshot. It derives the
laws of the counters, of the completeness scope and of the verdict again and accepts a
snapshot only when all of them hold.
-/

namespace EmsDnp3.Python

/-- `value[key]`, after the check that every field is there. -/
def field (value : Json) (key : String) : Json := (value.get? key).getD .null

namespace CaptureResult

/-- The fields a capture result must have. -/
def requiredFields : List String :=
  ["capture_id", "session_id", "state", "valid", "mode", "sources", "expected_total", "offered_total",
   "received_total", "received_unique", "duplicates", "missing", "unmatched_total", "fragments_total", "duration_ms",
   "throughput_per_sec", "current_queue_depth", "max_queue_depth", "queue_capacity", "queue_overflow",
   "discarded_on_abort", "invalid_reasons", "completeness_scope", "unknown_reason", "received_sequence_sha256",
   "sequence_match", "canonical_record_format", "mismatch_sample", "mismatch_sample_limit", "by_kind",
   "by_group_variation", "timings", "event_manifest"]

/-- The states a result may report. -/
inductive State where
  | active
  | finalized
  | timedOut
  | aborted
deriving DecidableEq, Repr

def State.name : State → String
  | .active => "ACTIVE"
  | .finalized => "FINALIZED"
  | .timedOut => "TIMED_OUT"
  | .aborted => "ABORTED"

def State.all : List State := [.active, .finalized, .timedOut, .aborted]

end CaptureResult

/-- `CaptureResult`. -/
structure CaptureResult where
  captureId : Text
  sessionId : Int
  state : CaptureResult.State
  valid : Option Bool
  mode : CaptureMode
  sources : List CaptureSource
  expectedTotal : Option Nat
  offeredTotal : Nat
  receivedTotal : Nat
  receivedUnique : Option Nat
  duplicates : Option Nat
  missing : Option Nat
  unmatchedTotal : Nat
  fragmentsTotal : Nat
  durationMs : Json
  throughputPerSec : Json
  currentQueueDepth : Nat
  maxQueueDepth : Nat
  queueCapacity : Nat
  queueOverflow : Nat
  invalidReasons : List Text
  completenessScope : Json
  unknownReason : Json
  receivedSequenceSha256 : Option Text
  sequenceMatch : Option Bool
  canonicalRecordFormat : Json
  mismatchSample : List Json
  timings : Json
  raw : Json

namespace CaptureResult

/-- A name out of a set, as the member of an enumeration it stands for. -/
def nameIn {α : Type} (value : Json) (all : List α) (name : α → String) (message : String) : Except PyError α := do
  let known ← inSet value (all.map fun a => .str (name a))
  rejectIf (!known) (.value message)
  match all.find? fun a => value = .str (name a) with
  | some a => return a
  | none => throw (.value message)

/-- `re.fullmatch(r"[A-Za-z0-9._:-]{1,64}", value)` -/
def isCaptureToken (value : Text) : Bool :=
  value ≠ [] && value.length ≤ 64 && value.all fun c =>
    isDigit c || (0x41 ≤ c.val && c.val ≤ 0x5A) || (0x61 ≤ c.val && c.val ≤ 0x7A) || (text "._:-").contains c

/-- The capture id, which must be a token. -/
def captureIdOf (value : Json) : Except PyError Text :=
  match field value "capture_id" with
  | .str id => if isCaptureToken id then .ok id else .error (.value "capture result capture_id is invalid")
  | _ => .error (.value "capture result capture_id is invalid")

/-- The session, which must be positive. -/
def sessionIdOf (value : Json) : Except PyError Int :=
  match field value "session_id" with
  | .int n => if 0 < n then .ok n else .error (.value "capture result session_id must be positive")
  | _ => .error (.value "capture result session_id must be positive")

/-- The verdict of an active capture is `null`, that of any other a boolean. -/
def validity (value : Json) (state : State) : Except PyError (Option Bool) :=
  match state, field value "valid" with
  | .active, .null => .ok none
  | .active, _ => .error (.value "active capture validity must be null")
  | .finalized, .bool b => .ok (some b)
  | _, .bool false => .ok (some false)
  | _, .bool true => .error (.value "timed-out or aborted capture must be invalid")
  | _, _ => .error (.value "terminal capture validity must be boolean")

/-- `any(source not in _CAPTURE_SOURCES for source in sources)`, with the sources it passed. -/
def sourceItems : List Json → Except PyError (Option (List CaptureSource))
  | [] => .ok (some [])
  | item :: rest => do
    let known ← inSet item [.str "solicited", .str "unsolicited"]
    if known then
      let source : CaptureSource := if item = .str "solicited" then .solicited else .unsolicited
      return (← sourceItems rest).map (source :: ·)
    else return none

/-- One or two distinct sources. -/
def sourcesOf (value : Json) : Except PyError (List CaptureSource) :=
  match field value "sources" with
  | .arr items => do
    rejectIf (!(1 ≤ items.length && items.length ≤ 2)) (.value "capture result sources are invalid")
    match ← sourceItems items with
    | some found => if found.Nodup then return found else throw (.value "capture result sources are invalid")
    | none => throw (.value "capture result sources are invalid")
  | _ => .error (.value "capture result sources are invalid")

/-- A count that may be `null`. -/
def nullableCount (value : Json) (key : String) : Except PyError (Option Nat) :=
  match field value key with
  | .null => .ok none
  | other =>
    match natural? other with
    | some n => .ok (some n)
    | none => .error (.value s!"capture result {key} must be null or non-negative")

/-- A counter, which must be a natural number. -/
def count (value : Json) (key : String) : Except PyError Nat :=
  match natural? (field value key) with
  | some n => .ok n
  | none => .error (.value s!"capture result {key} must be non-negative")

/-- A number of the snapshot; only its finiteness and its sign are checked. -/
def finite (value : Json) (key : String) : Except PyError Json := do
  let bad : PyError := .value s!"capture result {key} must be finite and non-negative"
  match field value key with
  | .int n =>
    let ok ← intIsFinite n
    rejectIf (!ok || n < 0) bad
    return .int n
  | .float x =>
    rejectIf (!x.isFinite || x.isNegative) bad
    return .float x
  | _ => throw bad

/-- The strings of an array of non-empty strings. -/
def nonEmptyStrings : List Json → Option (List Text)
  | [] => some []
  | .str s :: rest => if s = [] then none else (nonEmptyStrings rest).map (s :: ·)
  | _ :: _ => none

/-- The reasons: distinct and not empty. -/
def reasons (value : Json) : Except PyError (List Text) :=
  let bad : PyError := .value "capture invalid_reasons must be a unique string array"
  match field value "invalid_reasons" with
  | .arr items =>
    match nonEmptyStrings items with
    | some found => if found.Nodup then .ok found else .error bad
    | none => .error bad
  | _ => .error bad

/-- The sample of mismatches, within its limit. -/
def samples (value : Json) (limit : Nat) : Except PyError (List Json) :=
  let bad : PyError := .value "capture mismatch samples are invalid or unbounded"
  match field value "mismatch_sample" with
  | .arr items => if items.length ≤ limit ∧ items.all Json.isObj then .ok items else .error bad
  | _ => .error bad

/-- The times, which must be an object. -/
def timingsOf (value : Json) : Except PyError Json :=
  match field value "timings" with
  | .obj members => .ok (.obj members)
  | _ => .error (.value "capture timings must be an object")

/-- A table of counts by name. -/
def dimension (value : Json) (key : String) : Except PyError Unit :=
  let bad : PyError := .value s!"capture result {key} counters are invalid"
  match field value key with
  | .obj members =>
    if members.length ≤ 256 ∧ members.all (fun m => m.1 ≠ [] && (natural? m.2).isSome) then .ok () else .error bad
  | _ => .error bad

/-- The digest: absent, or SHA-256 in lower case. -/
def digest (value : Json) : Except PyError (Option Text) :=
  let bad : PyError := .value "capture received_sequence_sha256 must be null or lowercase SHA-256"
  match field value "received_sequence_sha256" with
  | .null => .ok none
  | .str s => if isLowerSha256 s then .ok (some s) else .error bad
  | _ => .error bad

/-- Whether the sequence matched, where one was compared. -/
def sequenceMatchOf (value : Json) : Except PyError (Option Bool) :=
  match field value "sequence_match" with
  | .null => .ok none
  | .bool b => .ok (some b)
  | _ => .error (.value "capture sequence_match must be null or boolean")

def canonicalFormat : Json := .str "compact-json-array-[kind,index,value]-plus-LF"

/-- The record format: absent or the canonical one. -/
def canonicalRecordFormatOf (value : Json) : Except PyError Json := do
  let known ← inSet (field value "canonical_record_format") [.null, canonicalFormat]
  rejectIf (!known) (.value "capture canonical_record_format is invalid")
  return field value "canonical_record_format"

/-- What the mode checks read. -/
structure Evidence where
  state : State
  valid : Option Bool
  expectedTotal : Option Nat
  receivedTotal : Nat
  receivedUnique : Option Nat
  duplicates : Option Nat
  missing : Option Nat
  digest : Option Text
  sequenceMatch : Option Bool
  format : Json

/-- A valid static set has every point once and nothing else. -/
def staticTruth (value : Json) (e : Evidence) : Except PyError Unit :=
  match e.expectedTotal, e.receivedUnique, e.duplicates, e.missing with
  | some expected, some unique, some _, some missing => do
    rejectIf (field value "completeness_scope" ≠ .str "NATIVE_STATIC_SET" || field value "unknown_reason" ≠ .null)
      (.value "static_set capture completeness scope is inconsistent")
    rejectIf (expected < unique || missing ≠ expected - unique)
      (.value "static_set capture completeness counts are inconsistent")
    rejectIf (field value "event_manifest" ≠ .null)
      (.value "static_set capture must not report an event manifest")
    rejectIf (e.digest.isSome || e.sequenceMatch.isSome || e.format ≠ .null)
      (.value "static_set capture must not report event sequence proof")
  | _, _, _, _ => .error (.value "static_set capture must report provable completeness counts")

/-- Without expected points there are no completeness counts. -/
def noPointTruth (e : Evidence) : Except PyError Unit :=
  rejectIf (e.receivedUnique.isSome || e.duplicates.isSome || e.missing.isSome)
    (.value "capture without native point truth must use null completeness counts")

def manifestFields : List String :=
  ["generator", "generator_version", "scenario_id", "seed", "start_sequence", "end_sequence", "event_total", "sha256",
   "match_rule"]

/-- The proof of a sequence that has, has not, or has not yet been matched. -/
def sequenceProof (value : Json) (e : Evidence) (manifest : CaptureEventManifest.Truth) : Except PyError Unit :=
  match e.sequenceMatch with
  | some true =>
    rejectIf (e.digest ≠ some manifest.sha256 || e.receivedTotal ≠ manifest.eventTotal
        || field value "completeness_scope" ≠ .str "EXTERNAL_EVENT_MANIFEST_MATCHED"
        || field value "unknown_reason" ≠ .null)
      (.value "matched event capture proof is inconsistent")
  | some false =>
    rejectIf (e.digest.isNone || field value "completeness_scope" ≠ .str "EXTERNAL_EVENT_MANIFEST_REQUIRED"
        || field value "unknown_reason" ≠ .str "EVENT_SEQUENCE_MISMATCH_REQUIRES_MANIFEST_DIFF"
        || e.valid ≠ some false)
      (.value "mismatched event capture proof is inconsistent")
  | none =>
    rejectIf (e.digest.isSome || field value "completeness_scope" ≠ .str "EXTERNAL_EVENT_MANIFEST_REQUIRED"
        || field value "unknown_reason" ≠ .str "EVENT_SEQUENCE_NOT_FINALIZED" || e.state = .finalized)
      (.value "unfinished event capture proof is inconsistent")

/-- A valid event sequence has the total and the digest of its manifest. -/
def eventTruth (value : Json) (e : Evidence) : Except PyError Unit := do
  noPointTruth e
  match field value "event_manifest" with
  | .obj members =>
    let manifest : Json := .obj members
    rejectIf (!(manifestFields.all (fun key => (manifest.get? key).isSome)
        && manifest.keys.all (fun key => (manifestFields.map text).contains key)))
      (.value "event capture manifest fields are invalid")
    let truth ← CaptureEventManifest.ofMapping manifest
    rejectIf (e.expectedTotal ≠ some truth.eventTotal)
      (.value "event capture expected_total does not match manifest")
    rejectIf (e.format ≠ canonicalFormat) (.value "event capture must declare its canonical record format")
    sequenceProof value e truth
  | _ => throw (.value "event capture must report its truth manifest")

/-- An observation claims no completeness. -/
def observationTruth (value : Json) (e : Evidence) : Except PyError Unit := do
  noPointTruth e
  rejectIf (field value "completeness_scope" ≠ .str "OBSERVATION_ONLY")
    (.value "observation capture completeness scope is inconsistent")
  rejectIf (e.expectedTotal.isSome || field value "event_manifest" ≠ .null)
    (.value "observation capture must not report ground truth")
  rejectIf (field value "unknown_reason" ≠ .str "UNKNOWN_WITHOUT_GROUND_TRUTH_MATCH")
    (.value "observation capture must explain unknown completeness")
  rejectIf (e.digest.isSome || e.sequenceMatch.isSome || e.format ≠ .null)
    (.value "observation capture must not report event sequence proof")

/-- `truth_complete` -/
def truthComplete (mode : CaptureMode) (e : Evidence) (unmatchedTotal : Nat) : Bool :=
  match mode with
  | .staticSet => e.missing = some 0 && e.duplicates = some 0 && unmatchedTotal = 0
  | .eventSequence => e.sequenceMatch = some true
  | .observation => true

/-- What a result may claim in its mode. -/
def modeTruth (value : Json) (mode : CaptureMode) (e : Evidence) : Except PyError Unit :=
  match mode with
  | .staticSet => staticTruth value e
  | .eventSequence => eventTruth value e
  | .observation => observationTruth value e

/-- The fields that are absent, in the order of the message. -/
def missingFields (value : Json) : List String :=
  (requiredFields.filter fun (key : String) => (value.get? (text key)).isNone).mergeSort fun a b => a ≤ b

/-- The relations between the counters of the queue. -/
def queueLaws (offered received depth deepest capacity limit : Nat) : Except PyError Unit := do
  rejectIf (capacity < 1 || 65536 < capacity) (.value "capture result queue_capacity is invalid")
  rejectIf (!(depth ≤ deepest && deepest ≤ capacity)) (.value "capture result queue depths are inconsistent")
  rejectIf (offered < received) (.value "capture received_total exceeds offered_total")
  rejectIf (1024 < limit) (.value "capture mismatch_sample_limit is invalid")

/-- `CaptureResult.from_mapping`. -/
def fromMapping (value : Json) : Except PyError CaptureResult := do
  rejectIf (missingFields value ≠ [])
    (.value ("capture result is missing fields: " ++ ", ".intercalate (missingFields value)))
  let captureId ← captureIdOf value
  let sessionId ← sessionIdOf value
  let state ← nameIn (field value "state") State.all State.name "capture result state is invalid"
  let valid ← validity value state
  let mode ← nameIn (field value "mode") [.staticSet, .eventSequence, .observation] CaptureMode.name
    "capture result mode is invalid"
  let sources ← sourcesOf value
  let expectedTotal ← nullableCount value "expected_total"
  let receivedUnique ← nullableCount value "received_unique"
  let duplicates ← nullableCount value "duplicates"
  let missing ← nullableCount value "missing"
  let offeredTotal ← count value "offered_total"
  let receivedTotal ← count value "received_total"
  let unmatchedTotal ← count value "unmatched_total"
  let fragmentsTotal ← count value "fragments_total"
  let currentQueueDepth ← count value "current_queue_depth"
  let maxQueueDepth ← count value "max_queue_depth"
  let queueCapacity ← count value "queue_capacity"
  let queueOverflow ← count value "queue_overflow"
  let _ ← count value "discarded_on_abort"
  let sampleLimit ← count value "mismatch_sample_limit"
  queueLaws offeredTotal receivedTotal currentQueueDepth maxQueueDepth queueCapacity sampleLimit
  let durationMs ← finite value "duration_ms"
  let throughputPerSec ← finite value "throughput_per_sec"
  let invalidReasons ← reasons value
  let mismatchSample ← samples value sampleLimit
  let timings ← timingsOf value
  dimension value "by_kind"
  dimension value "by_group_variation"
  rejectIf (valid = some true && (invalidReasons ≠ [] || queueOverflow ≠ 0))
    (.value "valid capture result reports an invalid condition")
  let receivedSequenceSha256 ← digest value
  let sequenceMatch ← sequenceMatchOf value
  let canonicalRecordFormat ← canonicalRecordFormatOf value
  let e : Evidence := { state, valid, expectedTotal, receivedTotal, receivedUnique, duplicates, missing,
                        digest := receivedSequenceSha256, sequenceMatch, format := canonicalRecordFormat }
  modeTruth value mode e
  let expectedValid : Bool := state = .finalized && truthComplete mode e unmatchedTotal
    && invalidReasons = [] && queueOverflow = 0
  rejectIf (valid ≠ some expectedValid && state ≠ .active)
    (.value "capture terminal validity is inconsistent with truth")
  return { captureId, sessionId, state, valid, mode, sources, expectedTotal, offeredTotal, receivedTotal,
           receivedUnique, duplicates, missing, unmatchedTotal, fragmentsTotal, durationMs, throughputPerSec,
           currentQueueDepth, maxQueueDepth, queueCapacity, queueOverflow, invalidReasons,
           completenessScope := field value "completeness_scope", unknownReason := field value "unknown_reason",
           receivedSequenceSha256, sequenceMatch, canonicalRecordFormat, mismatchSample, timings, raw := value }

end CaptureResult

end EmsDnp3.Python
