import EmsDnp3.Python.Values

/-!
# Capture parameters of the client

`models.py`: the frozen dataclasses of a capture request. A value exists only when its
`__post_init__` did not raise, so each class carries what that method checks as fields. A
duration is the number of milliseconds it rounds to.
-/

namespace EmsDnp3.Python

/-- What a capture is held against. -/
inductive CaptureMode where
  | staticSet
  | eventSequence
  | observation
deriving DecidableEq, Repr

def CaptureMode.name : CaptureMode → String
  | .staticSet => "static_set"
  | .eventSequence => "event_sequence"
  | .observation => "observation"

/-- Where the measurements of a capture come from. -/
inductive CaptureSource where
  | solicited
  | unsolicited
deriving DecidableEq, Repr

def CaptureSource.name : CaptureSource → String
  | .solicited => "solicited"
  | .unsolicited => "unsolicited"

/-- `_CAPTURE_POINT_KINDS` -/
def capturePointKinds : List String :=
  ["analog_command_event", "analog_input", "analog_output_status", "binary_command_event", "binary_input",
   "binary_output_status", "counter", "double_bit_binary_input", "frozen_counter", "octet_string",
   "time_and_interval"]

/-- `CapturePointRange`, with what `__post_init__` checks. -/
structure CapturePointRange where
  kind : Text
  start : Nat
  stop : Nat
  known : kind ∈ capturePointKinds.map text
  ordered : start ≤ stop
  bounded : stop ≤ 65535

def CapturePointRange.pointCount (r : CapturePointRange) : Nat := r.stop - r.start + 1

def CapturePointRange.toParams (r : CapturePointRange) : Json :=
  .object [("kind", .str r.kind), ("start", .nat r.start), ("stop", .nat r.stop)]

/-- `CapturePointRange.__post_init__` -/
def CapturePointRange.make (kind start stop : Json) : Except PyError CapturePointRange := do
  let known ← inSet kind (capturePointKinds.map fun name => .str (text name))
  rejectIf (!known) (.value "kind is not a supported indexed capture point type")
  let start ← unsignedInteger start "start" 0 65535
  let stop ← unsignedInteger stop "stop" 0 65535
  match kind with
  | .str kind =>
    if h : kind ∈ capturePointKinds.map text ∧ start ≤ stop ∧ stop ≤ 65535 then
      return { kind, start, stop, known := h.1, ordered := h.2.1, bounded := h.2.2 }
    else throw (.value "start must not exceed stop")
  | _ => throw (.value "kind is not a supported indexed capture point type")

/-- `CapturePointRange(**dict(item))` on an item of a profile's `point_ranges`. -/
def CapturePointRange.ofMapping (item : Json) : Except PyError CapturePointRange := do
  rejectIf (!item.isObj) (.value "capture point range must be an object")
  rejectIf (item.keys.any fun key => !(["kind", "start", "stop"].map text).contains key)
    (.type "CapturePointRange.__init__() got an unexpected keyword argument")
  match item.get? "kind", item.get? "start", item.get? "stop" with
  | some kind, some start, some stop => CapturePointRange.make kind start stop
  | _, _, _ => throw (.type "CapturePointRange.__init__() missing required positional arguments")

def matchRule : String := "ordered_kind_index_value"

/-- `re.fullmatch(r"[0-9a-fA-F]{64}", value)` -/
def isSha256 (value : Text) : Bool :=
  value.length = 64 && value.all fun c =>
    isDigit c || (0x41 ≤ c.val && c.val ≤ 0x46) || (0x61 ≤ c.val && c.val ≤ 0x66)

/-- `re.fullmatch(r"[0-9a-f]{64}", value)` -/
def isLowerSha256 (value : Text) : Bool :=
  value.length = 64 && value.all fun c => isDigit c || (0x61 ≤ c.val && c.val ≤ 0x66)

/-- `str.lower()` on ASCII. -/
def lower (value : Text) : Text :=
  value.map fun c => if 0x41 ≤ c.val ∧ c.val ≤ 0x5A then CodePoint.ofNat (c.val + 0x20) else c

/-- `CaptureEventManifest`, with what `__post_init__` checks. -/
structure CaptureEventManifest where
  generator : Text
  generatorVersion : Text
  scenarioId : Text
  seed : Nat
  startSequence : Nat
  endSequence : Nat
  eventTotal : Nat
  sha256 : Text
  texts : ∀ value ∈ [generator, generatorVersion, scenarioId],
    value ≠ [] ∧ value.length ≤ 128 ∧ isPrintable value = true
  numbers : ∀ value ∈ [seed, startSequence, endSequence], value ≤ 2 ^ 63 - 1
  total : 1 ≤ eventTotal ∧ eventTotal ≤ 1000000000
  range : startSequence ≤ endSequence ∧ endSequence - startSequence + 1 = eventTotal
  digest : isLowerSha256 sha256 = true

namespace CaptureEventManifest

/-- The manifest as a parameter of the request. -/
def toParams (m : CaptureEventManifest) : Json :=
  .object [("generator", .str m.generator), ("generator_version", .str m.generatorVersion),
    ("scenario_id", .str m.scenarioId), ("seed", .nat m.seed), ("start_sequence", .nat m.startSequence),
    ("end_sequence", .nat m.endSequence), ("event_total", .nat m.eventTotal), ("sha256", .str m.sha256),
    ("match_rule", .str matchRule)]

/-- The parts of a manifest that the parsed result of a capture is compared with. -/
structure Truth where
  eventTotal : Nat
  sha256 : Text

/-- `CaptureEventManifest(**dict(value))` on a mapping with exactly its fields. -/
def ofMapping (value : Json) : Except PyError Truth := do
  let field (key : String) : Json := (value.get? key).getD .null
  let _ ← endpointText (field "generator") "generator" 128
  let _ ← endpointText (field "generator_version") "generator_version" 128
  let _ ← endpointText (field "scenario_id") "scenario_id" 128
  let _ ← unsignedInteger (field "seed") "seed" 0 (2 ^ 63 - 1)
  let startSequence ← unsignedInteger (field "start_sequence") "start_sequence" 0 (2 ^ 63 - 1)
  let endSequence ← unsignedInteger (field "end_sequence") "end_sequence" 0 (2 ^ 63 - 1)
  let eventTotal ← unsignedInteger (field "event_total") "event_total" 1 1000000000
  rejectIf (endSequence < startSequence || endSequence - startSequence + 1 ≠ eventTotal)
    (.value "event_total must equal end_sequence - start_sequence + 1")
  match field "sha256" with
  | .str sha256 =>
    rejectIf (!isSha256 sha256) (.value "sha256 must contain 64 hexadecimal characters")
    rejectIf (field "match_rule" ≠ .str matchRule) (.value "match_rule must be 'ordered_kind_index_value'")
    return { eventTotal, sha256 := lower sha256 }
  | _ => throw (.value "sha256 must contain 64 hexadecimal characters")

end CaptureEventManifest

/-- The key of `sorted(ranges, key=lambda item: (item.kind, item.start))`. -/
def rangeKeyLe (a b : CapturePointRange) : Bool := a.kind < b.kind || (a.kind = b.kind && a.start ≤ b.start)

/-- No range overlaps its neighbour in the sorted order. -/
def noOverlap : List CapturePointRange → Bool
  | previous :: current :: rest =>
    !(previous.kind = current.kind && current.start ≤ previous.stop) && noOverlap (current :: rest)
  | _ => true

/-- `CaptureConfig`, with what `__post_init__` checks. -/
structure CaptureConfig where
  mode : CaptureMode
  sources : List CaptureSource
  durationLimitMs : Nat
  pointRanges : List CapturePointRange
  eventManifest : Option CaptureEventManifest
  mismatchSampleLimit : Nat
  queueCapacity : Nat
  sourcesOk : (1 ≤ sources.length ∧ sources.length ≤ 2) ∧ sources.Nodup
  duration : 100 ≤ durationLimitMs ∧ durationLimitMs ≤ 604800000
  sample : mismatchSampleLimit ≤ 1024
  capacity : 1 ≤ queueCapacity ∧ queueCapacity ≤ 65536
  rangeCount : pointRanges.length ≤ 256
  static : mode = .staticSet → pointRanges ≠ [] ∧ eventManifest = none ∧
    (pointRanges.map (·.pointCount)).sum ≤ 1000000 ∧
    noOverlap (pointRanges.insertionSort fun a b => rangeKeyLe a b = true) = true
  event : mode = .eventSequence → pointRanges = [] ∧ eventManifest.isSome = true
  observation : mode = .observation → pointRanges = [] ∧ eventManifest = none

/-- `CaptureConfig.to_params` -/
def CaptureConfig.toParams (c : CaptureConfig) : Json :=
  .object <|
    [("mode", .str c.mode.name), ("sources", .arr (c.sources.map fun source => .str source.name)),
     ("duration_limit_ms", .nat c.durationLimitMs), ("mismatch_sample_limit", .nat c.mismatchSampleLimit),
     ("queue_capacity", .nat c.queueCapacity)] ++
    match c.mode, c.eventManifest with
    | .staticSet, _ => [("expected", .object [("point_ranges", .arr (c.pointRanges.map (·.toParams)))])]
    | .eventSequence, some manifest => [("expected", .object [("manifest", manifest.toParams)])]
    | _, _ => []

end EmsDnp3.Python
