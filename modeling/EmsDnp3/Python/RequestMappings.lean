import EmsDnp3.Python.Loading
import EmsDnp3.Python.Requests

/-!
# Requests from mappings

The dataclasses of `models.py` called with the members of a JSON object: a missing or unknown member is a
`TypeError`, and `__post_init__` checks the rest.
-/

namespace EmsDnp3.Python

/-- The call of a dataclass with keyword arguments. -/
def keywords (value : Json) (required optional : List String) : Except PyError Unit := do
  rejectIf (!(value.keys.all ((required ++ optional).map text).contains)) (.type "unexpected keyword argument")
  rejectIf (!((required.map text).all value.keys.contains)) (.type "missing required positional argument")

/-- An argument that is there and not `None`. -/
def given (value : Json) (key : String) : Option Json :=
  match value.get? key with
  | some .null => none
  | other => other

/-- `value in {..}` for names of an enumeration. -/
def nameIn {α : Type} (value : Json) (all : List α) (name : α → String) (message : String) : Except PyError α :=
  match value with
  | .arr _ => .error (.type "unhashable type: 'list'")
  | .obj _ => .error (.type "unhashable type: 'dict'")
  | .str s =>
    match all.find? fun a => text (name a) = s with
    | some a => .ok a
    | none => .error (.value message)
  | _ => .error (.value message)

/-! ## Read headers -/

deriving instance DecidableEq for ReadHeader

def ReadQualifier.all : List ReadQualifier := [.allObjects, .range8, .range16, .count8, .count16]

/-- `start`, `stop` and `count` of a header. -/
structure HeaderLimits (qualifier : ReadQualifier) where
  start : Option Nat
  stop : Option Nat
  count : Option Nat
  all : qualifier = .allObjects → start = none ∧ stop = none ∧ count = none
  range : ∀ maximum, qualifier.rangeMaximum = some maximum →
    count = none ∧ ∃ first last, start = some first ∧ stop = some last ∧ first ≤ last ∧ last ≤ maximum
  counted : ∀ maximum, qualifier.countMaximum = some maximum →
    start = none ∧ stop = none ∧ ∃ n, count = some n ∧ 1 ≤ n ∧ n ≤ maximum

/-- The checks of a range qualifier. -/
def rangeLimits (qualifier : ReadQualifier) (maximum : Nat) (isRange : qualifier.rangeMaximum = some maximum)
    (start stop count : Option Json) : Except PyError (HeaderLimits qualifier) :=
  match count, start, stop with
  | none, some start, some stop => do
    let first ← unsignedIn start "start" 0 maximum
    let last ← unsignedIn stop "stop" 0 maximum
    let ⟨ordered⟩ ← require (first.val ≤ last.val) (PyError.value "start must not exceed stop")
    return {
      start := some first.val
      stop := some last.val
      count := none
      all := fun same => by simp [same, ReadQualifier.rangeMaximum] at isRange
      range := fun m same => ⟨rfl, first.val, last.val, rfl, rfl, ordered, by
        rw [isRange] at same
        exact Option.some.inj same ▸ last.property.2⟩
      counted := fun m counts => by cases qualifier <;> simp_all [ReadQualifier.rangeMaximum, ReadQualifier.countMaximum] }
  | some _, _, _ => .error (.value s!"{qualifier.name} does not accept count")
  | none, _, _ => .error (.value s!"{qualifier.name} requires start and stop")

/-- The checks of a count qualifier. -/
def countLimits (qualifier : ReadQualifier) (maximum : Nat) (isCount : qualifier.countMaximum = some maximum)
    (start stop count : Option Json) : Except PyError (HeaderLimits qualifier) :=
  match start, stop, count with
  | none, none, some count => do
    let n ← unsignedIn count "count" 1 maximum
    return {
      start := none
      stop := none
      count := some n.val
      all := fun same => by simp [same, ReadQualifier.countMaximum] at isCount
      range := fun m ranges => by cases qualifier <;> simp_all [ReadQualifier.rangeMaximum, ReadQualifier.countMaximum]
      counted := fun m same => ⟨rfl, rfl, n.val, rfl, n.property.1, by
        rw [isCount] at same
        exact Option.some.inj same ▸ n.property.2⟩ }
  | none, none, none => .error (.value s!"{qualifier.name} requires count")
  | _, _, _ => .error (.value s!"{qualifier.name} does not accept start or stop")

/-- What the qualifier of a header demands of its members. -/
def headerLimits (qualifier : ReadQualifier) (start stop count : Option Json) :
    Except PyError (HeaderLimits qualifier) :=
  match range : qualifier.rangeMaximum, counted : qualifier.countMaximum with
  | some maximum, _ => rangeLimits qualifier maximum range start stop count
  | none, some maximum => countLimits qualifier maximum counted start stop count
  | none, none =>
    match start, stop, count with
    | none, none, none => .ok {
        start := none
        stop := none
        count := none
        all := fun _ => ⟨rfl, rfl, rfl⟩
        range := fun m same => by rw [range] at same; cases same
        counted := fun m same => by rw [counted] at same; cases same }
    | _, _, _ => .error (.value "all_objects does not accept start, stop, or count")

/-- `ReadHeader(**dict(item))` -/
def ReadHeader.ofMapping (item : Json) : Except PyError ReadHeader := do
  keywords item ["group", "variation"] ["qualifier", "start", "stop", "count"]
  let group ← unsignedIn (field item "group") "group" 0 255
  let variation ← unsignedIn (field item "variation") "variation" 0 255
  let qualifier ← nameIn (getOr item "qualifier" (.str "all_objects")) ReadQualifier.all ReadQualifier.name
    "qualifier must be one of: all_objects, count16, count8, range16, range8"
  let limits ← headerLimits qualifier (given item "start") (given item "stop") (given item "count")
  let ⟨classData⟩ ← require (¬ (group.val = 60 ∧ 1 ≤ variation.val ∧ variation.val ≤ 4 ∧
    qualifier.rangeMaximum.isSome = true)) (PyError.value "DNP3 class data requests do not use range qualifiers")
  return {
    group := group.val
    variation := variation.val
    qualifier := qualifier
    start := limits.start
    stop := limits.stop
    count := limits.count
    groupOk := group.property.2
    variationOk := variation.property.2
    all := limits.all
    range := limits.range
    counted := limits.counted
    classData := classData }

/-! ## Captures -/

/-- Lower-case digits are hexadecimal digits. -/
theorem isLowerSha256_lower {value : Text} (hex : isSha256 value = true) : isLowerSha256 (lower value) = true := by
  unfold isSha256 at hex
  unfold isLowerSha256 lower
  rw [Bool.and_eq_true, decide_eq_true_eq, List.all_eq_true] at hex
  rw [Bool.and_eq_true, decide_eq_true_eq, List.length_map, List.all_map, List.all_eq_true]
  refine ⟨hex.1, fun c mem => ?_⟩
  have digit := hex.2 c mem
  simp only [Bool.or_eq_true, Bool.and_eq_true, decide_eq_true_eq, Function.comp] at digit ⊢
  split
  · next upper =>
    right
    have small : (CodePoint.ofNat (c.val + 0x20)).val = c.val + 0x20 := Nat.mod_eq_of_lt (by omega)
    rw [small]
    rcases digit with (digit | high) | low
    · simp only [isDigit, Bool.and_eq_true, decide_eq_true_eq] at digit
      omega
    · omega
    · omega
  · next other =>
    rcases digit with (digit | high) | low
    · exact .inl digit
    · omega
    · exact .inr low

/-- What `_endpoint_text` lets through. -/
theorem endpointText_spec {value : Json} {name : String} {maximum : Nat} {s : Text}
    (ok : endpointText value name maximum = .ok s) : s ≠ [] ∧ s.length ≤ maximum ∧ isPrintable s = true := by
  unfold endpointText at ok
  split at ok
  · next t =>
    obtain ⟨length, encoded, ok⟩ := ok_bind_iff.mp ok
    obtain ⟨_, size, ok⟩ := ok_bind_iff.mp ok
    obtain ⟨_, printable, ok⟩ := ok_bind_iff.mp ok
    obtain rfl := ok_pure_iff.mp ok
    have printable : isPrintable t = true := by simpa using printable
    rw [encodedLength_printable printable, Except.ok.injEq] at encoded
    simp only [rejectIf_ok, Bool.or_eq_false_iff, decide_eq_false_iff_not, not_lt, ← encoded,
      List.length_eq_zero_iff] at size
    exact ⟨size.1, size.2, printable⟩
  · cases ok

/-- The texts of a manifest. -/
def manifestText (value : Json) (name : String) :
    Except PyError {s : Text // s ≠ [] ∧ s.length ≤ 128 ∧ isPrintable s = true} :=
  match checked : endpointText value name 128 with
  | .ok s => .ok ⟨s, endpointText_spec checked⟩
  | .error e => .error e

/-- `CaptureEventManifest(**dict(value))` -/
def CaptureEventManifest.ofKeywords (value : Json) : Except PyError CaptureEventManifest := do
  keywords value ["generator", "generator_version", "scenario_id", "seed", "start_sequence", "end_sequence",
    "event_total", "sha256"] ["match_rule"]
  let generator ← manifestText (field value "generator") "generator"
  let generatorVersion ← manifestText (field value "generator_version") "generator_version"
  let scenarioId ← manifestText (field value "scenario_id") "scenario_id"
  let seed ← unsignedIn (field value "seed") "seed" 0 (2 ^ 63 - 1)
  let startSequence ← unsignedIn (field value "start_sequence") "start_sequence" 0 (2 ^ 63 - 1)
  let endSequence ← unsignedIn (field value "end_sequence") "end_sequence" 0 (2 ^ 63 - 1)
  let eventTotal ← unsignedIn (field value "event_total") "event_total" 1 1000000000
  let ⟨range⟩ ← require (startSequence.val ≤ endSequence.val ∧
    endSequence.val - startSequence.val + 1 = eventTotal.val)
    (PyError.value "event_total must equal end_sequence - start_sequence + 1")
  match field value "sha256" with
  | .str sha256 =>
    let ⟨hex⟩ ← require (isSha256 sha256 = true) (PyError.value "sha256 must contain 64 hexadecimal characters")
    rejectIf (getOr value "match_rule" (.str matchRule) ≠ .str matchRule)
      (PyError.value "match_rule must be 'ordered_kind_index_value'")
    return {
      generator := generator.val
      generatorVersion := generatorVersion.val
      scenarioId := scenarioId.val
      seed := seed.val
      startSequence := startSequence.val
      endSequence := endSequence.val
      eventTotal := eventTotal.val
      sha256 := lower sha256
      texts := by
        simp only [List.mem_cons, List.not_mem_nil, or_false, forall_eq_or_imp, forall_eq]
        exact ⟨generator.property, generatorVersion.property, scenarioId.property⟩
      numbers := by
        simp only [List.mem_cons, List.not_mem_nil, or_false, forall_eq_or_imp, forall_eq]
        exact ⟨seed.property.2, startSequence.property.2, endSequence.property.2⟩
      total := eventTotal.property
      range := range
      digest := isLowerSha256_lower hex }
  | _ => .error (.value "sha256 must contain 64 hexadecimal characters")

/-- `_milliseconds` -/
def milliseconds (value : Json) (name : String) (low high : Nat) : Except PyError (NatIn low high) :=
  match number? value with
  | none => .error (.value s!"{name} must be a finite number of seconds")
  | some raw =>
    match raw.toFloat with
    | .ok (.finite q) =>
      match Double.mul (.finite q) (.finite 1000) with
      | .finite scaled => do
        let ⟨inside⟩ ← require ((low : Int) ≤ roundHalfEven scaled ∧ roundHalfEven scaled ≤ high)
          (PyError.value s!"{name} is outside of its range")
        return ⟨(roundHalfEven scaled).toNat, by omega⟩
      | _ => .error (.overflow "cannot convert float infinity to integer")
    | _ => .error (.value s!"{name} must be a finite number of seconds")

def CaptureMode.all : List CaptureMode := [.staticSet, .eventSequence, .observation]
def CaptureSource.all : List CaptureSource := [.solicited, .unsolicited]

/-- `tuple(value)`: the characters of a string, the keys of a dictionary. -/
def tupleOf : Json → Except PyError (List Json)
  | .arr items => .ok items
  | .str s => .ok (s.map fun c => .str [c])
  | .obj members => .ok (members.map fun m => .str m.1)
  | _ => .error (.type "object is not iterable")

/-- The checks of `sources`. -/
def captureSources (items : List Json) : Except PyError
    {sources : List CaptureSource // (1 ≤ sources.length ∧ sources.length ≤ 2) ∧ sources.Nodup} := do
  let bad := "sources must contain one or both unique values: solicited, unsolicited"
  rejectIf (items.length < 1 || 2 < items.length) (.value bad)
  let sources ← items.mapM fun item => nameIn item CaptureSource.all CaptureSource.name bad
  let ⟨unique⟩ ← require ((1 ≤ sources.length ∧ sources.length ≤ 2) ∧ sources.Nodup) (PyError.value bad)
  return ⟨sources, unique⟩

/-- What `__post_init__` checks about the truth of a capture. -/
structure CaptureTruth (mode : CaptureMode) (ranges : List CapturePointRange)
    (manifest : Option CaptureEventManifest) : Prop where
  static : mode = .staticSet → ranges ≠ [] ∧ manifest = none ∧ (ranges.map (·.pointCount)).sum ≤ 1000000 ∧
    noOverlap (ranges.insertionSort fun a b => rangeKeyLe a b = true) = true
  event : mode = .eventSequence → ranges = [] ∧ manifest.isSome = true
  observation : mode = .observation → ranges = [] ∧ manifest = none

/-- The checks about the truth of a capture. -/
def captureTruth : (mode : CaptureMode) → (ranges : List CapturePointRange) →
    (manifest : Option CaptureEventManifest) → Except PyError (PLift (CaptureTruth mode ranges manifest))
  | .staticSet, ranges, manifest => do
    let ⟨some_⟩ ← require (ranges.isEmpty = false) (PyError.value "static_set capture requires point_ranges")
    let ⟨none_⟩ ← require (manifest.isNone = true) (PyError.value "static_set capture does not accept event_manifest")
    let ⟨total⟩ ← require ((ranges.map (·.pointCount)).sum ≤ 1000000)
      (PyError.value "static_set expected set may contain at most 1000000 points")
    let ⟨apart⟩ ← require (noOverlap (ranges.insertionSort fun a b => rangeKeyLe a b = true) = true)
      (PyError.value "point_ranges must not overlap for the same point kind")
    return ⟨fun _ => ⟨by simpa using some_, by simpa using none_, total, apart⟩, by simp, by simp⟩
  | .eventSequence, ranges, manifest => do
    let ⟨none_⟩ ← require (ranges.isEmpty = true) (PyError.value "event_sequence capture does not accept point_ranges")
    let ⟨some_⟩ ← require (manifest.isSome = true)
      (PyError.value "event_sequence capture requires a CaptureEventManifest")
    return ⟨by simp, fun _ => ⟨by simpa using none_, some_⟩, by simp⟩
  | .observation, ranges, manifest => do
    let ⟨none_⟩ ← require (ranges.isEmpty = true ∧ manifest.isNone = true)
      (PyError.value "observation capture cannot claim point or event ground truth")
    return ⟨by simp, by simp, fun _ => ⟨by simpa using none_.1, by simpa using none_.2⟩⟩

/-- `CaptureConfig(..)`; the duration is kept in milliseconds. -/
def CaptureConfig.ofArguments (mode sources duration : Json) (ranges : List CapturePointRange)
    (manifest : Option CaptureEventManifest) (sampleLimit queueCapacity : Json) : Except PyError CaptureConfig := do
  let items ← tupleOf sources
  let mode ← nameIn mode CaptureMode.all CaptureMode.name
    "mode must be 'static_set', 'event_sequence', or 'observation'"
  let sources ← captureSources items
  let durationLimitMs ← milliseconds duration "duration_limit" 100 604800000
  let sampleLimit ← unsignedIn sampleLimit "mismatch_sample_limit" 0 1024
  let queueCapacity ← unsignedIn queueCapacity "queue_capacity" 1 65536
  let ⟨count⟩ ← require (ranges.length ≤ 256) (PyError.value "point_ranges may contain at most 256 ranges")
  let ⟨truth⟩ ← captureTruth mode ranges manifest
  return {
    mode := mode
    sources := sources.val
    durationLimitMs := durationLimitMs.val
    pointRanges := ranges
    eventManifest := manifest
    mismatchSampleLimit := sampleLimit.val
    queueCapacity := queueCapacity.val
    sourcesOk := sources.property
    duration := durationLimitMs.property
    sample := sampleLimit.property.2
    capacity := queueCapacity.property
    rangeCount := count
    static := truth.static
    event := truth.event
    observation := truth.observation }

end EmsDnp3.Python
