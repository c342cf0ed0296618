import EmsDnp3.Base.Except
import EmsDnp3.Native.Models

/-!
# Capture configuration

`CaptureConfig.cpp`: the parameters of `capture.begin`, `capture.progress` and
`capture.end`. A list of point ranges is accepted only when no two ranges of one kind
overlap: the parser sorts by kind and start and compares neighbours, and
`parsePointRanges_apart` extends that to every pair.
-/

namespace EmsDnp3.Native

def kMaximumExpectedPoints : Nat := 1000000
def kMaximumRanges : Nat := 256
def kMaximumSources : Nat := 2
def kMaximumQueueCapacity : Nat := 65536
def kMaximumMismatchSamples : Nat := 1024
def kMaximumDurationMs : Nat := 7 * 24 * 60 * 60 * 1000

/-- What a capture is held against. -/
inductive CaptureMode where
  | staticSet
  | eventSequence
  | observation
deriving DecidableEq, Repr

/-- A measurement source; the parser admits no other name. -/
inductive CaptureSource where
  | solicited
  | unsolicited
deriving DecidableEq, Repr

def CaptureSource.name : CaptureSource → String
  | .solicited => "solicited"
  | .unsolicited => "unsolicited"

/-- A point index, `std::uint16_t`. -/
abbrev PointIndex := Fin 65536

/-- `static_cast<std::uint16_t>` -/
def PointIndex.ofNat (n : Nat) : PointIndex := ⟨n % 65536, Nat.mod_lt _ (by decide)⟩

/-- An index in range is kept. -/
theorem PointIndex.val_ofNat {n : Nat} (small : n ≤ 65535) : (PointIndex.ofNat n).val = n := Nat.mod_eq_of_lt (by omega)

/-- One expected range of points of a kind, both ends included. -/
structure CapturePointRange where
  kind : Text
  start : PointIndex
  stop : PointIndex
  ordered : start ≤ stop
deriving DecidableEq

/-- The event sequence the capture expects. -/
structure CaptureEventManifest where
  generator : Text
  generatorVersion : Text
  scenarioId : Text
  seed : Nat
  startSequence : Nat
  endSequence : Nat
  eventTotal : Nat
  sha256 : Text
  matchRule : Text
deriving DecidableEq

/-- The parameters of `capture.begin`, with their defaults. -/
structure CaptureConfig where
  mode : CaptureMode := .observation
  sources : List CaptureSource := []
  pointRanges : List CapturePointRange := []
  eventManifest : Option CaptureEventManifest := none
  mismatchSampleLimit : Nat := 100
  queueCapacity : Nat := 4096
  durationLimitMs : Nat := 600000
deriving DecidableEq

/-- Which capture a later call speaks of, and how long its end may wait. -/
structure CaptureReferenceConfig where
  captureId : Text
  drainTimeoutMs : Nat := 5000
deriving DecidableEq

/-- Every refusal names the field and the reason. -/
def invalidParameter (field : Text) (reason : String) (details : List (String × Json)) : BackendError :=
  { code := .invalidRequest, message := "invalid capture parameter",
    details := .object (details ++ [("reason", .str reason), ("field", .str field)]) }

/-- `prefix.empty() ? key : prefix + "." + key` -/
def memberPath (parent key : Text) : Text :=
  if parent = [] then key else parent ++ ("." : Text) ++ key

/-- The first member the object may not have is refused. -/
def rejectUnknownFields (value : Json) (allowed : List String) (parent : Text) :
    Except BackendError Unit :=
  match value with
  | .obj members =>
    match members.find? fun m => !(allowed.map text).contains m.1 with
    | some m => .error (invalidParameter (memberPath parent m.1) "unknown_field" [])
    | none => .ok ()
  | _ => .error (invalidParameter parent "invalid_type" [("expected", .str "object")])

/-- An absent optional member leaves `output`, its previous value, as it was. -/
def readUnsigned (object : Json) (key : String) (field : Text) (minimum maximum output : Nat)
    (required : Bool) : Except BackendError Nat :=
  match object.get? key with
  | none => if required then .error (invalidParameter field "missing_field" []) else .ok output
  | some value =>
    match integer? value with
    | none => .error (invalidParameter field "invalid_type" [("expected", .str "integer")])
    | some n =>
      if n < minimum ∨ maximum < n then
        .error (invalidParameter field "out_of_range"
          [("minimum", .nat minimum), ("maximum", .nat maximum), ("received", .int n)])
      else .ok n.toNat

theorem readUnsigned_bounds {object : Json} {key : String} {path : Text} {minimum maximum output n : Nat}
    {required : Bool} (ok : readUnsigned object key path minimum maximum output required = .ok n)
    (default_ : required = true ∨ (minimum ≤ output ∧ output ≤ maximum)) : minimum ≤ n ∧ n ≤ maximum := by
  unfold readUnsigned at ok
  split at ok
  · split at ok
    · cases ok
    · next optional =>
      obtain rfl := Except.ok.inj ok
      exact default_.resolve_left optional
  · split at ok
    · cases ok
    · next value n' _ =>
      split at ok
      · cases ok
      · next inside =>
        obtain rfl := Except.ok.inj ok
        push Not at inside
        omega

/-- One to `maximum` characters of `0x21..0x7E`; none of these is a space for `isspace`. -/
def isPrintableAsciiToken (value : Text) (maximum : Nat) : Bool :=
  value ≠ [] && value.length ≤ maximum && value.all fun c => 0x21 ≤ c.val && c.val ≤ 0x7E

/-- A required printable ASCII token. -/
def readToken (object : Json) (key : String) (field : Text) (maximum : Nat) : Except BackendError Text :=
  match object.get? key with
  | none => .error (invalidParameter field "missing_field" [])
  | some (.str value) =>
    if isPrintableAsciiToken value maximum then .ok value
    else .error (invalidParameter field "invalid_token"
      [("minimum_bytes", .nat 1), ("maximum_bytes", .nat maximum)])
  | some _ => .error (invalidParameter field "invalid_type" [("expected", .str "string")])

/-- The measurement kinds the master reports. -/
def knownKinds : List String :=
  ["analog_command_event", "analog_input", "analog_output_status", "binary_command_event",
   "binary_input", "binary_output_status", "counter", "double_bit_binary_input",
   "frozen_counter", "octet_string", "time_and_interval"]

def isKnownKind (kind : Text) : Bool := (knownKinds.map text).contains kind

/-- The path of the `index`-th item of an array member. -/
def itemPath (parent : String) (index : Nat) : Text := parent ++ "[" ++ Nat.repr index ++ "]"

/-- The source of a protocol name. -/
def CaptureSource.ofName (name : Text) : Option CaptureSource :=
  if name = text "solicited" then some .solicited
  else if name = text "unsolicited" then some .unsolicited
  else none

/-- The loop of `parse_sources` from item `index`, with the sources seen before it. -/
def parseSourceItems : Nat → List CaptureSource → List Json → Except BackendError (List CaptureSource)
  | _, seen, [] => .ok seen
  | index, seen, .str name :: items =>
    match CaptureSource.ofName name with
    | none => .error (invalidParameter (itemPath "sources" index) "invalid_enum"
        [("allowed", .arr [.str "solicited", .str "unsolicited"]), ("received", .str name)])
    | some source =>
      if seen.contains source then
        .error (invalidParameter (itemPath "sources" index) "duplicate_value" [("received", .str name)])
      else parseSourceItems (index + 1) (seen ++ [source]) items
  | index, _, _ :: _ =>
    .error (invalidParameter (itemPath "sources" index) "invalid_type" [("expected", .str "string")])

/-- The member `key` as an array. -/
def readArray (object : Json) (key : String) (field : Text) : Except BackendError (List Json) :=
  match object.get? key with
  | none => .error (invalidParameter field "missing_field" [])
  | some (.arr items) => .ok items
  | some _ => .error (invalidParameter field "invalid_type" [("expected", .str "array")])

/-- One or two distinct sources. -/
def parseSources (params : Json) : Except BackendError (List CaptureSource) := do
  let items ← readArray params "sources" "sources"
  rejectIf (items = [] || kMaximumSources < items.length)
    (invalidParameter "sources" "invalid_length"
      [("minimum_items", .nat 1), ("maximum_items", .nat kMaximumSources)])
  parseSourceItems 0 [] items

/-- One item of `point_ranges`, before the size and overlap checks. -/
def parsePointRange (index : Nat) (item : Json) : Except BackendError CapturePointRange := do
  let parent := itemPath "expected.point_ranges" index
  rejectUnknownFields item ["kind", "start", "stop"] parent
  let kind ← readToken item "kind" (memberPath parent "kind") 64
  rejectIf (!isKnownKind kind)
    (invalidParameter (memberPath parent "kind") "invalid_enum" [("received", .str kind)])
  let start ← readUnsigned item "start" (memberPath parent "start") 0 65535 0 true
  let stop ← readUnsigned item "stop" (memberPath parent "stop") 0 65535 0 true
  if h : PointIndex.ofNat start ≤ PointIndex.ofNat stop then
    return { kind, start := PointIndex.ofNat start, stop := PointIndex.ofNat stop, ordered := h }
  else
    throw (invalidParameter parent "invalid_range" [("start", .nat start), ("stop", .nat stop)])

/-- The number of points of a range. -/
def CapturePointRange.count (r : CapturePointRange) : Nat := r.stop.val - r.start.val + 1

/-- The loop of `parse_point_ranges` from item `index`, with the points counted before it. -/
def parseRangeItems : Nat → Nat → List Json → Except BackendError (List CapturePointRange)
  | _, _, [] => .ok []
  | index, expectedTotal, item :: items => do
    let range ← parsePointRange index item
    rejectIf (expectedTotal > kMaximumExpectedPoints - range.count)
      (invalidParameter "expected.point_ranges" "expected_set_too_large"
        [("maximum_points", .nat kMaximumExpectedPoints)])
    let rest ← parseRangeItems (index + 1) (expectedTotal + range.count) items
    return range :: rest

/-- The comparison of the `std::sort` call. -/
def rangeBefore (left right : CapturePointRange) : Bool :=
  left.kind < right.kind || (left.kind = right.kind && left.start < right.start)

/-- `std::sort` by `rangeBefore`. It leaves the order of ranges with one kind and start
open, but such a list is rejected by `rejectOverlaps` in every order. -/
def sortRanges (ranges : List CapturePointRange) : List CapturePointRange :=
  ranges.insertionSort fun left right => rangeBefore right left = false

/-- Neighbours of one kind may not touch or overlap. -/
def rejectOverlaps : List CapturePointRange → Except BackendError Unit
  | previous :: current :: rest =>
    if previous.kind = current.kind ∧ current.start ≤ previous.stop then
      .error (invalidParameter "expected.point_ranges" "overlapping_ranges"
        [("kind", .str current.kind), ("previous_start", .nat previous.start.val),
         ("previous_stop", .nat previous.stop.val), ("current_start", .nat current.start.val),
         ("current_stop", .nat current.stop.val)])
    else rejectOverlaps (current :: rest)
  | _ => .ok ()

/-- The ranges of a static set: known kinds, bounded, disjoint. -/
def parsePointRanges (expected : Json) : Except BackendError (List CapturePointRange) := do
  rejectUnknownFields expected ["point_ranges"] "expected"
  let items ← readArray expected "point_ranges" "expected.point_ranges"
  rejectIf (items = [] || kMaximumRanges < items.length)
    (invalidParameter "expected.point_ranges" "invalid_length"
      [("minimum_items", .nat 1), ("maximum_items", .nat kMaximumRanges)])
  let output ← parseRangeItems 0 0 items
  rejectOverlaps (sortRanges output)
  return sortRanges output

/-- `std::isxdigit` in the C locale. -/
def isHexDigit (c : CodePoint) : Bool :=
  (0x30 ≤ c.val && c.val ≤ 0x39) || (0x41 ≤ c.val && c.val ≤ 0x46) || (0x61 ≤ c.val && c.val ≤ 0x66)

def isSha256 (value : Text) : Bool := value.length = 64 && value.all isHexDigit

/-- `std::tolower` in the C locale. -/
def toLower (c : CodePoint) : CodePoint :=
  if 0x41 ≤ c.val ∧ c.val ≤ 0x5A then CodePoint.ofNat (c.val + 0x20) else c

def manifestFields : List String :=
  ["generator", "generator_version", "scenario_id", "seed", "start_sequence", "end_sequence",
   "event_total", "sha256", "match_rule"]

/-- The manifest of an event sequence. -/
def parseEventManifest (expected : Json) : Except BackendError CaptureEventManifest := do
  rejectUnknownFields expected ["manifest"] "expected"
  match expected.get? "manifest" with
  | none => throw (invalidParameter "expected.manifest" "missing_field" [])
  | some manifest =>
    rejectUnknownFields manifest manifestFields "expected.manifest"
    let generator ← readToken manifest "generator" "expected.manifest.generator" 128
    let generatorVersion ← readToken manifest "generator_version" "expected.manifest.generator_version" 128
    let scenarioId ← readToken manifest "scenario_id" "expected.manifest.scenario_id" 128
    let maximum := 2 ^ 63 - 1
    let seed ← readUnsigned manifest "seed" "expected.manifest.seed" 0 maximum 0 true
    let startSequence ←
      readUnsigned manifest "start_sequence" "expected.manifest.start_sequence" 0 maximum 0 true
    let endSequence ← readUnsigned manifest "end_sequence" "expected.manifest.end_sequence" 0 maximum 0 true
    let eventTotal ← readUnsigned manifest "event_total" "expected.manifest.event_total" 1 1000000000 0 true
    rejectIf (startSequence > endSequence || endSequence - startSequence + 1 ≠ eventTotal)
      (invalidParameter "expected.manifest" "inconsistent_sequence_range"
        [("start_sequence", .nat startSequence), ("end_sequence", .nat endSequence),
         ("event_total", .nat eventTotal)])
    let sha256 ← readToken manifest "sha256" "expected.manifest.sha256" 64
    rejectIf (!isSha256 sha256) (invalidParameter "expected.manifest.sha256" "invalid_sha256" [])
    let matchRule ← readToken manifest "match_rule" "expected.manifest.match_rule" 64
    rejectIf (matchRule ≠ text "ordered_kind_index_value")
      (invalidParameter "expected.manifest.match_rule" "invalid_enum"
        [("allowed", .arr [.str "ordered_kind_index_value"]), ("received", .str matchRule)])
    return { generator, generatorVersion, scenarioId, seed, startSequence, endSequence, eventTotal,
             sha256 := sha256.map toLower, matchRule }

def CaptureMode.name : CaptureMode → String
  | .staticSet => "static_set"
  | .eventSequence => "event_sequence"
  | .observation => "observation"

/-- The mode of a protocol name. -/
def parseMode (params : Json) : Except BackendError CaptureMode :=
  match params.get? "mode" with
  | none => .error (invalidParameter "mode" "missing_field" [])
  | some (.str name) =>
    if name = text "static_set" then .ok .staticSet
    else if name = text "event_sequence" then .ok .eventSequence
    else if name = text "observation" then .ok .observation
    else .error (invalidParameter "mode" "invalid_enum"
      [("allowed", .arr [.str "static_set", .str "event_sequence", .str "observation"]),
       ("received", .str name)])
  | some _ => .error (invalidParameter "mode" "invalid_type" [("expected", .str "string")])

def captureFields : List String :=
  ["mode", "sources", "expected", "mismatch_sample_limit", "queue_capacity", "duration_limit_ms"]

/-- `parse_capture_config` on a default-initialised output. -/
def parseCaptureConfig (params : Json) : Except BackendError CaptureConfig := do
  rejectUnknownFields params captureFields []
  let mode ← parseMode params
  let sources ← parseSources params
  let mismatchSampleLimit ← readUnsigned params "mismatch_sample_limit" "mismatch_sample_limit" 0
    kMaximumMismatchSamples 100 false
  let queueCapacity ← readUnsigned params "queue_capacity" "queue_capacity" 1 kMaximumQueueCapacity 4096 false
  let durationLimitMs ← readUnsigned params "duration_limit_ms" "duration_limit_ms" 100
    kMaximumDurationMs 600000 true
  let base : CaptureConfig := { mode, sources, mismatchSampleLimit, queueCapacity, durationLimitMs }
  match mode, params.get? "expected" with
  | .observation, some _ =>
    throw (invalidParameter "expected" "unexpected_for_mode" [("mode", .str mode.name)])
  | .observation, none => return base
  | _, none => throw (invalidParameter "expected" "missing_field" [("mode", .str mode.name)])
  | .staticSet, some expected =>
    rejectIf (!expected.isObj)
      (invalidParameter "expected" "invalid_type" [("expected", .str "object")])
    return { base with pointRanges := ← parsePointRanges expected }
  | .eventSequence, some expected =>
    rejectIf (!expected.isObj)
      (invalidParameter "expected" "invalid_type" [("expected", .str "object")])
    return { base with eventManifest := some (← parseEventManifest expected) }

/-- The characters of a capture id, `find_first_not_of`. -/
def isCaptureIdChar (c : CodePoint) : Bool :=
  (0x30 ≤ c.val && c.val ≤ 0x39) || (0x41 ≤ c.val && c.val ≤ 0x5A) || (0x61 ≤ c.val && c.val ≤ 0x7A) ||
    (text "._:-").contains c

/-- The parameters of `capture.progress` and `capture.end`. -/
def parseCaptureReferenceConfig (params : Json) (acceptDrainTimeout : Bool) :
    Except BackendError CaptureReferenceConfig := do
  rejectUnknownFields params (if acceptDrainTimeout then ["capture_id", "drain_timeout_ms"] else ["capture_id"]) []
  let captureId ← readToken params "capture_id" "capture_id" 64
  rejectIf (!captureId.all isCaptureIdChar) (invalidParameter "capture_id" "invalid_token" [])
  if !acceptDrainTimeout then
    return { captureId }
  let drainTimeoutMs ← readUnsigned params "drain_timeout_ms" "drain_timeout_ms" 50 300000 5000 false
  return { captureId, drainTimeoutMs }

/-! ## Accepted ranges never overlap -/

/-- Two ranges share no point. -/
def CapturePointRange.Apart (a b : CapturePointRange) : Prop :=
  a.kind = b.kind → a.stop < b.start ∨ b.stop < a.start

/-- `a` lies before `b`: an earlier kind, or the same kind and wholly below. -/
def CapturePointRange.Below (a b : CapturePointRange) : Prop :=
  a.kind < b.kind ∨ (a.kind = b.kind ∧ a.stop < b.start)

/-- Ranges in order are in order with what follows. -/
theorem CapturePointRange.Below.trans {a b c : CapturePointRange} (ab : a.Below b) (bc : b.Below c) :
    a.Below c := by
  rcases ab with ab | ⟨kab, sab⟩ <;> rcases bc with bc | ⟨kbc, sbc⟩
  · exact Or.inl (lt_trans ab bc)
  · exact Or.inl (kbc ▸ ab)
  · exact Or.inl (kab ▸ bc)
  · exact Or.inr ⟨kab.trans kbc, lt_trans (lt_of_lt_of_le sab b.ordered) sbc⟩

instance : IsTrans CapturePointRange CapturePointRange.Below := ⟨fun _ _ _ => .trans⟩

theorem CapturePointRange.Below.apart {a b : CapturePointRange} (h : a.Below b) : a.Apart b := by
  intro kind
  rcases h with less | ⟨_, less⟩
  · exact absurd (kind ▸ less) (lt_irrefl _)
  · exact Or.inl less

/-- Of two ranges one does not come before the other. -/
theorem rangeBefore_total (a b : CapturePointRange) : rangeBefore b a = false ∨ rangeBefore a b = false := by
  simp only [rangeBefore, Bool.or_eq_false_iff, decide_eq_false_iff_not, Bool.and_eq_false_imp,
    decide_eq_true_eq]
  rcases lt_trichotomy a.kind b.kind with less | same | more
  · exact Or.inl ⟨not_lt_of_gt less, fun e => absurd (e ▸ less) (lt_irrefl _)⟩
  · rcases le_total a.start b.start with le | le
    · exact Or.inl ⟨by rw [same]; exact lt_irrefl _, fun _ => not_lt_of_ge le⟩
    · exact Or.inr ⟨by rw [same]; exact lt_irrefl _, fun _ => not_lt_of_ge le⟩
  · exact Or.inr ⟨not_lt_of_gt more, fun e => absurd (e ▸ more) (lt_irrefl _)⟩

/-- The order of the ranges is transitive. -/
theorem rangeBefore_trans {a b c : CapturePointRange} (ab : rangeBefore b a = false)
    (bc : rangeBefore c b = false) : rangeBefore c a = false := by
  simp only [rangeBefore, Bool.or_eq_false_iff, decide_eq_false_iff_not, Bool.and_eq_false_imp,
    decide_eq_true_eq, not_lt] at *
  refine ⟨le_trans ab.1 bc.1, fun same => ?_⟩
  have kab : a.kind = b.kind := le_antisymm ab.1 (same ▸ bc.1)
  exact le_trans (ab.2 kab.symm) (bc.2 (same.trans kab))

/-- Neighbours in the sorted list that pass the overlap check lie one below the other. -/
theorem rejectOverlaps_chain {ranges : List CapturePointRange}
    (sorted : ranges.IsChain fun a b => rangeBefore b a = false) (ok : rejectOverlaps ranges = .ok ()) :
    ranges.IsChain CapturePointRange.Below := by
  induction ranges with
  | nil => exact .nil
  | cons a rest ih =>
    cases rest with
    | nil => exact .singleton a
    | cons b rest =>
      rw [List.isChain_cons_cons] at sorted ⊢
      rw [rejectOverlaps] at ok
      split at ok
      · cases ok
      next apart =>
      refine ⟨?_, ih sorted.2 ok⟩
      have le := sorted.1
      simp only [rangeBefore, Bool.or_eq_false_iff, decide_eq_false_iff_not, not_lt] at le
      rcases lt_or_eq_of_le le.1 with less | same
      · exact Or.inl less
      · exact Or.inr ⟨same, lt_of_not_ge fun touch => apart ⟨same, touch⟩⟩

/-- Sorting leaves no range before its predecessor. -/
theorem sortRanges_chain (ranges : List CapturePointRange) :
    (sortRanges ranges).IsChain fun a b => rangeBefore b a = false := by
  have : Std.Total fun a b : CapturePointRange => rangeBefore b a = false := ⟨rangeBefore_total⟩
  have : IsTrans CapturePointRange fun a b => rangeBefore b a = false := ⟨fun _ _ _ => rangeBefore_trans⟩
  exact (List.pairwise_insertionSort _ ranges).isChain

/-- **Accepted ranges are pairwise disjoint**, not only the neighbours the parser compares. -/
theorem parsePointRanges_apart {expected : Json} {ranges : List CapturePointRange}
    (ok : parsePointRanges expected = .ok ranges) : ranges.Pairwise CapturePointRange.Apart := by
  unfold parsePointRanges at ok
  obtain ⟨_, -, ok⟩ := ok_bind_iff.mp ok
  obtain ⟨items, -, ok⟩ := ok_bind_iff.mp ok
  obtain ⟨_, -, ok⟩ := ok_bind_iff.mp ok
  obtain ⟨output, -, ok⟩ := ok_bind_iff.mp ok
  obtain ⟨_, disjoint, ok⟩ := ok_bind_iff.mp ok
  obtain rfl := ok_pure_iff.mp ok
  have chain := rejectOverlaps_chain (sortRanges_chain output) disjoint
  exact (List.isChain_iff_pairwise.mp chain).imp fun below => below.apart

end EmsDnp3.Native
