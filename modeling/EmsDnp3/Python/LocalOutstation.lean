import EmsDnp3.Base.Rounding
import EmsDnp3.Python.Values

/-!
# The local event generator, as the client plans it

`local_outstation.py`: `plan_events` checks a request for generated events and hashes the stream that
the outstation is expected to emit. The arguments are Python values as JSON has them, `none` is `None`.
The stream itself is `generatedRecords`, and the hash of its canonical lines is a parameter.
-/

namespace EmsDnp3.Python

def maxGeneratedEvents : Nat := 65535
def maxGeneratedDurationUs : Nat := 55 * 1000 * 1000
def maxDnp3Timestamp : Nat := 2 ^ 48 - 1

/-- The types of points that are generated. -/
inductive GeneratedType where
  | binaryInput
  | analogInput
deriving DecidableEq, Repr

def GeneratedType.name : GeneratedType → String
  | .binaryInput => "binary_input"
  | .analogInput => "analog_input"

/-- `point_type not in {"binary_input", "analog_input"}`, for which a list or a dict is unhashable. -/
def GeneratedType.ofValue (value : Json) : Except PyError GeneratedType := do
  let known ← inSet value [.str "binary_input", .str "analog_input"]
  rejectIf (!known) (.value "point_type must be binary_input or analog_input")
  return if value = .str "binary_input" then .binaryInput else .analogInput

def scenarioCharacters : Text := "ABCDEFGHIJKLMNOPQRSTUVWXYZabcdefghijklmnopqrstuvwxyz0123456789._:-"

/-- A scenario id of at most `maximum` characters. -/
def isScenarioId (value : Text) (maximum : Nat) : Bool :=
  1 ≤ value.length && value.length ≤ maximum && value.all fun c => scenarioCharacters.contains c

def scenarioId (value : Json) (maximum : Nat) : Except PyError Text :=
  match value with
  | .str s =>
    if isScenarioId s maximum then .ok s
    else .error (.value s!"scenario_id must be a 1-{maximum} character ASCII token")
  | _ => .error (.value s!"scenario_id must be a 1-{maximum} character ASCII token")

/-- `isinstance(value, int)` of what is no `bool`. -/
def anyInteger (value : Json) (name : String) : Except PyError Int :=
  match value with
  | .int n => .ok n
  | _ => .error (.type s!"{name} must be an integer")

/-- An integer within its bounds. -/
def boundedInteger (value : Json) (name : String) (minimum maximum : Nat) : Except PyError Nat := do
  let n ← anyInteger value name
  rejectIf (!(minimum ≤ n && n ≤ maximum)) (.value s!"{name} must be between {minimum} and {maximum}")
  return n.toNat

/-- The value of a generated event. -/
inductive GeneratedValue where
  | bool (value : Bool)
  | float (value : ℚ)
deriving DecidableEq

/-- What one canonical line holds. -/
structure GeneratedRecord where
  kind : GeneratedType
  index : Nat
  value : GeneratedValue
deriving DecidableEq

/-- `float(sequence % 1_000_000) + float(seed % 1000) / 1000.0` -/
def analogValue (seed sequence : Nat) : ℚ :=
  binary64 ((sequence % 1000000 : Nat) + binary64 ((seed % 1000 : Nat) / 1000))

/-- The turn of the loop for `sequence`. -/
def generatedRecord (kind : GeneratedType) (seed span sequence : Nat) : GeneratedRecord where
  kind := kind
  index := (seed + sequence) % span
  value :=
    match kind with
    | .binaryInput => .bool ((seed ^^^ sequence) &&& 1 != 0)
    | .analogInput => .float (binary32 (analogValue seed sequence))

/-- The expected stream. -/
def generatedRecords (kind : GeneratedType) (seed span startSequence count : Nat) : List GeneratedRecord :=
  (List.range count).map fun offset => generatedRecord kind seed span (startSequence + offset)

/-- `GeneratedEventTruth`, with what `__post_init__` checks. -/
structure GeneratedEventTruth where
  scenarioId : Text
  pointType : GeneratedType
  seed : Nat
  startSequence : Nat
  eventTotal : Nat
  timestampBaseMs : Nat
  pointSpan : Nat
  intervalUs : Nat
  recordsSha256 : Text
deriving DecidableEq

namespace GeneratedEventTruth

variable (truth : GeneratedEventTruth)

def endSequence : Nat := truth.startSequence + truth.eventTotal - 1

/-- The stream that the truth stands for. -/
def records : List GeneratedRecord :=
  generatedRecords truth.pointType truth.seed truth.pointSpan truth.startSequence truth.eventTotal

/-- The parameters of the request that `generate_events` sends. -/
def params : Json :=
  .object [("type", .str truth.pointType.name), ("count", .nat truth.eventTotal), ("seed", .nat truth.seed),
    ("start_sequence", .nat truth.startSequence), ("timestamp_base_ms", .nat truth.timestampBaseMs),
    ("point_span", .nat truth.pointSpan), ("interval_us", .nat truth.intervalUs)]

/-- The result that `generate_events` insists on. -/
def expected : Json :=
  .object [("generator", .str "local_deterministic_event_generator"), ("generator_version", .str "1"),
    ("type", .str truth.pointType.name), ("event_total", .nat truth.eventTotal), ("seed", .nat truth.seed),
    ("start_sequence", .nat truth.startSequence), ("end_sequence", .nat truth.endSequence),
    ("timestamp_base_ms", .nat truth.timestampBaseMs), ("point_span", .nat truth.pointSpan),
    ("interval_us", .nat truth.intervalUs), ("event_mode", .str "force")]

end GeneratedEventTruth

/-- The arguments of `plan_events`. -/
structure EventRequest where
  pointType : Json
  count : Json
  scenarioId : Json
  seed : Json
  startSequence : Json := .nat 0
  timestampBaseMs : Option Json := none
  pointSpan : Option Json := none
  intervalUs : Json := .nat 0

/-- `plan_events`, where `now` is `int(time.time() * 1000)`. -/
def planEvents (digest : List GeneratedRecord → Text) (pointCount now : Nat) (request : EventRequest) :
    Except PyError GeneratedEventTruth := do
  let kind ← GeneratedType.ofValue request.pointType
  let scenario ← scenarioId request.scenarioId 128
  let count ← boundedInteger request.count "count" 1 maxGeneratedEvents
  let seed ← boundedInteger request.seed "seed" 0 (2 ^ 63 - 1)
  let startSequence ← boundedInteger request.startSequence "start_sequence" 0 (2 ^ 63 - 1)
  let intervalUs ← boundedInteger request.intervalUs "interval_us" 0 maxGeneratedDurationUs
  rejectIf (2 ^ 63 - count < startSequence) (.value "generated sequence range exceeds signed 64-bit bounds")
  let span ← anyInteger (request.pointSpan.getD (.nat pointCount)) "point_span"
  rejectIf (!(1 ≤ span && span ≤ pointCount)) (.value "point_span must be between 1 and point_count")
  let base ← anyInteger (request.timestampBaseMs.getD (.nat now)) "timestamp_base_ms"
  rejectIf (!(0 ≤ base && base ≤ (maxDnp3Timestamp - (count - 1) : Nat)))
    (.value "generated timestamps exceed the DNP3 48-bit range")
  rejectIf (intervalUs ≠ 0 && maxGeneratedDurationUs < count * intervalUs)
    (.value "generated stream duration must not exceed 55 seconds")
  return {
    scenarioId := scenario, pointType := kind, seed, startSequence, eventTotal := count
    timestampBaseMs := base.toNat, pointSpan := span.toNat, intervalUs
    recordsSha256 := digest (generatedRecords kind seed span.toNat startSequence count) }

/-- What `plan_events` has established of an accepted request. -/
structure GeneratedEventTruth.Accepted (truth : GeneratedEventTruth) (pointCount : Nat) : Prop where
  count : 1 ≤ truth.eventTotal ∧ truth.eventTotal ≤ maxGeneratedEvents
  seed : truth.seed < 2 ^ 63
  sequence : truth.startSequence + truth.eventTotal ≤ 2 ^ 63
  span : 1 ≤ truth.pointSpan ∧ truth.pointSpan ≤ pointCount
  timestamp : truth.timestampBaseMs + truth.eventTotal ≤ 2 ^ 48
  duration : truth.eventTotal * truth.intervalUs ≤ maxGeneratedDurationUs

/-- An integer is accepted as it stands. -/
theorem anyInteger_ok_iff {value : Json} {name : String} {n : Int} : anyInteger value name = .ok n ↔ value = .int n := by
  unfold anyInteger
  split
  · simp
  · next other =>
    simp only [reduceCtorEq, false_iff]
    rintro rfl
    exact other n rfl

/-- A bounded integer is accepted exactly within its bounds. -/
theorem boundedInteger_ok_iff {value : Json} {name : String} {minimum maximum n : Nat} :
    boundedInteger value name minimum maximum = .ok n ↔ value = .nat n ∧ minimum ≤ n ∧ n ≤ maximum := by
  simp only [boundedInteger, ok_bind_iff, anyInteger_ok_iff, rejectIf_ok, ok_pure_iff, Json.nat, Bool.not_eq_false',
    Bool.and_eq_true, decide_eq_true_eq, exists_const]
  constructor
  · rintro ⟨i, rfl, ⟨low, high⟩, rfl⟩
    have natural : ((i.toNat : Nat) : Int) = i := Int.toNat_of_nonneg (by omega)
    exact ⟨congrArg Json.int natural.symm, by omega, by omega⟩
  · rintro ⟨rfl, low, high⟩
    exact ⟨n, rfl, ⟨by exact_mod_cast low, by exact_mod_cast high⟩, Int.toNat_natCast n⟩

@[simp] theorem GeneratedType.ofValue_name (kind : GeneratedType) :
    GeneratedType.ofValue (.str kind.name) = .ok kind := by
  cases kind <;> decide +kernel

/-- A scenario id is accepted exactly if it is one. -/
theorem scenarioId_ok_iff {value : Json} {maximum : Nat} {s : Text} :
    scenarioId value maximum = .ok s ↔ value = .str s ∧ isScenarioId s maximum = true := by
  unfold scenarioId
  split
  · next t =>
    by_cases token : isScenarioId t maximum = true
    · rw [if_pos token, Except.ok.injEq, Json.str.injEq]
      exact ⟨fun same => ⟨same, same ▸ token⟩, fun ⟨same, _⟩ => same⟩
    · rw [if_neg token]
      refine iff_of_false (by simp) ?_
      rintro ⟨same, is⟩
      exact token (Json.str.inj same ▸ is)
  · next other =>
    refine iff_of_false (by simp) ?_
    rintro ⟨rfl, -⟩
    exact other s rfl

section
variable {digest : List GeneratedRecord → Text} {pointCount now : Nat}

/-- What an accepted request comes to. -/
theorem planEvents_ok {request : EventRequest} {truth : GeneratedEventTruth}
    (accepted : planEvents digest pointCount now request = .ok truth) :
    truth.Accepted pointCount ∧ truth.recordsSha256 = digest truth.records := by
  simp only [planEvents, ok_bind_iff, rejectIf_ok, anyInteger_ok_iff, boundedInteger_ok_iff, scenarioId_ok_iff,
    ok_pure_iff, exists_const] at accepted
  obtain ⟨kind, -, scenario, -, count, ⟨-, countRange⟩, seed, ⟨-, seedRange⟩, startSequence, ⟨-, startRange⟩,
    intervalUs, ⟨-, intervalRange⟩, sequence, span, -, spanRange, base, -, baseRange, duration, rfl⟩ := accepted
  simp only [decide_eq_false_iff_not, Bool.not_eq_false', Bool.and_eq_true, decide_eq_true_eq] at sequence spanRange
  simp only [Bool.not_eq_false', Bool.and_eq_true, decide_eq_true_eq] at baseRange
  simp only [Bool.and_eq_false_iff, decide_eq_false_iff_not, not_not, not_lt] at duration
  refine ⟨⟨countRange, ?_, ?_, ?_, ?_, ?_⟩, rfl⟩
  · show seed < 2 ^ 63
    omega
  · show startSequence + count ≤ 2 ^ 63
    unfold maxGeneratedEvents at countRange
    omega
  · show 1 ≤ span.toNat ∧ span.toNat ≤ pointCount
    omega
  · show base.toNat + count ≤ 2 ^ 48
    unfold maxGeneratedEvents at countRange
    unfold maxDnp3Timestamp at baseRange
    omega
  · obtain rfl | short := duration
    · exact (Nat.mul_zero count).trans_le (Nat.zero_le _)
    · exact short

/-- The request for a stream, with every argument given. -/
def GeneratedEventTruth.request (truth : GeneratedEventTruth) : EventRequest where
  pointType := .str truth.pointType.name
  count := .nat truth.eventTotal
  scenarioId := .str truth.scenarioId
  seed := .nat truth.seed
  startSequence := .nat truth.startSequence
  timestampBaseMs := some (.nat truth.timestampBaseMs)
  pointSpan := some (.nat truth.pointSpan)
  intervalUs := .nat truth.intervalUs

/-- A stream within the limits is accepted. -/
theorem planEvents_request {truth : GeneratedEventTruth} (limits : truth.Accepted pointCount)
    (scenario : isScenarioId truth.scenarioId 128 = true) (hashed : truth.recordsSha256 = digest truth.records) :
    planEvents digest pointCount now truth.request = .ok truth := by
  obtain ⟨count, seed, sequence, span, timestamp, duration⟩ := limits
  simp only [planEvents, ok_bind_iff, rejectIf_ok, anyInteger_ok_iff, boundedInteger_ok_iff, scenarioId_ok_iff,
    ok_pure_iff, exists_const]
  refine ⟨truth.pointType, GeneratedType.ofValue_name _, truth.scenarioId, ⟨rfl, scenario⟩, truth.eventTotal,
    ⟨rfl, count⟩, truth.seed, ⟨rfl, Nat.zero_le _, by omega⟩, truth.startSequence, ⟨rfl, Nat.zero_le _, by omega⟩,
    truth.intervalUs, ⟨rfl, Nat.zero_le _, ?_⟩, ?_, truth.pointSpan, rfl, ?_, truth.timestampBaseMs, rfl, ?_, ?_, ?_⟩
  · calc truth.intervalUs ≤ truth.eventTotal * truth.intervalUs := Nat.le_mul_of_pos_left _ count.1
      _ ≤ maxGeneratedDurationUs := duration
  · simp only [decide_eq_false_iff_not]
    omega
  · simp only [Bool.not_eq_false', Bool.and_eq_true, decide_eq_true_eq]
    omega
  · have below : truth.timestampBaseMs ≤ maxDnp3Timestamp - (truth.eventTotal - 1) := by
      unfold maxDnp3Timestamp
      omega
    simp only [Bool.not_eq_false', Bool.and_eq_true, decide_eq_true_eq]
    exact ⟨Int.natCast_nonneg _, by exact_mod_cast below⟩
  · simp only [Bool.and_eq_false_iff, decide_eq_false_iff_not, not_not, not_lt]
    exact .inr duration
  · rw [Int.toNat_natCast, Int.toNat_natCast]
    cases truth
    simp only [GeneratedEventTruth.mk.injEq, true_and]
    exact hashed.symm

end

end EmsDnp3.Python
