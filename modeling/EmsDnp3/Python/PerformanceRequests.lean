import EmsDnp3.Python.PerformanceProfile

/-!
# The requests of a performance scenario

What `_execute_iteration` of `performance.py` calls, up to the checks that `client.py` makes of the arguments, and
the capabilities that a scenario names. `max_request_bytes` bounds a request, not its arguments.
-/

namespace EmsDnp3.Python

/-! ## The client -/

/-- A request as the client sends it. -/
structure Request where
  command : String
  params : Json

/-- `_request`, up to the exchange. -/
def request (command : String) (params : Json) (timeout : Double) : Except PyError Request := do
  rejectIf (!timeout.isFinite || Double.le timeout (.finite 0)) (.value "timeout must be a positive finite number")
  return { command, params }

/-- `_read_options` -/
def readOptions (timeout : PyNumber) (maxMeasurements : Int) (returnMode : ReturnMode) :
    Except PyError (List (String × Json)) :=
  match timeout.toFloat with
  | .ok (.finite seconds) => do
    rejectIf (!(literal64 (5 / 100) ≤ seconds && seconds ≤ 300)) (.value "timeout must be between 0.05 and 300 seconds")
    rejectIf (!(1 ≤ maxMeasurements && maxMeasurements ≤ 1000000))
      (.value "max_measurements must be an integer between 1 and 1000000")
    match Double.mul (.finite seconds) (.finite 1000) with
    | .finite scaled => .ok [("timeout_ms", .int (roundHalfEven scaled)), ("max_measurements", .int maxMeasurements),
        ("return_mode", .str returnMode.name)]
    | _ => .error (.overflow "cannot convert float infinity to integer")
  | _ => .error (.value "timeout must be between 0.05 and 300 seconds")

/-- `begin_capture` -/
def beginCapture (config : CaptureConfig) (requestTimeout : Double) : Except PyError Request :=
  request "capture.begin" config.toParams requestTimeout

/-- `integrity_poll` -/
def integrityPoll (timeout : PyNumber) (maxMeasurements : Int) (returnMode : ReturnMode) (requestTimeout : Double) :
    Except PyError Request := do
  let options ← readOptions timeout maxMeasurements returnMode
  request "integrity_poll" (.object options) requestTimeout

/-- `type(value) is int` -/
def isExactInt : Json → Bool
  | .int _ => true
  | _ => false

/-- `class_poll` -/
def classPoll (classes : List Json) (timeout : PyNumber) (maxMeasurements : Int) (returnMode : ReturnMode)
    (requestTimeout : Double) : Except PyError Request := do
  rejectIf (!(1 ≤ classes.length && classes.length ≤ 3)) (.value "classes must contain between one and three items")
  rejectIf (classes.any fun value => !isExactInt value || (classNumber? value).isNone)
    (.value "classes may contain only the integers 1, 2, and 3")
  rejectIf (!decide (classes.map classNumber?).Nodup) (.value "classes must not contain duplicate values")
  let options ← readOptions timeout maxMeasurements returnMode
  request "class_poll" (.object (options ++ [("classes", .arr classes)])) requestTimeout

/-- `read` -/
def clientRead (headers : List ReadHeader) (timeout : PyNumber) (maxMeasurements : Int) (returnMode : ReturnMode)
    (requestTimeout : Double) : Except PyError Request := do
  rejectIf (!(1 ≤ headers.length && headers.length ≤ 64)) (.value "headers must contain between one and 64 items")
  let options ← readOptions timeout maxMeasurements returnMode
  request "read" (.object (options ++ [("headers", .arr (headers.map (·.toParams)))])) requestTimeout

/-! ## The scenario -/

/-- `_QUALIFIER_CAPABILITIES` -/
def qualifierCapability : ReadQualifier → String
  | .allObjects => "QUAL.Q06.REVIEW"
  | .range8 => "QUAL.Q00.REVIEW"
  | .range16 => "QUAL.Q01.REVIEW"
  | .count8 => "QUAL.Q07.REVIEW"
  | .count16 => "QUAL.Q08.REVIEW"

/-- `f"OBJ.G{group}.V{variation}"` -/
def objectIdentifier (group variation : Nat) : Text :=
  text "OBJ.G" ++ decimal group ++ text ".V" ++ decimal variation

/-- `f"OBJ.G60.V{event_class + 1}"`; the successor of a `bool` is an `int`, that of a `float` is not. -/
def classIdentifier (eventClass : Json) : Text :=
  let number := (classNumber? eventClass).getD 0
  match eventClass with
  | .float _ => objectIdentifier 60 (number + 1) ++ text ".0"
  | _ => objectIdentifier 60 (number + 1)

namespace ReadPerformanceScenario
variable (s : ReadPerformanceScenario)

/-- The identifiers of the operation. -/
def operationIds : List Text :=
  match s.operation with
  | .integrityPoll => ["APP.CLASS.EVENTS", "OBJ.G60.V1", "OBJ.G60.V2", "OBJ.G60.V3", "OBJ.G60.V4", "QUAL.Q06.REVIEW"]
  | .classPoll => text "APP.CLASS.EVENTS" :: s.classes.map classIdentifier ++ [text "QUAL.Q06.REVIEW"]
  | .read => s.headers.flatMap fun h => [objectIdentifier h.group h.variation, text (qualifierCapability h.qualifier)]

/-- The identifiers of the objects that are expected. -/
def expectedIds : List Text :=
  s.expectedByGroupVariation.items.map fun item =>
    match item.1.splitOn (CodePoint.ofChar ':') with
    | [group, variation] => objectIdentifier (digitsValue group) (digitsValue variation)
    | _ => []

/-- `required_capability_ids` -/
def requiredCapabilityIds : List Text :=
  let common : List Text := ["APP.FC.01.READ", "APP.TASK.LIFECYCLE", "APP.TASK.OBSERVABILITY"]
  sorted (common ++ s.operationIds ++ s.expectedIds).dedup

/-- The request of `_execute_read`. -/
def executeRead : Except PyError Request :=
  let timeout := s.taskTimeoutSeconds.raw
  let requestTimeout := Double.add (.finite s.taskTimeoutSeconds.value) (.finite 1)
  match s.operation with
  | .read => clientRead s.headers timeout s.maxMeasurements.val .summary requestTimeout
  | .classPoll => classPoll s.classes timeout s.maxMeasurements.val .summary requestTimeout
  | .integrityPoll => integrityPoll timeout s.maxMeasurements.val .summary requestTimeout

/-- The requests that `_execute_iteration` begins with. -/
def requests : Except PyError (List Request) :=
  match s.capture with
  | none => do
    let read ← s.executeRead
    return [read]
  | some config => do
    let capture ← beginCapture config (.finite 2)
    let read ← s.executeRead
    return [capture, read]

end ReadPerformanceScenario

/-! ## Acceptance -/

/-- With a positive timeout every request is built. -/
theorem request_ok {command : String} {params : Json} {timeout : ℚ} (positive : 0 < timeout) :
    request command params (.finite timeout) = .ok { command, params } := by
  unfold request
  have passes : (!(Double.finite timeout).isFinite || Double.le (.finite timeout) (.finite 0)) = false := by
    simp [Double.isFinite, Double.le, positive]
  rw [rejectIf_pass passes]
  rfl

/-- What a scenario's timeout and size pass as options. -/
theorem readOptions_ok (timeout : NumberIn (literal64 (5 / 100)) 300) (size : NatIn 1 1000000) (mode : ReturnMode) :
    ∃ options, readOptions timeout.raw size.val mode = .ok options := by
  have low := timeout.low_le
  have high := timeout.le_high
  have least := shortest_timeout
  obtain ⟨scaled, finite, -⟩ := Double.round_moderate (q := timeout.value * 1000) (by linarith) (by linarith)
  unfold readOptions
  rw [timeout.isFloat]
  dsimp only
  rw [rejectIf_pass (by simp [low, high]), rejectIf_pass (by have := size.property; simp; omega)]
  rw [show Double.mul (.finite timeout.value) (.finite 1000) = .finite scaled from finite]
  exact ⟨_, rfl⟩

namespace ReadPerformanceScenario
variable {s : ReadPerformanceScenario}

/-- The timeout of a request is positive. -/
theorem requestTimeout_pos (s : ReadPerformanceScenario) :
    ∃ timeout : ℚ, Double.add (.finite s.taskTimeoutSeconds.value) (.finite 1) = .finite timeout ∧ 0 < timeout := by
  have low := s.taskTimeoutSeconds.low_le
  have high := s.taskTimeoutSeconds.le_high
  have least := shortest_timeout
  obtain ⟨timeout, finite, positive⟩ :=
    Double.round_moderate (q := s.taskTimeoutSeconds.value + 1) (by linarith) (by linarith)
  exact ⟨timeout, finite, by linarith⟩

/-- Only the types of the classes are left for the client to refuse. -/
theorem executeRead_ok_iff : (∃ r, s.executeRead = .ok r) ↔ ∀ item ∈ s.classes, isExactInt item = true := by
  obtain ⟨timeout, sum, positive⟩ := s.requestTimeout_pos
  obtain ⟨options, passes⟩ := readOptions_ok s.taskTimeoutSeconds s.maxMeasurements .summary
  have headers := s.headersFit
  have classes := s.classesFit
  unfold executeRead
  cases operation : s.operation with
  | read =>
    dsimp only
    rw [classes.others (by simp [operation])]
    have size := headers.size operation
    unfold clientRead
    rw [rejectIf_pass (by simp [size]), ok_bind, passes, ok_bind, sum, request_ok positive]
    simp
  | integrityPoll =>
    dsimp only
    rw [classes.others (by simp [operation])]
    unfold integrityPoll
    rw [passes, ok_bind, sum, request_ok positive]
    simp
  | classPoll =>
    dsimp only
    have size := classes.size operation
    unfold classPoll
    rw [rejectIf_pass (by simp [size]), ok_bind]
    constructor
    · rintro ⟨r, ok⟩ item mem
      obtain ⟨_, exact_, -⟩ := ok_bind_iff.mp ok
      rw [rejectIf_ok, List.any_eq_false] at exact_
      have here := exact_ item mem
      simp only [Bool.or_eq_true, Bool.not_eq_true', not_or, Bool.not_eq_false] at here
      exact here.1
    · intro exact_
      have none_ : (s.classes.any fun value => !isExactInt value || (classNumber? value).isNone) = false := by
        rw [List.any_eq_false]
        intro value mem
        have known := Option.isSome_iff_ne_none.mp (classes.known value mem)
        simp [exact_ value mem, known]
      rw [rejectIf_pass none_, ok_bind, rejectIf_pass (by simp [classes.unique]), ok_bind, passes, ok_bind, sum,
        request_ok positive]
      exact ⟨_, rfl⟩

/-- All requests of a scenario can be built exactly if one can. -/
theorem requests_ok_iff : (∃ rs, s.requests = .ok rs) ↔ ∃ r, s.executeRead = .ok r := by
  unfold requests
  cases s.capture with
  | none =>
    constructor
    · rintro ⟨rs, ok⟩
      obtain ⟨r, read, -⟩ := ok_bind_iff.mp ok
      exact ⟨r, read⟩
    · rintro ⟨r, read⟩
      exact ⟨[r], ok_bind_iff.mpr ⟨r, read, rfl⟩⟩
  | some config =>
    dsimp only
    unfold beginCapture
    rw [request_ok (by norm_num), ok_bind]
    constructor
    · rintro ⟨rs, ok⟩
      obtain ⟨r, read, -⟩ := ok_bind_iff.mp ok
      exact ⟨r, read⟩
    · rintro ⟨r, read⟩
      exact ⟨_, ok_bind_iff.mpr ⟨r, read, rfl⟩⟩

/-- The identifiers that every class poll asks for, whatever its classes. -/
def classPollIds : List Text :=
  ["APP.FC.01.READ", "APP.TASK.LIFECYCLE", "APP.TASK.OBSERVABILITY", "APP.CLASS.EVENTS", "QUAL.Q06.REVIEW"].map text

/-- The capabilities of a class poll: those of every class poll, of its expected objects and of its classes. -/
theorem mem_requiredCapabilityIds (isClassPoll : s.operation = .classPoll) {id : Text} :
    id ∈ s.requiredCapabilityIds ↔ id ∈ classPollIds ∨ id ∈ s.expectedIds ∨ id ∈ s.classes.map classIdentifier := by
  unfold requiredCapabilityIds operationIds classPollIds
  rw [isClassPoll]
  simp only [sorted, List.mem_insertionSort, List.mem_dedup, List.mem_append, List.mem_cons, List.map_cons, List.map_nil,
    List.not_mem_nil, or_false]
  constructor
  · rintro (((read | lifecycle | observed) | ((events | own) | all)) | expected)
    · exact .inl (.inl read)
    · exact .inl (.inr (.inl lifecycle))
    · exact .inl (.inr (.inr (.inl observed)))
    · exact .inl (.inr (.inr (.inr (.inl events))))
    · exact .inr (.inr own)
    · exact .inl (.inr (.inr (.inr (.inr all))))
    · exact .inr (.inl expected)
  · rintro ((read | lifecycle | observed | events | all) | expected | own)
    · exact .inl (.inl (.inl read))
    · exact .inl (.inl (.inr (.inl lifecycle)))
    · exact .inl (.inl (.inr (.inr observed)))
    · exact .inl (.inr (.inl (.inl events)))
    · exact .inl (.inr (.inr all))
    · exact .inr expected
    · exact .inl (.inr (.inl (.inr own)))

/-- The client takes the requests of the scenario, and its class identifiers are those of event classes: a class poll
asks for no others. -/
structure Executable (s : ReadPerformanceScenario) : Prop where
  requests : ∃ rs, s.requests = .ok rs
  classIds : ∀ item ∈ s.classes, classIdentifier item ∈ ["OBJ.G60.V2", "OBJ.G60.V3", "OBJ.G60.V4"].map text
  capabilityIds : s.operation = .classPoll → ∀ id ∈ s.requiredCapabilityIds, id ∈ classPollIds ∨ id ∈ s.expectedIds ∨
    id ∈ ["OBJ.G60.V2", "OBJ.G60.V3", "OBJ.G60.V4"].map text

end ReadPerformanceScenario

/-- A class that is an integer has a capability id. -/
theorem classIdentifier_mem {item : Json} (exact_ : isExactInt item = true) (known : (classNumber? item).isSome = true) :
    classIdentifier item ∈ ["OBJ.G60.V2", "OBJ.G60.V3", "OBJ.G60.V4"].map text := by
  obtain ⟨n, found⟩ := Option.isSome_iff_exists.mp known
  have mem : n ∈ [1, 2, 3] := List.mem_of_find?_eq_some found
  have ids : ∀ n ∈ [1, 2, 3], objectIdentifier 60 (n + 1) ∈ ["OBJ.G60.V2", "OBJ.G60.V3", "OBJ.G60.V4"].map text := by
    decide
  cases item with
  | int m =>
    unfold classIdentifier
    rw [found]
    exact ids n mem
  | _ => cases exact_

/-- A profile that loads is executable where the classes of its class polls are integers: `true` and `1.0` are equal
to one of them, and the client does not take them. -/
theorem loadPerformanceProfile_executable {sha256 : List Byte → Text} {limit : Nat} {raw : List Byte}
    {profile : PerformanceProfile} (_loaded : loadPerformanceProfile sha256 limit raw = .ok profile) :
    (∀ s ∈ profile.scenarios, s.Executable) ↔
      ∀ s ∈ profile.scenarios, s.operation = .classPoll → ∀ item ∈ s.classes, isExactInt item = true := by
  apply forall₂_congr
  intro s _
  constructor
  · intro executable _
    exact ReadPerformanceScenario.executeRead_ok_iff.mp (ReadPerformanceScenario.requests_ok_iff.mp executable.requests)
  · intro exact_
    have all : ∀ item ∈ s.classes, isExactInt item = true := by
      by_cases isClassPoll : s.operation = .classPoll
      · exact exact_ isClassPoll
      · rw [s.classesFit.others isClassPoll]
        simp
    have classIds : ∀ item ∈ s.classes,
        classIdentifier item ∈ ["OBJ.G60.V2", "OBJ.G60.V3", "OBJ.G60.V4"].map text := by
      intro item mem
      exact classIdentifier_mem (all item mem) (s.classesFit.known item mem)
    refine ⟨?_, classIds, ?_⟩
    · exact ReadPerformanceScenario.requests_ok_iff.mpr (ReadPerformanceScenario.executeRead_ok_iff.mpr all)
    · intro isClassPoll id required
      rcases (ReadPerformanceScenario.mem_requiredCapabilityIds isClassPoll).mp required with fixed | expected | own
      · exact .inl fixed
      · exact .inr (.inl expected)
      · obtain ⟨item, mem, rfl⟩ := List.mem_map.mp own
        exact .inr (.inr (classIds item mem))

/-- A JSON object as a text, its values given. -/
def objectText (members : List (String × Text)) : Text :=
  [0x7B] ++ [0x2C].intercalate (members.map fun m => [0x22] ++ text m.1 ++ [0x22, 0x3A] ++ m.2) ++ [0x7D]

/-- An object with the number one in most of its members. -/
def onesText (names : List String) : Text := objectText (names.map fun name => (name, text "1"))

/-- A profile with one class poll. -/
def classPollProfile (classes : Text) : List Byte :=
  let scenario := objectText [("scenario_id", text "\"s\""), ("operation", text "\"class_poll\""),
    ("headers", text "[]"), ("classes", classes), ("capture", text "null"), ("warmup_iterations", text "0"),
    ("measurement_iterations", text "1"), ("interval_seconds", text "0"), ("cooldown_seconds", text "0"),
    ("task_timeout_seconds", text "1"), ("max_measurements", text "1"), ("expected_objects_per_iteration", text "0"),
    ("expected_by_kind", text "\x7b\x7d"), ("expected_by_group_variation", text "\x7b\x7d"),
    ("baseline_scenario_id", text "null")]
  let thresholds := onesText ["minimum_samples", "max_task_p95_ms", "max_task_p99_ms", "max_task_ms",
    "max_cpu_core_percent", "max_working_set_bytes", "max_private_bytes", "max_handle_count", "max_thread_count",
    "max_private_growth_bytes_per_hour", "max_working_set_growth_bytes_per_hour", "max_handle_growth",
    "max_thread_growth", "max_capture_overhead_percent"]
  let soak := objectText [("target_duration_seconds", text "1"), ("cycle_interval_seconds", text "1"),
    ("checkpoint_interval_seconds", text "1"), ("resource_sample_interval_seconds", text "1"),
    ("watchdog_timeout_seconds", text "3"), ("max_checkpoints", text "2"), ("max_evidence_bytes", text "65536"),
    ("min_free_disk_bytes", text "0"), ("allowed_reconnects", text "0"), ("max_consecutive_failures", text "0")]
  let profile := objectText [("schema_version", text "1"), ("profile_id", text "\"p\""),
    ("scope", text "\"LOCAL_LOOPBACK_ONLY\""), ("seed", text "1"),
    ("scenarios", text "[" ++ scenario ++ text "]"), ("thresholds", thresholds), ("soak", soak)]
  profile.map fun c => .ofNat c.val

/-- The digest of the file with the classes `[true]`. -/
def trueDigest (_ : List Byte) : Text :=
  text "022fc1aca840b4f599db097fb53017e2" ++ text "66b14f29bc5c9080b60a52ff8f0df32e"

/-- The classes of a file's scenarios. -/
def loadedClasses (raw : List Byte) : Option (List (List Json)) :=
  match loadPerformanceProfile trueDigest 1000 raw with
  | .ok profile => some (profile.scenarios.map (·.classes))
  | .error _ => none

set_option maxRecDepth 100000 in
theorem loadedClasses_true : loadedClasses (classPollProfile (text "[true]")) = some [[.bool true]] := by decide +kernel

/-- Classes that are found are those of a profile that is loaded. -/
theorem loadedClasses_some {raw : List Byte} {classes : List (List Json)} (found : loadedClasses raw = some classes) :
    ∃ profile, loadPerformanceProfile trueDigest 1000 raw = .ok profile ∧ profile.scenarios.map (·.classes) = classes := by
  unfold loadedClasses at found
  split at found
  · next profile loaded => exact ⟨profile, loaded, Option.some.inj found⟩
  · cases found

/-- A profile with the class `true` is loaded. -/
theorem loaded_true : ∃ profile, loadPerformanceProfile trueDigest 1000 (classPollProfile (text "[true]")) = .ok profile ∧
    profile.scenarios.map (·.classes) = [[.bool true]] :=
  loadedClasses_some loadedClasses_true

/-- The class poll of the class `true` is refused by the client. -/
theorem loadPerformanceProfile_true :
    ∃ profile, loadPerformanceProfile trueDigest 1000 (classPollProfile (text "[true]")) = .ok profile ∧
      ¬ ∀ s ∈ profile.scenarios, s.Executable := by
  obtain ⟨profile, loaded, classes⟩ := loaded_true
  refine ⟨profile, loaded, fun executable => ?_⟩
  have mem : [Json.bool true] ∈ profile.scenarios.map (·.classes) := by rw [classes]; exact List.mem_singleton_self _
  obtain ⟨s, here, same⟩ := List.mem_map.mp mem
  have exact_ := ReadPerformanceScenario.executeRead_ok_iff.mp
    (ReadPerformanceScenario.requests_ok_iff.mp (executable s here).requests)
  have isInt := exact_ (.bool true) (by rw [same]; exact List.mem_singleton_self _)
  cases isInt

/-- The scenario of that profile cannot be executed. -/
theorem loadPerformanceProfile_executable_true :
    ∃ profile, loadPerformanceProfile trueDigest 1000 (classPollProfile (text "[true]")) = .ok profile ∧
      ((∀ s ∈ profile.scenarios, s.Executable) ↔
        ∀ s ∈ profile.scenarios, s.operation = .classPoll → ∀ item ∈ s.classes, isExactInt item = true) := by
  obtain ⟨profile, loaded, _⟩ := loaded_true
  exact ⟨profile, loaded, loadPerformanceProfile_executable loaded⟩

end EmsDnp3.Python
