import EmsDnp3.Python.CaptureModels

/-!
# Connection, read and command parameters of the client

`models.py` and `client.py`: what a call hands to the host. As in `CaptureModels`, a value carries
what its checks establish: those of `__post_init__` for a model class, those before the request is
built for the arguments of a call. A duration is the number of milliseconds it rounds to.
-/

namespace EmsDnp3.Python

/-! ## Connection -/

/-- `_endpoint_text(value, _, maximum)` does not raise. -/
structure IsEndpointText (value : Text) (maximum : Nat) : Prop where
  nonempty : value ≠ []
  short : value.length ≤ maximum
  printable : isPrintable value = true

/-- `LabSafetyConfig`, with what `__post_init__` checks. -/
structure LabSafetyConfig where
  operatorId : Text
  dutId : Text
  allowStateChange : Bool := false
  operator : IsEndpointText operatorId 128
  dut : IsEndpointText dutId 128

def LabSafetyConfig.toParams (s : LabSafetyConfig) : Json :=
  .object [("environment", .str "LAB"), ("allow_state_change", .bool s.allowStateChange),
    ("operator_id", .str s.operatorId), ("dut_id", .str s.dutId)]

/-- `TcpConnectionConfig`, with what `__post_init__` checks. -/
structure TcpConnectionConfig where
  host : Text
  port : Nat := 20000
  localAdapter : Text := "0.0.0.0"
  connectTimeoutMs : Nat := 5000
  retryMinMs : Nat := 1000
  retryMaxMs : Nat := 60000
  masterAddress : Nat := 1
  outstationAddress : Nat := 1024
  keepAliveTimeoutMs : Nat := 60000
  safety : Option LabSafetyConfig := none
  simulator : Bool := false
  hostOk : IsEndpointText host 253
  adapterOk : IsEndpointText localAdapter 64
  portOk : 1 ≤ port ∧ port ≤ 65535
  masterOk : masterAddress ≤ 65519
  outstationOk : outstationAddress ≤ 65519
  addressesDiffer : masterAddress ≠ outstationAddress
  exclusive : ¬ (simulator = true ∧ safety.isSome = true)
  connectTimeoutOk : 50 ≤ connectTimeoutMs ∧ connectTimeoutMs ≤ 300000
  retryMinOk : 10 ≤ retryMinMs ∧ retryMinMs ≤ 300000
  retryMaxOk : 10 ≤ retryMaxMs ∧ retryMaxMs ≤ 300000
  retryOk : retryMinMs ≤ retryMaxMs
  keepAliveOk : 1000 ≤ keepAliveTimeoutMs ∧ keepAliveTimeoutMs ≤ 86400000

namespace TcpConnectionConfig

/-- The member `safety`, when there is one. -/
def safetyParams (c : TcpConnectionConfig) : Option Json :=
  match c.safety with
  | some safety => some safety.toParams
  | none => if c.simulator then some (.object [("environment", .str "SIMULATOR")]) else none

/-- The parameters of `connect`. -/
def toParams (c : TcpConnectionConfig) : Json :=
  .object <|
    [("host", .str c.host), ("port", .nat c.port), ("local_adapter", .str c.localAdapter),
     ("connect_timeout_ms", .nat c.connectTimeoutMs),
     ("retry", .object [("min_ms", .nat c.retryMinMs), ("max_ms", .nat c.retryMaxMs)]),
     ("link", .object [("master_address", .nat c.masterAddress), ("outstation_address", .nat c.outstationAddress),
       ("keep_alive_timeout_ms", .nat c.keepAliveTimeoutMs)])] ++
    c.safetyParams.toList.map fun safety => ("safety", safety)

end TcpConnectionConfig

/-! ## Reads -/

/-- `_READ_QUALIFIERS` -/
inductive ReadQualifier where
  | allObjects
  | range8
  | range16
  | count8
  | count16
deriving DecidableEq, Repr

namespace ReadQualifier

def name : ReadQualifier → String
  | .allObjects => "all_objects"
  | .range8 => "range8"
  | .range16 => "range16"
  | .count8 => "count8"
  | .count16 => "count16"

/-- The largest index of a range qualifier. -/
def rangeMaximum : ReadQualifier → Option Nat
  | .range8 => some 255
  | .range16 => some 65535
  | _ => none

/-- The largest number of a count qualifier. -/
def countMaximum : ReadQualifier → Option Nat
  | .count8 => some 255
  | .count16 => some 65535
  | _ => none

end ReadQualifier

/-- `ReadHeader`, with what `__post_init__` checks. -/
structure ReadHeader where
  group : Nat
  variation : Nat
  qualifier : ReadQualifier := .allObjects
  start : Option Nat := none
  stop : Option Nat := none
  count : Option Nat := none
  groupOk : group ≤ 255
  variationOk : variation ≤ 255
  all : qualifier = .allObjects → start = none ∧ stop = none ∧ count = none
  range : ∀ maximum, qualifier.rangeMaximum = some maximum →
    count = none ∧ ∃ first last, start = some first ∧ stop = some last ∧ first ≤ last ∧ last ≤ maximum
  counted : ∀ maximum, qualifier.countMaximum = some maximum →
    start = none ∧ stop = none ∧ ∃ n, count = some n ∧ 1 ≤ n ∧ n ≤ maximum
  classData : ¬ (group = 60 ∧ 1 ≤ variation ∧ variation ≤ 4 ∧ qualifier.rangeMaximum.isSome = true)

/-- A member that is written only when it is not `None`. -/
def optionalMember (key : String) (value : Option Nat) : List (String × Json) :=
  value.toList.map fun n => (key, .nat n)

def ReadHeader.toParams (h : ReadHeader) : Json :=
  .object <|
    [("group", .nat h.group), ("variation", .nat h.variation), ("qualifier", .str h.qualifier.name)] ++
      optionalMember "start" h.start ++ optionalMember "stop" h.stop ++ optionalMember "count" h.count

/-- Whether a read returns its measurements. -/
inductive ReturnMode where
  | detail
  | summary
deriving DecidableEq, Repr

def ReturnMode.name : ReturnMode → String
  | .detail => "detail"
  | .summary => "summary"

/-- The arguments that `_read_options` lets through. -/
structure ReadOptions where
  timeoutMs : Nat := 5000
  maxMeasurements : Nat := 10000
  returnMode : ReturnMode := .detail
  timeoutOk : 50 ≤ timeoutMs ∧ timeoutMs ≤ 300000
  maximumOk : 1 ≤ maxMeasurements ∧ maxMeasurements ≤ 1000000

/-- `_read_options` -/
def ReadOptions.params (o : ReadOptions) : List (String × Json) :=
  [("timeout_ms", .nat o.timeoutMs), ("max_measurements", .nat o.maxMeasurements),
   ("return_mode", .str o.returnMode.name)]

/-- The arguments of `read`. -/
structure ReadRequest where
  options : ReadOptions
  headers : List ReadHeader
  headersOk : 1 ≤ headers.length ∧ headers.length ≤ 64

def ReadRequest.params (r : ReadRequest) : Json :=
  .object (r.options.params ++ [("headers", .arr (r.headers.map (·.toParams)))])

/-! ## Commands -/

/-- `_CROB_OPERATIONS` -/
inductive CrobOperation where
  | null
  | pulseOn
  | pulseOff
  | latchOn
  | latchOff
deriving DecidableEq, Repr

def CrobOperation.name : CrobOperation → String
  | .null => "null"
  | .pulseOn => "pulse_on"
  | .pulseOff => "pulse_off"
  | .latchOn => "latch_on"
  | .latchOff => "latch_off"

/-- `_TRIP_CLOSE_SELECTIONS` -/
inductive TripClose where
  | null
  | close
  | trip
deriving DecidableEq, Repr

def TripClose.name : TripClose → String
  | .null => "null"
  | .close => "close"
  | .trip => "trip"

/-- `CrobCommand`, with what `__post_init__` checks. -/
structure CrobCommand where
  index : Nat
  operation : CrobOperation
  tripClose : TripClose := .null
  clear : Bool := false
  count : Nat := 1
  onTimeMs : Nat := 100
  offTimeMs : Nat := 100
  indexOk : index ≤ 65535
  countOk : 1 ≤ count ∧ count ≤ 255
  onTimeOk : onTimeMs ≤ 0xFFFFFFFF
  offTimeOk : offTimeMs ≤ 0xFFFFFFFF

/-- A relay command as a parameter. -/
def CrobCommand.toParams (c : CrobCommand) : Json :=
  .object
    [("type", .str "crob"), ("index", .nat c.index), ("operation", .str c.operation.name),
     ("trip_close", .str c.tripClose.name), ("clear", .bool c.clear), ("count", .nat c.count),
     ("on_time_ms", .nat c.onTimeMs), ("off_time_ms", .nat c.offTimeMs)]

/-- `_ANALOG_COMMAND_TYPES` -/
inductive AnalogCommandType where
  | int16
  | int32
  | float32
  | double64
deriving DecidableEq, Repr

def AnalogCommandType.name : AnalogCommandType → String
  | .int16 => "analog_output_int16"
  | .int32 => "analog_output_int32"
  | .float32 => "analog_output_float32"
  | .double64 => "analog_output_double64"

/-- `AnalogOutputCommand.__post_init__` on the value. -/
def AnalogCommandType.Admits (value : Number) : AnalogCommandType → Prop
  | .int16 => ∃ n, value = .int n ∧ -(2 ^ 15) ≤ n ∧ n ≤ 2 ^ 15 - 1
  | .int32 => ∃ n, value = .int n ∧ -(2 ^ 31) ≤ n ∧ n ≤ 2 ^ 31 - 1
  | .float32 => value.isFinite = true ∧ value.fitsFloat = true
  | .double64 => value.isFinite = true

/-- `AnalogOutputCommand`, with what `__post_init__` checks. -/
structure AnalogOutputCommand where
  index : Nat
  value : Number
  commandType : AnalogCommandType
  indexOk : index ≤ 65535
  valueOk : commandType.Admits value

def AnalogOutputCommand.toParams (c : AnalogOutputCommand) : Json :=
  .object [("type", .str c.commandType.name), ("index", .nat c.index), ("value", c.value.json)]

/-- A command of a batch. -/
inductive Command where
  | crob (command : CrobCommand)
  | analog (command : AnalogOutputCommand)

namespace Command

def toParams : Command → Json
  | .crob command => command.toParams
  | .analog command => command.toParams

/-- The members of the set `identities`. -/
def identity : Command → String × Nat
  | .crob command => ("crob", command.index)
  | .analog command => (command.commandType.name, command.index)

end Command

/-- Whether the outstation is asked for a response. -/
inductive ResponseMode where
  | response
  | noResponse
deriving DecidableEq, Repr

def ResponseMode.name : ResponseMode → String
  | .response => "response"
  | .noResponse => "no_response"

/-- `_SAFETY_TOKEN_PATTERN` -/
def isSafetyToken (token : Text) : Bool :=
  token.length = 32 && token.all fun c =>
    isDigit c || (0x41 ≤ c.val && c.val ≤ 0x46) || (0x61 ≤ c.val && c.val ≤ 0x66)

/-- The arguments of `_command_task_result` with the token of the session. -/
structure CommandRequest where
  safetyToken : Text
  timeoutMs : Nat
  responseMode : ResponseMode
  commands : List Command
  tokenOk : isSafetyToken safetyToken = true
  timeoutOk : 50 ≤ timeoutMs ∧ timeoutMs ≤ 300000
  commandsOk : 1 ≤ commands.length ∧ commands.length ≤ 256
  distinct : (commands.map (·.identity)).Nodup

def CommandRequest.params (r : CommandRequest) : Json :=
  .object
    [("safety_token", .str r.safetyToken), ("timeout_ms", .nat r.timeoutMs),
     ("response_mode", .str r.responseMode.name), ("commands", .arr (r.commands.map (·.toParams)))]

end EmsDnp3.Python
