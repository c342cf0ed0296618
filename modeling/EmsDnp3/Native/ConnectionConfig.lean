import EmsDnp3.Native.RequestConfig

/-!
# Connection configuration

`ConnectionConfig.cpp`: the parameters of `connect`. State changes are only ever allowed by a
`safety` object, of a laboratory with an operator and a device named, or of a simulator.
-/

namespace EmsDnp3.Native

/-- The parameters of `connect`, with their defaults. -/
structure ConnectionConfig where
  host : Text := []
  port : Nat := 20000
  localAdapter : Text := "0.0.0.0"
  connectTimeoutMs : Nat := 5000
  retryMinMs : Nat := 1000
  retryMaxMs : Nat := 60000
  masterAddress : Nat := 1
  outstationAddress : Nat := 1024
  keepAliveTimeoutMs : Nat := 60000
  allowStateChange : Bool := false
  safetyEnvironment : Text := "UNSPECIFIED"
  operatorId : Text := []
  dutId : Text := []
deriving DecidableEq

namespace ConnectionConfig

/-- `read_string` of this file: one to `maximum` characters of `0x21..0x7E`. -/
def readString (object : Json) (key : String) (field : Text) (output : Text) (required : Bool) (maximum : Nat) :
    Except BackendError Text := do
  let value ← Request.readString object key field output required 1 maximum
  rejectIf ((object.get? key).isSome && !value.all fun c => 0x21 ≤ c.val && c.val ≤ 0x7E)
    (Request.invalidParameter field "invalid_character" [])
  return value

/-- `require_object`: an absent member is skipped. -/
def requireObject (object : Json) (key : String) (field : Text) : Except BackendError (Option Json) :=
  match object.get? key with
  | none => .ok none
  | some value =>
    if value.isObj then .ok (some value)
    else .error (Request.invalidParameter field "invalid_type" [("expected", .str "object")])

/-- The retry delays, the shorter first. -/
def parseRetry (retry : Json) (output : ConnectionConfig) : Except BackendError ConnectionConfig := do
  Request.rejectUnknownFields retry ["min_ms", "max_ms"] "retry"
  let minimum ← Request.readUnsigned retry "min_ms" "retry.min_ms" 10 300000 output.retryMinMs false
  let maximum ← Request.readUnsigned retry "max_ms" "retry.max_ms" 10 300000 output.retryMaxMs false
  rejectIf (maximum < minimum)
    (Request.invalidParameter "retry" "invalid_order" [("min_ms", .nat minimum), ("max_ms", .nat maximum)])
  return { output with retryMinMs := minimum, retryMaxMs := maximum }

/-- The link addresses and the keep-alive. -/
def parseLink (link : Json) (output : ConnectionConfig) : Except BackendError ConnectionConfig := do
  Request.rejectUnknownFields link ["master_address", "outstation_address", "keep_alive_timeout_ms"] "link"
  let masterAddress ← Request.readUnsigned link "master_address" "link.master_address" 0 65519 output.masterAddress false
  let outstationAddress ←
    Request.readUnsigned link "outstation_address" "link.outstation_address" 0 65519 output.outstationAddress false
  let keepAliveTimeoutMs ←
    Request.readUnsigned link "keep_alive_timeout_ms" "link.keep_alive_timeout_ms" 1000 86400000 output.keepAliveTimeoutMs
      false
  rejectIf (masterAddress = outstationAddress)
    (Request.invalidParameter "link" "addresses_must_differ"
      [("master_address", .nat masterAddress), ("outstation_address", .nat outstationAddress)])
  return { output with masterAddress, outstationAddress, keepAliveTimeoutMs }

/-- The safety section: environment, permission, operator and device. -/
def parseSafety (safety : Json) (output : ConnectionConfig) : Except BackendError ConnectionConfig := do
  Request.rejectUnknownFields safety ["environment", "allow_state_change", "operator_id", "dut_id"] "safety"
  let safetyEnvironment ← readString safety "environment" "safety.environment" output.safetyEnvironment true 16
  if safetyEnvironment = text "SIMULATOR" then
    rejectIf (safety.keys.length ≠ 1) (Request.invalidParameter "safety" "simulator_accepts_environment_only" [])
    return { output with safetyEnvironment, allowStateChange := true }
  rejectIf (safetyEnvironment ≠ text "LAB")
    (Request.invalidParameter "safety.environment" "state_change_requires_lab" [("received", .str safetyEnvironment)])
  let allowStateChange ←
    Request.readBoolean safety "allow_state_change" "safety.allow_state_change" output.allowStateChange true
  let operatorId ← readString safety "operator_id" "safety.operator_id" output.operatorId true 128
  let dutId ← readString safety "dut_id" "safety.dut_id" output.dutId true 128
  return { output with safetyEnvironment, allowStateChange, operatorId, dutId }

/-- A part of the configuration that may be absent. -/
def parsePart (parse : Json → ConnectionConfig → Except BackendError ConnectionConfig) (part : Option Json)
    (output : ConnectionConfig) : Except BackendError ConnectionConfig :=
  match part with
  | some value => parse value output
  | none => .ok output

end ConnectionConfig

def connectionFields : List String :=
  ["host", "port", "local_adapter", "connect_timeout_ms", "retry", "link", "safety"]

open ConnectionConfig in
/-- `parse_connection_config` on a default-initialised output. -/
def parseConnectionConfig (params : Json) : Except BackendError ConnectionConfig := do
  Request.rejectUnknownFields params connectionFields []
  let host ← readString params "host" "host" [] true 253
  let localAdapter ← readString params "local_adapter" "local_adapter" "0.0.0.0" false 64
  let port ← Request.readUnsigned params "port" "port" 1 65535 20000 false
  let connectTimeoutMs ← Request.readUnsigned params "connect_timeout_ms" "connect_timeout_ms" 50 300000 5000 false
  let output : ConnectionConfig := { host, localAdapter, port, connectTimeoutMs }
  let output ← parsePart parseRetry (← requireObject params "retry" "retry") output
  let output ← parsePart parseLink (← requireObject params "link" "link") output
  parsePart parseSafety (← requireObject params "safety" "safety") output

/-- The parameters of `wait_event`, with their defaults. -/
structure WaitEventConfig where
  timeoutMs : Nat := 0
  maxEvents : Nat := 64
deriving DecidableEq

/-- `parse_wait_event_config` on a default-initialised output. -/
def parseWaitEventConfig (params : Json) : Except BackendError WaitEventConfig := do
  Request.rejectUnknownFields params ["timeout_ms", "max_events"] []
  let timeoutMs ← Request.readUnsigned params "timeout_ms" "timeout_ms" 0 60000 0 false
  let maxEvents ← Request.readUnsigned params "max_events" "max_events" 1 256 64 false
  return { timeoutMs, maxEvents }

end EmsDnp3.Native
