import EmsDnp3.Base.Double
import EmsDnp3.Python.RequestMappings
import EmsDnp3.Python.Session

/-!
# Controls

`_command_task_result` of `client.py`: the gate in front of a control, its exchange, and what is made of an outcome that
the client cannot be sure of. Other processes may use the incident store while the exchange waits.
-/

namespace EmsDnp3.Python

open Disk (Does)
open Program (Reaches)

/-! ## Arguments -/

/-- The batch that the checks let through. -/
structure ControlBatch where
  timeoutMs : NatIn 50 300000
  responseMode : ResponseMode
  commands : List Command
  commandsOk : 1 ≤ commands.length ∧ commands.length ≤ 256
  distinct : (commands.map (·.identity)).Nodup

theorem ControlBatch.timeoutOk (batch : ControlBatch) : 50 ≤ batch.timeoutMs.val ∧ batch.timeoutMs.val ≤ 300000 :=
  batch.timeoutMs.property

/-- `params` -/
def ControlBatch.request (batch : ControlBatch) (token : SafetyToken) : CommandRequest where
  safetyToken := token.val
  timeoutMs := batch.timeoutMs.val
  responseMode := batch.responseMode
  commands := batch.commands
  tokenOk := token.property
  timeoutOk := batch.timeoutOk
  commandsOk := batch.commandsOk
  distinct := batch.distinct

/-- `command_payload` -/
def ControlBatch.payload (operation : Text) (batch : ControlBatch) : Json :=
  .object [("operation", .str operation), ("timeout_ms", .nat batch.timeoutMs.val),
    ("response_mode", .str batch.responseMode.name), ("commands", .arr (batch.commands.map (·.toParams)))]

/-- `round(task_timeout * 1000)`; a product of this size is no infinity. -/
def taskMilliseconds (seconds : ℚ) : Int := roundHalfEven (Double.nearest (seconds * 1000))

/-- Seconds within the bounds are milliseconds within theirs. -/
theorem taskMilliseconds_inside {seconds : ℚ} (inside : literal64 (5 / 100) ≤ seconds ∧ seconds ≤ 300) :
    (50 : Nat) ≤ taskMilliseconds seconds ∧ taskMilliseconds seconds ≤ (300000 : Nat) := by
  have least := shortest_timeout
  obtain ⟨low, high⟩ := Double.nearest_between (q := seconds * 1000) (m := 50) (n := 300000) (by norm_num)
    (by push_cast; linarith) (by push_cast; linarith) (by norm_num)
  exact ⟨le_roundHalfEven_int (by exact_mod_cast low), roundHalfEven_le_int (by exact_mod_cast high)⟩

/-- The check of `timeout`. -/
def controlTimeout (timeout : Json) : Except PyError (NatIn 50 300000) :=
  match number? timeout with
  | none => .error (.value "timeout must be between 0.05 and 300 seconds")
  | some value =>
    match value.toFloat with
    | .ok (.finite seconds) =>
      if inside : literal64 (5 / 100) ≤ seconds ∧ seconds ≤ 300 then
        .ok ⟨(taskMilliseconds seconds).toNat, toNat_inside (taskMilliseconds_inside inside)⟩
      else .error (.value "timeout must be between 0.05 and 300 seconds")
    | _ => .error (.value "timeout must be between 0.05 and 300 seconds")

/-- The checks of the arguments. -/
def checkControl (commands : List Command) (timeout responseMode : Json) : Except PyError ControlBatch := do
  let ⟨commandsOk⟩ ← require (1 ≤ commands.length ∧ commands.length ≤ 256)
    (PyError.value "commands must contain between one and 256 items")
  let ⟨distinct⟩ ← require (commands.map (·.identity)).Nodup
    (PyError.value "commands must not repeat the same type and point index")
  let timeoutMs ← controlTimeout timeout
  let responseMode ← nameIn responseMode [ResponseMode.response, .noResponse] ResponseMode.name
    "response_mode must be 'response' or 'no_response'"
  return { timeoutMs, responseMode, commands, commandsOk, distinct }

/-! ## The exchange -/

/-- What the record of an uncertain control says besides the batch. -/
structure Doubt where
  requestId : Text
  errorCode : Text
  executionUncertain : Bool := true
  mayStillExecute : Bool := true
deriving DecidableEq

/-- What `_execute_command_task` makes of an exchange: a result, an error that is raised as it is, or an error behind
which the control may have been executed. -/
inductive Verdict where
  | certain (result : CommandTaskResult)
  | failed (error : CallError)
  | doubtful (error : CallError) (doubt : Doubt)

namespace HostCommandError

/-- `error.details.get(key) is True` -/
def flagged (error : HostCommandError) (key : String) : Bool := error.details.get? (text key) = some (.bool true)

/-- The host says that the control may have been executed, or does not say what happened to it. -/
def isUncertain (error : HostCommandError) : Bool :=
  error.code = text "RESPONSE_TIMEOUT" || error.flagged "execution_uncertain" || error.flagged "may_still_execute"

/-- `bool(error.details.get(key, True))` -/
def assumed (error : HostCommandError) (key : String) : Bool := truthy ((error.details.get? (text key)).getD (.bool true))

/-- What an error of the host leaves open. -/
def doubt (error : HostCommandError) : Doubt where
  requestId := error.requestId
  errorCode := error.code
  executionUncertain := error.assumed "execution_uncertain"
  mayStillExecute := error.assumed "may_still_execute"

end HostCommandError

/-- The record of an exchange that was lost. -/
def lostDoubt (errorCode : String) : Doubt where
  requestId := text "python-host-exchange"
  errorCode := text errorCode

/-- An interruption leaves everything open. -/
def Interruption.doubt (by_ : Interruption) : Doubt where
  requestId := text "interrupted-command-exchange"
  errorCode := text (match by_ with
    | .keyboardInterrupt => "KEYBOARDINTERRUPT"
    | .systemExit => "SYSTEMEXIT")

namespace CommandTaskResult

/-- `unsafe_points` -/
def unsafePoints (result : CommandTaskResult) : List CommandPointResult :=
  result.pointResults.filter (·.requiresManualReadback)

/-- `sorted({point.status_raw for point in unsafe_points})` -/
def unsafeStatuses (result : CommandTaskResult) : List Nat :=
  ((result.unsafePoints.map (·.statusRaw)).dedup).mergeSort

/-- `uncertain_error` -/
def uncertainError (simulatorMode : Bool) (result : CommandTaskResult) : HostCommandError where
  requestId := text "command-task-" ++ decimal result.taskId
  code := text "UNCERTAIN_COMMAND_RESULT"
  message := if simulatorMode then text "simulator command outcome is uncertain; start a new client session"
    else text "command result requires independent readback before the session can be reused"
  details := .object [("execution_uncertain", .bool true), ("may_still_execute", .bool true),
    ("automatic_retry_safe", .bool false), ("manual_readback_points", .nat result.unsafePoints.length),
    ("unsafe_status_raw", .arr (result.unsafeStatuses.map .nat))]

end CommandTaskResult

/-- What is made of a result. -/
def judgeResult (operation : Text) (commands : List Command) (simulatorMode : Bool) (raw : Json) : Verdict :=
  match CommandTaskResult.fromMapping raw >>= fun parsed => do
      validateCommandCorrelation operation commands parsed
      return parsed with
  | .error (.overflow message) => .failed (.python (.overflow message))
  | .error e => .doubtful (.protocol (operation ++ text " result is invalid: " ++ text e.message))
      { requestId := text "invalid-command-result", errorCode := text "INVALID_COMMAND_RESULT" }
  | .ok parsed =>
    if parsed.executionUncertain || parsed.unsafePoints ≠ [] then
      let error := parsed.uncertainError simulatorMode
      .doubtful (.command error) { requestId := error.requestId, errorCode := error.code }
    else .certain parsed

/-- What is made of an error. An interruption comes when the write was started. -/
def judgeError (error : CallError) : Verdict :=
  match error with
  | .command e => if e.isUncertain then .doubtful error e.doubt else .failed error
  | .timeout => .doubtful error (lostDoubt "HOSTTIMEOUTERROR")
  | .exited _ => .doubtful error (lostDoubt "HOSTEXITEDERROR")
  | .protocol _ => .doubtful error (lostDoubt "HOSTPROTOCOLERROR")
  | .interrupted by_ => .doubtful error by_.doubt
  | .state _ | .python _ | .start => .failed error

/-- `_execute_command_task`, up to the handling of what is uncertain. -/
def Client.executeCommandTask (operation : Text) (batch : ControlBatch) (token : SafetyToken) (timeout : Json)
    (pipes : Pipes) (client : Client) : Verdict × Client :=
  match Client.mappingResult operation (client.request operation (batch.request token).params timeout pipes) with
  | (.error error, client) => (judgeError error, client)
  | (.ok raw, client) => (judgeResult operation batch.commands client.simulatorMode raw, client)

/-! ## The store -/

/-- What leaves a control: an error of the call, one that the handler has added details to, or an error of the store. -/
inductive ControlError where
  | call (error : CallError)
  | doubtful (error : CallError) (details : Json)
  | persistence (message : String) (details : Json)
  | configuration (message : String)
  | store (error : StoreError)

namespace Client

/-- The client, as the handler of uncertain controls sees it. -/
def control (client : Client) : ControlClient where
  simulatorMode := client.simulatorMode
  hasIncidentStore := client.config.hasIncidentDirectory
  activeDutId := client.activeDutId
  safetyToken := client.safetyToken.map (·.val)
  broken := client.state = .broken

/-- The client behind the handler. -/
def adopt (after : ControlClient) (client : Client) : Client :=
  { client with
    safetyToken := if after.safetyToken.isSome then client.safetyToken else none
    state := if after.broken then .broken else client.state }

end Client

section
variable (rt : Runtime)

/-- The message of a connection without permission. -/
def locked : String :=
  "state-changing command is locked; connect with a LabSafetyConfig whose allow_state_change is explicitly true, or simulator=True for a simulated device"

/-- The checks of `_command_task_result` before anything is sent. -/
def commandGate (commands : List Command) (timeout responseMode : Json) (client : Client) :
    FileProgram StorePath ControlError (SafetyToken × ControlBatch) :=
  match client.safetyToken with
  | none => .raise (.call (.state locked))
  | some token =>
    match checkControl commands timeout responseMode with
    | .error e => .raise (.call (.python e))
    | .ok batch =>
      if client.simulatorMode then .ok (token, batch)
      else
        match incidentContext client.control with
        | .error message => .raise (.configuration message)
        | .ok dutId => Program.handle ((assertClear rt dutId).bind fun _ => .ok (token, batch)) fun e => .raise (.store e)

/-- The arguments of `record_uncertain`. -/
def uncertainCommand (operation : Text) (batch : ControlBatch) (doubt : Doubt) : UncertainCommand where
  operation
  commandPayload := batch.payload operation
  points := batch.commands.map (·.identity)
  requestId := doubt.requestId
  errorCode := doubt.errorCode
  executionUncertain := doubt.executionUncertain
  mayStillExecute := doubt.mayStillExecute

/-- What is raised in the end. -/
def Handled.toError (error : CallError) : Handled → ControlError
  | .returned details => .doubtful error details
  | .persistence message details => .persistence message details
  | .raised e => .store e

/-- What a control call returns, with the client behind it. -/
abbrev Controlled := Except ControlError CommandTaskResult × Client

/-- The end of `_command_task_result`. -/
def settle (uuid : Uuid) (now : Timestamp rt.digits) (operation : Text) (batch : ControlBatch) (verdict : Verdict × Client) :
    FileProgram StorePath Empty Controlled :=
  match verdict with
  | (.certain result, client) => .ok (.ok result, client)
  | (.failed error, client) => .ok (.error (.call error), client)
  | (.doubtful error doubt, client) =>
    (handleUncertainCommand rt uuid now client.control (uncertainCommand operation batch doubt)).bind fun handled =>
      .ok (.error (handled.1.toError error), client.adopt handled.2)

/-- `_command_task_result`: a run of it, from one state of the store to another. -/
inductive Controls (operation : Text) (commands : List Command) (timeout responseMode requestTimeout : Json) (pipes : Pipes)
    (client : Client) (d : StoreDisk) : Controlled → StoreDisk → Prop
  | refused {error : ControlError} {d' : StoreDisk}
      (gate : Reaches Does (commandGate rt commands timeout responseMode client) d (.raise error) d') :
      Controls operation commands timeout responseMode requestTimeout pipes client d (.error error, client) d'
  | carried {token : SafetyToken} {batch : ControlBatch} {d₁ d₂ d' : StoreDisk} {uuid : Uuid} {now : Timestamp rt.digits}
      {out : Controlled}
      (gate : Reaches Does (commandGate rt commands timeout responseMode client) d (.ok (token, batch)) d₁)
      (others : d₂.WellFormed)
      (settled : Reaches Does (settle rt uuid now operation batch
        (client.executeCommandTask operation batch token requestTimeout pipes)) d₂ (.ok out) d') :
      Controls operation commands timeout responseMode requestTimeout pipes client d out d'

end

end EmsDnp3.Python
