import EmsDnp3.Native.CaptureConfig
import EmsDnp3.Native.CommandConfig
import EmsDnp3.Native.ConnectionConfig
import EmsDnp3.Native.JsonLineProtocol
import EmsDnp3.Native.ReadConfig
import EmsDnp3.Native.TraceConfig

/-!
# The host controller and its request loop

`HostController.cpp` and the loop of `main.cpp`. The backend is any implementation of `IMasterBackend`:
a method may throw, and one that is not `const` leaves a new backend state behind even then. A
`std::string` that is not UTF-8 is a text with a surrogate. Memory that runs out is not modelled.
-/

namespace EmsDnp3.Native

/-- A `std::exception`; the loop does not look at what it says. -/
structure Thrown where
deriving DecidableEq

/-- What the backend reports of itself. -/
structure BackendStatus where
  sessionActive : Bool
  channelState : Text
  sessionId : Nat
  lastEventSequence : Nat
  queuedEvents : Nat
  droppedEvents : Nat
  stateChangeAuthorized : Bool
  unsolicitedEnabled : Bool
  unsolicitedClassMask : Nat
  unsolicitedLastSequence : Nat
  queuedUnsolicitedEvents : Nat
  droppedUnsolicitedEvents : Nat
  unsolicitedFragments : Nat
  capture : Json
  trace : Json

/-- A backend method that does something. -/
abbrev Operation (β : Type) := β → Except Thrown BackendOperationResult × β

/-- What the controller needs of a backend; every query may throw. -/
structure IMasterBackend (β : Type) where
  name : β → Except Thrown Text
  version : β → Except Thrown Text
  supportedCommands : β → Except Thrown (List Text)
  capabilities : β → Except Thrown Json
  status : β → Except Thrown BackendStatus
  connect : ConnectionConfig → Operation β
  disconnect : Operation β
  integrityPoll : ReadOptions → Operation β
  classPoll : ClassPollConfig → Operation β
  read : ReadConfig → Operation β
  enableUnsolicited : UnsolicitedControlConfig → Operation β
  disableUnsolicited : UnsolicitedControlConfig → Operation β
  waitUnsolicited : WaitUnsolicitedConfig → Operation β
  captureBegin : CaptureConfig → Operation β
  captureProgress : CaptureReferenceConfig → Operation β
  captureEnd : CaptureReferenceConfig → Operation β
  traceStart : TraceStartConfig → Operation β
  traceRead : TraceReferenceConfig → Operation β
  traceStop : TraceReferenceConfig → Operation β
  selectAndOperate : CommandConfig → Operation β
  directOperate : CommandConfig → Operation β
  waitEvent : WaitEventConfig → Operation β
  shutdown : β → β

/-- The strings that the build supplies. -/
structure ProjectInfo where
  version : String
  gitCommit : String
  capabilityMatrixSha256 : String

/-- The parser of the JSON library. Its lexer checks the UTF-8 of every string and refuses a `\u` escape of
a single surrogate. -/
structure JsonLibrary where
  parse : List Byte → Option Json
  utf8 : ∀ bytes document, parse bytes = some document → document.Plain

/-- What the process is built from. -/
structure Host (β : Type) where
  info : ProjectInfo
  json : JsonLibrary
  backend : IMasterBackend β

/-- Whether the host still takes commands. -/
inductive HostState where
  | ready
  | shuttingDown
deriving DecidableEq, Repr

def kRecentRequestIdCapacity : Nat := 4096

/-- The host controller: its counters, the remembered ids and its backend. -/
structure HostController (β : Type) where
  state : HostState := .ready
  maxRequestBytes : Nat
  requestsReceived : Nat := 0
  requestsSucceeded : Nat := 0
  requestsFailed : Nat := 0
  recentRequestIds : List Text := []
  recentRequestIdSet : Finset Text := ∅
  backend : β

/-- The response, and whether the host stops behind it. -/
structure DispatchResult where
  response : Json
  shouldStop : Bool

namespace HostController

variable {β : Type}

def recordRequestReceived (c : HostController β) : HostController β := { c with requestsReceived := c.requestsReceived + 1 }

/-- `++requests_failed_`, also as `record_protocol_failure`. -/
def failed (c : HostController β) : HostController β := { c with requestsFailed := c.requestsFailed + 1 }

/-- `++requests_succeeded_` -/
def succeeded (c : HostController β) : HostController β := { c with requestsSucceeded := c.requestsSucceeded + 1 }

/-- `remember_request_id`: false for an id that is known; the oldest id makes room. -/
def rememberRequestId (id : Text) (c : HostController β) : Bool × HostController β :=
  if id ∈ c.recentRequestIdSet then (false, c)
  else
    let c := if c.recentRequestIds.length = kRecentRequestIdCapacity then
      match c.recentRequestIds with
      | front :: rest => { c with recentRequestIdSet := c.recentRequestIdSet.erase front, recentRequestIds := rest }
      | [] => c
    else c
    (true, { c with
      recentRequestIds := c.recentRequestIds ++ [id], recentRequestIdSet := insert id c.recentRequestIdSet })

/-- The state as `status` names it. -/
def stateName (status : BackendStatus) (c : HostController β) : String :=
  if c.state = .shuttingDown then "SHUTTING_DOWN"
  else if !status.sessionActive then "READY"
  else if status.channelState = text "OPEN" then "CONNECTED"
  else "CONNECTING"

/-- The result of `hello`. -/
def helloResult (host : Host β) (c : HostController β) : Except Thrown Json := do
  let supportedCommands ← host.backend.supportedCommands c.backend
  let name ← host.backend.name c.backend
  let version ← host.backend.version c.backend
  let capabilities ← host.backend.capabilities c.backend
  return .object [("host_version", .str host.info.version), ("backend", .str name), ("backend_version", .str version),
    ("git_commit", .str host.info.gitCommit), ("platform", .str "windows-x64"),
    ("capability_matrix_version", .str "1"), ("capability_matrix_sha256", .str host.info.capabilityMatrixSha256),
    ("supported_commands", .arr (supportedCommands.map .str)), ("capabilities", capabilities),
    ("limits", .object [("max_request_bytes", .nat c.maxRequestBytes), ("max_json_depth", .nat kMaxJsonDepth),
      ("max_request_id_bytes", .nat kMaxRequestIdBytes), ("recent_request_id_capacity", .nat kRecentRequestIdCapacity)])]

/-- The channel section of the status. -/
def channelMember (status : BackendStatus) : Json :=
  .object [("state", .str status.channelState), ("session_active", .bool status.sessionActive),
    ("session_id", .nat status.sessionId), ("last_event_sequence", .nat status.lastEventSequence),
    ("queued_events", .nat status.queuedEvents), ("dropped_events", .nat status.droppedEvents)]

/-- The safety section; the token is never in it. -/
def safetyMember (status : BackendStatus) : Json :=
  .object [("state_change_authorized", .bool status.stateChangeAuthorized), ("token_exposed", .bool false)]

/-- The unsolicited section of the status. -/
def unsolicitedMember (status : BackendStatus) : Json :=
  .object [("enabled", .bool status.unsolicitedEnabled), ("class_mask", .nat status.unsolicitedClassMask),
    ("last_receive_sequence", .nat status.unsolicitedLastSequence),
    ("queued_measurements", .nat status.queuedUnsolicitedEvents),
    ("dropped_measurements", .nat status.droppedUnsolicitedEvents), ("fragments", .nat status.unsolicitedFragments)]

def metricsMember (c : HostController β) : Json :=
  .object [("requests_received", .nat c.requestsReceived), ("requests_succeeded", .nat c.requestsSucceeded),
    ("requests_failed", .nat c.requestsFailed), ("recent_request_ids", .nat c.recentRequestIds.length)]

/-- The result of `status`. -/
def statusResult (host : Host β) (c : HostController β) : Except Thrown Json := do
  let status ← host.backend.status c.backend
  let name ← host.backend.name c.backend
  return .object [("state", .str (stateName status c)), ("backend", .str name), ("in_flight_request", .bool false),
    ("channel", channelMember status), ("safety", safetyMember status), ("unsolicited", unsolicitedMember status),
    ("capture", status.capture), ("trace", status.trace), ("metrics", metricsMember c)]

/-- `status.at(key)`; `status_result` always writes the five keys that `stats` asks for. -/
def at_ (status : Json) (key : String) : Json := (status.get? key).getD .null

/-- `stats` shows sections of the status. -/
def statsResult (status : Json) : Json :=
  .object [("scope", .str "host_channel_and_local_queues"), ("host", at_ status "metrics"),
    ("channel", at_ status "channel"), ("safety", at_ status "safety"), ("capture", at_ status "capture"),
    ("trace", at_ status "trace"),
    ("limitations", .arr [.str "network byte counters are not exposed by OpenDNP3 3.1.2"])]

/-- The commands that are passed to the backend. -/
def isKnownBackendCommand (command : Text) : Bool :=
  (["trace.start", "trace.read", "trace.stop", "capture.begin", "capture.progress", "capture.end", "connect", "disconnect",
    "enable_unsolicited", "disable_unsolicited", "integrity_poll", "class_poll", "read", "direct_operate",
    "select_and_operate", "wait_event", "wait_unsolicited", "stats"].map text).contains command

/-- The commands that `dispatch` hands to the backend: the error of the parameters, or the call to make. -/
def backendCall (backend : IMasterBackend β) (request : Request) : Option (Except BackendError (Operation β)) :=
  let command := request.command
  let params := request.params
  if command = text "connect" then some ((parseConnectionConfig params).map backend.connect)
  else if command = text "disconnect" then some (.ok backend.disconnect)
  else if command = text "integrity_poll" then some ((parseReadOptions params).map backend.integrityPoll)
  else if command = text "class_poll" then some ((parseClassPollConfig params).map backend.classPoll)
  else if command = text "read" then some ((parseReadConfig params).map backend.read)
  else if command = text "enable_unsolicited" then
    some ((parseUnsolicitedControlConfig params).map backend.enableUnsolicited)
  else if command = text "disable_unsolicited" then
    some ((parseUnsolicitedControlConfig params).map backend.disableUnsolicited)
  else if command = text "select_and_operate" then some ((parseCommandConfig params).map backend.selectAndOperate)
  else if command = text "direct_operate" then some ((parseCommandConfig params).map backend.directOperate)
  else if command = text "wait_event" then some ((parseWaitEventConfig params).map backend.waitEvent)
  else if command = text "wait_unsolicited" then some ((parseWaitUnsolicitedConfig params).map backend.waitUnsolicited)
  else if command = text "capture.begin" then some ((parseCaptureConfig params).map backend.captureBegin)
  else if command = text "trace.start" then some ((parseTraceStartConfig params).map backend.traceStart)
  else if command = text "trace.read" then some ((parseTraceReferenceConfig params true).map backend.traceRead)
  else if command = text "trace.stop" then some ((parseTraceReferenceConfig params false).map backend.traceStop)
  else if command = text "capture.progress" then
    some ((parseCaptureReferenceConfig params false).map backend.captureProgress)
  else if command = text "capture.end" then some ((parseCaptureReferenceConfig params true).map backend.captureEnd)
  else none

/-- The commands without parameters. -/
def takesNoParams (command : Text) : Bool :=
  (["hello", "get_status", "stats", "shutdown", "disconnect"].map text).contains command

def requestError (reason : String) (details : List (String × Json)) (message : String) : BackendError :=
  { code := .invalidRequest, message, details := .object (("reason", .str reason) :: details) }

/-- `++requests_failed_` and the error response. -/
def reject (id : Text) (error : BackendError) (c : HostController β) : Except Thrown DispatchResult × HostController β :=
  (.ok ⟨errorResponse ⟨some id, error⟩, false⟩, c.failed)

/-- `backend_result(request.id, call(config))`: a call that throws is not counted. -/
def backendResult (id : Text) (call : Operation β) (c : HostController β) :
    Except Thrown DispatchResult × HostController β :=
  match call c.backend with
  | (.error e, backend) => (.error e, { c with backend })
  | (.ok (.error error), backend) => reject id error { c with backend }
  | (.ok (.ok result), backend) => (.ok ⟨successResponse id result, false⟩, { c with backend }.succeeded)

/-- `++requests_succeeded_`, and then the result, which may throw. -/
def countedResult (id : Text) (result : HostController β → Except Thrown Json) (c : HostController β) :
    Except Thrown DispatchResult × HostController β :=
  ((result c.succeeded).map fun result => ⟨successResponse id result, false⟩, c.succeeded)

def duplicateError : BackendError :=
  requestError "duplicate_id" [("recent_id_capacity", .nat kRecentRequestIdCapacity)] "request id was already used recently"

/-- The error of parameters where none are taken. -/
def unexpectedParams (command : Text) : BackendError :=
  requestError "unexpected_params" [("cmd", .str command)] "command does not accept parameters"

def unknownCommand (command : Text) : BackendError :=
  requestError "unknown_command" [("cmd", .str command)] "request command is unknown"

/-- What `dispatch` does with a request whose id is new. -/
def execute (host : Host β) (request : Request) (c : HostController β) :
    Except Thrown DispatchResult × HostController β :=
  if request.params ≠ .obj [] ∧ takesNoParams request.command then
    reject request.id (unexpectedParams request.command) c
  else if request.command = text "hello" then countedResult request.id (helloResult host) c
  else if request.command = text "get_status" then countedResult request.id (statusResult host) c
  else if request.command = text "stats" then
    match statusResult host c with
    | .error e => (.error e, c)
    | .ok status => (.ok ⟨successResponse request.id (statsResult status), false⟩, c.succeeded)
  else if request.command = text "shutdown" then
    (.ok ⟨successResponse request.id (.object [("state", .str "SHUTTING_DOWN")]), true⟩,
      { c with state := .shuttingDown, backend := host.backend.shutdown c.backend }.succeeded)
  else
    match backendCall host.backend request with
    | some (.error error) => reject request.id error c
    | some (.ok call) => backendResult request.id call c
    | none =>
      if isKnownBackendCommand request.command then
        ((host.backend.name c.backend).map fun name => ⟨errorResponse ⟨some request.id,
          { code := .unsupportedByBackend, message := "command is not implemented by the active DNP3 backend",
            details := .object [("backend", .str name), ("cmd", .str request.command)] }⟩, false⟩, c.failed)
      else reject request.id (unknownCommand request.command) c

/-- `dispatch`: one request, its response and the controller behind it. -/
def dispatch (host : Host β) (request : Request) (c : HostController β) :
    Except Thrown DispatchResult × HostController β :=
  if c.state = .shuttingDown then
    (.ok ⟨errorResponse ⟨some request.id,
      { code := .processShuttingDown, message := "host process is shutting down", details := .object [] }⟩, true⟩, c.failed)
  else
    match c.rememberRequestId request.id with
    | (false, c) => reject request.id duplicateError c
    | (true, c) => execute host request c

end HostController

/-! ## `main` -/

/-- Whether the host process runs, and how it ended. -/
inductive ProcessStatus where
  | running
  | exited (code : Nat)
  /-- An exception left `main`. -/
  | terminated
deriving DecidableEq, Repr

/-- The process: `output` is what it has handed to `std::cout`, one entry a write. -/
structure HostProcess (β : Type) where
  controller : HostController β
  output : List (List Byte) := []
  status : ProcessStatus := .running

/-- One turn of the loop: what `read_line` returns, and whether `std::cout` is still good after the write. -/
structure Turn where
  input : ReadLineResult
  written : Bool := true

namespace HostProcess

variable {β : Type}

/-- A serialised response is written; the process goes on to `next` unless the stream failed. -/
def write (bytes : List Byte) (written : Bool) (next : ProcessStatus) (p : HostProcess β) : HostProcess β :=
  { p with output := p.output ++ [bytes ++ [lineFeed]], status := if written then next else .exited 5 }

/-- `write_response` outside of the `try` block. -/
def respond (error : ProtocolError) (written : Bool) (p : HostProcess β) : HostProcess β :=
  match JsonLineProtocol.serialize (errorResponse error) with
  | some bytes => p.write bytes written .running
  | none => { p with status := .terminated }

/-- The error of a line over the limit. -/
def requestTooLarge (maxRequestBytes : Nat) : ProtocolError :=
  ⟨none, .requestTooLarge, "request line exceeds the configured byte limit",
    .object [("max_request_bytes", .nat maxRequestBytes)]⟩

/-- The `catch` block. -/
def internalError (id : Text) (written : Bool) (p : HostProcess β) : HostProcess β :=
  { p with controller := p.controller.failed }.respond
    ⟨some id, .internalError, "an internal error occurred while processing the request", .object []⟩ written

/-- The `try` block: a response that does not serialise is an exception like any other. -/
def handle (host : Host β) (request : Request) (written : Bool) (p : HostProcess β) : HostProcess β :=
  let (result, controller) := p.controller.dispatch host request
  let p := { p with controller }
  match result with
  | .error _ => p.internalError request.id written
  | .ok dispatched =>
    match JsonLineProtocol.serialize dispatched.response with
    | some bytes => p.write bytes written (if dispatched.shouldStop then .exited 0 else .running)
    | none => p.internalError request.id written

/-- One turn of the loop of `main`. -/
def turn (host : Host β) (t : Turn) (p : HostProcess β) : HostProcess β :=
  match t.input.status with
  | .endOfFile => { p with status := .exited 0 }
  | .ioError => { p with status := .exited 4 }
  | .tooLarge =>
    { p with controller := p.controller.recordRequestReceived.failed }.respond
      (requestTooLarge p.controller.maxRequestBytes) t.written
  | .line =>
    let p := { p with controller := p.controller.recordRequestReceived }
    match parseRequest host.json.parse t.input.line with
    | .error error => { p with controller := p.controller.failed }.respond error t.written
    | .ok request => p.handle host request t.written

/-- A process that has ended takes no further turn. -/
def step (host : Host β) (p : HostProcess β) (t : Turn) : HostProcess β :=
  if p.status = .running then p.turn host t else p

def start (maxRequestBytes : Nat) (backend : β) : HostProcess β := { controller := { maxRequestBytes, backend } }

def runs (host : Host β) (p : HostProcess β) (turns : List Turn) : HostProcess β := turns.foldl (step host) p

end HostProcess

end EmsDnp3.Native
