import EmsDnp3.Native.CommandConfig
import EmsDnp3.Native.ConnectionConfig

/-!
# The backend session

`OpenDnp3Backend.cpp`: `connect` with each of its exits, `disconnect`, `shutdown`, the store of
channel events and the gate before a command. One thread makes the requests, one after the other;
channel events of any session come from the threads of the stack at any time. The steps here are
the critical sections of the request thread and the channel events between them. What a request
does besides (a running task is cancelled, a capture aborted, an unsolicited session begun or
ended) changes nothing that the gate reads and is left out.
-/

namespace EmsDnp3.Native

def kEventQueueCapacity : Nat := 1024

/-- The states OpenDNP3 reports for its channel. -/
inductive ChannelState where
  | closed
  | opening
  | open_
  | shutdown
deriving DecidableEq, Repr

/-- `channel_state_name` -/
def ChannelState.name : ChannelState → String
  | .closed => "CLOSED"
  | .opening => "OPENING"
  | .open_ => "OPEN"
  | .shutdown => "SHUTDOWN"

/-- A state change of the channel as `wait_event` reports it. -/
structure ChannelEvent where
  sequence : Nat
  sessionId : Nat
  monotonicNs : Nat
  state : ChannelState
deriving DecidableEq

/-- `ChannelEventStore`: a bounded queue of channel events and the state they lead to. -/
structure ChannelEventStore where
  events : List ChannelEvent := []
  currentState : ChannelState := .closed
  currentSessionId : Nat := 0
  lastSequence : Nat := 0
  droppedEvents : Nat := 0
deriving DecidableEq

namespace ChannelEventStore

/-- A new session starts closed; its predecessor's events stay queued. -/
def beginSession (session : Nat) (s : ChannelEventStore) : ChannelEventStore :=
  { s with currentSessionId := session, currentState := .closed }

/-- Events of an earlier session are queued too, but do not move the current state. -/
def record (session now : Nat) (state : ChannelState) (s : ChannelEventStore) : ChannelEventStore :=
  let s := if session = s.currentSessionId then { s with currentState := state } else s
  let s := if s.events.length = kEventQueueCapacity then
      { s with events := s.events.tail, droppedEvents := s.droppedEvents + 1 }
    else s
  { s with events := s.events ++ [⟨s.lastSequence + 1, session, now, state⟩], lastSequence := s.lastSequence + 1 }

/-- What `wait_until_open` returns, at whatever moment its wait ends. -/
def isOpen (session : Nat) (s : ChannelEventStore) : Bool := s.currentSessionId = session && s.currentState = .open_

end ChannelEventStore

/-- `generate_safety_token`, from the bytes of the random device. -/
def safetyToken (random : Fin 16 → Byte) : Text :=
  (List.finRange 16).flatMap fun i => (hexPair (random i)).map toLower

/-- The condition under which `connect` generates a token. -/
def ConnectionConfig.authorized (config : ConnectionConfig) : Bool :=
  config.safetyEnvironment = text "SIMULATOR" ||
    (config.allowStateChange && config.safetyEnvironment = text "LAB" && config.operatorId ≠ [] && config.dutId ≠ [])

/-- `master` is named by the session that it was made for. -/
structure Backend where
  events : ChannelEventStore := {}
  master : Option Nat := none
  sessionActive : Bool := false
  shuttingDown : Bool := false
  nextSessionId : Nat := 0
  currentSessionId : Nat := 0
  safetyToken : Text := []

namespace Backend

/-- What `detach_resources` leaves behind: no master, no session, no token. -/
def detachResources (b : Backend) : Backend := { b with master := none, sessionActive := false, safetyToken := [] }

def failure (code : ErrorCode) (message : String) (details : List (String × Json)) : BackendOperationResult :=
  .error { code, message, details := .object details }

/-- `command_access`: the session of the master that the command may go to. -/
def commandAccess (token : Text) (b : Backend) : Except BackendError Nat :=
  match b.sessionActive, b.master with
  | true, some master =>
    if b.safetyToken = [] then
      .error { code := .safetyInterlock, message := "state-changing DNP3 commands are locked for this session"
               details := .object [("reason", .str "session_not_authorized"), ("required_environment", .str "LAB"),
                 ("automatic_retry_safe", .bool false)] }
    else if token ≠ b.safetyToken then
      .error { code := .safetyInterlock
               message := "state-changing DNP3 command safety token is invalid or expired"
               details := .object [("reason", .str "invalid_or_expired_token"), ("automatic_retry_safe", .bool false)] }
    else if b.events.currentState ≠ .open_ then
      .error { code := .invalidState, message := "state-changing DNP3 commands require an open channel"
               details := .object [("reason", .str "channel_not_open"),
                 ("channel_state", .str b.events.currentState.name), ("session_id", .nat b.events.currentSessionId),
                 ("automatic_retry_safe", .bool false)] }
    else .ok master
  | _, _ =>
    .error { code := .notConnected
             message := "no active DNP3 master session is available for a command task", details := .object [] }

/-- The success reply of `connect`. -/
def connected (config : ConnectionConfig) (session : Nat) (token : Text) : Json :=
  let named (value : Text) : Json := if value = [] then .null else .str value
  .object
    [("state", .str "CONNECTED"), ("channel_state", .str "OPEN"), ("session_id", .nat session),
     ("endpoint", .object [("host", .str config.host), ("port", .nat config.port)]),
     ("safety", .object
       [("environment", .str config.safetyEnvironment), ("state_change_authorized", .bool (token ≠ [])),
        ("safety_token", named token), ("operator_id", named config.operatorId), ("dut_id", named config.dutId),
        ("expires_on", .str "disconnect_or_process_exit")])]

end Backend

/-! ## Requests -/

/-- Where a `connect` call stands: after its first section, after `begin_session`, with its
resources created, installed, and enabled. -/
inductive ConnectPhase where
  | entered
  | begun
  | created
  | installed
  | enabled
deriving DecidableEq

/-- A `connect` call under way. -/
structure Connecting where
  config : ConnectionConfig
  session : Nat
  phase : ConnectPhase := .entered
  token : Text := []

/-- A command set that was handed to a master. -/
structure Submission where
  master : Nat
  selectBeforeOperate : Bool
  config : CommandConfig

/-- How `master->Enable()` fails. -/
inductive EnableFailure where
  | thrown (message : Option String)
  | rejected
deriving DecidableEq

/-- What can happen between two steps of a command: the sections of `connect` and the calls around it. -/
inductive BackendAction where
  | connect (config : ConnectionConfig)
  | beginSession
  | create (random : Fin 16 → Byte)
  -- `none`: what was thrown is not a `std::exception` and leaves `connect`
  | createFailed (message : Option String)
  | install
  | enable
  | enableFailed (failure : EnableFailure)
  | waitUntilOpen
  | disconnect (capture : Json) (cleanupError : Option String)
  | shutdown
  -- `activeTask`: an earlier command task that is still active
  | operate (selectBeforeOperate : Bool) (config : CommandConfig) (activeTask : Option Nat)
  | channel (session now : Nat) (state : ChannelState)

/-- The backend, the `connect` under way and what the last call returned. -/
structure BackendSystem where
  backend : Backend := {}
  connecting : Option Connecting := none
  submitted : List Submission := []
  reply : Option BackendOperationResult := none

namespace BackendSystem

open Backend (failure)

/-- A request that ends with a reply and changes nothing. -/
def answer (result : BackendOperationResult) (y : BackendSystem) : BackendSystem := { y with reply := some result }

/-- The checks `connect` makes under the lock, before it builds anything. -/
def connect (config : ConnectionConfig) (y : BackendSystem) : BackendSystem :=
  if y.backend.shuttingDown then y.answer (failure .processShuttingDown "backend is shutting down" [])
  else if y.backend.sessionActive then
    y.answer (failure .alreadyConnected "a DNP3 channel session is already active"
      [("session_id", .nat y.backend.currentSessionId)])
  else
    let session := y.backend.nextSessionId + 1
    { y with
      backend := { y.backend with nextSessionId := session }, connecting := some { config, session }, reply := none }

/-- The reply where the TCP channel could not be created. -/
def createReply (message : String) : BackendOperationResult :=
  failure .internalError "failed to create the OpenDNP3 TCP channel"
    [("reason", .str "backend_setup"), ("backend_message", .str message)]

/-- The reply where the channel did not open before the deadline. -/
def timeoutReply (c : Connecting) (lastState : ChannelState) : BackendOperationResult :=
  failure .connectionTimeout "TCP connection did not open before the configured deadline"
    [("host", .str c.config.host), ("port", .nat c.config.port), ("connect_timeout_ms", .nat c.config.connectTimeoutMs),
     ("last_channel_state", .str lastState.name), ("session_id", .nat c.session)]

/-- The reply where enabling the master threw. -/
def enableReply (session : Nat) : EnableFailure → BackendOperationResult
  | .thrown message =>
    failure .internalError "OpenDNP3 failed while enabling the master"
      ([("reason", .str "enable_exception"), ("session_id", .nat session)] ++
        match message with
        | some what => [("backend_message", .str what)]
        | none => [])
  | .rejected =>
    failure .internalError "OpenDNP3 rejected the master enable request"
      [("reason", .str "enable_failed"), ("session_id", .nat session)]

/-- `disconnect`: the session ends whether or not the cleanup succeeded. -/
def disconnect (capture : Json) (cleanupError : Option String) (y : BackendSystem) : BackendSystem :=
  if !y.backend.sessionActive then y.answer (failure .notConnected "no DNP3 channel session is active" [])
  else
    let session := y.backend.events.currentSessionId
    { y with
      backend := y.backend.detachResources
      reply := some <|
        match cleanupError with
        | some what =>
          failure .internalError "the DNP3 channel closed with a cleanup error"
            [("session_id", .nat session), ("backend_message", .str what), ("capture", capture)]
        | none => .ok (.object
            [("state", .str "READY"), ("channel_state", .str y.backend.events.currentState.name),
             ("session_id", .nat session), ("capture", capture)]) }

/-- `shutdown` is final and does nothing the second time. -/
def shutdown (y : BackendSystem) : BackendSystem :=
  if y.backend.shuttingDown then y
  else { y with backend := Backend.detachResources { y.backend with shuttingDown := true } }

/-- `select_and_operate` and `direct_operate` up to the submission; what follows it is the task's. -/
def operate (selectBeforeOperate : Bool) (config : CommandConfig) (activeTask : Option Nat) (y : BackendSystem) :
    BackendSystem :=
  match y.backend.commandAccess config.safetyToken with
  | .error e => y.answer (.error e)
  | .ok master =>
    if config.noResponse then
      y.answer (failure .unsupportedByBackend
        "OpenDNP3 3.1.2 public master API does not expose Direct Operate No Response"
        [("response_mode", .str "no_response"), ("backend", .str "opendnp3"), ("backend_version", .str "3.1.2")])
    else
      match activeTask with
      | some taskId =>
        y.answer (failure .alreadyExecuting "a previous state-changing DNP3 command may still be executing"
          [("active_task_id", .nat taskId), ("execution_uncertain", .bool true), ("may_still_execute", .bool true),
           ("automatic_retry_safe", .bool false)])
      | none => { y with submitted := y.submitted ++ [⟨master, selectBeforeOperate, config⟩], reply := none }

/-- A section of the `connect` call that is in progress. -/
def connectStep (c : Connecting) (y : BackendSystem) : BackendAction → Option BackendSystem
  | .beginSession =>
    if c.phase = .entered then
      some { y with
        backend := { y.backend with events := y.backend.events.beginSession c.session }
        connecting := some { c with phase := .begun } }
    else none
  | .create random =>
    if c.phase = .begun then
      let token := if c.config.authorized then safetyToken random else []
      some { y with connecting := some { c with phase := .created, token } }
    else none
  | .createFailed message =>
    if c.phase = .begun then
      some { y with connecting := none, reply := message.map createReply }
    else none
  | .install =>
    if c.phase = .created then
      some { y with
        backend := { y.backend with
          master := some c.session, sessionActive := true, currentSessionId := c.session, safetyToken := c.token }
        connecting := some { c with phase := .installed } }
    else none
  | .enable => if c.phase = .installed then some { y with connecting := some { c with phase := .enabled } } else none
  | .enableFailed how =>
    if c.phase = .installed then
      some { y with
        backend := y.backend.detachResources, connecting := none, reply := some (enableReply c.session how) }
    else none
  | .waitUntilOpen =>
    if c.phase = .enabled then
      if y.backend.events.isOpen c.session then
        some { y with connecting := none, reply := some (.ok (Backend.connected c.config c.session c.token)) }
      else
        some { y with
          backend := y.backend.detachResources, connecting := none
          reply := some (timeoutReply c y.backend.events.currentState) }
    else none
  | _ => none

/-- A request that begins while no other is in progress. -/
def requestStep (y : BackendSystem) : BackendAction → Option BackendSystem
  | .connect config => some (y.connect config)
  | .disconnect capture cleanupError => some (y.disconnect capture cleanupError)
  | .shutdown => some y.shutdown
  | .operate selectBeforeOperate config activeTask => some (y.operate selectBeforeOperate config activeTask)
  | _ => none

/-- One step; `none` where the request thread is not at that point. -/
def step (y : BackendSystem) (a : BackendAction) : Option BackendSystem :=
  match a with
  | .channel session now state =>
    some { y with backend := { y.backend with events := y.backend.events.record session now state } }
  | _ =>
    match y.connecting with
    | some c => y.connectStep c a
    | none => y.requestStep a

/-- A run of the backend; `none` where an action was not possible. -/
def runs (y : BackendSystem) (actions : List BackendAction) : Option BackendSystem := actions.foldlM step y

theorem runs_concat (y : BackendSystem) (trace : List BackendAction) (a : BackendAction) :
    y.runs (trace ++ [a]) = (y.runs trace).bind fun z => z.step a := by
  simp only [runs, List.foldlM_append]
  simp

end BackendSystem

end EmsDnp3.Native
