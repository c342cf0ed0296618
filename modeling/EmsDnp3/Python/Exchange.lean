import EmsDnp3.Base.Dict
import EmsDnp3.Python.Loading
import EmsDnp3.Python.Patterns
import EmsDnp3.Python.Response
import EmsDnp3.Python.UncertainCommands

/-!
# The client and its exchanges

`Dnp3MasterClient`: the state of a session, `_exchange`, and the calls that are built on it. What the pipes do while an
exchange waits on them is given from outside. Messages leave out the values that they quote; the diagnostics that an
error carries, the trace of the session and the threads of a process are left out.
-/

namespace EmsDnp3.Python

/-- `_State` -/
inductive ClientState where
  | new
  | starting
  | running
  | closing
  | broken
  | closed
deriving DecidableEq, Repr

/-- What `HostProcessConfig` says of the exchanges. -/
structure HostProcessConfig where
  maxRequestBytes : Nat
  expectedHostVersion : Option Text
  expectedCapabilityMatrixSha256 : Option Text
  hasIncidentDirectory : Bool
deriving DecidableEq

abbrev SafetyToken := {token : Text // isSafetyToken token = true}

/-- `queued` is what was put into the queue of the thread that writes, in order. -/
structure Client where
  config : HostProcessConfig
  requestPrefix : Text
  state : ClientState := .new
  requestCounter : Nat := 0
  helloInfo : Option Json := none
  safetyToken : Option SafetyToken := none
  activeDutId : Option Text := none
  simulatorMode : Bool := false
  queued : List (List Byte) := []
deriving DecidableEq

/-- `KeyboardInterrupt` and `SystemExit` -/
inductive Interruption where
  | keyboardInterrupt
  | systemExit
deriving DecidableEq, Repr

/-- What leaves a call. The incident store has its own errors. -/
inductive CallError where
  | state (message : Text)
  | python (error : PyError)
  | start
  | timeout
  | exited (message : Text)
  | protocol (message : Text)
  | command (error : HostCommandError)
  | interrupted (by_ : Interruption)
deriving DecidableEq

/-- `except _ProtocolViolation` -/
def CallError.ofResponse : ResponseError → CallError
  | .command error => .command error
  | .violation message => .protocol message

/-- How a wait for a response ends: the write fails; nothing comes before the deadline; the thread is interrupted; more
responses came than the queue holds; or one came. -/
inductive Wait where
  | writeFailed
  | silent
  | interrupted (by_ : Interruption)
  | overflow
  | item (item : StdoutItem)
deriving DecidableEq

/-- What the pipes do in one exchange: the host is gone before the write, the writing thread is still busy, or the
request is queued. -/
inductive Pipes where
  | gone
  | full
  | queued (wait : Wait)
deriving DecidableEq

/-- A call and the client behind it. -/
abbrev Called (α : Type) := Except CallError α × Client

namespace Client

/-- `_abort_process`, as far as the session goes. -/
def abortProcess (client : Client) : Client := { client with safetyToken := none, state := .broken }

/-- The session is given up with an error. -/
def abort {α : Type} (error : CallError) (client : Client) : Called α := (.error error, client.abortProcess)

/-- The error of a call that does nothing. -/
def raise {α : Type} (error : CallError) (client : Client) : Called α := (.error error, client)

def requestId (client : Client) : Text := client.requestPrefix ++ text "-" ++ decimal client.requestCounter

/-- The line of a request, when it can be written. -/
def encodeRequest (id command : Text) (params : Json) : Option (List Byte) :=
  Utf8.encode (Json.object [("schema_version", .nat 1), ("id", .str id), ("cmd", .str command), ("params", params)]).dump

/-- A character of `_TOKEN_PATTERN`. -/
def isTokenPoint (c : CodePoint) : Bool :=
  isDigit c || (0x41 ≤ c.val && c.val ≤ 0x5A) || (0x61 ≤ c.val && c.val ≤ 0x7A) || (text "._:-").contains c

/-- The checks of a command's name. -/
def checkCommand (command : Text) : Except PyError Unit := do
  rejectIf (command = [] || 64 < command.countP fun c => c.val < 0x80)
    (.value "command must be a non-empty ASCII token of at most 64 bytes")
  rejectIf (!command.all isTokenPoint) (.value "command contains characters outside the v1 token alphabet")

/-- What is made of a response that came. -/
def receive (item : StdoutItem) (client : Client) : Called Json :=
  match item with
  | .eof => client.abort (.exited "host exited before responding")
  | .failure message => client.abort (.protocol message)
  | .raw raw =>
    match parseResponse raw client.requestId with
    | .ok result => (.ok result, client)
    | .error (.command error) => client.raise (.ofResponse (.command error))
    | .error (.violation message) => client.abort (.ofResponse (.violation message))

/-- An interrupted control is put on record before its session is given up. -/
def isControl (command : Text) : Bool := command = text "direct_operate" || command = text "select_and_operate"

/-- The wait for the response to a request that is in the queue. -/
def await (command : Text) (wait : Wait) (client : Client) : Called Json :=
  match wait with
  | .writeFailed => client.abort (.exited "host failed while writing request")
  | .silent => client.abort .timeout
  | .interrupted by_ =>
    if isControl command then client.raise (.interrupted by_) else client.abort (.interrupted by_)
  | .overflow => client.abort (.protocol "stdout response queue overflow")
  | .item item => client.receive item

/-- `_next_request_id` -/
def advance (client : Client) : Client := { client with requestCounter := client.requestCounter + 1 }

def enqueue (line : List Byte) (client : Client) : Client := { client with queued := client.queued ++ [line] }

/-- The part of `_exchange` behind its request id. -/
def send (command : Text) (params : Json) (pipes : Pipes) (client : Client) : Called Json :=
  match encodeRequest client.requestId command params with
  | none => client.raise (.python (.value "request is not JSON serializable"))
  | some encoded =>
    if client.config.maxRequestBytes < encoded.length then
      client.raise (.python (.value "request exceeds max_request_bytes"))
    else
      match pipes with
      | .gone => client.abort (.exited "host exited before responding")
      | .full => client.abort (.protocol "stdin request queue overflow")
      | .queued wait => (client.enqueue (encoded ++ [newline])).await command wait

/-- `_exchange` -/
def exchange (command : Text) (params : Json) (pipes : Pipes) (client : Client) : Called Json :=
  match checkCommand command with
  | .error e => client.raise (.python e)
  | .ok () => client.advance.send command params pipes

/-- The deadline of a request: `None`, or a positive finite number. -/
def isDeadline (timeout : Json) : Bool :=
  match timeout with
  | .null => true
  | other =>
    (number? other).any fun x =>
      match x.toFloat with
      | .ok (.finite q) => 0 < q
      | _ => false

/-- `_request` -/
def request (command : Text) (params timeout : Json) (pipes : Pipes) (client : Client) : Called Json :=
  if client.state ≠ .running then
    client.raise (.state (text (if client.state = .closed ∨ client.state = .broken then "client is closed" else "client is not started")))
  else if !isDeadline timeout then client.raise (.python (.value "timeout must be a positive finite number"))
  else client.exchange command params pipes

/-! ## Calls -/

/-- `_mapping_result` -/
def mappingResult (command : Text) (called : Called Json) : Called Json :=
  match called with
  | (.ok result, client) =>
    if result.isObj then (.ok result, client) else client.abort (.protocol (command ++ text " result must be an object"))
  | other => other

/-- `except (TypeError, ValueError, KeyError, RecursionError)` around the validator of a result. -/
def validated {α : Type} (command : Text) (validate : Json → Except PyError α) (called : Called Json) : Called α :=
  match called with
  | (.error e, client) => (.error e, client)
  | (.ok result, client) =>
    match validate result with
    | .ok value => (.ok value, client)
    | .error (.overflow message) => client.raise (.python (.overflow message))
    | .error e => client.abort (.protocol (command ++ text " result is invalid: " ++ text e.message))

/-- A call whose result is checked and changes nothing: the status, events, reads, captures and unsolicited responses. -/
def typedCall {α : Type} (command : String) (params timeout : Json) (validate : Json → Except PyError α) (pipes : Pipes)
    (client : Client) : Called α :=
  validated command validate (mappingResult command (client.request command params timeout pipes))

/-- `_TYPED_API_COMMANDS` -/
def typedApiCommands : List String :=
  ["hello", "shutdown", "connect", "disconnect", "get_status", "stats", "wait_event", "integrity_poll", "class_poll",
   "read", "enable_unsolicited", "disable_unsolicited", "wait_unsolicited", "select_and_operate", "direct_operate",
   "capture.begin", "capture.progress", "capture.end", "trace.start", "trace.read", "trace.stop"]

/-- The public `request`. -/
def rawRequest (command : Text) (params timeout : Json) (pipes : Pipes) (client : Client) : Called Json :=
  if (typedApiCommands.map text).contains command then
    client.raise (.state (text "raw request for '" ++ command ++ text "' is blocked; use the typed Dnp3MasterClient method"))
  else client.request command params timeout pipes

/-- The token of a `connect` result; `none` where the metadata is inconsistent. -/
def connectToken (config : TcpConnectionConfig) (safety : Json) : Option (Option SafetyToken) :=
  let simulated : Bool := field safety "environment" = .str "SIMULATOR"
  match field safety "state_change_authorized", field safety "safety_token" with
  | .bool true, .str token =>
    if valid : isSafetyToken token = true then
      if config.simulator then if simulated then some (some ⟨token, valid⟩) else none
      else if config.safety.any (·.allowStateChange) && !simulated then some (some ⟨token, valid⟩)
      else none
    else none
  | .bool false, .null => if config.simulator || simulated then none else some none
  | _, _ => none

/-- `value[key] = member` -/
def withMember (value : Json) (key : String) (member : Json) : Json :=
  match value with
  | .obj members => .obj (Dict.set members (text key) member)
  | other => other

/-- `value.pop(key, None)` -/
def withoutMember (value : Json) (key : String) : Json :=
  match value with
  | .obj members => .obj (members.filter fun member => member.1 ≠ text key)
  | other => other

/-- The result without the token. -/
def publicResult (result safety : Json) : Json :=
  withMember result "safety" (withMember (withoutMember safety "safety_token") "token_exposed" (.bool false))

/-- `connect` -/
def connect (config : TcpConnectionConfig) (timeout : Json) (pipes : Pipes) (client : Client) : Called Json :=
  match mappingResult "connect" (client.request "connect" config.toParams timeout pipes) with
  | (.error e, client) => (.error e, client)
  | (.ok result, client) =>
    let safety := field result "safety"
    if !safety.isObj then client.abort (.protocol "connect result safety must be an object")
    else
      match connectToken config safety with
      | none => client.abort (.protocol "connect result contains inconsistent safety authorization")
      | some token =>
        (.ok (publicResult result safety),
          { client with
            safetyToken := token, simulatorMode := config.simulator
            activeDutId := if token.isSome then config.safety.map (·.dutId) else none })

/-- `disconnect` -/
def disconnect (timeout : Json) (pipes : Pipes) (client : Client) : Called Json :=
  match mappingResult "disconnect" (client.request "disconnect" (.obj []) timeout pipes) with
  | (.error e, client) => (.error e, client)
  | (.ok result, client) => (.ok result, { client with safetyToken := none })

/-! ## The process -/

/-- A field of a hello that is a string and not empty. -/
def helloName (hello : Json) (key : String) : Except CallError Text :=
  (nameField hello key s!"hello field '{key}' must be a non-empty string").mapError fun _ =>
    .protocol (text s!"hello field '{key}' must be a non-empty string")

/-- A list of strings. -/
def helloCommands (hello : Json) : Except CallError (List Text) :=
  let names? : Option (List Text) :=
    match field hello "supported_commands" with
    | .arr items => items.mapM fun
      | .str name => some name
      | _ => none
    | _ => none
  match names? with
  | some names => .ok names
  | none => .error (.protocol "hello supported_commands must be a string array")

/-- `lower()` of a character that is a hexadecimal digit afterwards. -/
def lowerHexDigit (c : CodePoint) : CodePoint := if 0x41 ≤ c.val ∧ c.val ≤ 0x46 then .ofNat (c.val + 0x20) else c

/-- `_validate_hello`; the values that came are not quoted in the errors. -/
def validateHello (config : HostProcessConfig) (hello : Json) : Except CallError Unit := do
  rejectIf (!hello.isObj) (.protocol "hello result must be an object")
  let hostVersion ← helloName hello "host_version"
  let backend ← helloName hello "backend"
  let _ ← helloName hello "git_commit"
  let _ ← helloName hello "platform"
  let _ ← helloName hello "capability_matrix_version"
  let matrix ← helloName hello "capability_matrix_sha256"
  rejectIf (config.expectedHostVersion.any fun expected => hostVersion ≠ expected)
    (.protocol "native host version does not match the Python package")
  rejectIf (config.expectedCapabilityMatrixSha256.any fun expected => matrix.map lowerHexDigit ≠ expected)
    (.protocol "native host capability matrix hash does not match the configured pytest matrix")
  rejectIf (matrix.length ≠ 64 || !matrix.all isHexDigit)
    (.protocol "hello capability_matrix_sha256 must contain 64 hexadecimal characters")
  rejectIf (backend = text "opendnp3" && field hello "backend_version" ≠ .str "3.1.2")
    (.protocol "native host OpenDNP3 version must be the pinned 3.1.2")
  let commands ← helloCommands hello
  rejectIf (!(commands.contains (text "hello") && commands.contains (text "shutdown")))
    (.protocol "hello does not advertise required lifecycle commands")
  rejectIf (!(field hello "capabilities").isObj) (.protocol "hello capabilities must be an object")

/-- How the process comes up. -/
inductive Spawn where
  | noExecutable
  | noWorkingDirectory
  | failed
  | spawned (pipes : Pipes)
deriving DecidableEq

/-- `start` of a client that is not running. -/
def startProcess (spawn : Spawn) (client : Client) : Called Json :=
  if client.state ≠ .new then client.raise (.state "client cannot be started after it has been closed")
  else
    match spawn with
    | .noExecutable | .noWorkingDirectory => (.error .start, { client with state := .closed })
    | .failed => (.error .start, { client with state := .broken })
    | .spawned pipes =>
      match { client with state := .starting }.exchange "hello" (.obj []) pipes with
      -- an error response to the hello is wrapped, and so is anything that is not the client's own
      | (.error (.command _), client) | (.error (.python _), client) => client.abort .start
      | (.error e, client) => client.abort e
      | (.ok hello, client) =>
        match validateHello client.config hello with
        | .error e => client.abort e
        | .ok () => (.ok hello, { client with helloInfo := some hello, state := .running })

/-- `start` -/
def start (spawn : Spawn) (client : Client) : Called Json :=
  match client.state, client.helloInfo with
  | .running, some hello => (.ok hello, client)
  | _, _ => client.startProcess spawn

def closed (client : Client) : Client := { client with safetyToken := none, state := .closed }

/-- `close`, without `pipes` when the host has exited: a shutdown that fails is noted, not raised. -/
def close (pipes : Option Pipes) (client : Client) : Called Unit :=
  match client.state, pipes with
  | .closed, _ | .new, _ | .broken, _ | _, none => (.ok (), client.closed)
  | _, some pipes =>
    match { client with state := .closing }.exchange "shutdown" (.obj []) pipes with
    | (.error (.interrupted by_), client) => client.raise (.interrupted by_)
    | (_, client) => (.ok (), client.closed)

end Client

/-! ## What an exchange does to the client -/

namespace Client

/-- The same session: the requests may have gone on. -/
structure Same (client client' : Client) : Prop where
  config : client'.config = client.config
  hello : client'.helloInfo = client.helloInfo
  dut : client'.activeDutId = client.activeDutId
  simulator : client'.simulatorMode = client.simulatorMode
  token : client'.safetyToken = client.safetyToken
  state : client'.state = client.state

theorem Same.refl (client : Client) : Same client client := ⟨rfl, rfl, rfl, rfl, rfl, rfl⟩

variable {client : Client} {command : Text} {params timeout : Json}

/-- The session is given up: no token is left. -/
structure GivenUp (client client' : Client) : Prop where
  config : client'.config = client.config
  dut : client'.activeDutId = client.activeDutId
  simulator : client'.simulatorMode = client.simulatorMode
  token : client'.safetyToken = none
  state : client'.state = .broken

/-- A session that was the same, or given up already. -/
theorem givenUp_abortProcess {before : Client} (left : Same before client ∨ GivenUp before client) :
    GivenUp before client.abortProcess := by
  obtain same | givenUp := left
  · exact ⟨same.config, same.dut, same.simulator, rfl, rfl⟩
  · exact ⟨givenUp.config, givenUp.dut, givenUp.simulator, rfl, rfl⟩

/-- The request of a call. -/
def line (command : Text) (params : Json) (client : Client) : Option (List Byte) :=
  (encodeRequest client.requestId command params).map (· ++ [newline])

/-- What a call has done when it comes back. A request is queued before anything of the host is believed. -/
inductive Outcome (command : Text) (params : Json) (client : Client) : Called Json → Prop
  | refused {error : CallError} {client' : Client} (same : Same client client') (queue : client'.queued = client.queued)
      (before : (∃ message, error = .state message) ∨ ∃ message, error = .python (.value message)) :
      Outcome command params client (.error error, client')
  | answered {called : Called Json} {bytes : List Byte} (same : Same client called.2)
      (sent : called.2.line command params = some bytes) (queue : called.2.queued = client.queued ++ [bytes])
      (raw : List Byte) (answer : called.1 = (parseResponse raw called.2.requestId).mapError CallError.ofResponse)
      (noViolation : ResponseError.IsAnswer called.2.requestId (parseResponse raw called.2.requestId)) :
      Outcome command params client called
  | interrupted {by_ : Interruption} {client' : Client} {bytes : List Byte} (control : isControl command = true)
      (same : Same client client') (sent : client'.line command params = some bytes)
      (queue : client'.queued = client.queued ++ [bytes]) : Outcome command params client (.error (.interrupted by_), client')
  | lost {error : CallError} {client' : Client} (givenUp : GivenUp client client')
      (queue : client'.queued = client.queued ∨
        ∃ bytes, client'.line command params = some bytes ∧ client'.queued = client.queued ++ [bytes])
      (how : error = .timeout ∨ (∃ message, error = .exited message) ∨ (∃ message, error = .protocol message) ∨
        isControl command = false ∧ ∃ by_, error = .interrupted by_) :
      Outcome command params client (.error error, client')

theorem checkCommand_error {e : PyError} (bad : checkCommand command = .error e) : ∃ message, e = .value message := by
  have quiet : ErrorsAre (fun e => ∃ message, e = PyError.value message) (checkCommand command) :=
    errorsAre_bind (errorsAre_rejectIf ⟨_, rfl⟩) fun _ _ => errorsAre_rejectIf ⟨_, rfl⟩
  exact quiet e bad

/-- A request that is queued: `before` is the client in front of its call. -/
theorem outcome_await {before : Client} {bytes : List Byte} (same : Same before client)
    (sent : client.line command params = some bytes) (queue : client.queued = before.queued ++ [bytes]) (wait : Wait) :
    Outcome command params before (client.await command wait) := by
  have lost {error : CallError} (how : error = .timeout ∨ (∃ message, error = .exited message) ∨
      (∃ message, error = .protocol message) ∨ isControl command = false ∧ ∃ by_, error = .interrupted by_) :
      Outcome command params before (client.abort error) :=
    .lost (givenUp_abortProcess (.inl same)) (.inr ⟨bytes, sent, queue⟩) how
  cases wait with
  | writeFailed => exact lost (.inr (.inl ⟨_, rfl⟩))
  | silent => exact lost (.inl rfl)
  | overflow => exact lost (.inr (.inr (.inl ⟨_, rfl⟩)))
  | interrupted by_ =>
    unfold await
    by_cases control : isControl command = true
    · simp only [control, if_true]
      exact .interrupted control same sent queue
    · simp only [control, Bool.false_eq_true, if_false]
      exact lost (.inr (.inr (.inr ⟨by simpa using control, by_, rfl⟩)))
  | item item =>
    unfold await receive
    cases item with
    | eof => exact lost (.inr (.inl ⟨_, rfl⟩))
    | failure message => exact lost (.inr (.inr (.inl ⟨_, rfl⟩)))
    | raw raw =>
      dsimp only
      cases parsed : parseResponse raw client.requestId with
      | ok result =>
        refine .answered same sent queue raw ?_ ?_
        · show _ = Except.mapError _ (parseResponse raw client.requestId)
          rw [parsed]
          rfl
        · show ResponseError.IsAnswer _ (parseResponse raw client.requestId)
          rw [parsed]
          trivial
      | error e =>
        cases e with
        | command error =>
          refine .answered same sent queue raw ?_ ?_
          · show _ = Except.mapError _ (parseResponse raw client.requestId)
            rw [parsed]
            rfl
          · show ResponseError.IsAnswer _ (parseResponse raw client.requestId)
            rw [parsed]
            exact parseResponse_command parsed
        | violation message => exact lost (.inr (.inr (.inl ⟨_, rfl⟩)))

/-- What an exchange does to the client, whatever the pipes do. -/
theorem outcome_exchange (command : Text) (params : Json) (pipes : Pipes) (client : Client) :
    Outcome command params client (client.exchange command params pipes) := by
  unfold exchange
  cases checked : checkCommand command with
  | error e =>
    obtain ⟨message, rfl⟩ := checkCommand_error checked
    exact .refused (.refl client) rfl (.inr ⟨_, rfl⟩)
  | ok _ =>
    have same : Same client client.advance := ⟨rfl, rfl, rfl, rfl, rfl, rfl⟩
    dsimp only
    unfold send
    cases encodes : encodeRequest client.advance.requestId command params with
    | none => exact .refused same rfl (.inr ⟨_, rfl⟩)
    | some encoded =>
      dsimp only
      split
      · exact .refused same rfl (.inr ⟨_, rfl⟩)
      · cases pipes with
        | gone => exact .lost (givenUp_abortProcess (.inl same)) (.inl rfl) (.inr (.inl ⟨_, rfl⟩))
        | full => exact .lost (givenUp_abortProcess (.inl same)) (.inl rfl) (.inr (.inr (.inl ⟨_, rfl⟩)))
        | queued wait =>
          have sent : (client.advance.enqueue (encoded ++ [newline])).line command params = some (encoded ++ [newline]) := by
            show (encodeRequest client.advance.requestId command params).map _ = _
            rw [encodes]
            rfl
          have queued : Same client (client.advance.enqueue (encoded ++ [newline])) := ⟨rfl, rfl, rfl, rfl, rfl, rfl⟩
          exact outcome_await queued sent rfl wait

end Client

end EmsDnp3.Python
