import EmsDnp3.Python.Exchange

/-!
# The session behind a call

What every call of the client but a control leaves: the session it found, a session that is given up, or none. A call
queues one request at most, and none once the session is given up.
-/

namespace EmsDnp3.Python

namespace Client

/-! ## One exchange -/

/-- What is put into the queue for a command. -/
abbrev Sent := Option (Text × List Byte)

/-- What an exchange leaves, and what it put into the queue. -/
structure Exchanged (command : Text) (client client' : Client) (sent : Sent) : Prop where
  queue : client'.queued = client.queued ++ (sent.map (·.2)).toList
  named : ∀ s ∈ sent, s.1 = command
  session : Same client client' ∨ GivenUp client client'

section
variable {client client' : Client} {command : Text} {params timeout : Json} {sent : Sent} {α : Type}

theorem Exchanged.abortProcess (exchanged : Exchanged command client client' sent) :
    Exchanged command client client'.abortProcess sent where
  queue := exchanged.queue
  named := exchanged.named
  session := .inr (givenUp_abortProcess exchanged.session)

theorem Exchanged.config (exchanged : Exchanged command client client' sent) : client'.config = client.config := by
  obtain same | givenUp := exchanged.session
  · exact same.config
  · exact givenUp.config

/-- Where the session was the same, the result is believed. -/
theorem Outcome.exchanged {called : Called Json} (outcome : Outcome command params client called) :
    ∃ sent, Exchanged command client called.2 sent ∧ ∀ result, called.1 = .ok result → Same client called.2 := by
  cases outcome with
  | refused same queue before =>
    refine ⟨none, ⟨by simpa using queue, by simp, .inl same⟩, ?_⟩
    rintro result ⟨⟩
  | @answered called bytes same sent queue raw answer noViolation =>
    exact ⟨some (command, bytes), ⟨by simpa using queue, by simp, .inl same⟩, fun _ _ => same⟩
  | @interrupted by_ client' bytes control same sent queue =>
    refine ⟨some (command, bytes), ⟨by simpa using queue, by simp, .inl same⟩, ?_⟩
    rintro result ⟨⟩
  | lost givenUp queue how =>
    obtain queue | ⟨bytes, sent, queue⟩ := queue
    · refine ⟨none, ⟨by simpa using queue, by simp, .inr givenUp⟩, ?_⟩
      rintro result ⟨⟩
    · refine ⟨some (command, bytes), ⟨by simpa using queue, by simp, .inr givenUp⟩, ?_⟩
      rintro result ⟨⟩

/-- An interrupted exchange gives the session up, unless it is a control. -/
theorem Outcome.interrupted_givenUp {by_ : Interruption}
    (outcome : Outcome command params client (.error (.interrupted by_), client')) (noControl : isControl command = false) :
    GivenUp client client' := by
  cases outcome with
  | refused same queue before => simp at before
  | answered same sent queue raw answer noViolation =>
    cases parsed : parseResponse raw client'.requestId with
    | ok result => simp [parsed, Except.mapError] at answer
    | error e =>
      rw [parsed] at answer
      cases e with
      | command error => simp [Except.mapError, CallError.ofResponse] at answer
      | violation message => simp [Except.mapError, CallError.ofResponse] at answer
  | interrupted control same sent queue => simp [noControl] at control
  | lost givenUp queue how => exact givenUp

/-- A request: it does nothing to a client that is not running. -/
structure Requested (command : Text) (client client' : Client) (sent : Sent) : Prop
    extends Exchanged command client client' sent where
  idle : client.state ≠ .running → sent = none ∧ client' = client

theorem Requested.abortProcess (requested : Requested command client client' sent) (running : client.state = .running) :
    Requested command client client'.abortProcess sent where
  toExchanged := requested.toExchanged.abortProcess
  idle := fun other => absurd running other

/-- What a request does to the client, whatever the pipes do. -/
theorem outcome_request (command : Text) (params timeout : Json) (pipes : Pipes) (client : Client) :
    Outcome command params client (client.request command params timeout pipes) := by
  unfold request
  split
  · exact .refused (.refl client) rfl (.inl ⟨_, rfl⟩)
  · split
    · exact .refused (.refl client) rfl (.inr ⟨_, rfl⟩)
    · exact outcome_exchange command params pipes client

/-- What comes back from a request, the request behind it, and the client it leaves. -/
structure Answered {α : Type} (command : Text) (client : Client) (called : Called α) (sent : Sent) : Prop
    extends Requested command client called.2 sent where
  believed : ∀ result, called.1 = .ok result → Same client called.2 ∧ client.state = .running

/-- Every request is answered or leaves the client given up. -/
theorem answered_request (command : Text) (params timeout : Json) (pipes : Pipes) (client : Client) :
    ∃ sent, Answered command client (client.request command params timeout pipes) sent := by
  by_cases running : client.state = .running
  · obtain ⟨sent, exchanged, believed⟩ := (outcome_request command params timeout pipes client).exchanged
    exact ⟨sent, ⟨⟨exchanged, fun other => absurd running other⟩, fun result ok => ⟨believed result ok, running⟩⟩⟩
  · have refused : ∃ error, client.request command params timeout pipes = client.raise error := by
      unfold request
      rw [if_pos running]
      exact ⟨_, rfl⟩
    obtain ⟨error, refused⟩ := refused
    rw [refused]
    refine ⟨none, ⟨⟨⟨by simp [raise], by simp, .inl (.refl client)⟩, fun _ => ⟨rfl, rfl⟩⟩, ?_⟩⟩
    rintro result ⟨⟩

theorem Answered.error {β : Type} {called : Called α} {sent : Sent} (answered : Answered command client called sent)
    (error : CallError) : Answered command client ((.error error, called.2) : Called β) sent where
  toRequested := answered.toRequested
  believed := by
    rintro result ⟨⟩

theorem Answered.ok {β : Type} {called : Called α} {result : α} (answered : Answered command client called sent)
    (ok : called.1 = .ok result) (value : β) : Answered command client ((.ok value, called.2) : Called β) sent where
  toRequested := answered.toRequested
  believed := fun _ _ => answered.believed result ok

/-- A call that was answered and then ends the client. -/
theorem Answered.abort {β : Type} {called : Called α} {result : α} (answered : Answered command client called sent)
    (ok : called.1 = .ok result) (error : CallError) :
    Answered command client (called.2.abort error : Called β) sent where
  toRequested := answered.toRequested.abortProcess (answered.believed result ok).2
  believed := by
    rintro result ⟨⟩

/-- A result that must be a mapping. -/
theorem answered_mappingResult {called : Called Json} (answered : Answered command client called sent) :
    Answered command client (mappingResult command called) sent := by
  obtain ⟨result, client'⟩ := called
  cases result with
  | error e => exact answered
  | ok result =>
    unfold mappingResult
    dsimp only
    split
    · exact answered
    · exact answered.abort rfl _

/-- A result that is validated. -/
theorem answered_validated {called : Called Json} (answered : Answered command client called sent)
    (validate : Json → Except PyError α) : Answered command client (validated command validate called) sent := by
  obtain ⟨result, client'⟩ := called
  cases result with
  | error e => exact answered.error e
  | ok result =>
    unfold validated
    dsimp only
    split
    · exact answered.ok rfl _
    · exact answered.error _
    · exact answered.abort rfl _

end

/-! ## Sessions -/

/-- A token is held by a client that is running, and a client in lab mode knows its DUT then. -/
structure Session (client : Client) : Prop where
  running : client.safetyToken.isSome → client.state = .running
  dut : client.safetyToken.isSome → client.simulatorMode = false → client.activeDutId.isSome

/-- No call of such a client reaches the host. -/
def Ended (client : Client) : Prop := client.state = .broken ∨ client.state = .closed

theorem session_of_none {client : Client} (none_ : client.safetyToken = none) : Session client :=
  ⟨by simp [none_], by simp [none_]⟩

/-- A client that did nothing keeps its session. -/
theorem Same.session {client client' : Client} (same : Same client client') (session : Session client) : Session client' where
  running := by
    rw [same.token, same.state]
    exact session.running
  dut := by
    rw [same.token, same.simulator, same.dut]
    exact session.dut

/-- An exchange keeps the session or gives it up. -/
theorem Session.exchanged {client client' : Client} (session : Session client)
    (left : Same client client' ∨ GivenUp client client') : Session client' := by
  obtain same | givenUp := left
  · exact same.session session
  · exact session_of_none givenUp.token

/-- What a call that is no control leaves. -/
structure Quiet (client client' : Client) (sent : Sent) : Prop where
  queue : client'.queued = client.queued ++ (sent.map (·.2)).toList
  config : client'.config = client.config
  noControl : ∀ s ∈ sent, isControl s.1 = false
  session : Session client → Session client'
  ended : Ended client → Ended client' ∧ sent = none

theorem Quiet.refl (client : Client) : Quiet client client none where
  queue := by simp
  config := rfl
  noControl := by simp
  session := id
  ended := fun ended => ⟨ended, rfl⟩

theorem Ended.not_running {client : Client} (ended : Ended client) : client.state ≠ .running := by
  rcases ended with ended | ended
  · simp [ended]
  · simp [ended]

section
variable {client client' : Client} {command : Text} {sent : Sent}

/-- A request that is no control is quiet. -/
theorem Requested.quiet (requested : Requested command client client' sent) (noControl : isControl command = false) :
    Quiet client client' sent where
  queue := requested.queue
  config := requested.config
  noControl := by
    intro s member
    rw [requested.named s member]
    exact noControl
  session := fun session => session.exchanged requested.session
  ended := by
    intro ended
    obtain ⟨nothing, same⟩ := requested.idle ended.not_running
    exact ⟨same ▸ ended, nothing⟩

end

/-! ## Calls -/

/-- The commands of the calls that change nothing but the pipe. -/
def readingCommands : List String :=
  ["get_status", "stats", "wait_event", "integrity_poll", "class_poll", "read", "enable_unsolicited",
   "disable_unsolicited", "wait_unsolicited", "capture.begin", "capture.progress", "capture.end", "trace.start",
   "trace.read", "trace.stop"]

/-- A call that is no control, and what happens to it. -/
inductive Call where
  | start (spawn : Spawn)
  | close (pipes : Option Pipes)
  | connect (config : TcpConnectionConfig) (timeout : Json) (pipes : Pipes)
  | disconnect (timeout : Json) (pipes : Pipes)
  | raw (command : Text) (params timeout : Json) (pipes : Pipes)
  | reading (command : String) (known : command ∈ readingCommands) (params timeout : Json)
      (validate : Json → Except PyError Unit) (pipes : Pipes)

/-- The client behind a call. -/
def Call.after (call : Call) (client : Client) : Client :=
  match call with
  | .start spawn => (client.start spawn).2
  | .close pipes => (client.close pipes).2
  | .connect config timeout pipes => (client.connect config timeout pipes).2
  | .disconnect timeout pipes => (client.disconnect timeout pipes).2
  | .raw command params timeout pipes => (client.rawRequest command params timeout pipes).2
  | .reading command _ params timeout validate pipes => (client.typedCall command params timeout validate pipes).2

theorem text_not_control {command : String} (other : command ≠ "direct_operate" ∧ command ≠ "select_and_operate") :
    isControl (text command) = false := by
  simp [isControl, other]

theorem reading_not_control {command : String} (known : command ∈ readingCommands) : isControl (text command) = false := by
  apply text_not_control
  constructor
  · rintro rfl
    simp [readingCommands] at known
  · rintro rfl
    simp [readingCommands] at known

/-- A raw request that is let through is no control. -/
theorem raw_not_control {command : Text} (allowed : (typedApiCommands.map text).contains command = false) :
    isControl command = false := by
  have outside : ∀ name ∈ typedApiCommands, text name ≠ command := by
    simpa using allowed
  have direct := outside "direct_operate" (by simp [typedApiCommands])
  have select := outside "select_and_operate" (by simp [typedApiCommands])
  simp [isControl, direct.symm, select.symm]

section
variable {client : Client}

theorem quiet_raw (command : Text) (params timeout : Json) (pipes : Pipes) :
    ∃ sent, Quiet client (client.rawRequest command params timeout pipes).2 sent := by
  unfold rawRequest
  split
  · exact ⟨none, .refl client⟩
  · next allowed =>
    obtain ⟨sent, answered⟩ := answered_request command params timeout pipes client
    exact ⟨sent, answered.toRequested.quiet (raw_not_control (by simpa using allowed))⟩

theorem quiet_reading {command : String} (known : command ∈ readingCommands) (params timeout : Json)
    (validate : Json → Except PyError Unit) (pipes : Pipes) :
    ∃ sent, Quiet client (client.typedCall command params timeout validate pipes).2 sent := by
  obtain ⟨sent, answered⟩ := answered_request (text command) params timeout pipes client
  exact ⟨sent, (answered_validated (answered_mappingResult answered) validate).toRequested.quiet (reading_not_control known)⟩

theorem quiet_disconnect (timeout : Json) (pipes : Pipes) :
    ∃ sent, Quiet client (client.disconnect timeout pipes).2 sent := by
  obtain ⟨sent, answered⟩ := answered_request (text "disconnect") (.obj []) timeout pipes client
  have mapped := answered_mappingResult answered
  have quiet := mapped.toRequested.quiet (text_not_control (by simp))
  refine ⟨sent, ?_⟩
  unfold disconnect
  generalize mappingResult "disconnect" (client.request "disconnect" (.obj []) timeout pipes) = called at mapped quiet
  obtain ⟨_ | result, client'⟩ := called
  · exact quiet
  · have running := (mapped.believed result rfl).2
    exact ⟨quiet.queue, quiet.config, quiet.noControl, fun _ => session_of_none rfl,
      fun ended => absurd running ended.not_running⟩

/-- A token that is accepted in lab mode comes with a DUT. -/
theorem connectToken_dut {config : TcpConnectionConfig} {safety : Json} {token : SafetyToken}
    (accepted : connectToken config safety = some (some token)) (lab : config.simulator = false) : config.safety.isSome := by
  unfold connectToken at accepted
  rw [lab] at accepted
  dsimp only at accepted
  split at accepted
  · split at accepted
    · simp only [Bool.false_eq_true, if_false] at accepted
      split at accepted
      · next allowed =>
        obtain ⟨allowed, -⟩ := Bool.and_eq_true_iff.mp allowed
        obtain ⟨safety, here, -⟩ := Option.any_eq_true _ _ |>.mp allowed
        rw [here]
        rfl
      · cases accepted
    · cases accepted
  · split at accepted
    · cases accepted
    · simp at accepted
  · cases accepted

theorem quiet_connect (config : TcpConnectionConfig) (timeout : Json) (pipes : Pipes) :
    ∃ sent, Quiet client (client.connect config timeout pipes).2 sent := by
  obtain ⟨sent, answered⟩ := answered_request (text "connect") config.toParams timeout pipes client
  have mapped := answered_mappingResult answered
  have quiet := mapped.toRequested.quiet (text_not_control (by simp))
  refine ⟨sent, ?_⟩
  unfold connect
  generalize mappingResult "connect" (client.request "connect" config.toParams timeout pipes) = called at mapped quiet
  obtain ⟨_ | result, client'⟩ := called
  · exact quiet
  · obtain ⟨same, running⟩ := mapped.believed result rfl
    have aborted {β : Type} (error : CallError) : Quiet client (client'.abort error : Called β).2 sent :=
      (mapped.abort (β := β) rfl error).toRequested.quiet (text_not_control (by simp))
    dsimp only
    split
    · exact aborted _
    · split
      · exact aborted (β := Json) _
      · next token accepted =>
        refine ⟨quiet.queue, quiet.config, quiet.noControl, fun _ => ⟨fun _ => same.state.trans running, ?_⟩,
          fun ended => absurd running ended.not_running⟩
        intro some_ lab
        dsimp only at some_ lab ⊢
        rw [if_pos some_]
        obtain ⟨token, rfl⟩ := Option.isSome_iff_exists.mp some_
        have safety := connectToken_dut accepted lab
        simpa using safety

theorem quiet_start (spawn : Spawn) : ∃ sent, Quiet client (client.start spawn).2 sent := by
  unfold start
  split
  · exact ⟨none, .refl client⟩
  · unfold startProcess
    split
    · exact ⟨none, .refl client⟩
    · next fresh =>
      have fresh : client.state = .new := by simpa using fresh
      have notEnded : ¬ Ended client := by simp [Ended, fresh]
      have noToken (session : Session client) : client.safetyToken = none := by
        by_contra held
        have running := session.running (by simpa [Option.isSome_iff_ne_none] using held)
        rw [fresh] at running
        cases running
      -- `client'` is what is left of the client when it went through `starting`
      have left {client' : Client} {sent : Sent} (queue : client'.queued = client.queued ++ (sent.map (·.2)).toList)
          (config : client'.config = client.config) (named : ∀ s ∈ sent, s.1 = text "hello")
          (token : client'.safetyToken = client.safetyToken ∨ client'.safetyToken = none) : Quiet client client' sent := by
        refine ⟨queue, config, fun s member => ?_, fun session => session_of_none ?_, fun ended => absurd ended notEnded⟩
        · rw [named s member]
          exact text_not_control (by simp)
        · rcases token with same | none_
          · rw [same, noToken session]
          · exact none_
      cases spawn with
      | noExecutable => exact ⟨none, left (by simp) rfl (by simp) (.inl rfl)⟩
      | noWorkingDirectory => exact ⟨none, left (by simp) rfl (by simp) (.inl rfl)⟩
      | failed => exact ⟨none, left (by simp) rfl (by simp) (.inl rfl)⟩
      | spawned pipes =>
        obtain ⟨sent, exchanged, -⟩ :=
          (outcome_exchange (text "hello") (.obj []) pipes { client with state := .starting }).exchanged
        refine ⟨sent, ?_⟩
        have token : (Client.exchange (text "hello") (.obj []) pipes { client with state := .starting }).2.safetyToken =
            client.safetyToken ∨ (Client.exchange (text "hello") (.obj []) pipes { client with state := .starting }).2.safetyToken
              = none := by
          rcases exchanged.session with same | givenUp
          · exact .inl same.token
          · exact .inr givenUp.token
        dsimp only
        generalize Client.exchange (text "hello") (.obj []) pipes { client with state := .starting } = called at exchanged token
        have queue := exchanged.queue
        have config := exchanged.config
        have aborted : Quiet client called.2.abortProcess sent := left queue config exchanged.named (.inr rfl)
        split
        · exact aborted
        · exact aborted
        · exact aborted
        · split
          · exact aborted
          · exact left queue config exchanged.named token

theorem quiet_close (pipes : Option Pipes) : ∃ sent, Quiet client (client.close pipes).2 sent := by
  have closed : Quiet client client.closed none :=
    ⟨by simp [Client.closed], rfl, by simp, fun _ => session_of_none rfl, fun _ => ⟨.inr rfl, rfl⟩⟩
  unfold close
  split
  · exact ⟨none, closed⟩
  · exact ⟨none, closed⟩
  · exact ⟨none, closed⟩
  · exact ⟨none, closed⟩
  · next pipes closed_ fresh broken =>
    have notEnded : ¬ Ended client := by
      rintro (ended | ended)
      · exact broken ended
      · exact closed_ ended
    have outcome := outcome_exchange (text "shutdown") (.obj []) pipes { client with state := .closing }
    obtain ⟨sent, exchanged, -⟩ := outcome.exchanged
    refine ⟨sent, ?_⟩
    generalize Client.exchange (text "shutdown") (.obj []) pipes { client with state := .closing } = called
      at exchanged outcome
    have left {client' : Client} (queue : client'.queued = called.2.queued) (config : client'.config = called.2.config)
        (token : client'.safetyToken = none) : Quiet client client' sent := by
      refine ⟨queue.trans exchanged.queue, config.trans exchanged.config, fun s member => ?_,
        fun _ => session_of_none token, fun ended => absurd ended notEnded⟩
      rw [exchanged.named s member]
      exact text_not_control (by simp)
    split
    · exact left rfl rfl (outcome.interrupted_givenUp (text_not_control (by simp))).token
    · exact left rfl rfl rfl

end

end Client

end EmsDnp3.Python
