import EmsDnp3.Base.Recent
import EmsDnp3.Native.ParameterErrors

/-!
# The window of request ids and the request counters

The host refuses an id that is among the last 4096 accepted ones, and it answers every line once. A
request is counted once unless the host throws after it has counted: `hello` and `get_status` count
before they ask the backend, and every response is serialised after it was counted. `Answers` holds when
neither happens, and `once_execute` that nothing less will do.
-/

namespace EmsDnp3.Native

namespace HostController

variable {β : Type}

/-- The window is the last accepted ids, and the lookup set holds the same ones. -/
structure Tracks (history : List Text) (c : HostController β) : Prop where
  order : c.recentRequestIds = history.rtake kRecentRequestIdCapacity
  lookup : ∀ id, id ∈ c.recentRequestIdSet ↔ id ∈ c.recentRequestIds
  nodup : c.recentRequestIds.Nodup

theorem Tracks.bounded {history : List Text} {c : HostController β} (tracks : Tracks history c) :
    c.recentRequestIds.length ≤ kRecentRequestIdCapacity := by
  rw [tracks.order]
  exact Recent.length_rtake_le

/-- Only the remembered ids count. -/
theorem Tracks.of_same {history : List Text} {c d : HostController β} (tracks : Tracks history c)
    (ids : d.recentRequestIds = c.recentRequestIds) (set : d.recentRequestIdSet = c.recentRequestIdSet) :
    Tracks history d := by
  constructor
  · rw [ids]
    exact tracks.order
  · rw [ids, set]
    exact tracks.lookup
  · rw [ids]
    exact tracks.nodup

/-- A known id changes nothing. -/
theorem remember_known {history : List Text} {c : HostController β} (tracks : Tracks history c) {id : Text}
    (known : id ∈ history.rtake kRecentRequestIdCapacity) : c.rememberRequestId id = (false, c) := by
  unfold rememberRequestId
  apply if_pos
  rw [tracks.lookup, tracks.order]
  exact known

/-- A new id joins both containers; at the bound the oldest one leaves both. -/
theorem remember_new {history : List Text} {c : HostController β} (tracks : Tracks history c) {id : Text}
    (new : id ∉ history.rtake kRecentRequestIdCapacity) :
    ∃ ids set, c.rememberRequestId id = (true, { c with recentRequestIds := ids, recentRequestIdSet := set }) ∧
      Tracks (history ++ [id]) { c with recentRequestIds := ids, recentRequestIdSet := set } := by
  have fresh : id ∉ c.recentRequestIds := by
    rw [tracks.order]
    exact new
  have absent : id ∉ c.recentRequestIdSet := by
    rw [tracks.lookup]
    exact fresh
  unfold rememberRequestId
  rw [if_neg absent]
  by_cases full : c.recentRequestIds.length = kRecentRequestIdCapacity
  · cases here : c.recentRequestIds with
    | nil =>
      rw [here] at full
      cases full
    | cons front rest =>
      have nodup := tracks.nodup
      rw [here, List.nodup_cons] at nodup
      refine ⟨rest ++ [id], insert id (c.recentRequestIdSet.erase front), ?_, ?_, ?_, ?_⟩
      · rw [here] at full
        dsimp only
        rw [if_pos full]
      · rw [Recent.rtake_concat_of_eq (by decide) (by rw [← tracks.order]; exact full), ← tracks.order, here]
        rfl
      · intro other
        have known := tracks.lookup other
        rw [here, List.mem_cons] at known
        simp only [Finset.mem_insert, Finset.mem_erase, List.mem_append, List.mem_singleton, known]
        constructor
        · rintro (rfl | ⟨different, rfl | inside⟩)
          · exact .inr rfl
          · exact absurd rfl different
          · exact .inl inside
        · rintro (inside | rfl)
          · refine .inr ⟨?_, .inr inside⟩
            rintro rfl
            exact nodup.1 inside
          · exact .inl rfl
      · rw [here] at fresh
        exact List.nodup_append.mpr ⟨nodup.2, List.nodup_singleton id, fun a member b last same =>
          fresh (List.mem_singleton.mp last ▸ same ▸ List.mem_cons_of_mem front member)⟩
  · refine ⟨c.recentRequestIds ++ [id], insert id c.recentRequestIdSet, ?_, ?_, ?_, ?_⟩
    · dsimp only
      rw [if_neg full]
    · rw [Recent.rtake_concat_of_lt, ← tracks.order]
      rw [← tracks.order]
      exact lt_of_le_of_ne tracks.bounded full
    · intro other
      simp [tracks.lookup, or_comm]
    · exact List.nodup_append.mpr ⟨tracks.nodup, List.nodup_singleton id, fun a member b last same =>
        fresh (List.mem_singleton.mp last ▸ same ▸ member)⟩

/-! ## What is counted -/

/-- The requests that were counted as succeeded or as failed. -/
def answered (c : HostController β) : Nat := c.requestsSucceeded + c.requestsFailed

@[simp] theorem answered_failed (c : HostController β) : c.failed.answered = c.answered + 1 := rfl

@[simp] theorem answered_succeeded (c : HostController β) : c.succeeded.answered = c.answered + 1 :=
  Nat.add_right_comm _ _ _

/-- What any way through `dispatch` keeps, and that a response has been counted. Only the answer to
`shutdown` ends the process, and it can be sent. -/
structure Frame (c : HostController β) (r : Except Thrown DispatchResult × HostController β) : Prop where
  ids : r.2.recentRequestIds = c.recentRequestIds
  set : r.2.recentRequestIdSet = c.recentRequestIdSet
  received : r.2.requestsReceived = c.requestsReceived
  counted : ∀ d, r.1 = .ok d → r.2.answered = c.answered + 1
  state : (∀ d, r.1 = .ok d → d.shouldStop = false) → r.2.state = c.state
  stop : ∀ d, r.1 = .ok d → d.shouldStop = true → d.response.Plain

theorem frame_thrown {e : Thrown} {c d : HostController β} (ids : d.recentRequestIds = c.recentRequestIds)
    (set : d.recentRequestIdSet = c.recentRequestIdSet) (received : d.requestsReceived = c.requestsReceived)
    (state : d.state = c.state) : Frame c (.error e, d) :=
  ⟨ids, set, received, fun _ done => (nomatch done), fun _ => state, fun _ done => (nomatch done)⟩

/-- An answer that lets the process go on. -/
theorem frame_answer {response : Json} {c d : HostController β} (ids : d.recentRequestIds = c.recentRequestIds)
    (set : d.recentRequestIdSet = c.recentRequestIdSet) (received : d.requestsReceived = c.requestsReceived)
    (counted : d.answered = c.answered + 1) (state : d.state = c.state) : Frame c (.ok ⟨response, false⟩, d) := by
  refine ⟨ids, set, received, fun _ _ => counted, fun _ => state, ?_⟩
  rintro _ ⟨⟩ stop
  cases stop

theorem frame_reject (id : Text) (error : BackendError) (c : HostController β) : Frame c (reject id error c) :=
  frame_answer rfl rfl rfl rfl rfl

/-- A call of the backend leaves them too. -/
theorem frame_backendResult (id : Text) (call : Operation β) (c : HostController β) :
    Frame c (backendResult id call c) := by
  unfold backendResult
  split
  · exact frame_thrown rfl rfl rfl rfl
  · exact frame_answer rfl rfl rfl rfl rfl
  · exact frame_answer rfl rfl rfl (answered_succeeded _) rfl

theorem frame_countedResult (id : Text) (result : HostController β → Except Thrown Json) (c : HostController β) :
    Frame c (countedResult id result c) := by
  unfold countedResult
  cases result c.succeeded with
  | error e => exact frame_thrown rfl rfl rfl rfl
  | ok v => exact frame_answer rfl rfl rfl (answered_succeeded c) rfl

/-- Every command leaves ids, received and state. -/
theorem frame_execute (host : Host β) {request : Request} (isId : PlainText request.id) (c : HostController β) :
    Frame c (execute host request c) := by
  unfold execute
  split
  · exact frame_reject _ _ c
  split
  · exact frame_countedResult _ _ c
  split
  · exact frame_countedResult _ _ c
  split
  · split
    · exact frame_thrown rfl rfl rfl rfl
    · exact frame_answer rfl rfl rfl (answered_succeeded c) rfl
  split
  · refine ⟨rfl, rfl, rfl, fun _ _ => answered_succeeded _, fun goesOn => (nomatch goesOn _ rfl), ?_⟩
    rintro _ ⟨⟩ -
    exact plain_successResponse.mpr ⟨isId, by simp⟩
  split
  · exact frame_reject _ _ c
  · exact frame_backendResult _ _ c
  · split
    · cases host.backend.name c.backend with
      | error e => exact frame_thrown rfl rfl rfl rfl
      | ok name => exact frame_answer rfl rfl rfl rfl rfl
    · exact frame_reject _ _ c

/-! ## Who is counted once -/

/-- `hello_result` does not throw, and all its strings are UTF-8. -/
structure SaysHello (backend : IMasterBackend β) (b : β) : Prop where
  commands : ∃ commands, backend.supportedCommands b = .ok commands ∧ ∀ command ∈ commands, PlainText command
  name : ∃ name, backend.name b = .ok name ∧ PlainText name
  version : ∃ version, backend.version b = .ok version ∧ PlainText version
  capabilities : ∃ capabilities, backend.capabilities b = .ok capabilities ∧ capabilities.Plain

/-- The strings of a status are UTF-8. -/
structure BackendStatus.Plain (status : BackendStatus) : Prop where
  channel : PlainText status.channelState
  capture : status.capture.Plain
  trace : status.trace.Plain

/-- `status_result` does not throw, and all its strings are UTF-8. -/
structure SaysStatus (backend : IMasterBackend β) (b : β) : Prop where
  status : ∃ status, backend.status b = .ok status ∧ BackendStatus.Plain status
  name : ∃ name, backend.name b = .ok name ∧ PlainText name

/-- The strings of a result, or of the details of an error, are UTF-8. -/
def PlainResult : BackendOperationResult → Prop
  | .ok result => result.Plain
  | .error error => error.Plain

/-- What the backend has to do for a request to be counted once. `stats` asks before it counts, and so does
every call: these may throw, but what they return must be UTF-8. -/
structure Answers (host : Host β) (request : Request) (b : β) : Prop where
  hello : request.command = text "hello" → request.params = .obj [] → SaysHello host.backend b
  status : request.command = text "get_status" → request.params = .obj [] → SaysStatus host.backend b
  stats : request.command = text "stats" → request.params = .obj [] → ∀ status name,
    host.backend.status b = .ok status → host.backend.name b = .ok name → BackendStatus.Plain status
  call : ∀ call, backendCall host.backend request = some (.ok call) →
    (request.command = text "disconnect" → request.params = .obj []) → ∀ result, (call b).1 = .ok result → PlainResult result

/-- A handled request was not counted if an exception follows, be it that its response does not serialise. -/
structure Once (c : HostController β) (r : Except Thrown DispatchResult × HostController β) : Prop where
  thrown : ∀ e, r.1 = .error e → r.2.answered = c.answered
  plain : ∀ d, r.1 = .ok d → d.response.Plain

/-- A response is counted once if it can be written. -/
theorem once_ok {c d : HostController β} {response : Json} {shouldStop : Bool} :
    Once c (.ok ⟨response, shouldStop⟩, d) ↔ response.Plain := by
  constructor
  · intro once
    exact once.plain _ rfl
  · intro plain
    refine ⟨fun e thrown => (nomatch thrown), ?_⟩
    rintro _ ⟨⟩
    exact plain

theorem once_reject {id : Text} {error : BackendError} {c : HostController β} (isId : PlainText id) (plain : error.Plain) :
    Once c (reject id error c) := by
  apply once_ok.mpr
  apply plain_errorResponse.mpr
  exact ⟨fun t same => Option.some.inj same ▸ isId, plain⟩

/-- A query that succeeds and can be written is counted once. -/
theorem once_countedResult {id : Text} {result : HostController β → Except Thrown Json} {c : HostController β}
    (isId : PlainText id) : Once c (countedResult id result c) ↔ ∃ v, result c.succeeded = .ok v ∧ v.Plain := by
  unfold countedResult
  cases done : result c.succeeded with
  | error e =>
    constructor
    · intro once
      have same := once.thrown e rfl
      rw [answered_succeeded] at same
      omega
    · rintro ⟨v, ⟨⟩, -⟩
  | ok v =>
    show Once c (.ok ⟨successResponse id v, false⟩, _) ↔ _
    rw [once_ok, plain_successResponse]
    simp [isId]

/-- A backend call is counted once exactly if its result can be written. -/
theorem once_backendResult {id : Text} {call : Operation β} {c : HostController β} (isId : PlainText id) :
    Once c (backendResult id call c) ↔ ∀ result, (call c.backend).1 = .ok result → PlainResult result := by
  unfold backendResult
  split
  · next e backend thrown =>
    rw [thrown]
    refine iff_of_true ⟨fun _ _ => rfl, fun d done => (nomatch done)⟩ ?_
    intro result done
    cases done
  · next error backend done =>
    rw [done]
    show Once c (.ok ⟨errorResponse ⟨some id, error⟩, false⟩, _) ↔ _
    rw [once_ok]
    constructor
    · rintro plain _ ⟨⟩
      exact (plain_errorResponse.mp plain).2
    · intro plain
      exact plain_errorResponse.mpr ⟨fun t same => Option.some.inj same ▸ isId, plain _ rfl⟩
  · next result backend done =>
    rw [done]
    rw [once_ok, plain_successResponse]
    constructor
    · rintro plain _ ⟨⟩
      exact plain.2
    · intro plain
      exact ⟨isId, plain _ rfl⟩

/-- `hello` can be written exactly if the backend says what it is asked. -/
theorem helloResult_plain {host : Host β} {c : HostController β} :
    (∃ v, helloResult host c = .ok v ∧ v.Plain) ↔ SaysHello host.backend c.backend := by
  constructor
  · rintro ⟨v, done, plain⟩
    obtain ⟨commands, isCommands, done⟩ := ok_bind_iff.mp done
    obtain ⟨name, isName, done⟩ := ok_bind_iff.mp done
    obtain ⟨version, isVersion, done⟩ := ok_bind_iff.mp done
    obtain ⟨capabilities, isCapabilities, last⟩ := ok_bind_iff.mp done
    obtain rfl := ok_pure_iff.mp last
    simp only [Json.plain_object, List.forall_mem_cons, Json.plain_str, Json.plain_arr, List.forall_mem_map] at plain
    obtain ⟨-, plainName, plainVersion, -, -, -, -, plainCommands, plainCapabilities, -⟩ := plain
    exact ⟨⟨commands, isCommands, plainCommands⟩, ⟨name, isName, plainName⟩, ⟨version, isVersion, plainVersion⟩,
      ⟨capabilities, isCapabilities, plainCapabilities⟩⟩
  · rintro ⟨⟨commands, isCommands, plainCommands⟩, ⟨name, isName, plainName⟩, ⟨version, isVersion, plainVersion⟩,
      ⟨capabilities, isCapabilities, plainCapabilities⟩⟩
    unfold helloResult
    rw [isCommands, isName, isVersion, isCapabilities]
    refine ⟨_, rfl, ?_⟩
    simpa [plainName, plainVersion, plainCapabilities] using plainCommands

/-- The sections of the status can be written if the channel state can. -/
theorem plain_members {status : BackendStatus} (plain : PlainText status.channelState) :
    (channelMember status).Plain ∧ (safetyMember status).Plain ∧ (unsolicitedMember status).Plain := by
  simp [channelMember, safetyMember, unsolicitedMember, plain]

/-- `get_status` can be written exactly if the backend says what it is asked. -/
theorem statusResult_plain {host : Host β} {c : HostController β} :
    (∃ v, statusResult host c = .ok v ∧ v.Plain) ↔ SaysStatus host.backend c.backend := by
  constructor
  · rintro ⟨v, done, plain⟩
    obtain ⟨status, isStatus, done⟩ := ok_bind_iff.mp done
    obtain ⟨name, isName, last⟩ := ok_bind_iff.mp done
    obtain rfl := ok_pure_iff.mp last
    simp only [Json.plain_object, List.forall_mem_cons, Json.plain_str, channelMember] at plain
    obtain ⟨-, plainName, -, ⟨plainChannel, -⟩, -, -, plainCapture, plainTrace, -⟩ := plain
    exact ⟨⟨status, isStatus, plainChannel, plainCapture, plainTrace⟩, ⟨name, isName, plainName⟩⟩
  · rintro ⟨⟨status, isStatus, plainChannel, plainCapture, plainTrace⟩, ⟨name, isName, plainName⟩⟩
    obtain ⟨channel, safety, unsolicited⟩ := plain_members plainChannel
    unfold statusResult
    rw [isStatus, isName]
    refine ⟨_, rfl, ?_⟩
    simp [plainName, plainCapture, plainTrace, channel, safety, unsolicited, metricsMember]

/-- `stats` is written wherever a status is. -/
theorem statsResult_plain {host : Host β} {c : HostController β} :
    (∀ v, statusResult host c = .ok v → (statsResult v).Plain) ↔ ∀ status name,
      host.backend.status c.backend = .ok status → host.backend.name c.backend = .ok name → BackendStatus.Plain status := by
  constructor
  · intro plain status name isStatus isName
    unfold statusResult at plain
    rw [isStatus, isName] at plain
    have all := plain _ rfl
    simp only [statsResult, at_, Json.get?_object_cons, String.reduceEq, if_false, if_true, Option.getD_some,
      Json.plain_object, List.forall_mem_cons, Json.plain_str, channelMember] at all
    exact ⟨all.2.2.1.1, all.2.2.2.2.1, all.2.2.2.2.2.1⟩
  · intro plain v done
    obtain ⟨status, isStatus, done⟩ := ok_bind_iff.mp done
    obtain ⟨name, isName, last⟩ := ok_bind_iff.mp done
    obtain rfl := ok_pure_iff.mp last
    obtain ⟨plainChannel, plainCapture, plainTrace⟩ := plain status name isStatus isName
    obtain ⟨channel, safety, -⟩ := plain_members plainChannel
    simp [statsResult, at_, plainCapture, plainTrace, channel, safety, metricsMember]

theorem command_apart {request : Request} {a b : String} (same : request.command = text a) (apart : a ≠ b) :
    request.command ≠ text b := by
  rw [same]
  exact fun other => apart (text_inj.mp other)

/-- `dispatch` answers these itself. -/
theorem backendCall_own {backend : IMasterBackend β} {request : Request}
    (own : request.command = text "hello" ∨ request.command = text "get_status" ∨ request.command = text "stats" ∨
      request.command = text "shutdown") : backendCall backend request = none := by
  rcases own with same | same | same | same
  · simp [backendCall, same]
  · simp [backendCall, same]
  · simp [backendCall, same]
  · simp [backendCall, same]

theorem takesNoParams_iff {command : Text} : takesNoParams command = true ↔ command = text "hello" ∨
    command = text "get_status" ∨ command = text "stats" ∨ command = text "shutdown" ∨ command = text "disconnect" := by
  simp only [takesNoParams, List.map_cons, List.map_nil, List.contains_cons, List.contains_nil, Bool.or_eq_true,
    beq_iff_eq, Bool.false_eq_true, or_false]

/-- Every known command but `stats` is handed on. -/
theorem backendCall_known {backend : IMasterBackend β} {request : Request}
    (known : isKnownBackendCommand request.command = true) (notStats : request.command ≠ text "stats") :
    backendCall backend request ≠ none := by
  simp only [isKnownBackendCommand, List.map_cons, List.map_nil, List.contains_cons, List.contains_nil, Bool.or_eq_true,
    beq_iff_eq, Bool.false_eq_true, or_false] at known
  rcases known with same | same | same | same | same | same | same | same | same | same | same | same | same | same |
    same | same | same | same
  all_goals first
    | exact absurd same notStats
    | simp [backendCall, same]

/-! ## What the backend owes a request -/

section
variable {host : Host β} {request : Request} {b : β}

/-- A command that takes no parameters is refused with them, and no question comes up. -/
theorem answers_unexpected (notEmpty : request.params ≠ .obj []) (takesNone : takesNoParams request.command = true) :
    Answers host request b := by
  refine ⟨fun _ empty => absurd empty notEmpty, fun _ empty => absurd empty notEmpty,
    fun _ empty => absurd empty notEmpty, ?_⟩
  intro call found empty
  have own : request.command ≠ text "disconnect" → backendCall host.backend request = none := by
    intro other
    rcases takesNoParams_iff.mp takesNone with same | same | same | same | same
    · exact backendCall_own (.inl same)
    · exact backendCall_own (.inr (.inl same))
    · exact backendCall_own (.inr (.inr (.inl same)))
    · exact backendCall_own (.inr (.inr (.inr same)))
    · exact absurd same other
  by_cases same : request.command = text "disconnect"
  · exact absurd (empty same) notEmpty
  · rw [own same] at found
    cases found

/-- What each of the queries needs of the backend. -/
theorem answers_hello (same : request.command = text "hello") (empty : request.params = .obj []) :
    Answers host request b ↔ SaysHello host.backend b := by
  constructor
  · intro answers
    exact answers.hello same empty
  · intro holds
    refine ⟨fun _ _ => holds, fun other => absurd other (command_apart same (by simp)),
      fun other => absurd other (command_apart same (by simp)), ?_⟩
    intro call found
    rw [backendCall_own (.inl same)] at found
    cases found

theorem answers_getStatus (same : request.command = text "get_status") (empty : request.params = .obj []) :
    Answers host request b ↔ SaysStatus host.backend b := by
  constructor
  · intro answers
    exact answers.status same empty
  · intro holds
    refine ⟨fun other => absurd other (command_apart same (by simp)), fun _ _ => holds,
      fun other => absurd other (command_apart same (by simp)), ?_⟩
    intro call found
    rw [backendCall_own (.inr (.inl same))] at found
    cases found

theorem answers_stats (same : request.command = text "stats") (empty : request.params = .obj []) :
    Answers host request b ↔ ∀ status name, host.backend.status b = .ok status → host.backend.name b = .ok name →
      BackendStatus.Plain status := by
  constructor
  · intro answers
    exact answers.stats same empty
  · intro holds
    refine ⟨fun other => absurd other (command_apart same (by simp)),
      fun other => absurd other (command_apart same (by simp)), fun _ _ => holds, ?_⟩
    intro call found
    rw [backendCall_own (.inr (.inr (.inl same)))] at found
    cases found

/-- The answer to `shutdown` is the host's own. -/
theorem answers_shutdown (same : request.command = text "shutdown") : Answers host request b := by
  refine ⟨fun other => absurd other (command_apart same (by simp)),
    fun other => absurd other (command_apart same (by simp)),
    fun other => absurd other (command_apart same (by simp)), ?_⟩
  intro call found
  rw [backendCall_own (.inr (.inr (.inr same)))] at found
  cases found

/-- A command that is handed on asks for a result that can be sent. -/
theorem answers_handedOn (notHello : request.command ≠ text "hello") (notStatus : request.command ≠ text "get_status")
    (notStats : request.command ≠ text "stats")
    (noParams : request.command = text "disconnect" → request.params = .obj []) :
    Answers host request b ↔ ∀ call, backendCall host.backend request = some (.ok call) → ∀ result,
      (call b).1 = .ok result → PlainResult result := by
  constructor
  · intro answers call found
    exact answers.call call found noParams
  · intro holds
    exact ⟨fun other => absurd other notHello, fun other => absurd other notStatus,
      fun other => absurd other notStats, fun call found _ => holds call found⟩

end

section
variable {host : Host β} {request : Request} {c : HostController β}

/-- `stats` counts behind its question. -/
theorem once_stats (isId : PlainText request.id) :
    Once c (match statusResult host c with
      | .error e => (.error e, c)
      | .ok status => (.ok ⟨successResponse request.id (statsResult status), false⟩, c.succeeded)) ↔
      ∀ v, statusResult host c = .ok v → (statsResult v).Plain := by
  cases statusResult host c with
  | error e =>
    refine iff_of_true ⟨fun _ _ => rfl, by rintro d ⟨⟩⟩ ?_
    intro v done
    cases done
  | ok status =>
    dsimp only
    rw [once_ok, plain_successResponse]
    simp [isId]

/-- A command that is handed on, or that nobody knows. -/
theorem once_handedOn (plain : request.Plain) (notStats : request.command ≠ text "stats") :
    Once c (match backendCall host.backend request with
      | some (.error error) => reject request.id error c
      | some (.ok call) => backendResult request.id call c
      | none =>
        if isKnownBackendCommand request.command then
          ((host.backend.name c.backend).map fun name => ⟨errorResponse ⟨some request.id,
            { code := .unsupportedByBackend, message := "command is not implemented by the active DNP3 backend",
              details := .object [("backend", .str name), ("cmd", .str request.command)] }⟩, false⟩, c.failed)
        else reject request.id (unknownCommand request.command) c) ↔
      ∀ call, backendCall host.backend request = some (.ok call) → ∀ result,
        (call c.backend).1 = .ok result → PlainResult result := by
  obtain ⟨isId, isCommand, isParams⟩ := plain
  cases found : backendCall host.backend request with
  | none =>
    have unknown : isKnownBackendCommand request.command = false := by
      by_contra known
      exact backendCall_known (Bool.eq_true_of_not_eq_false known) notStats found
    simp only [unknown, Bool.false_eq_true, if_false]
    refine iff_of_true (once_reject isId (by simp [unknownCommand, requestError, BackendError.Plain, isCommand])) ?_
    intro call other
    cases other
  | some parsed =>
    cases parsed with
    | error error =>
      refine iff_of_true (once_reject isId (sendsErrors_backendCall isParams error found)) ?_
      intro call other
      cases other
    | ok call =>
      show Once c (backendResult request.id call c) ↔ _
      rw [once_backendResult isId]
      constructor
      · rintro holds _ ⟨⟩
        exact holds
      · intro holds
        exact holds call rfl

/-- A handled request is counted once exactly where the backend answers it. -/
theorem once_execute (plain : request.Plain) : Once c (execute host request c) ↔ Answers host request c.backend := by
  have isId := plain.id
  have isCommand := plain.command
  unfold execute
  split
  · next unexpected =>
    have refused : (unexpectedParams request.command).Plain := by
      simp [unexpectedParams, requestError, BackendError.Plain, isCommand]
    exact iff_of_true (once_reject isId refused) (answers_unexpected unexpected.1 unexpected.2)
  next expected =>
  have noParams : takesNoParams request.command = true → request.params = .obj [] := by
    intro takesNone
    by_contra notEmpty
    exact expected ⟨notEmpty, takesNone⟩
  split
  · next same =>
    have empty := noParams (takesNoParams_iff.mpr (.inl same))
    rw [once_countedResult isId, answers_hello same empty]
    exact helloResult_plain
  next notHello =>
  split
  · next same =>
    have empty := noParams (takesNoParams_iff.mpr (.inr (.inl same)))
    rw [once_countedResult isId, answers_getStatus same empty]
    exact statusResult_plain
  next notStatus =>
  split
  · next same =>
    have empty := noParams (takesNoParams_iff.mpr (.inr (.inr (.inl same))))
    refine (once_stats isId).trans ?_
    rw [answers_stats same empty]
    exact statsResult_plain
  next notStats =>
  split
  · next same =>
    exact iff_of_true (once_ok.mpr (plain_successResponse.mpr ⟨isId, by simp⟩)) (answers_shutdown same)
  next notShutdown =>
  refine (once_handedOn plain notStats).trans (answers_handedOn notHello notStatus notStats ?_).symm
  intro same
  exact noParams (takesNoParams_iff.mpr (.inr (.inr (.inr (.inr same)))))

end

/-- What `dispatch` does in the loop, which never sees a request after the shutdown. -/
theorem dispatch_known {host : Host β} {request : Request} {history : List Text} {c : HostController β}
    (tracks : Tracks history c) (ready : c.state = .ready) (known : request.id ∈ history.rtake kRecentRequestIdCapacity) :
    dispatch host request c = reject request.id duplicateError c := by
  unfold dispatch
  rw [if_neg (by rw [ready]; decide), remember_known tracks known]

/-- A new id is remembered and its request executed. -/
theorem dispatch_new {host : Host β} {request : Request} {history : List Text} {c : HostController β}
    (tracks : Tracks history c) (ready : c.state = .ready) (new : request.id ∉ history.rtake kRecentRequestIdCapacity) :
    ∃ ids set, dispatch host request c = execute host request { c with recentRequestIds := ids, recentRequestIdSet := set } ∧
      Tracks (history ++ [request.id]) { c with recentRequestIds := ids, recentRequestIdSet := set } := by
  obtain ⟨ids, set, remembered, after⟩ := remember_new tracks new
  refine ⟨ids, set, ?_, after⟩
  unfold dispatch
  rw [if_neg (by rw [ready]; decide), remembered]

end HostController

open HostController

namespace HostProcess

variable {β : Type}

/-- One response line was written, and no exception left `main`. -/
structure Responded (p q : HostProcess β) : Prop where
  line : ∃ bytes, q.output = p.output ++ [bytes ++ [lineFeed]] ∧ lineFeed ∉ bytes
  status : q.status ≠ .terminated

/-- A turn that writes a response has responded. -/
theorem responded_write {bytes : List Byte} {response : Json} {written : Bool} {next : ProcessStatus} {p q : HostProcess β}
    (serialized : JsonLineProtocol.serialize response = some bytes) (goesOn : next ≠ .terminated) (same : q.output = p.output) :
    Responded p (q.write bytes written next) := by
  constructor
  · refine ⟨bytes, by rw [← same]; rfl, ?_⟩
    intro member
    exact absurd (Json.encode_printable (Json.printable_dump response) serialized lineFeed member) (by decide)
  · show (if written then next else .exited 5) ≠ .terminated
    split
    · exact goesOn
    · exact fun same => ProcessStatus.noConfusion same

/-- A response that can be written is. -/
theorem respond_plain {error : ProtocolError} (plain : error.Plain) (written : Bool) (p : HostProcess β) :
    ∃ bytes, JsonLineProtocol.serialize (errorResponse error) = some bytes ∧ p.respond error written = p.write bytes written .running := by
  obtain ⟨bytes, done⟩ := Option.isSome_iff_exists.mp (serialize_isSome.mpr plain)
  refine ⟨bytes, done, ?_⟩
  unfold respond
  rw [done]

/-- A turn that refuses the line has responded. -/
theorem responded_respond {error : ProtocolError} (plain : error.Plain) {written : Bool} {p q : HostProcess β}
    (same : q.output = p.output) : Responded p (q.respond error written) ∧ (q.respond error written).controller = q.controller := by
  obtain ⟨bytes, done, next⟩ := respond_plain plain written q
  rw [next]
  refine ⟨responded_write done ?_ same, rfl⟩
  exact fun same => ProcessStatus.noConfusion same

theorem plain_internalError {id : Text} (isId : PlainText id) : ProtocolError.Plain
    ⟨some id, .internalError, "an internal error occurred while processing the request", .object []⟩ :=
  plain_errorResponse.mpr ⟨fun t same => Option.some.inj same ▸ isId, by simp⟩

/-- The request that a turn brings, if it brings one. -/
def requestOf (host : Host β) (t : Turn) : Option Request :=
  match t.input.status, parseRequest host.json.parse t.input.line with
  | .line, .ok request => some request
  | _, _ => none

/-- A request that a turn brings is plain. -/
theorem requestOf_plain {host : Host β} {t : Turn} {request : Request} (brings : requestOf host t = some request) :
    request.Plain ∧ t.input.status = .line ∧ parseRequest host.json.parse t.input.line = .ok request := by
  unfold requestOf at brings
  split at brings
  · next isLine parsed =>
    obtain rfl := Option.some.inj brings
    exact ⟨parseRequest_ok host.json.utf8 parsed, isLine, parsed⟩
  · cases brings

/-- The parts of a controller that `remember_request_id` does not touch. -/
structure SameOutside (c d : HostController β) : Prop where
  state : d.state = c.state
  received : d.requestsReceived = c.requestsReceived
  answered : d.answered = c.answered

/-- What is known of a request once it was handled: the window is that of `c`. -/
structure Handled (p q : HostProcess β) (c : HostController β) (r : Except Thrown DispatchResult × HostController β) :
    Prop where
  responded : Responded p q
  ids : q.controller.recentRequestIds = c.recentRequestIds
  set : q.controller.recentRequestIdSet = c.recentRequestIdSet
  received : q.controller.requestsReceived = p.controller.requestsReceived
  state : q.status = .running → q.controller.state = p.controller.state
  once : q.controller.answered = p.controller.answered + 1 ↔ Once c r

/-- Where dispatching threw, the turn answers with an internal error. -/
theorem handled_internalError {id : Text} (isId : PlainText id) {written : Bool} {p : HostProcess β}
    {c : HostController β} {r : Except Thrown DispatchResult × HostController β} (frame : Frame c r)
    (same : SameOutside p.controller c) (state : r.2.state = c.state)
    (once : r.2.answered = c.answered ↔ Once c r) :
    Handled p ({ p with controller := r.2 }.internalError id written) c r := by
  have left : Responded p (respond _ written { p with controller := r.2.failed }) ∧ _ :=
    responded_respond (plain_internalError isId) rfl
  unfold internalError
  dsimp only
  generalize { p with controller := r.2.failed }.respond _ written = q at left ⊢
  obtain ⟨responded, controller⟩ := left
  dsimp only at controller
  refine ⟨responded, ?_, ?_, ?_, ?_, ?_⟩
  · rw [controller]
    exact frame.ids
  · rw [controller]
    exact frame.set
  · rw [controller]
    exact frame.received.trans same.received
  · intro _
    rw [controller]
    exact state.trans same.state
  · rw [controller, answered_failed, ← once, same.answered]
    omega

/-- The `try` block after a `dispatch` that counted at most once. -/
theorem handled_handle {host : Host β} {request : Request} (isId : PlainText request.id) {written : Bool} {p : HostProcess β}
    {c : HostController β} (frame : Frame c (p.controller.dispatch host request)) (same : SameOutside p.controller c) :
    Handled p (p.handle host request written) c (p.controller.dispatch host request) := by
  unfold handle
  generalize p.controller.dispatch host request = r at frame
  obtain ⟨outcome, d⟩ := r
  cases outcome with
  | error e =>
    apply handled_internalError isId frame same
    · exact frame.state (by rintro _ ⟨⟩)
    · constructor
      · intro counted
        exact ⟨fun _ _ => counted, by rintro _ ⟨⟩⟩
      · intro once
        exact once.thrown e rfl
  | ok dispatched =>
    have counted := frame.counted dispatched rfl
    dsimp only
    cases written_ : JsonLineProtocol.serialize dispatched.response with
    | some bytes =>
      have plain : dispatched.response.Plain := serialize_isSome.mp (by rw [written_]; rfl)
      refine ⟨responded_write written_ ?_ rfl, frame.ids, frame.set, frame.received.trans same.received, ?_, ?_⟩
      · split
        · exact fun same => ProcessStatus.noConfusion same
        · exact fun same => ProcessStatus.noConfusion same
      · intro running
        refine (frame.state ?_).trans same.state
        rintro _ ⟨⟩
        cases stop : dispatched.shouldStop with
        | false => rfl
        | true =>
          have status : (if written then (if dispatched.shouldStop then ProcessStatus.exited 0 else .running)
              else .exited 5) = .running := running
          rw [stop] at status
          cases written with
          | false => cases status
          | true => cases status
      · refine iff_of_true (counted.trans (by rw [same.answered])) ⟨by rintro e ⟨⟩, ?_⟩
        rintro _ ⟨⟩
        exact plain
    | none =>
      have notPlain : ¬ dispatched.response.Plain := by
        intro plain
        have done := serialize_isSome.mpr plain
        rw [written_] at done
        cases done
      apply handled_internalError isId frame same
      · apply frame.state
        rintro _ ⟨⟩
        by_contra stop
        exact notPlain (frame.stop dispatched rfl (Bool.eq_true_of_not_eq_false stop))
      · constructor
        · intro unchanged
          have twice : d.answered = c.answered + 1 := counted
          exact absurd unchanged (by show d.answered ≠ c.answered; omega)
        · intro once
          exact absurd (once.plain dispatched rfl) notPlain

/-! ## The loop -/

/-- A request was refused as a duplicate: that is the response, and its id was not accepted. -/
structure RejectsDuplicate (p q : HostProcess β) (request : Request) : Prop where
  ids : q.controller.recentRequestIds = p.controller.recentRequestIds
  response : ∃ bytes, JsonLineProtocol.serialize (errorResponse ⟨some request.id, duplicateError⟩) = some bytes ∧
    q.output = p.output ++ [bytes ++ [lineFeed]]

/-- A turn in which the host does not throw once it has counted. -/
def Settles (host : Host β) (p : HostProcess β) (t : Turn) : Prop :=
  ∀ request, requestOf host t = some request → request.id ∉ p.controller.recentRequestIds →
    Answers host request p.controller.backend

/-- The accepted ids among the requests of a run. -/
def acceptedIds (host : Host β) (turns : List Turn) : List Text :=
  Recent.accepted kRecentRequestIdCapacity (turns.filterMap fun t => (requestOf host t).map Request.id)

/-- What holds of the process between two turns. -/
structure Holds (history : List Text) (p : HostProcess β) : Prop where
  tracks : Tracks history p.controller
  ready : p.status = .running → p.controller.state = .ready

/-- One line, one response, counted once exactly if the turn settles. -/
structure Counts (host : Host β) (p q : HostProcess β) (t : Turn) : Prop where
  responded : Responded p q
  received : q.controller.requestsReceived = p.controller.requestsReceived + 1
  once : q.controller.answered = p.controller.answered + 1 ↔ Settles host p t

variable {host : Host β} {history : List Text} {p : HostProcess β} {t : Turn}

/-- A turn whose line is no request: it fails, and the window stays. -/
theorem respond_spec (holds : Holds history p) (running : p.status = .running) (noRequest : requestOf host t = none)
    {error : ProtocolError} (plain : error.Plain) (written : Bool) :
    Holds history ({ p with controller := p.controller.recordRequestReceived.failed }.respond error written) ∧
      Counts host p ({ p with controller := p.controller.recordRequestReceived.failed }.respond error written) t := by
  obtain ⟨responded, controller⟩ := responded_respond plain
    (show HostProcess.output { p with controller := p.controller.recordRequestReceived.failed } = p.output from rfl)
  refine ⟨⟨?_, ?_⟩, responded, ?_, ?_⟩
  · rw [controller]
    exact holds.tracks.of_same rfl rfl
  · intro _
    rw [controller]
    exact holds.ready running
  · rw [controller]
    rfl
  · rw [controller]
    refine iff_of_true rfl ?_
    intro request brings
    rw [noRequest] at brings
    cases brings

theorem once_duplicate {request : Request} (isId : PlainText request.id) (c : HostController β) :
    Once c (reject request.id duplicateError c) :=
  once_reject isId (by simp [duplicateError, requestError, BackendError.Plain])

/-- A duplicate is refused, the window stays. -/
theorem handle_known (holds : Holds history p) (running : p.status = .running) {request : Request}
    (isId : PlainText request.id) (known : request.id ∈ history.rtake kRecentRequestIdCapacity) (written : Bool) :
    Handled p (p.handle host request written) p.controller (reject request.id duplicateError p.controller) ∧
      RejectsDuplicate p (p.handle host request written) request := by
  have dispatched : p.controller.dispatch host request = _ := dispatch_known holds.tracks (holds.ready running) known
  have frame : Frame p.controller (p.controller.dispatch host request) := by
    rw [dispatched]
    exact frame_reject _ _ _
  have handled : Handled p (p.handle host request written) _ _ := handled_handle isId frame ⟨rfl, rfl, rfl⟩
  rw [dispatched] at handled
  refine ⟨handled, handled.ids, ?_⟩
  have plain := (once_duplicate isId p.controller).plain _ rfl
  obtain ⟨bytes, done⟩ := Option.isSome_iff_exists.mp (serialize_isSome.mpr plain)
  refine ⟨bytes, done, ?_⟩
  unfold handle
  rw [dispatched]
  dsimp only [reject]
  rw [done]
  rfl

/-- A new id is accepted, and the request is executed. -/
theorem handle_new (holds : Holds history p) (running : p.status = .running) {request : Request} (plain : request.Plain)
    (new : request.id ∉ history.rtake kRecentRequestIdCapacity) (written : Bool) :
    ∃ c, Handled p (p.handle host request written) c (p.controller.dispatch host request) ∧
      Tracks (history ++ [request.id]) c ∧
      (Once c (p.controller.dispatch host request) ↔ Answers host request p.controller.backend) := by
  obtain ⟨ids, set, dispatched, tracks⟩ := dispatch_new holds.tracks (holds.ready running) new
  refine ⟨{ p.controller with recentRequestIds := ids, recentRequestIdSet := set }, ?_, tracks, ?_⟩
  · apply handled_handle plain.id
    · rw [dispatched]
      exact frame_execute host plain.id _
    · exact ⟨rfl, rfl, rfl⟩
  · rw [dispatched]
    exact once_execute plain

/-- The history of accepted ids after a turn. -/
def acceptedAfter (host : Host β) (history : List Text) (t : Turn) : List Text :=
  match requestOf host t with
  | some request => Recent.accept kRecentRequestIdCapacity history request.id
  | none => history

/-- What one turn of a running process does. -/
structure TurnSpec (host : Host β) (history : List Text) (p q : HostProcess β) (t : Turn) : Prop where
  holds : Holds (acceptedAfter host history t) q
  duplicate : ∀ request, requestOf host t = some request →
    (RejectsDuplicate p q request ↔ request.id ∈ history.rtake kRecentRequestIdCapacity)
  counts : t.input.status = .line ∨ t.input.status = .tooLarge → Counts host p q t
  ends : t.input.status = .endOfFile ∨ t.input.status = .ioError → q.controller = p.controller

/-- A turn that brings a request. -/
theorem turnSpec_request (holds : Holds history p) (running : p.status = .running) {request : Request}
    (brings : requestOf host t = some request) : TurnSpec host history p
      ({ p with controller := p.controller.recordRequestReceived }.handle host request t.written) t := by
  obtain ⟨plain, isLine, -⟩ := requestOf_plain brings
  have received : Holds history { p with controller := p.controller.recordRequestReceived } :=
    ⟨holds.tracks.of_same rfl rfl, holds.ready⟩
  have noEnd : ¬ (t.input.status = .endOfFile ∨ t.input.status = .ioError) := by
    rw [isLine]
    decide
  have only : ∀ {P : Request → Prop}, (∀ r, requestOf host t = some r → P r) ↔ P request := by
    intro P
    constructor
    · intro all
      exact all request brings
    · intro one r same
      rw [brings] at same
      exact Option.some.inj same ▸ one
  have settles : Settles host p t ↔
      (request.id ∉ p.controller.recentRequestIds → Answers host request p.controller.backend) := only
  by_cases known : request.id ∈ history.rtake kRecentRequestIdCapacity
  · obtain ⟨handled, rejects⟩ := handle_known received running plain.id known t.written
    refine ⟨?_, only.mpr (iff_of_true ⟨rejects.ids, rejects.response⟩ known),
      fun _ => ⟨⟨handled.responded.line, handled.responded.status⟩, handled.received, ?_⟩,
      fun ended => absurd ended noEnd⟩
    · unfold acceptedAfter
      rw [brings]
      dsimp only
      rw [Recent.accept, if_pos known]
      exact ⟨received.tracks.of_same handled.ids handled.set, fun goesOn => (handled.state goesOn).trans (holds.ready running)⟩
    · refine iff_of_true (handled.once.mpr (once_duplicate plain.id _)) ?_
      apply settles.mpr
      intro fresh
      rw [holds.tracks.order] at fresh
      exact absurd known fresh
  · obtain ⟨c, handled, tracks, answers⟩ := handle_new received running plain known t.written
    have fresh : request.id ∉ p.controller.recentRequestIds := by
      rw [holds.tracks.order]
      exact known
    refine ⟨?_, only.mpr (iff_of_false ?_ known),
      fun _ => ⟨⟨handled.responded.line, handled.responded.status⟩, handled.received, ?_⟩,
      fun ended => absurd ended noEnd⟩
    · unfold acceptedAfter
      rw [brings]
      dsimp only
      rw [Recent.accept, if_neg known]
      exact ⟨tracks.of_same handled.ids handled.set, fun goesOn => (handled.state goesOn).trans (holds.ready running)⟩
    · -- an accepted id is in the window, so the window is another one
      intro rejects
      apply fresh
      rw [← rejects.ids, handled.ids, tracks.order, show kRecentRequestIdCapacity = 4095 + 1 from rfl,
        List.rtake_concat_succ]
      exact List.mem_append_right _ (List.mem_singleton_self _)
    · refine handled.once.trans (answers.trans ?_)
      refine Iff.trans ?_ settles.symm
      constructor
      · intro answer _
        exact answer
      · intro answer
        exact answer fresh

/-- One turn, whatever it brings. -/
theorem turn_spec (holds : Holds history p) (running : p.status = .running) :
    TurnSpec host history p (p.turn host t) t := by
  have without : requestOf host t = none → ∀ q, Holds history q →
      (t.input.status = .line ∨ t.input.status = .tooLarge → Counts host p q t) →
      (t.input.status = .endOfFile ∨ t.input.status = .ioError → q.controller = p.controller) →
      TurnSpec host history p q t := by
    intro noRequest q after counts ends
    refine ⟨?_, ?_, counts, ends⟩
    · unfold acceptedAfter
      rw [noRequest]
      exact after
    · intro request brings
      rw [noRequest] at brings
      cases brings
  have noLine : t.input.status ≠ .line → requestOf host t = none := by
    intro other
    cases brings : requestOf host t with
    | none => rfl
    | some request => exact absurd (requestOf_plain brings).2.1 other
  unfold turn
  split
  · next isEnd =>
    refine without (noLine (by rw [isEnd]; decide)) _ ⟨holds.tracks, fun goesOn => (nomatch goesOn)⟩ ?_ fun _ => rfl
    rw [isEnd]
    intro isLine
    rcases isLine with same | same <;> cases same
  · next isError =>
    refine without (noLine (by rw [isError]; decide)) _ ⟨holds.tracks, fun goesOn => (nomatch goesOn)⟩ ?_ fun _ => rfl
    rw [isError]
    intro isLine
    rcases isLine with same | same <;> cases same
  · next isLarge =>
    have noRequest := noLine (by rw [isLarge]; decide)
    have plain : (requestTooLarge p.controller.maxRequestBytes).Plain :=
      plain_errorResponse.mpr ⟨fun t none => (nomatch none), by simp [requestTooLarge]⟩
    obtain ⟨after, counts⟩ := respond_spec holds running noRequest plain t.written
    refine without noRequest _ after (fun _ => counts) ?_
    rw [isLarge]
    intro isEnd
    rcases isEnd with same | same <;> cases same
  · next isLine =>
    cases parsed : parseRequest host.json.parse t.input.line with
    | error error =>
      have noRequest : requestOf host t = none := by
        unfold requestOf
        rw [isLine, parsed]
      obtain ⟨after, counts⟩ := respond_spec holds running noRequest
        (errors_parseRequest host.json.utf8 error parsed) t.written
      refine without noRequest _ after (fun _ => counts) ?_
      rw [isLine]
      intro isEnd
      rcases isEnd with same | same <;> cases same
    | ok request =>
      apply turnSpec_request holds running
      unfold requestOf
      rw [isLine, parsed]

section
variable (host : Host β) (p : HostProcess β)

theorem runs_concat (turns : List Turn) (t : Turn) : runs host p (turns ++ [t]) = step host (runs host p turns) t :=
  List.foldl_concat ..

theorem acceptedIds_concat (turns : List Turn) (t : Turn) :
    acceptedIds host (turns ++ [t]) = acceptedAfter host (acceptedIds host turns) t := by
  unfold acceptedIds acceptedAfter
  rw [List.filterMap_append]
  cases brings : requestOf host t with
  | none => simp [brings]
  | some request =>
    rw [List.filterMap_cons_some (by rw [brings]; rfl), List.filterMap_nil]
    exact Recent.accepted_concat _ request.id

end

section
variable (host : Host β) (maxRequestBytes : Nat) (backend : β)

theorem holds_start : Holds [] (start maxRequestBytes backend) :=
  ⟨⟨rfl, by simp [start], List.nodup_nil⟩, fun _ => rfl⟩

/-- The window of a process that still runs: every turn was taken. -/
theorem holds_runs {turns : List Turn} (running : (runs host (start maxRequestBytes backend) turns).status = .running) :
    Holds (acceptedIds host turns) (runs host (start maxRequestBytes backend) turns) := by
  induction turns using List.reverseRecOn with
  | nil => exact holds_start maxRequestBytes backend
  | append_singleton front t ih =>
    rw [runs_concat] at running ⊢
    by_cases before : (runs host (start maxRequestBytes backend) front).status = .running
    · rw [step, if_pos before, acceptedIds_concat]
      exact (turn_spec (ih before) before).holds
    · rw [step, if_neg before] at running
      exact absurd running before

/-- In a run whose turns all settle, every request has been counted once. -/
theorem counted_runs {turns : List Turn} (settles : ∀ front t rest, turns = front ++ t :: rest →
      Settles host (runs host (start maxRequestBytes backend) front) t) :
    (runs host (start maxRequestBytes backend) turns).controller.requestsReceived =
      (runs host (start maxRequestBytes backend) turns).controller.answered := by
  induction turns using List.reverseRecOn with
  | nil => rfl
  | append_singleton front t ih =>
    have before := ih fun first u rest same => settles first u (rest ++ [t]) (by rw [same]; simp)
    rw [runs_concat]
    by_cases running : (runs host (start maxRequestBytes backend) front).status = .running
    · rw [step, if_pos running]
      have spec : TurnSpec host _ _ _ t := turn_spec (holds_runs host maxRequestBytes backend running) running
      cases status : t.input.status with
      | line =>
        obtain ⟨-, received, once⟩ := spec.counts (.inl status)
        rw [received, once.mpr (settles front t [] rfl), before]
      | tooLarge =>
        obtain ⟨-, received, once⟩ := spec.counts (.inr status)
        rw [received, once.mpr (settles front t [] rfl), before]
      | endOfFile =>
        rw [spec.ends (.inl status)]
        exact before
      | ioError =>
        rw [spec.ends (.inr status)]
        exact before
    · rw [step, if_neg running]
      exact before

end

/-- The request window over the run `turns`, which is still going on, and one more turn `t`. -/
structure WindowSpec (host : Host β) (maxRequestBytes : Nat) (backend : β) (turns : List Turn) (t : Turn)
    (before after : HostProcess β) : Prop where
  duplicate : ∀ request, requestOf host t = some request →
    (RejectsDuplicate before after request ↔ request.id ∈ (acceptedIds host turns).rtake kRecentRequestIdCapacity)
  order : after.controller.recentRequestIds = (acceptedIds host (turns ++ [t])).rtake kRecentRequestIdCapacity
  lookup : ∀ id, id ∈ after.controller.recentRequestIdSet ↔ id ∈ after.controller.recentRequestIds
  nodup : after.controller.recentRequestIds.Nodup
  bounded : after.controller.recentRequestIds.length ≤ kRecentRequestIdCapacity
  responded : t.input.status = .line ∨ t.input.status = .tooLarge → Responded before after
  counted : (∀ front u rest, turns ++ [t] = front ++ u :: rest →
      Settles host (runs host (start maxRequestBytes backend) front) u) →
    after.controller.requestsReceived = after.controller.requestsSucceeded + after.controller.requestsFailed
  once : t.input.status = .line ∨ t.input.status = .tooLarge →
    before.controller.requestsReceived = before.controller.requestsSucceeded + before.controller.requestsFailed →
    (after.controller.requestsReceived = after.controller.requestsSucceeded + after.controller.requestsFailed ↔
      Settles host before t)

/-- A request is refused exactly when its id is among the last accepted ones, whatever the turns before
it were; each line gets one response, and the counters agree while no turn throws after it counted. -/
theorem request_window (host : Host β) (maxRequestBytes : Nat) (backend : β) (turns : List Turn) (t : Turn)
    (running : (runs host (start maxRequestBytes backend) turns).status = .running) :
    WindowSpec host maxRequestBytes backend turns t (runs host (start maxRequestBytes backend) turns)
      (runs host (start maxRequestBytes backend) (turns ++ [t])) := by
  have holds := holds_runs host maxRequestBytes backend running
  have spec : TurnSpec host _ _ _ t := turn_spec holds running
  have next : runs host (start maxRequestBytes backend) (turns ++ [t]) = turn host t (runs host (start maxRequestBytes backend) turns) := by
    rw [runs_concat, step, if_pos running]
  have after := spec.holds
  rw [← next, ← acceptedIds_concat] at after
  rw [← next] at spec
  refine ⟨spec.duplicate, after.tracks.order, after.tracks.lookup, after.tracks.nodup, after.tracks.bounded,
    fun isLine => (spec.counts isLine).responded, counted_runs host maxRequestBytes backend, ?_⟩
  intro isLine balanced
  obtain ⟨-, received, once⟩ := spec.counts isLine
  rw [received, balanced, ← once]
  exact eq_comm

/-! ## A clean-up error in a local code page -/

/-- The error of `disconnect` when the clean-up throws; its `what()` is two bytes that are not UTF-8. -/
def cleanupError : BackendError :=
  { code := .internalError, message := "the DNP3 channel closed with a cleanup error",
    details := .object [("session_id", .nat 1), ("backend_message", .str [0xDCBE, 0xDCDC]), ("capture", .null)] }

/-- Nothing but `disconnect` is asked. -/
def codePageBackend : IMasterBackend Unit where
  name _ := .ok "opendnp3"
  version _ := .ok "3.1.2"
  supportedCommands _ := .ok []
  capabilities _ := .ok (.object [])
  status _ := .error {}
  connect _ b := (.error {}, b)
  disconnect b := (.ok (.error cleanupError), b)
  integrityPoll _ b := (.error {}, b)
  classPoll _ b := (.error {}, b)
  read _ b := (.error {}, b)
  enableUnsolicited _ b := (.error {}, b)
  disableUnsolicited _ b := (.error {}, b)
  waitUnsolicited _ b := (.error {}, b)
  captureBegin _ b := (.error {}, b)
  captureProgress _ b := (.error {}, b)
  captureEnd _ b := (.error {}, b)
  traceStart _ b := (.error {}, b)
  traceRead _ b := (.error {}, b)
  traceStop _ b := (.error {}, b)
  selectAndOperate _ b := (.error {}, b)
  directOperate _ b := (.error {}, b)
  waitEvent _ b := (.error {}, b)
  shutdown b := b

/-- `{"schema_version":1,"id":"1","cmd":"disconnect","params":{}}` -/
def disconnectDocument : Json :=
  .object [("cmd", .str "disconnect"), ("id", .str "1"), ("params", .object []), ("schema_version", .nat 1)]

def disconnectLine : List Byte := disconnectDocument.dump.map fun c => .ofNat c.val

/-- A backend whose cleanup error is not UTF-8. -/
def codePageHost : Host Unit where
  info := { version := "1.0.0", gitCommit := "unknown", capabilityMatrixSha256 := "" }
  json := {
    parse := fun bytes => if bytes = disconnectLine then some disconnectDocument else none
    utf8 := by
      intro bytes document parsed
      split at parsed
      · obtain rfl := Option.some.inj parsed
        simp [disconnectDocument]
      · cases parsed }
  backend := codePageBackend

def disconnectTurn : Turn := { input := ⟨.line, disconnectLine⟩ }

example : (runs codePageHost (start 1024 ()) [disconnectTurn]).output.length = 1 := by decide +kernel

/-- One request is received and two are counted as failed. -/
theorem request_counted_twice : (runs codePageHost (start 1024 ()) [disconnectTurn]).controller.requestsReceived = 1 ∧
    (runs codePageHost (start 1024 ()) [disconnectTurn]).controller.requestsSucceeded = 0 ∧
    (runs codePageHost (start 1024 ()) [disconnectTurn]).controller.requestsFailed = 2 := by
  decide +kernel

/-! ## A run with a repeated id -/

/-- `{"schema_version":1,"id":"2","cmd":"hello","params":{}}` -/
def helloDocument : Json :=
  .object [("cmd", .str "hello"), ("id", .str "2"), ("params", .object []), ("schema_version", .nat 1)]

def helloLine : List Byte := helloDocument.dump.map fun c => .ofNat c.val

/-- The two documents are all that can be parsed. -/
def parseExamples (bytes : List Byte) : Option Json :=
  if bytes = disconnectLine then some disconnectDocument
  else if bytes = helloLine then some helloDocument
  else none

/-- The two documents are plain. -/
theorem parseExamples_utf8 (bytes : List Byte) (document : Json) (parsed : parseExamples bytes = some document) :
    document.Plain := by
  unfold parseExamples at parsed
  split at parsed
  · obtain rfl := Option.some.inj parsed
    simp [disconnectDocument]
  split at parsed
  · obtain rfl := Option.some.inj parsed
    simp [helloDocument]
  · cases parsed

/-- The session closes without an error. -/
def closingHost : Host Unit where
  info := codePageHost.info
  json := ⟨parseExamples, parseExamples_utf8⟩
  backend := { codePageBackend with disconnect := fun b => (.ok (.ok (.object [])), b) }

def helloTurn : Turn := { input := ⟨.line, helloLine⟩ }

/-- Two requests, a line that is too long between them and one that is no JSON. -/
def earlierTurns : List Turn :=
  [helloTurn, { input := ⟨.tooLarge, []⟩ }, disconnectTurn, { input := ⟨.line, [0x7B]⟩ }]

example : (runs closingHost (start 1024 ()) (earlierTurns ++ [helloTurn])).controller.requestsSucceeded = 2 := by
  decide +kernel

/-- The first id comes back after three other turns. -/
theorem request_window_example :
    WindowSpec closingHost 1024 () earlierTurns helloTurn (runs closingHost (start 1024 ()) earlierTurns)
        (runs closingHost (start 1024 ()) (earlierTurns ++ [helloTurn])) ∧
      ∀ request, requestOf closingHost helloTurn = some request →
        RejectsDuplicate (runs closingHost (start 1024 ()) earlierTurns)
          (runs closingHost (start 1024 ()) (earlierTurns ++ [helloTurn])) request := by
  have spec := request_window closingHost 1024 () earlierTurns helloTurn (by decide +kernel)
  refine ⟨spec, ?_⟩
  intro request brings
  apply (spec.duplicate request brings).mpr
  have again : request.id = text "2" := by
    have parsed : (requestOf closingHost helloTurn).map Request.id = some (text "2") := by decide +kernel
    rw [brings] at parsed
    exact Option.some.inj parsed
  rw [again]
  decide +kernel

end HostProcess

end EmsDnp3.Native
