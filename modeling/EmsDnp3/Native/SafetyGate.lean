import EmsDnp3.Native.Backend

/-!
# The gate before a command

What the gate is for, as one machine over the same actions: at most one session is live, the one
of the last `connect` that succeeded and was not ended since. The backend keeps the parts of this
state in different objects; in every run they agree with the machine.
-/

namespace EmsDnp3.Native

/-- A session: the configuration that it was asked for with, and its token if it has one. -/
structure GateSession where
  id : Nat
  config : ConnectionConfig
  token : Option Text := none

/-- What the safety gate has to allow, independent of the backend's own fields. -/
structure Gate where
  sessions : Nat := 0
  down : Bool := false
  connecting : Option GateSession := none
  live : Option GateSession := none
  -- the tokens generated, with the session of each
  tokens : List (Nat × Text) := []
  -- the last recorded state of each session's channel
  channel : Nat → ChannelState := fun _ => .closed

namespace Gate

def setChannel (session : Nat) (state : ChannelState) (g : Gate) : Gate :=
  { g with channel := fun s => if s = session then state else g.channel s }

/-- `connect` is given up. -/
def locked (g : Gate) : Gate := { g with connecting := none, live := none }

/-- What an action means for the gate. -/
def step (g : Gate) : BackendAction → Gate
  | .connect config =>
    if g.down ∨ g.live.isSome then g
    else { g with sessions := g.sessions + 1, connecting := some { id := g.sessions + 1, config } }
  | .beginSession =>
    match g.connecting with
    | some s => g.setChannel s.id .closed
    | none => g
  | .create random =>
    match g.connecting with
    | some s =>
      if s.config.authorized then
        { g with
          connecting := some { s with token := some (safetyToken random) }
          tokens := g.tokens ++ [(s.id, safetyToken random)] }
      else g
    | none => g
  | .createFailed _ | .enableFailed _ | .disconnect _ _ => g.locked
  | .install | .enable | .operate _ _ _ => g
  | .waitUntilOpen =>
    match g.connecting with
    | some s => if g.channel s.id = .open_ then { g with connecting := none, live := some s } else g.locked
    | none => g
  | .shutdown => { g.locked with down := true }
  | .channel session _ state => g.setChannel session state

def of (trace : List BackendAction) : Gate := trace.foldl step {}

end Gate

/-! ## The backend agrees -/

/-- The resources hold the session `s`. -/
structure Installed (b : Backend) (s : GateSession) : Prop where
  active : b.sessionActive = true
  current : b.currentSessionId = s.id
  master : b.master = some s.id
  token : b.safetyToken = s.token.getD []

/-- The resources hold no session. -/
structure Detached (b : Backend) : Prop where
  active : b.sessionActive = false
  master : b.master = none
  token : b.safetyToken = []

theorem Installed.with_events {b : Backend} {s : GateSession} (i : Installed b s) (events : ChannelEventStore) :
    Installed { b with events := events } s :=
  ⟨i.active, i.current, i.master, i.token⟩

theorem Detached.with_events {b : Backend} (d : Detached b) (events : ChannelEventStore) :
    Detached { b with events := events } :=
  ⟨d.active, d.master, d.token⟩

theorem detached_detachResources (b : Backend) : Detached b.detachResources := ⟨rfl, rfl, rfl⟩

/-- A session's token was generated for it, and only if it was authorised. -/
structure GateSession.Genuine (s : GateSession) (tokens : List (Nat × Text)) : Prop where
  authorized : s.token.isSome = true → s.config.authorized = true
  generated : ∀ t, s.token = some t → (s.id, t) ∈ tokens

/-- The parts of a `connect` call in progress: what it has done so far. -/
structure Progress (b : Backend) (c : Connecting) (s : GateSession) : Prop where
  config : c.config = s.config
  session : c.session = s.id
  token : c.token = s.token.getD []
  fresh : c.phase = .entered ∨ c.phase = .begun → s.token = none
  begun : c.phase ≠ .entered → b.events.currentSessionId = s.id
  detached : c.phase = .entered ∨ c.phase = .begun ∨ c.phase = .created → Detached b
  installed : c.phase = .installed ∨ c.phase = .enabled → Installed b s

/-- The backend and the gate machine tell the same. -/
structure Guarded (y : BackendSystem) (g : Gate) : Prop where
  sessions : y.backend.nextSessionId = g.sessions
  down : y.backend.shuttingDown = g.down
  state : y.backend.events.currentState = g.channel y.backend.events.currentSessionId
  ended : g.down = true → g.live = none ∧ y.connecting = none
  idle : y.connecting = none → g.connecting = none
  progress : ∀ c, y.connecting = some c → g.live = none ∧ ∃ s, g.connecting = some s ∧ s.Genuine g.tokens ∧
    Progress y.backend c s
  locked : y.connecting = none → g.live = none → Detached y.backend
  live : ∀ s, g.live = some s → Installed y.backend s ∧ y.backend.events.currentSessionId = s.id ∧ s.Genuine g.tokens

/-- The backend at rest. -/
theorem guarded_init : Guarded {} {} where
  sessions := rfl
  down := rfl
  state := rfl
  ended := nofun
  idle := fun _ => rfl
  progress := nofun
  locked := fun _ _ => ⟨rfl, rfl, rfl⟩
  live := nofun

section Steps

variable {y y' : BackendSystem} {g : Gate} {a : BackendAction}

/-- Only the current session's channel is looked at. -/
theorem ChannelEventStore.record_current (session now : Nat) (state : ChannelState) (s : ChannelEventStore) :
    (s.record session now state).currentSessionId = s.currentSessionId ∧
      (s.record session now state).currentState = if session = s.currentSessionId then state else s.currentState := by
  unfold record
  dsimp only
  by_cases same : session = s.currentSessionId
  · rw [if_pos same, if_pos same]
    split <;> exact ⟨rfl, rfl⟩
  · rw [if_neg same, if_neg same]
    split <;> exact ⟨rfl, rfl⟩

/-- A channel event moves only the channel. -/
theorem Guarded.channel (h : Guarded y g) (session now : Nat) (state : ChannelState) :
    Guarded { y with backend := { y.backend with events := y.backend.events.record session now state } }
      (g.setChannel session state) := by
  obtain ⟨current, last⟩ := ChannelEventStore.record_current session now state y.backend.events
  refine ⟨h.sessions, h.down, ?_, h.ended, h.idle, ?_, ?_, ?_⟩
  · simp only [last, current, Gate.setChannel]
    by_cases same : session = y.backend.events.currentSessionId
    · simp [same]
    · rw [if_neg same, if_neg (Ne.symm same)]
      exact h.state
  · intro c connecting
    obtain ⟨live, s, here, genuine, p⟩ := h.progress c connecting
    exact ⟨live, s, here, genuine, p.config, p.session, p.token, p.fresh, fun later => current.trans (p.begun later),
      fun early => (p.detached early).with_events _, fun late => (p.installed late).with_events _⟩
  · exact fun idle none => (h.locked idle none).with_events _
  · intro s live
    obtain ⟨i, session, genuine⟩ := h.live s live
    exact ⟨i.with_events _, current.trans session, genuine⟩

/-- An answer changes nothing. -/
theorem Guarded.answer (h : Guarded y g) (result : BackendOperationResult) : Guarded (y.answer result) g :=
  ⟨h.sessions, h.down, h.state, h.ended, h.idle, h.progress, h.locked, h.live⟩

/-- `connect` either refuses or opens a session. -/
theorem Guarded.connect (h : Guarded y g) (idle : y.connecting = none) (config : ConnectionConfig) :
    Guarded (y.connect config) (g.step (.connect config)) := by
  have active : y.backend.sessionActive = g.live.isSome := by
    cases live : g.live with
    | none => exact (h.locked idle live).active
    | some s => exact (h.live s live).1.active
  unfold BackendSystem.connect Gate.step
  dsimp only
  rw [h.down, active]
  by_cases down : g.down = true
  · rw [if_pos down, if_pos (.inl down)]
    exact h.answer _
  · rw [if_neg down]
    by_cases busy : g.live.isSome = true
    · rw [if_pos busy, if_pos (.inr busy)]
      exact h.answer _
    · rw [if_neg busy, if_neg (by tauto)]
      have none : g.live = none := by simpa using busy
      have d := h.locked idle none
      refine ⟨by simp [h.sessions], rfl, h.state, fun gone => absurd gone down, nofun, ?_, nofun, ?_⟩
      · rintro c ⟨⟩
        exact ⟨none, _, rfl, ⟨nofun, nofun⟩, rfl, by simp [h.sessions], rfl, fun _ => rfl, fun later => absurd rfl later,
          fun _ => ⟨by simp [none], d.master, d.token⟩, fun late => by simp at late⟩
      · intro s live
        simp [none] at live

/-- Giving up: the resources are detached and nothing is live. -/
theorem Guarded.give_up (h : Guarded y g) {b : Backend} (detached : Detached b) (events : b.events = y.backend.events)
    (next : b.nextSessionId = y.backend.nextSessionId) (down : b.shuttingDown = y.backend.shuttingDown)
    (submitted : List Submission) (reply : Option BackendOperationResult) :
    Guarded ⟨b, none, submitted, reply⟩ g.locked :=
  ⟨next.trans h.sessions, down.trans h.down, by simpa [events, Gate.locked] using h.state, fun _ => ⟨rfl, rfl⟩, fun _ => rfl, nofun,
    fun _ _ => detached, nofun⟩

/-- `disconnect` locks the gate. -/
theorem Guarded.disconnect (h : Guarded y g) (idle : y.connecting = none) (capture : Json) (cleanupError : Option String) :
    Guarded (y.disconnect capture cleanupError) g.locked := by
  unfold BackendSystem.disconnect
  cases active : y.backend.sessionActive with
  | false =>
    have detached : Detached y.backend := by
      cases live : g.live with
      | none => exact h.locked idle live
      | some s => simp [(h.live s live).1.active] at active
    have given := h.give_up detached rfl rfl rfl y.submitted
    simp only [Bool.not_false, if_true, BackendSystem.answer, idle]
    exact given _
  | true =>
    simp only [Bool.not_true, Bool.false_eq_true, if_false, idle]
    exact h.give_up (detached_detachResources _) rfl rfl rfl _ _

/-- `shutdown` locks the gate for good. -/
theorem Guarded.shutdown (h : Guarded y g) (idle : y.connecting = none) :
    Guarded y.shutdown { g.locked with down := true } := by
  unfold BackendSystem.shutdown
  by_cases down : y.backend.shuttingDown = true
  · rw [if_pos down]
    have none := (h.ended (h.down.symm.trans down)).1
    exact ⟨h.sessions, down, h.state, fun _ => ⟨rfl, idle⟩, fun _ => rfl, fun c connecting => by simp [idle] at connecting,
      fun _ _ => h.locked idle none, nofun⟩
  · rw [if_neg down]
    exact ⟨h.sessions, rfl, h.state, fun _ => ⟨rfl, idle⟩, fun _ => rfl, fun c connecting => by simp [idle] at connecting,
      fun _ _ => ⟨rfl, rfl, rfl⟩, nofun⟩

/-- A command opens nothing. -/
theorem Guarded.operate (h : Guarded y g) (selectBeforeOperate : Bool) (config : CommandConfig) (activeTask : Option Nat) :
    Guarded (y.operate selectBeforeOperate config activeTask) g := by
  unfold BackendSystem.operate
  split
  · exact h.answer _
  · split
    · exact h.answer _
    · split
      · exact h.answer _
      · exact ⟨h.sessions, h.down, h.state, h.ended, h.idle, h.progress, h.locked, h.live⟩

/-- A call in progress has not been shut down. -/
theorem Guarded.up (h : Guarded y g) {c : Connecting} (here : y.connecting = some c) : g.down ≠ true := by
  intro gone
  simp [(h.ended gone).2] at here

/-- The event store is told of the session. -/
theorem Guarded.beginSession (h : Guarded y g) {c : Connecting} (here : y.connecting = some c)
    (run : y.connectStep c .beginSession = some y') : Guarded y' (g.step .beginSession) := by
  obtain ⟨none, s, connecting, genuine, p⟩ := h.progress c here
  have up := h.up here
  obtain ⟨entered, run⟩ := Option.ite_none_right_eq_some.mp run
  obtain rfl := Option.some.inj run
  simp only [Gate.step, connecting]
  refine ⟨h.sessions, h.down, ?_, fun gone => absurd gone up, nofun, ?_, nofun, ?_⟩
  · simp [Gate.setChannel, ChannelEventStore.beginSession, p.session]
  · rintro _ ⟨⟩
    exact ⟨none, s, connecting, genuine, p.config, p.session, p.token, fun _ => p.fresh (.inl entered),
      fun _ => p.session, fun _ => (p.detached (.inl entered)).with_events _, fun late => by simp at late⟩
  · intro s live
    simp [Gate.setChannel, none] at live

/-- A token is generated for a session that is authorised. -/
theorem Guarded.create (h : Guarded y g) {c : Connecting} (here : y.connecting = some c) (random : Fin 16 → Byte)
    (run : y.connectStep c (.create random) = some y') : Guarded y' (g.step (.create random)) := by
  obtain ⟨none, s, connecting, genuine, p⟩ := h.progress c here
  have up := h.up here
  obtain ⟨begun, run⟩ := Option.ite_none_right_eq_some.mp run
  obtain rfl := Option.some.inj run
  have empty := p.fresh (.inr begun)
  have current := p.begun (by simp [begun])
  have detached := p.detached (.inr (.inl begun))
  simp only [Gate.step, connecting]
  by_cases authorized : s.config.authorized = true
  · simp only [p.config, authorized, if_true]
    refine ⟨h.sessions, h.down, h.state, fun gone => absurd gone up, nofun, ?_, nofun, ?_⟩
    · rintro _ ⟨⟩
      exact ⟨none, _, rfl, ⟨fun _ => authorized, fun t same => by simp [Option.some.inj same]⟩, rfl, p.session, rfl,
        fun early => by simp at early, fun _ => current, fun _ => detached, fun late => by simp at late⟩
    · intro s live
      simp [none] at live
  · simp only [p.config, authorized, Bool.false_eq_true, if_false]
    refine ⟨h.sessions, h.down, h.state, fun gone => absurd gone up, nofun, ?_, nofun, h.live⟩
    rintro _ ⟨⟩
    exact ⟨none, s, connecting, genuine, rfl, p.session, by simp [empty], fun _ => empty, fun _ => current,
      fun _ => detached, fun late => by simp at late⟩

/-- A master that could not be created is given up. -/
theorem Guarded.createFailed (h : Guarded y g) {c : Connecting} (here : y.connecting = some c) (message : Option String)
    (run : y.connectStep c (.createFailed message) = some y') : Guarded y' (g.step (.createFailed message)) := by
  obtain ⟨none, s, connecting, genuine, p⟩ := h.progress c here
  obtain ⟨begun, run⟩ := Option.ite_none_right_eq_some.mp run
  obtain rfl := Option.some.inj run
  exact h.give_up (p.detached (.inr (.inl begun))) rfl rfl rfl _ _

/-- The session is installed, and its token with it. -/
theorem Guarded.install (h : Guarded y g) {c : Connecting} (here : y.connecting = some c)
    (run : y.connectStep c .install = some y') : Guarded y' (g.step .install) := by
  obtain ⟨none, s, connecting, genuine, p⟩ := h.progress c here
  have up := h.up here
  obtain ⟨created, run⟩ := Option.ite_none_right_eq_some.mp run
  obtain rfl := Option.some.inj run
  refine ⟨h.sessions, h.down, h.state, fun gone => absurd gone up, nofun, ?_, nofun, ?_⟩
  · rintro _ ⟨⟩
    exact ⟨none, s, connecting, genuine, p.config, p.session, p.token, fun early => by simp at early,
      fun _ => p.begun (by simp [created]), fun early => by simp at early,
      fun _ => ⟨rfl, p.session, by simp [p.session], p.token⟩⟩
  · intro s live
    simp [Gate.step, none] at live

/-- The master is enabled. -/
theorem Guarded.enable (h : Guarded y g) {c : Connecting} (here : y.connecting = some c)
    (run : y.connectStep c .enable = some y') : Guarded y' (g.step .enable) := by
  obtain ⟨none, s, connecting, genuine, p⟩ := h.progress c here
  have up := h.up here
  obtain ⟨installed, run⟩ := Option.ite_none_right_eq_some.mp run
  obtain rfl := Option.some.inj run
  refine ⟨h.sessions, h.down, h.state, fun gone => absurd gone up, nofun, ?_, nofun, h.live⟩
  rintro _ ⟨⟩
  exact ⟨none, s, connecting, genuine, p.config, p.session, p.token, fun early => by simp at early,
    fun _ => p.begun (by simp [installed]), fun early => by simp at early, fun _ => p.installed (.inl installed)⟩

/-- A master that could not be enabled is given up. -/
theorem Guarded.enableFailed (h : Guarded y g) {c : Connecting} (here : y.connecting = some c) (how : EnableFailure)
    (run : y.connectStep c (.enableFailed how) = some y') : Guarded y' (g.step (.enableFailed how)) := by
  obtain ⟨none, s, connecting, genuine, p⟩ := h.progress c here
  obtain ⟨-, run⟩ := Option.ite_none_right_eq_some.mp run
  obtain rfl := Option.some.inj run
  exact h.give_up (detached_detachResources _) rfl rfl rfl _ _

/-- The session becomes live when its channel is open, and is given up when it is not. -/
theorem Guarded.waitUntilOpen (h : Guarded y g) {c : Connecting} (here : y.connecting = some c)
    (run : y.connectStep c .waitUntilOpen = some y') : Guarded y' (g.step .waitUntilOpen) := by
  obtain ⟨none, s, connecting, genuine, p⟩ := h.progress c here
  have up := h.up here
  obtain ⟨enabled, run⟩ := Option.ite_none_right_eq_some.mp run
  have installed := p.installed (.inr enabled)
  have current := p.begun (by simp [enabled])
  have isOpen : y.backend.events.isOpen c.session = decide (g.channel s.id = .open_) := by
    simp [ChannelEventStore.isOpen, p.session, current, h.state]
  rw [isOpen] at run
  simp only [Gate.step, connecting]
  split at run
  · next opened =>
    obtain rfl := Option.some.inj run
    rw [if_pos (by simpa using opened)]
    refine ⟨h.sessions, h.down, h.state, fun gone => absurd gone up, fun _ => rfl, nofun, nofun, ?_⟩
    rintro _ ⟨⟩
    exact ⟨installed, current, genuine⟩
  · next shut =>
    obtain rfl := Option.some.inj run
    rw [if_neg (by simpa using shut)]
    exact h.give_up (detached_detachResources _) rfl rfl rfl _ _

/-- The sections of `connect`: only the last one opens the gate. -/
theorem Guarded.connectStep (h : Guarded y g) {c : Connecting} (here : y.connecting = some c)
    (run : y.connectStep c a = some y') : Guarded y' (g.step a) := by
  cases a with
  | beginSession => exact h.beginSession here run
  | create random => exact h.create here random run
  | createFailed message => exact h.createFailed here message run
  | install => exact h.install here run
  | enable => exact h.enable here run
  | enableFailed how => exact h.enableFailed here how run
  | waitUntilOpen => exact h.waitUntilOpen here run
  | connect | disconnect | shutdown | operate | channel => cases run

/-- Every action keeps the backend behind the gate. -/
theorem Guarded.step (h : Guarded y g) (run : y.step a = some y') : Guarded y' (g.step a) := by
  have channels : ∀ session now state, a = .channel session now state → Guarded y' (g.step a) := by
    rintro session now state rfl
    obtain rfl := Option.some.inj run
    exact h.channel session now state
  by_cases event : ∃ session now state, a = .channel session now state
  · obtain ⟨session, now, state, rfl⟩ := event
    exact channels session now state rfl
  · have requests : (∀ c, y.connecting = some c → y.connectStep c a = some y') ∧
        (y.connecting = none → y.requestStep a = some y') := by
      refine ⟨fun c connecting => ?_, fun connecting => ?_⟩
      all_goals
        rw [← run]
        cases a with
        | channel session now state => exact absurd ⟨session, now, state, rfl⟩ event
        | connect | beginSession | create | createFailed | install | enable | enableFailed | waitUntilOpen | disconnect |
          shutdown | operate => simp only [BackendSystem.step, connecting]
    cases connecting : y.connecting with
    | some c => exact h.connectStep connecting (requests.1 c connecting)
    | none =>
      replace requests := requests.2 connecting
      cases a with
      | connect config =>
        obtain rfl := Option.some.inj requests
        exact h.connect connecting config
      | disconnect capture cleanupError =>
        obtain rfl := Option.some.inj requests
        exact h.disconnect connecting capture cleanupError
      | shutdown =>
        obtain rfl := Option.some.inj requests
        exact h.shutdown connecting
      | operate selectBeforeOperate config activeTask =>
        obtain rfl := Option.some.inj requests
        exact h.operate selectBeforeOperate config activeTask
      | channel session now state => exact absurd ⟨session, now, state, rfl⟩ event
      | beginSession | create | createFailed | install | enable | enableFailed | waitUntilOpen => cases requests

/-- Every run keeps the backend behind the gate. -/
theorem guarded_runs {trace : List BackendAction} (run : ({} : BackendSystem).runs trace = some y) :
    Guarded y (Gate.of trace) := by
  induction trace using List.reverseRecOn generalizing y with
  | nil =>
    obtain rfl := Option.some.inj run
    exact guarded_init
  | append_singleton trace a ih =>
    rw [BackendSystem.runs_concat] at run
    obtain ⟨x, earlier, last⟩ := Option.bind_eq_some_iff.mp run
    have log : Gate.of (trace ++ [a]) = (Gate.of trace).step a := by simp [Gate.of]
    rw [log]
    exact (ih earlier).step last

end Steps

/-! ## The gate -/

/-- What a command that is admitted needs: a session, its token and an open channel. -/
theorem Backend.commandAccess_ok {token : Text} {b : Backend} {master : Nat} (ok : b.commandAccess token = .ok master) :
    b.sessionActive = true ∧ b.master = some master ∧ b.safetyToken ≠ [] ∧ token = b.safetyToken ∧
      b.events.currentState = .open_ := by
  unfold commandAccess at ok
  split at ok
  · next active here =>
    split at ok
    · cases ok
    · next authorized =>
      split at ok
      · cases ok
      · next same =>
        split at ok
        · cases ok
        · next opened =>
          obtain rfl := Except.ok.inj ok
          exact ⟨active, here, authorized, by simpa using same, by simpa using opened⟩
  · cases ok

theorem Detached.commandAccess {b : Backend} (d : Detached b) (token : Text) : ∃ e, b.commandAccess token = .error e := by
  unfold Backend.commandAccess
  rw [d.active]
  exact ⟨_, rfl⟩

section Gate

variable {y y' : BackendSystem} {g : Gate} {a : BackendAction} {trace : List BackendAction} {selectBeforeOperate : Bool}
  {config : CommandConfig} {activeTask : Option Nat}

/-- A command runs between the steps of `connect`, not among them. -/
theorem BackendSystem.step_operate (run : y.step (.operate selectBeforeOperate config activeTask) = some y') :
    y.connecting = none ∧ y' = y.operate selectBeforeOperate config activeTask := by
  unfold step at run
  dsimp only at run
  split at run
  · cases run
  · next idle => exact ⟨idle, (Option.some.inj run).symm⟩

/-- A command set is submitted only with the access that the gate gave. -/
theorem BackendSystem.operate_submitted (more : (y.operate selectBeforeOperate config activeTask).submitted ≠ y.submitted) :
    ∃ master, y.backend.commandAccess config.safetyToken = .ok master ∧
      (y.operate selectBeforeOperate config activeTask).submitted = y.submitted ++ [⟨master, selectBeforeOperate, config⟩] := by
  unfold operate at more ⊢
  split at more
  · exact absurd rfl more
  · next master access =>
    refine ⟨master, access, ?_⟩
    split at more
    · exact absurd rfl more
    · next response =>
      cases activeTask with
      | some taskId => exact absurd rfl more
      | none => rw [if_neg response]

/-- A refused token submits nothing. -/
theorem BackendSystem.operate_refused (refused : ∃ e, y.backend.commandAccess config.safetyToken = .error e) :
    (y.operate selectBeforeOperate config activeTask).submitted = y.submitted := by
  by_contra more
  obtain ⟨master, access, -⟩ := operate_submitted more
  obtain ⟨e, refused⟩ := refused
  simp [access] at refused

/-- A session becomes live only by a `connect` that succeeds. -/
theorem Guarded.step_live (h : Guarded y g) (run : y.step a = some y') (locked : g.live = none) :
    (g.step a).live = none ∨ a = .waitUntilOpen ∧ ∃ r, y'.reply = some (.ok r) := by
  cases a with
  | connect config =>
    refine .inl ?_
    unfold Gate.step
    dsimp only
    split <;> exact locked
  | beginSession =>
    refine .inl ?_
    unfold Gate.step
    dsimp only
    split <;> exact locked
  | create random =>
    refine .inl ?_
    unfold Gate.step
    dsimp only
    split
    · split <;> exact locked
    · exact locked
  | createFailed | enableFailed | disconnect | shutdown => exact .inl rfl
  | install | enable | operate | channel => exact .inl locked
  | waitUntilOpen =>
    unfold Gate.step
    dsimp only
    split
    · next s connecting =>
      by_cases opened : g.channel s.id = .open_
      · refine .inr ⟨rfl, ?_⟩
        cases here : y.connecting with
        | none => simp [h.idle here] at connecting
        | some c =>
          obtain ⟨-, s', same, -, p⟩ := h.progress c here
          obtain rfl := Option.some.inj (same.symm.trans connecting)
          simp only [BackendSystem.step, here, BackendSystem.connectStep] at run
          split at run
          · next enabled =>
            have isOpen : y.backend.events.isOpen c.session = true := by
              simp [ChannelEventStore.isOpen, p.session, p.begun (by simp [enabled]), h.state, opened]
            rw [if_pos isOpen] at run
            obtain rfl := Option.some.inj run
            exact ⟨_, rfl⟩
          · cases run
      · rw [if_neg opened]
        exact .inl rfl
    · exact .inl locked

/-- A `connect` that failed, for another reason than that a session is active. -/
structure FailedConnect (a : BackendAction) (y : BackendSystem) : Prop where
  ended : y.connecting = none
  request : (∃ config, a = .connect config) ∨ (∃ message, a = .createFailed message) ∨ (∃ how, a = .enableFailed how) ∨
    a = .waitUntilOpen
  failed : ∀ r, y.reply ≠ some (.ok r)
  other : ∀ e, y.reply = some (.error e) → e.code ≠ .alreadyConnected

/-- A step that ends whatever session there was: a failed `connect`, a `disconnect` or a `shutdown`. -/
def Locks (a : BackendAction) (y : BackendSystem) : Prop :=
  FailedConnect a y ∨ (∃ capture cleanupError, a = .disconnect capture cleanupError) ∨ a = .shutdown

/-- The actions that lock the gate do lock it. -/
theorem Guarded.locks (h : Guarded y g) (run : y.step a = some y') (locks : Locks a y') : (g.step a).live = none := by
  rcases locks with failed | ⟨capture, cleanupError, rfl⟩ | rfl
  · rcases failed.request with ⟨config, rfl⟩ | ⟨message, rfl⟩ | ⟨how, rfl⟩ | rfl
    · cases here : y.connecting with
      | some c => simp [BackendSystem.step, here, BackendSystem.connectStep] at run
      | none =>
        simp only [BackendSystem.step, here, BackendSystem.requestStep, Option.some.injEq] at run
        cases live : g.live with
        | none =>
          unfold Gate.step
          dsimp only
          split <;> exact live
        | some s =>
          -- a live session would have answered that it is active
          exfalso
          have up : y.backend.shuttingDown = false := by
            rw [h.down]
            by_contra down
            simp [(h.ended (by simpa using down)).1] at live
          have active := (h.live s live).1.active
          subst run
          have answer : ∃ e, (y.connect config).reply = some (.error e) ∧ e.code = .alreadyConnected := by
            unfold BackendSystem.connect
            rw [up, active]
            exact ⟨_, rfl, rfl⟩
          obtain ⟨e, reply, code⟩ := answer
          exact failed.other e reply code
    · rfl
    · rfl
    · cases live : g.live with
      | none =>
        rcases h.step_live run live with still | ⟨-, r, success⟩
        · exact still
        · exact absurd success (failed.failed r)
      | some s =>
        cases here : y.connecting with
        | some c => simp [(h.progress c here).1] at live
        | none => simp [BackendSystem.step, here, BackendSystem.requestStep] at run
  · rfl
  · rfl

/-- In `after`, from `y`, no `connect` succeeds. -/
def NoConnect (y : BackendSystem) (after : List BackendAction) : Prop :=
  ∀ middle rest z, after = middle ++ .waitUntilOpen :: rest → y.runs (middle ++ [.waitUntilOpen]) = some z →
    ∀ r, z.reply ≠ some (.ok r)

/-- A locked gate stays locked until the next `connect`. -/
theorem Guarded.stays_locked (h : Guarded y g) (locked : g.live = none) {after : List BackendAction}
    (run : y.runs after = some y') (unconnected : NoConnect y after) :
    Guarded y' (after.foldl Gate.step g) ∧ (after.foldl Gate.step g).live = none := by
  induction after using List.reverseRecOn generalizing y' with
  | nil =>
    obtain rfl := Option.some.inj run
    exact ⟨h, locked⟩
  | append_singleton after a ih =>
    have whole := run
    rw [BackendSystem.runs_concat] at run
    obtain ⟨x, earlier, last⟩ := Option.bind_eq_some_iff.mp run
    obtain ⟨guarded, still⟩ := ih earlier fun middle rest z split reached =>
      unconnected middle (rest ++ [a]) z (by simp [split]) reached
    rw [List.foldl_append]
    refine ⟨guarded.step last, ?_⟩
    rcases guarded.step_live last still with locked | ⟨rfl, r, success⟩
    · exact locked
    · exact absurd success (unconnected after [] y' rfl whole r)

/-- Who is given a token: a session with a simulator, or a lab session that allows changes of state and names its
operator and its DUT. -/
theorem ConnectionConfig.authorized_iff (config : ConnectionConfig) : config.authorized = true ↔
    config.safetyEnvironment = text "SIMULATOR" ∨ config.allowStateChange = true ∧
      config.safetyEnvironment = text "LAB" ∧ config.operatorId ≠ [] ∧ config.dutId ≠ [] := by
  simp [ConnectionConfig.authorized, and_assoc]

/-- The gate, in every run. A command set goes to a master only while a session is live that was
authorised, with the token generated for it and its channel last recorded as open. After a
`connect` that failed (but for a session that is already active), a `disconnect` or a `shutdown`
no token is accepted until a `connect` succeeds, and a token of another session never is. -/
theorem safety_gate (run : ({} : BackendSystem).runs trace = some y)
    (operate : y.step (.operate selectBeforeOperate config activeTask) = some y') :
    (y'.submitted ≠ y.submitted → ∃ s, (Gate.of trace).live = some s ∧ y.backend.sessionActive = true ∧
      s.config.authorized = true ∧ s.token = some config.safetyToken ∧ (Gate.of trace).channel s.id = .open_ ∧
      y'.submitted = y.submitted ++ [⟨s.id, selectBeforeOperate, config⟩]) ∧
    (∀ before a after x x', trace = before ++ a :: after → ({} : BackendSystem).runs before = some x → x.step a = some x' →
      Locks a x' → NoConnect x' after →
      (∃ e, y.backend.commandAccess config.safetyToken = .error e) ∧ y'.submitted = y.submitted) ∧
    (((Gate.of trace).tokens.map (·.2)).Nodup → ∀ i, (i, config.safetyToken) ∈ (Gate.of trace).tokens →
      (∀ s, (Gate.of trace).live = some s → s.id ≠ i) →
      (∃ e, y.backend.commandAccess config.safetyToken = .error e) ∧ y'.submitted = y.submitted) := by
  have h := guarded_runs run
  obtain ⟨idle, rfl⟩ := BackendSystem.step_operate operate
  have granted : ∀ master, y.backend.commandAccess config.safetyToken = .ok master → ∃ s, (Gate.of trace).live = some s ∧
      s.config.authorized = true ∧ s.token = some config.safetyToken ∧ (Gate.of trace).channel s.id = .open_ ∧
      master = s.id := by
    intro master access
    obtain ⟨active, here, authorized, same, opened⟩ := Backend.commandAccess_ok access
    cases live : (Gate.of trace).live with
    | none => simp [(h.locked idle live).active] at active
    | some s =>
      obtain ⟨installed, current, genuine⟩ := h.live s live
      have token : s.token = some config.safetyToken := by
        have held := same.trans installed.token
        cases has : s.token with
        | none => simp [installed.token, has] at authorized
        | some t => simpa [has] using held.symm
      refine ⟨s, rfl, genuine.authorized (by simp [token]), token, ?_, ?_⟩
      · rw [← current, ← h.state, opened]
      · exact Option.some.inj (here.symm.trans installed.master)
  have refused : (∃ e, y.backend.commandAccess config.safetyToken = .error e) →
      (∃ e, y.backend.commandAccess config.safetyToken = .error e) ∧
        (y.operate selectBeforeOperate config activeTask).submitted = y.submitted :=
    fun error => ⟨error, BackendSystem.operate_refused error⟩
  refine ⟨fun more => ?_, fun before a after x x' split reached last locks unconnected => ?_, fun distinct i issued other => ?_⟩
  · obtain ⟨master, access, submitted⟩ := BackendSystem.operate_submitted more
    obtain ⟨s, live, authorized, token, opened, rfl⟩ := granted master access
    exact ⟨s, live, (Backend.commandAccess_ok access).1, authorized, token, opened, submitted⟩
  · have guarded := guarded_runs reached
    have locked := guarded.locks last locks
    have further : x'.runs after = some y := by
      unfold BackendSystem.runs at run reached ⊢
      rw [split, List.foldlM_append, reached] at run
      simpa [last] using run
    obtain ⟨agrees, none⟩ := (guarded.step last).stays_locked locked further unconnected
    exact refused ((agrees.locked idle none).commandAccess _)
  · apply refused
    cases access : y.backend.commandAccess config.safetyToken with
    | error e => exact ⟨e, rfl⟩
    | ok master =>
      exfalso
      obtain ⟨s, live, -, token, -, -⟩ := granted master access
      have genuine := (h.live s live).2.2
      have pair := List.inj_on_of_nodup_map distinct issued (genuine.generated _ token) rfl
      exact other s live (Prod.mk.inj pair).1.symm

end Gate

/-- A simulator session, from `connect` to its open channel. -/
def exampleSession : List BackendAction :=
  [.connect { host := "localhost", safetyEnvironment := "SIMULATOR", allowStateChange := true }, .beginSession,
   .create (fun _ => Byte.ofNat 0xAB), .install, .enable, .channel 1 5 .opening, .channel 1 6 .open_, .waitUntilOpen]

def exampleOperate : CommandConfig where
  safetyToken := text "abababababababababababababababab"
  commands := [{}]

/-- A session opens, and one command is submitted. -/
theorem safety_gate_example : ∃ y y', ({} : BackendSystem).runs exampleSession = some y ∧
    y.step (.operate true exampleOperate none) = some y' ∧ y.submitted.length = 0 ∧ y'.submitted.length = 1 ∧
    ∃ s, (Gate.of exampleSession).live = some s ∧ s.token = some exampleOperate.safetyToken := by
  have submitted : ∃ y y', ({} : BackendSystem).runs exampleSession = some y ∧
      y.step (.operate true exampleOperate none) = some y' ∧ y.submitted.length = 0 ∧ y'.submitted.length = 1 :=
    ⟨_, _, rfl, rfl, rfl, rfl⟩
  obtain ⟨y, y', run, operate, before, after⟩ := submitted
  have more : y'.submitted ≠ y.submitted := fun same => by simp [same, before] at after
  obtain ⟨s, live, -, -, token, -⟩ := (safety_gate run operate).1 more
  exact ⟨y, y', run, operate, before, after, s, live, token⟩

/-- A `connect` that fails because a session is active leaves that session's token accepted. -/
theorem alreadyConnected_keeps_token : ∃ y x y',
    ({} : BackendSystem).runs exampleSession = some y ∧ y.step (.connect { host := "localhost" }) = some x ∧
    (∃ e, x.reply = some (.error e)) ∧ x.step (.operate true exampleOperate none) = some y' ∧
    (∃ master, x.backend.commandAccess exampleOperate.safetyToken = .ok master) ∧
    x.submitted.length = 0 ∧ y'.submitted.length = 1 :=
  ⟨_, _, _, rfl, rfl, ⟨_, rfl⟩, rfl, ⟨1, rfl⟩, rfl, rfl⟩

end EmsDnp3.Native
