import EmsDnp3.Base.Falls
import EmsDnp3.Native.ChannelEvents
import EmsDnp3.Python.Soak

/-!
# Reconnects in a soak run

The channel, its event queue and the soak runner, in any order of their steps. The ledger beside them knows what
the channel did after the baseline, how much of it the runner has drained and what its last snapshot showed. The
report counts each disconnect once, unless a snapshot runs ahead of events that are still queued and the first of
them does not show what the snapshot showed: then an episode that is over is counted again.
-/

namespace EmsDnp3

open Native Python

/-- A state is up when it is `OPEN`. -/
def Native.ChannelState.isOpen (s : ChannelState) : Bool := s = .open_

@[simp] theorem isOpenText_name (s : ChannelState) : isOpenText (text s.name) = s.isOpen := by
  simp [isOpenText, ChannelState.isOpen]

theorem all_up {states : List ChannelState} (isOpen : ∀ s ∈ states, s = .open_) :
    ∀ b ∈ states.map ChannelState.isOpen, b = true := by
  intro b inside
  obtain ⟨s, here, rfl⟩ := List.mem_map.mp inside
  rw [isOpen s here]
  rfl

/-- What happened since the baseline. -/
structure SoakLedger where
  /-- The states still queued when the baseline was taken. -/
  early : List ChannelState
  /-- The states of the channel since then. -/
  recorded : List ChannelState := []
  /-- How many events the runner has received since then. -/
  drained : Nat := 0
  /-- The last snapshot, if no event was received after it. -/
  snapshot : Option ChannelState := none

namespace SoakLedger

/-- The states after the baseline that the runner has learned of: drained, or observed in a snapshot. -/
def learned (l : SoakLedger) : List ChannelState :=
  l.recorded.take (l.drained - l.early.length) ++ l.snapshot.toList

/-- The transitions from OPEN to another state that have been drained or observed. -/
def disconnects (l : SoakLedger) : Nat := falls true (l.learned.map ChannelState.isOpen)

def record (state : ChannelState) (l : SoakLedger) : SoakLedger := { l with recorded := l.recorded ++ [state] }

/-- Some events were drained; the last snapshot is stale behind any. -/
def receive (count : Nat) (l : SoakLedger) : SoakLedger :=
  { l with drained := l.drained + count, snapshot := if count = 0 then l.snapshot else none }

/-- Up or down, from the first event that was queued at the baseline. -/
def history (l : SoakLedger) : List Bool := (l.early ++ l.recorded).map ChannelState.isOpen

end SoakLedger

/-- What can happen during a soak run, seen from the channel. -/
inductive SoakAction where
  | record (now : Nat) (state : ChannelState)
  | waitEvent
  | getStatus
  | choose (choice : SoakChoice)

/-- The session of the run stays the one whose channel is recorded. -/
structure Soak where
  store : ChannelEventStore
  runner : SoakRunner := {}
  ledger : Option SoakLedger := none

namespace Soak

/-- The arguments of the runner's `wait_event`. -/
def batch : WaitEventConfig := { timeoutMs := 0, maxEvents := 256 }

/-- What the ledger makes of a status that the runner was given. -/
def note (x : Soak) : Option SoakLedger :=
  match x.runner.phase with
  | .baseline =>
    if x.store.currentState = .open_ then some { early := x.store.events.map ChannelEvent.state } else x.ledger
  | .snapshot => x.ledger.map fun l => { l with snapshot := some x.store.currentState }
  | _ => x.ledger

/-- A step of the soak run. -/
def step (allowedReconnects : Nat) (x : Soak) : SoakAction → Option Soak
  | .record now state =>
    some { x with
      store := x.store.record x.store.currentSessionId now state, ledger := x.ledger.map (SoakLedger.record state) }
  | .waitEvent =>
    (x.runner.step allowedReconnects (.batch (x.store.take batch).1)).map fun runner =>
      { store := (x.store.take batch).2, runner
        ledger := x.ledger.map (SoakLedger.receive (x.store.events.take batch.maxEvents).length) }
  | .getStatus =>
    (x.runner.step allowedReconnects (.status (x.store.statusResult true))).map fun runner =>
      { x with runner, ledger := x.note }
  | .choose choice => (x.runner.step allowedReconnects (.choice choice)).map fun runner => { x with runner }

/-- A run; `none` where a step was not possible. -/
def runs (allowedReconnects : Nat) (x : Soak) (actions : List SoakAction) : Option Soak :=
  actions.foldlM (step allowedReconnects) x

/-- The events of the drain in progress. -/
def pending (x : Soak) : List Text :=
  match x.runner.phase with
  | .drain _ d => d.states
  | _ => []

def queue (x : Soak) : List ChannelState := x.store.events.map ChannelEvent.state

/-- The states of the next batch. -/
def answer (x : Soak) : List Text := (x.queue.take batch.maxEvents).map fun s => text s.name

/-- No drain is in progress. -/
def Settled (x : Soak) : Prop := ∀ stage d, x.runner.phase ≠ .drain stage d

def disconnects (x : Soak) : Nat :=
  match x.ledger with
  | none => 0
  | some l => l.disconnects

/-- A drain that ends the run has received no disconnect. -/
def Quiet (x : Soak) (states : List Text) : Prop :=
  falls (isOpenText x.runner.counters.observedChannelState) (states.map isOpenText) = 0

/-- The conditions, one for each kind of step. The queue does not overflow; at the baseline it holds open states
only; a snapshot agrees with what was observed before it or with the first event still queued; a drain that is
given up has received no disconnect. -/
def Meets (x : Soak) (a : SoakAction) : Prop :=
  match a, x.runner.phase with
  | .record _ _, _ => x.store.events.length < kEventQueueCapacity
  | .getStatus, .baseline => x.store.currentState = .open_ → ∀ s ∈ x.queue, s = .open_
  | .getStatus, .snapshot =>
    x.store.currentState.isOpen = isOpenText x.runner.counters.observedChannelState ∨
      (x.queue.map ChannelState.isOpen).head? = some x.store.currentState.isOpen
  | .waitEvent, .drain stage d =>
    stage ≠ .initial → maxChannelEventBatches ≤ d.batches + 1 → batch.maxEvents < x.queue.length →
      x.Quiet (d.states ++ x.answer)
  | .choose .raised, .drain stage d => stage ≠ .initial → x.Quiet d.states
  | _, _ => True

/-- Every step of a run meets its condition. -/
def AllMeet (allowedReconnects : Nat) (x : Soak) : List SoakAction → Prop
  | [] => True
  | a :: rest => x.Meets a ∧
    match x.step allowedReconnects a with
    | some x' => AllMeet allowedReconnects x' rest
    | none => True

/-! ## What the runner reads -/

/-- The client reads the state of an event. -/
theorem eventState_toJson (e : ChannelEvent) : eventState e.toJson = .ok (text e.state.name) := by
  have known : inSet (.str (text e.state.name)) channelStates = .ok true := by
    cases e.state <;> simp [inSet, channelStates, ChannelState.name]
  have shape : (!e.toJson.isObj || decide (e.toJson.get? (text "type") ≠ some (.str (text "channel_state")))) = false := by
    simp [ChannelEvent.toJson, Json.object, Json.isObj, Json.get?]
  have state : (e.toJson.get? (text "state")).getD .null = .str (text e.state.name) := by
    simp [ChannelEvent.toJson]
  simp only [eventState, rejectIf_pass shape, state, known, Except.mapError, ok_bind]
  rfl

/-- The client reads the states of several. -/
theorem mapM_eventState (events : List ChannelEvent) :
    (events.map ChannelEvent.toJson).mapM eventState = .ok (events.map fun e => text e.state.name) := by
  induction events with
  | nil => rfl
  | cons e rest ih =>
    rw [List.map_cons, List.mapM_cons, eventState_toJson, ih]
    rfl

/-- The client reads what the host took from its queue. -/
theorem readEventBatch_take (config : WaitEventConfig) (s : ChannelEventStore) :
    readEventBatch (s.take config).1 = .ok ((s.events.take config.maxEvents).map fun e => text e.state.name,
      (s.events.drop config.maxEvents).length, s.droppedEvents) := by
  have natural (n : Nat) : natural? (.nat n) = some n := by simp [natural?, Json.nat]
  simp only [readEventBatch, ChannelEventStore.take, Json.get?_object_cons, String.reduceEq, if_true, if_false,
    Option.bind_some, natural, mapM_eventState, ok_bind]
  rfl

/-- A batch of the store, for a drain: it ends with an empty queue and gives up after its last batch. -/
theorem receive_take (x : Soak) (d : Drain) : d.receive (x.store.take batch).1 =
    if x.queue.length ≤ batch.maxEvents then .ok (.complete (d.states ++ x.answer) x.store.droppedEvents)
    else if d.batches + 1 < maxChannelEventBatches then
      .ok (.more { states := d.states ++ x.answer, batches := d.batches + 1 })
    else .error (.connection "channel event queue could not be drained within its 1,024-entry bound") := by
  have left : (x.store.events.drop batch.maxEvents).length = 0 ↔ x.queue.length ≤ batch.maxEvents := by
    rw [List.length_drop, queue, List.length_map]
    omega
  have states : x.answer = (x.store.events.take batch.maxEvents).map fun e => text e.state.name := by
    simp [answer, queue, ← List.map_take]
  simp only [Drain.receive, readEventBatch_take, ok_bind, left, states]
  rfl

theorem statusState_statusResult (active : Bool) (s : ChannelEventStore) :
    ChannelCounters.statusState (s.statusResult active) = some (.str (text s.currentState.name)) := by
  simp [ChannelCounters.statusState, ChannelEventStore.statusResult, ChannelEventStore.channelStatus]

/-- A status passes exactly if the channel is open. -/
theorem requireOpen_statusResult (message : String) (active : Bool) (s : ChannelEventStore) :
    ChannelCounters.requireOpen message (s.statusResult active) =
      if s.currentState = .open_ then .ok () else .error (.connection message) := by
  by_cases isOpen : s.currentState = .open_
  · simp [ChannelCounters.requireOpen, statusState_statusResult, rejectIf, isOpen, ChannelState.name]
  · simp [ChannelCounters.requireOpen, statusState_statusResult, rejectIf, isOpen]

theorem observeStatus_statusResult (allowed : Nat) (active : Bool) (s : ChannelEventStore) (c : ChannelCounters) :
    c.observeStatus allowed (s.statusResult active) = (c.observe (text s.currentState.name)).checkReconnects allowed := by
  have known : Json.str (text s.currentState.name) ∈ channelStates := by
    cases s.currentState <;> simp [channelStates, ChannelState.name]
  simp only [ChannelCounters.observeStatus, statusState_statusResult, if_pos known]

end Soak

/-! ## The counter of the runner -/

theorem proceed_counters (next : SoakPhase) (result : Except SoakError Unit × ChannelCounters) :
    (SoakRunner.proceed next result).counters = result.2 := by
  unfold SoakRunner.proceed
  split <;> rfl

theorem proceed_phase (next : SoakPhase) (result : Except SoakError Unit × ChannelCounters) :
    (SoakRunner.proceed next result).phase = next ∨ (SoakRunner.proceed next result).phase = .ended := by
  unfold SoakRunner.proceed
  split
  · exact .inl rfl
  · exact .inr rfl

namespace SoakLedger

/-- The states of the queue at the baseline are open, so nothing is counted before the baseline. -/
theorem disconnects_eq {l : SoakLedger} (early : ∀ s ∈ l.early, s = .open_) :
    l.disconnects = falls true (l.history.take l.drained ++ (l.snapshot.map ChannelState.isOpen).toList) := by
  have up : ∀ b ∈ (l.early.map ChannelState.isOpen).take l.drained, b = true :=
    fun b inside => all_up early b (List.mem_of_mem_take inside)
  rw [history, List.map_append, List.take_append, List.append_assoc, falls_all_up up, List.length_map]
  rw [disconnects, learned, List.map_append, List.map_take]
  cases l.snapshot <;> rfl

/-- A recorded state is no episode before it is drained. -/
theorem disconnects_record {l : SoakLedger} (inside : l.drained ≤ l.early.length + l.recorded.length)
    (state : ChannelState) : (l.record state).disconnects = l.disconnects := by
  have same : (l.recorded ++ [state]).take (l.drained - l.early.length) = l.recorded.take (l.drained - l.early.length) := by
    apply List.take_append_of_le_length
    omega
  simp only [disconnects, learned, record, same]

end SoakLedger

/-! ## The invariant -/

namespace Soak

/-- The runner has the baseline: `read` is what it has counted or passed over since. -/
structure Watching (x : Soak) (l : SoakLedger) (read : List Bool) : Prop where
  history : l.history = read ++ x.pending.map isOpenText ++ x.queue.map ChannelState.isOpen
  drained : l.drained = read.length + x.pending.length
  early : ∀ s ∈ l.early, s = .open_
  current : x.store.currentState.isOpen = l.history.getLastD true
  taken : x.pending ≠ [] → l.snapshot = none
  agrees : FallCounter.Agrees read (x.pending.map isOpenText) (x.queue.map ChannelState.isOpen)
    (l.snapshot.map ChannelState.isOpen) x.runner.counters.counter
  dropped : x.store.droppedEvents = 0

/-- The counter has all that was drained. -/
def Level (x : Soak) (read : List Bool) : Prop :=
  x.runner.counters.counter.up = read.getLastD true ∧ x.runner.counters.counter.count = falls true read

/-- The phases in which the channel is watched. -/
def watched : SoakPhase → Bool
  | .ended => false
  | .baseline => false
  | .drain .initial _ => false
  | _ => true

/-- The counters of the runner count the episodes of the channel. -/
inductive Faithful (x : Soak) : Prop where
  | before (here : x.ledger = none) (phase : watched x.runner.phase = false)
      (counter : x.runner.counters.counter = { up := true, count := 0 })
      (dropped : x.runner.phase = .baseline → x.store.droppedEvents = 0)
  | watching (l : SoakLedger) (read : List Bool) (here : x.ledger = some l) (phase : watched x.runner.phase = true)
      (watches : x.Watching l read) (level : x.runner.phase = .snapshot → x.Level read)
  | finished (l : SoakLedger) (here : x.ledger = some l) (phase : x.runner.phase = .ended)
      (inside : l.drained ≤ l.early.length + l.recorded.length)
      (count : x.runner.counters.reconnectCount = l.disconnects)

section
variable {allowed : Nat} {x x' : Soak} {l : SoakLedger} {read : List Bool}

theorem faithful_start (store : ChannelEventStore) : Faithful { store } :=
  .before rfl rfl (by simp [ChannelCounters.counter, isOpenText]) (by simp)

theorem Watching.inside (w : x.Watching l read) : l.drained ≤ l.early.length + l.recorded.length := by
  have length := congrArg List.length w.history
  simp only [SoakLedger.history, List.length_map, List.length_append] at length
  rw [w.drained]
  omega

/-- The count is right when what is pending has no disconnect. -/
theorem Watching.count (w : x.Watching l read) (quiet : x.Quiet x.pending) :
    x.runner.counters.reconnectCount = l.disconnects := by
  have taken : l.history.take l.drained = read ++ x.pending.map isOpenText := by
    rw [w.history, w.drained]
    apply List.take_left'
    rw [List.length_append, List.length_map]
  rw [SoakLedger.disconnects_eq w.early, taken]
  refine w.agrees.settled (fun some_ => ?_) quiet
  rw [w.taken (by simpa using some_)]
  rfl

theorem quiet_nil : x.Quiet [] := by simp [Quiet]

/-- The run ends; what is pending is lost. -/
theorem Watching.finish (w : x.Watching l read) (here : x'.ledger = some l) (phase : x'.runner.phase = .ended)
    (counters : x'.runner.counters = x.runner.counters) (quiet : x.Quiet x.pending) : x'.Faithful :=
  .finished l here phase w.inside (by rw [counters, w.count quiet])

/-- A step that changes the phase only. -/
theorem Watching.move (w : x.Watching l read) (store : x'.store = x.store) (counters : x'.runner.counters = x.runner.counters)
    (pending : x'.pending = x.pending) : x'.Watching l read := by
  have queue : x'.queue = x.queue := by rw [Soak.queue, store, Soak.queue]
  constructor
  · rw [pending, queue, w.history]
  · rw [pending, w.drained]
  · exact w.early
  · rw [store, w.current]
  · rw [pending]
    exact w.taken
  · rw [pending, queue, counters]
    exact w.agrees
  · rw [store, w.dropped]

/-! ### The channel -/

theorem record_room {s : ChannelEventStore} (now : Nat) (state : ChannelState) (room : s.events.length < kEventQueueCapacity) :
    ((s.record s.currentSessionId now state).events.map ChannelEvent.state = s.events.map ChannelEvent.state ++ [state]) ∧
      (s.record s.currentSessionId now state).currentState = state ∧
      (s.record s.currentSessionId now state).droppedEvents = s.droppedEvents := by
  simp [ChannelEventStore.record, room.ne]

/-- Recording a state keeps the watch. -/
theorem Watching.record (w : x.Watching l read) (now : Nat) (state : ChannelState)
    (room : x.store.events.length < kEventQueueCapacity) :
    Watching { x with
      store := x.store.record x.store.currentSessionId now state, ledger := x.ledger.map (SoakLedger.record state) }
      (l.record state) read := by
  obtain ⟨events, current, dropped⟩ := record_room now state room
  have history : (l.record state).history = l.history ++ [state.isOpen] := by
    simp [SoakLedger.history, SoakLedger.record]
  constructor
  · rw [history, w.history, List.append_assoc]
    simp only [queue, pending, events, List.map_append, List.map_cons, List.map_nil]
  · exact w.drained
  · exact w.early
  · rw [history]
    simp [current]
  · exact w.taken
  · simp only [queue, events, List.map_append]
    exact w.agrees.record _
  · exact dropped.trans w.dropped

/-- Recording a state keeps the count. -/
theorem Faithful.record (f : x.Faithful) (now : Nat) (state : ChannelState)
    (room : x.store.events.length < kEventQueueCapacity) :
    Faithful { x with
      store := x.store.record x.store.currentSessionId now state, ledger := x.ledger.map (SoakLedger.record state) } := by
  cases f with
  | before here phase counter dropped =>
    refine .before (by rw [here]; rfl) phase counter fun baseline => ?_
    exact (record_room now state room).2.2.trans (dropped baseline)
  | watching l read here phase watches level =>
    exact .watching (l.record state) read (by rw [here]; rfl) phase (watches.record now state room) level
  | finished l here phase inside count =>
    refine .finished (l.record state) (by rw [here]; rfl) phase ?_ ?_
    · simp only [SoakLedger.record, List.length_append]
      omega
    · rw [SoakLedger.disconnects_record inside, ← count]

/-! ### A drain -/

/-- The system after a batch that the drain `d` has taken in. -/
def received (x : Soak) (stage : SoakStage) (d : Drain) : Soak where
  store := (x.store.take batch).2
  runner := { x.runner with phase := .drain stage { states := d.states ++ x.answer, batches := d.batches + 1 } }
  ledger := x.ledger.map (SoakLedger.receive (x.store.events.take batch.maxEvents).length)

theorem received_queue (stage : SoakStage) (d : Drain) : (x.received stage d).queue = x.queue.drop batch.maxEvents := by
  simp [received, queue, ChannelEventStore.take, List.map_drop]

/-- Draining a batch keeps the watch. -/
theorem Watching.receive (w : x.Watching l read) {stage : SoakStage} {d : Drain} (here : x.runner.phase = .drain stage d) :
    Watching (x.received stage d) (l.receive (x.store.events.take batch.maxEvents).length) read := by
  have pending : x.pending = d.states := by simp [Soak.pending, here]
  have pending' : (x.received stage d).pending = d.states ++ x.answer := rfl
  have count : (x.store.events.take batch.maxEvents).length = x.answer.length := by
    simp [answer, queue]
  have answer_up : x.answer.map isOpenText = (x.queue.take batch.maxEvents).map ChannelState.isOpen := by
    rw [answer, List.map_map]
    exact List.map_congr_left fun s _ => isOpenText_name s
  have split : x.queue.map ChannelState.isOpen =
      x.answer.map isOpenText ++ (x.received stage d).queue.map ChannelState.isOpen := by
    rw [answer_up, received_queue, ← List.map_append, List.take_append_drop]
  rw [count]
  constructor
  · rw [pending', List.map_append, ← pending, List.append_assoc, List.append_assoc, ← split, ← List.append_assoc]
    exact w.history
  · rw [pending', List.length_append, ← pending, ← Nat.add_assoc, ← w.drained]
    rfl
  · exact w.early
  · exact w.current
  · intro some_
    simp only [SoakLedger.receive]
    split
    · next none_ =>
      apply w.taken
      intro nothing
      rw [pending', ← pending, nothing, List.length_eq_zero_iff.mp none_] at some_
      exact some_ rfl
    · rfl
  · have agrees := w.agrees.take split
    rw [← List.map_append, pending, ← pending'] at agrees
    have glimpse : ((l.receive x.answer.length).snapshot.map ChannelState.isOpen) =
        if x.answer.map isOpenText = [] then l.snapshot.map ChannelState.isOpen else none := by
      simp only [SoakLedger.receive, List.length_eq_zero_iff, List.map_eq_nil_iff]
      split <;> rfl
    rw [glimpse]
    exact agrees
  · exact w.dropped

/-- A complete drain is counted. -/
theorem Watching.tell (w : x.Watching l read) (empty : x.queue = []) (store : x'.store = x.store)
    (pending : x'.pending = [])
    (counter : x'.runner.counters.counter = (x.pending.map isOpenText).foldl FallCounter.note x.runner.counters.counter) :
    ∃ read', x'.Watching l read' ∧ x'.Level read' := by
  have agrees := w.agrees
  rw [empty, List.map_nil] at agrees
  obtain ⟨up, count, same⟩ := agrees.tell fun some_ => by rw [w.taken (by simpa using some_)]; rfl
  rw [← counter] at up count same
  have queue : x'.queue = [] := by rw [Soak.queue, store, ← Soak.queue, empty]
  refine ⟨read ++ x.pending.map isOpenText, ⟨?_, ?_, w.early, ?_, ?_, ?_, ?_⟩, up, count⟩
  · rw [pending, queue, w.history, empty]
    simp
  · rw [w.drained, pending]
    simp
  · rw [store, w.current]
  · simp [pending]
  · rw [pending, queue]
    exact .level up count same
  · rw [store, w.dropped]

theorem observeChannelEvents_counter (allowed : Nat) (states : List Text) (c : ChannelCounters) :
    (c.observeChannelEvents allowed states 0).2.counter = (states.map isOpenText).foldl FallCounter.note c.counter := by
  simp only [ChannelCounters.observeChannelEvents, ne_eq, not_true_eq_false, if_false, checkReconnects_counters,
    counter_observes]
  rfl

/-- What a drain does. -/
theorem step_waitEvent (run : x.step allowed .waitEvent = some x') : ∃ stage d, x.runner.phase = .drain stage d ∧
    x' = { x.received stage d with runner :=
      if x.queue.length ≤ batch.maxEvents then x.runner.drained allowed stage (d.states ++ x.answer) x.store.droppedEvents
      else if d.batches + 1 < maxChannelEventBatches then (x.received stage d).runner
      else { x.runner with phase := .ended } } := by
  simp only [step, Option.map_eq_some_iff] at run
  obtain ⟨runner, answered, rfl⟩ := run
  cases phase : x.runner.phase with
  | drain stage d =>
    refine ⟨stage, d, rfl, ?_⟩
    simp only [SoakRunner.step, phase, receive_take] at answered
    by_cases complete : x.queue.length ≤ batch.maxEvents
    · rw [if_pos complete] at answered
      rw [if_pos complete]
      rw [← Option.some.inj answered]
      rfl
    rw [if_neg complete] at answered
    rw [if_neg complete]
    by_cases more : d.batches + 1 < maxChannelEventBatches
    · rw [if_pos more] at answered
      rw [if_pos more, ← Option.some.inj answered]
      rfl
    · rw [if_neg more] at answered
      rw [if_neg more, ← Option.some.inj answered]
      rfl
  | _ => simp [SoakRunner.step, phase] at answered

/-- Between drains the invariant holds in every phase, the last included. -/
theorem Watching.faithful (w : x.Watching l read) (here : x.ledger = some l) (pending : x.pending = [])
    (phase : watched x.runner.phase = true ∨ x.runner.phase = .ended) (level : x.runner.phase = .snapshot → x.Level read) :
    x.Faithful := by
  rcases phase with phase | ended
  · exact .watching l read here phase w level
  · refine w.finish here ended rfl ?_
    rw [pending]
    exact quiet_nil

/-- Behind a drain nothing is pending. -/
theorem pending_proceed {runner : SoakRunner} (here : x.runner = runner) {next : SoakPhase}
    (settled : ∀ stage d, next ≠ .drain stage d) (phase : runner.phase = next ∨ runner.phase = .ended) : x.pending = [] := by
  unfold pending
  split
  · next stage d drain =>
    rw [here] at drain
    rcases phase with same | ended
    · exact absurd (same.symm.trans drain) (settled stage d)
    · simp [ended] at drain
  · rfl

/-- The first drain counts nothing. -/
theorem drained_initial (allowed : Nat) (r : SoakRunner) (states : List Text) (dropped : Nat) :
    (r.drained allowed .initial states dropped).counters.counter = r.counters.counter ∧
      watched (r.drained allowed .initial states dropped).phase = false ∧
      ((r.drained allowed .initial states dropped).phase = .baseline → dropped = 0) := by
  simp only [SoakRunner.drained, if_true, ChannelCounters.initialEvents]
  by_cases none_ : dropped = 0
  · simp only [none_, ne_eq, not_true_eq_false, if_false]
    exact ⟨rfl, rfl, fun _ => trivial⟩
  · rw [if_pos none_]
    exact ⟨rfl, rfl, by simp [SoakRunner.proceed]⟩

/-- After the last batch of a drain, counted or given up. -/
theorem Watching.complete (w : x.Watching l read) (here : x.ledger = some l) (empty : x.queue = []) {stage : SoakStage}
    (later : stage ≠ .initial) (store : x'.store = x.store) (ledger : x'.ledger = x.ledger)
    (runner : x'.runner = x.runner.drained allowed stage x.pending x.store.droppedEvents) : x'.Faithful := by
  have counted := proceed_counters (SoakRunner.afterDrain stage)
    (x.runner.counters.observeChannelEvents allowed x.pending x.store.droppedEvents)
  have phase := proceed_phase (SoakRunner.afterDrain stage)
    (x.runner.counters.observeChannelEvents allowed x.pending x.store.droppedEvents)
  rw [SoakRunner.drained, if_neg later] at runner
  rw [← runner] at counted phase
  have settled : ∀ stage' d, SoakRunner.afterDrain stage ≠ .drain stage' d := by
    intro stage' d
    cases stage <;> simp [SoakRunner.afterDrain]
  have pending := pending_proceed rfl settled phase
  obtain ⟨read', told, level⟩ := w.tell empty store pending (by
    rw [counted, w.dropped, observeChannelEvents_counter])
  refine told.faithful (ledger.trans here) pending ?_ fun _ => level
  rcases phase with same | ended
  · rw [same]
    cases stage
    · exact absurd rfl later
    · exact .inl rfl
    · exact .inl rfl
    · exact .inr rfl
  · exact .inr ended

/-- A drain keeps the count. -/
theorem Faithful.waitEvent (f : x.Faithful) (meets : x.Meets .waitEvent) (run : x.step allowed .waitEvent = some x') :
    x'.Faithful := by
  obtain ⟨stage, d, here, rfl⟩ := step_waitEvent run
  cases f with
  | before ledger phase counter dropped =>
    obtain rfl : stage = .initial := by
      cases stage <;> first | rfl | simp [here, watched] at phase
    obtain ⟨same, unwatched, clean⟩ := drained_initial allowed x.runner (d.states ++ x.answer) x.store.droppedEvents
    have none_ : (x.received .initial d).ledger = none := by simp [received, ledger]
    split
    · exact .before none_ unwatched (same.trans counter) clean
    · split
      · exact .before none_ rfl counter (by simp [received])
      · exact .before none_ rfl counter (by simp)
  | watching l read ledger phase watches level =>
    have later : stage ≠ .initial := by
      rintro rfl
      simp [here, watched] at phase
    have watches := watches.receive here
    have ledger' : (x.received stage d).ledger = some (l.receive (x.store.events.take batch.maxEvents).length) := by
      simp [received, ledger]
    split
    · next complete =>
      have empty : (x.received stage d).queue = [] := by
        rw [received_queue, List.drop_eq_nil_of_le complete]
      exact watches.complete ledger' empty later rfl rfl rfl
    · next longer =>
      split
      · refine .watching _ read ledger' ?_ watches (by simp [received])
        cases stage <;> first | rfl | exact absurd rfl later
      · next last =>
        refine watches.finish ledger' rfl rfl ?_
        have quiet : x.Quiet (d.states ++ x.answer) := by
          simp only [Meets, here] at meets
          exact meets later (by omega) (by omega)
        exact quiet
  | finished l ledger phase inside count => simp [here] at phase

/-! ### A status -/

/-- What a status does. -/
theorem step_getStatus (run : x.step allowed .getStatus = some x') : ∃ runner, x' = { x with runner, ledger := x.note } ∧
    ((x.runner.phase = .baseline ∧ runner = SoakRunner.proceed .warmup
        (if x.store.currentState = .open_ then .ok () else .error (.connection "soak must start with an OPEN DNP3 channel"),
          { x.runner.counters with observedChannelState := text "OPEN" })) ∨
      (x.runner.phase = .snapshot ∧ runner = SoakRunner.proceed .scenario
        ((x.runner.counters.observe (text x.store.currentState.name)).checkReconnects allowed)) ∨
      (x.runner.phase = .terminal ∧ runner = SoakRunner.proceed .closing
        (if x.store.currentState = .open_ then .ok () else .error (.connection "soak must finish with an OPEN DNP3 channel"),
          x.runner.counters))) := by
  simp only [step, Option.map_eq_some_iff] at run
  obtain ⟨runner, answered, rfl⟩ := run
  refine ⟨runner, rfl, ?_⟩
  cases phase : x.runner.phase with
  | baseline =>
    simp only [SoakRunner.step, phase, requireOpen_statusResult] at answered
    exact .inl ⟨rfl, (Option.some.inj answered).symm⟩
  | snapshot =>
    simp only [SoakRunner.step, phase, observeStatus_statusResult] at answered
    exact .inr (.inl ⟨rfl, (Option.some.inj answered).symm⟩)
  | terminal =>
    simp only [SoakRunner.step, phase, requireOpen_statusResult] at answered
    exact .inr (.inr ⟨rfl, (Option.some.inj answered).symm⟩)
  | _ => simp [SoakRunner.step, phase] at answered

/-- The baseline: the queue holds open states only, and so was the channel. -/
theorem Watching.start {runner : SoakRunner} (isOpen : x.store.currentState = .open_) (early : ∀ s ∈ x.queue, s = .open_)
    (dropped : x.store.droppedEvents = 0) (counter : runner.counters.counter = { up := true, count := 0 })
    (phase : runner.phase = .warmup) :
    Watching { x with runner, ledger := some { early := x.queue } } { early := x.queue } [] := by
  have pending : Soak.pending { x with runner, ledger := some { early := x.queue } } = [] := by simp [Soak.pending, phase]
  constructor
  · rw [pending]
    simp [SoakLedger.history, queue]
  · rw [pending]
    rfl
  · exact early
  · simp only [isOpen, SoakLedger.history, List.append_nil]
    exact (getLastD_all_up (all_up early)).symm
  · simp [pending]
  · rw [pending, counter]
    exact FallCounter.agrees_start _
  · exact dropped

/-- A snapshot: what it shows is the newest state of the history. -/
theorem Watching.snapshot (w : x.Watching l read) (phase : x.runner.phase = .snapshot) (level : x.Level read)
    (clear : x.store.currentState.isOpen = isOpenText x.runner.counters.observedChannelState ∨
      (x.queue.map ChannelState.isOpen).head? = some x.store.currentState.isOpen)
    {runner : SoakRunner} (pending : Soak.pending { x with runner } = [])
    (counter : runner.counters.counter = x.runner.counters.counter.note x.store.currentState.isOpen) :
    Watching { x with runner, ledger := some { l with snapshot := some x.store.currentState } }
      { l with snapshot := some x.store.currentState } read := by
  have before : x.pending = [] := by simp [Soak.pending, phase]
  have pending' : Soak.pending
      { x with runner, ledger := some { l with snapshot := some x.store.currentState } } = [] := pending
  constructor
  · have history := w.history
    rw [before] at history
    rw [pending']
    exact history
  · rw [pending', ← before]
    exact w.drained
  · exact w.early
  · exact w.current
  · simp [pending']
  · rw [pending']
    simp only [counter]
    exact FallCounter.level_glimpse level.1 level.2 clear
  · exact w.dropped

/-- A status keeps the count where its state is not still queued. -/
theorem Faithful.getStatus (f : x.Faithful) (meets : x.Meets .getStatus) (run : x.step allowed .getStatus = some x') :
    x'.Faithful := by
  obtain ⟨runner, rfl, ⟨here, runner_eq⟩ | ⟨here, runner_eq⟩ | ⟨here, runner_eq⟩⟩ := step_getStatus run
  · cases f with
    | before ledger phase counter dropped =>
      have count : runner.counters.counter = { up := true, count := 0 } := by
        have zero := congrArg FallCounter.count counter
        rw [runner_eq, proceed_counters]
        simp only [ChannelCounters.counter] at zero ⊢
        rw [zero]
        simp [isOpenText]
      by_cases isOpen : x.store.currentState = .open_
      · rw [if_pos isOpen] at runner_eq
        have warm : runner.phase = .warmup := by rw [runner_eq]; rfl
        simp only [Meets, here] at meets
        have ledger' : x.note = some { early := x.queue } := by simp [note, here, isOpen, queue]
        rw [ledger']
        refine .watching _ [] rfl ?_ (.start isOpen (meets isOpen) (dropped here) count warm) ?_
        · simp [warm, watched]
        · simp [warm]
      · rw [if_neg isOpen] at runner_eq
        have ended : runner.phase = .ended := by rw [runner_eq]; rfl
        refine .before ?_ ?_ count ?_
        · simp [note, here, isOpen, ledger]
        · simp [ended, watched]
        · simp [ended]
    | watching l read ledger phase watches level => simp [here, watched] at phase
    | finished l ledger phase inside count => simp [here] at phase
  · cases f with
    | before ledger phase counter dropped => simp [here, watched] at phase
    | watching l read ledger phase watches level =>
      have ledger' : x.note = some { l with snapshot := some x.store.currentState } := by
        simp [note, here, ledger]
      have phase' := proceed_phase .scenario
        ((x.runner.counters.observe (text x.store.currentState.name)).checkReconnects allowed)
      rw [← runner_eq] at phase'
      have pending : Soak.pending { x with runner } = [] := pending_proceed rfl (by simp) phase'
      simp only [Meets, here] at meets
      rw [ledger']
      have watches' := watches.snapshot here (level here) meets pending (by
        rw [runner_eq, proceed_counters, checkReconnects_counters, counter_observe, isOpenText_name])
      refine watches'.faithful rfl pending ?_ ?_
      · rcases phase' with same | ended
        · simp [same, watched]
        · exact .inr ended
      · rcases phase' with same | ended
        · simp [same]
        · simp [ended]
    | finished l ledger phase inside count => simp [here] at phase
  · cases f with
    | before ledger phase counter dropped => simp [here, watched] at phase
    | watching l read ledger phase watches level =>
      have ledger' : x.note = some l := by simp [note, here, ledger]
      have phase' := proceed_phase .closing
        (if x.store.currentState = .open_ then .ok ()
          else .error (.connection "soak must finish with an OPEN DNP3 channel"), x.runner.counters)
      have counters := proceed_counters .closing
        (if x.store.currentState = .open_ then .ok ()
          else .error (.connection "soak must finish with an OPEN DNP3 channel"), x.runner.counters)
      rw [← runner_eq] at phase' counters
      have pending : Soak.pending { x with runner, ledger := x.note } = [] := pending_proceed rfl (by simp) phase'
      have before : x.pending = [] := by simp [Soak.pending, here]
      have watches' : Soak.Watching { x with runner, ledger := x.note } l read :=
        watches.move rfl counters (pending.trans before.symm)
      refine watches'.faithful ledger' pending ?_ ?_
      · rcases phase' with same | ended
        · simp [same, watched]
        · exact .inr ended
      · rcases phase' with same | ended
        · simp [same]
        · simp [ended]
    | finished l ledger phase inside count => simp [here] at phase

/-! ### Decisions -/

/-- A decision changes the phase; only the one that raises leaves a drain. -/
theorem step_choose {choice : SoakChoice} (run : x.step allowed (.choose choice) = some x') :
    ∃ phase, x' = { x with runner := { x.runner with phase } } ∧ x.runner.phase ≠ .ended ∧
      ((choice = .raised ∧ phase = .ended) ∨
        (watched x.runner.phase = true ∧ x.pending = [] ∧ (watched phase = true ∨ phase = .ended) ∧ phase ≠ .snapshot ∧
          Soak.pending { x with runner := { x.runner with phase } } = [])) := by
  simp only [step, Option.map_eq_some_iff] at run
  obtain ⟨runner, answered, rfl⟩ := run
  have chosen : x.runner.choose choice = some runner := by
    cases phase : x.runner.phase <;> simp only [SoakRunner.step, phase] at answered <;> exact answered
  clear answered
  unfold SoakRunner.choose at chosen
  unfold pending
  split at chosen
  · cases chosen
  · next running =>
    obtain rfl := Option.some.inj chosen
    exact ⟨.ended, rfl, running, .inl ⟨rfl, rfl⟩⟩
  · next here =>
    obtain rfl := Option.some.inj chosen
    exact ⟨_, rfl, by simp [here], .inr (by simp [here, watched])⟩
  · next here =>
    obtain rfl := Option.some.inj chosen
    exact ⟨_, rfl, by simp [here], .inr (by simp [here, watched])⟩
  · next here =>
    obtain rfl := Option.some.inj chosen
    exact ⟨_, rfl, by simp [here], .inr (by simp [here, watched])⟩
  · next completed here =>
    obtain rfl := Option.some.inj chosen
    exact ⟨_, rfl, by simp [here], .inr (by cases completed <;> simp [here, watched])⟩
  · next goOn here =>
    obtain rfl := Option.some.inj chosen
    exact ⟨_, rfl, by simp [here], .inr (by cases goOn <;> simp [here, watched])⟩
  · next running here =>
    obtain rfl := Option.some.inj chosen
    exact ⟨_, rfl, by simp [here], .inr (by cases running <;> simp [here, watched])⟩
  · cases chosen

/-- A choice of the runner changes no count. -/
theorem Faithful.choose {choice : SoakChoice} (f : x.Faithful) (meets : x.Meets (.choose choice))
    (run : x.step allowed (.choose choice) = some x') : x'.Faithful := by
  obtain ⟨phase, rfl, running, ⟨rfl, rfl⟩ | ⟨here, before, next, other, pending⟩⟩ := step_choose run
  · cases f with
    | before ledger unwatched counter dropped => exact .before ledger rfl counter (by simp)
    | watching l read ledger here watches level =>
      refine watches.finish ledger rfl rfl ?_
      cases phase : x.runner.phase with
      | drain stage d =>
        have later : stage ≠ .initial := by
          rintro rfl
          simp [phase, watched] at here
        simp only [Meets, phase] at meets
        simpa [Soak.pending, phase] using meets later
      | _ => simp [Soak.pending, phase, quiet_nil]
    | finished l ledger ended inside count => exact absurd ended running
  · cases f with
    | before ledger unwatched counter dropped => simp [here] at unwatched
    | watching l read ledger here watches level =>
      have watches' : Soak.Watching { x with runner := { x.runner with phase } } l read :=
        watches.move rfl rfl (pending.trans before.symm)
      exact watches'.faithful ledger pending next fun snapshot => absurd snapshot other
    | finished l ledger ended inside count => exact absurd ended running

/-! ## Runs -/

/-- Every step that meets its condition keeps the count. -/
theorem Faithful.step (f : x.Faithful) {a : SoakAction} (meets : x.Meets a) (run : x.step allowed a = some x') :
    x'.Faithful := by
  cases a with
  | record now state =>
    obtain rfl := Option.some.inj run
    exact f.record now state meets
  | waitEvent => exact f.waitEvent meets run
  | getStatus => exact f.getStatus meets run
  | choose choice => exact f.choose meets run

/-- Every run whose steps meet the condition keeps the count. -/
theorem Faithful.runs (f : x.Faithful) {actions : List SoakAction} (meets : x.AllMeet allowed actions)
    (run : x.runs allowed actions = some x') : x'.Faithful := by
  induction actions generalizing x with
  | nil =>
    obtain rfl := Option.some.inj run
    exact f
  | cons a rest ih =>
    obtain ⟨y, first, later⟩ := Option.bind_eq_some_iff.mp run
    have rest_meets := meets.2
    rw [first] at rest_meets
    exact ih (f.step meets.1 first) rest_meets later

/-- Between drains the count is the number of transitions drained or observed. -/
theorem Faithful.count (f : x.Faithful) (settled : x.Settled) : x.runner.counters.reconnectCount = x.disconnects := by
  cases f with
  | before ledger phase counter dropped =>
    rw [disconnects, ledger]
    exact congrArg FallCounter.count counter
  | watching l read ledger phase watches level =>
    have none_ : x.pending = [] := by
      unfold Soak.pending
      split
      · next stage d here => exact absurd here (settled stage d)
      · rfl
    rw [disconnects, ledger]
    exact watches.count (by rw [none_]; exact quiet_nil)
  | finished l ledger phase inside count => rw [disconnects, ledger, count]

/-- In every run whose steps meet the conditions the runner has counted, whenever no drain is in progress and so in
its report, each transition from OPEN that was drained or observed after the baseline, and each once. -/
theorem reconnects_counted {store : ChannelEventStore} {actions : List SoakAction} (meets : AllMeet allowed { store } actions)
    (run : ({ store } : Soak).runs allowed actions = some x) (settled : x.Settled) :
    x.runner.counters.reconnectCount = x.disconnects :=
  ((faithful_start store).runs meets run).count settled

end

instance (x : Soak) (a : SoakAction) : Decidable (x.Meets a) := by
  unfold Meets Quiet
  split <;> infer_instance

instance decidableAllMeet (allowed : Nat) : (x : Soak) → (actions : List SoakAction) → Decidable (AllMeet allowed x actions)
  | _, [] => .isTrue trivial
  | x, a :: rest =>
    have : Decidable (match x.step allowed a with
        | some x' => AllMeet allowed x' rest
        | none => True) :=
      match x.step allowed a with
      | some x' => decidableAllMeet allowed x' rest
      | none => .isTrue trivial
    inferInstanceAs (Decidable (_ ∧ _))

/-- An open channel. -/
def exampleStore : ChannelEventStore := { currentState := .open_, currentSessionId := 1 }

/-- A disconnect that a snapshot observes before its events are drained. -/
def exampleRun : List SoakAction :=
  [.waitEvent, .getStatus, .choose .startLoop, .choose .cycle, .waitEvent, .record 1 .closed, .getStatus,
    .choose (.scenario true), .record 2 .opening, .record 3 .open_, .choose .cycle, .waitEvent, .getStatus,
    .choose (.scenario true), .choose (.leave true), .getStatus, .choose (.close true), .waitEvent]

/-- A run with one disconnect, counted once. -/
theorem reconnects_counted_example : ∃ x, ({ store := exampleStore } : Soak).runs 3 exampleRun = some x ∧
    x.runner.phase = .ended ∧ x.runner.counters.reconnectCount = 1 ∧ x.disconnects = 1 := by
  have run : (({ store := exampleStore } : Soak).runs 3 exampleRun).map (fun x =>
      (x.runner.phase, x.runner.counters.reconnectCount)) = some (.ended, 1) := by decide +kernel
  obtain ⟨x, run, result⟩ := Option.map_eq_some_iff.mp run
  obtain ⟨ended, one⟩ := Prod.mk.inj result
  have meets : AllMeet 3 { store := exampleStore } exampleRun := by decide +kernel
  have count := reconnects_counted meets run (by simp [Settled, ended])
  exact ⟨x, run, ended, one, count ▸ one⟩

/-- The channel closes and is drained; it opens again between a drain and the snapshot after it. The events of the
opening, drained later, count as a second disconnect. -/
def doubleRun : List SoakAction :=
  [.waitEvent, .getStatus, .choose .startLoop, .record 1 .closed, .choose .cycle, .waitEvent, .record 2 .opening,
    .record 3 .open_, .getStatus, .choose (.scenario true), .choose (.leave true), .getStatus, .choose (.close true),
    .waitEvent]

/-- A snapshot ahead of the queue counts one disconnect twice. -/
theorem reconnect_counted_twice : ∃ x l, ({ store := exampleStore } : Soak).runs 3 doubleRun = some x ∧
    x.runner.phase = .ended ∧ x.ledger = some l ∧ l.recorded = [.closed, .opening, .open_] ∧
    x.store.droppedEvents = 0 ∧ x.disconnects = 1 ∧ x.runner.counters.reconnectCount = 2 := by
  have run : (({ store := exampleStore } : Soak).runs 3 doubleRun).map (fun x => (x.runner.phase,
      x.ledger.map SoakLedger.recorded, x.store.droppedEvents, x.disconnects, x.runner.counters.reconnectCount)) =
      some (.ended, some [.closed, .opening, .open_], 0, 1, 2) := by decide +kernel
  obtain ⟨x, run, result⟩ := Option.map_eq_some_iff.mp run
  simp only [Prod.mk.injEq, Option.map_eq_some_iff] at result
  obtain ⟨ended, ⟨l, ledger, recorded⟩, rest⟩ := result
  exact ⟨x, l, run, ended, ledger, recorded, rest⟩

end Soak

end EmsDnp3
