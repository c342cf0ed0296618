import EmsDnp3.Base.Falls
import EmsDnp3.Python.Values

/-!
# The soak runner

`run_soak` of `soak.py`, as far as it reads the channel: the drains of the event queue, the status snapshots and
the counters that they feed. Clocks, scenarios, resource samples and the stop request decide where the runner goes
and are choices here; whatever it calls may raise.
-/

namespace EmsDnp3.Python

def maxChannelEventBatches : Nat := 5

/-- What ends the run: `_ConnectionEvidenceError` or an exception of the interpreter. -/
inductive SoakError where
  | connection (message : String)
  | python (error : PyError)
deriving DecidableEq

def channelStates : List Json := ["CLOSED", "OPENING", "OPEN", "SHUTDOWN"].map fun state => .str (text state)

/-- The state of an event of a batch. -/
def eventState (event : Json) : Except SoakError Text := do
  rejectIf (!event.isObj || event.get? "type" ≠ some (.str (text "channel_state")))
    (.connection "channel event queue contains an invalid event")
  let state := (event.get? "state").getD .null
  rejectIf (!(← (inSet state channelStates).mapError .python))
    (.connection "channel event queue contains an invalid state")
  match state with
  | .str state => return state
  | _ => throw (.connection "channel event queue contains an invalid state")

/-- The counters of a batch and the states of its events. -/
def readEventBatch (batch : Json) : Except SoakError (List Text × Nat × Nat) :=
  match batch.get? "events", (batch.get? "remaining").bind natural?, (batch.get? "dropped_total").bind natural? with
  | some (.arr events), some remaining, some dropped => do return (← events.mapM eventState, remaining, dropped)
  | _, _, _ => throw (.connection "channel event queue counters are unavailable")

/-- `_drain_channel_events` between two calls of `wait_event`. -/
structure Drain where
  states : List Text := []
  batches : Nat := 0
deriving DecidableEq

/-- A drain goes on or is complete. -/
inductive DrainResult where
  | more (drain : Drain)
  | complete (states : List Text) (dropped : Nat)

/-- One turn of the loop of `_drain_channel_events`. -/
def Drain.receive (batch : Json) (d : Drain) : Except SoakError DrainResult := do
  let (states, remaining, dropped) ← readEventBatch batch
  if remaining = 0 then return .complete (d.states ++ states) dropped
  else if d.batches + 1 < maxChannelEventBatches then
    return .more { states := d.states ++ states, batches := d.batches + 1 }
  else throw (.connection "channel event queue could not be drained within its 1,024-entry bound")

/-- The local variables of `run_soak` that the channel feeds. -/
structure ChannelCounters where
  reconnectCount : Nat := 0
  channelEventCount : Nat := 0
  initialChannelEventCount : Nat := 0
  channelEventDroppedTotal : Nat := 0
  observedChannelState : Text := text "OPEN"
deriving DecidableEq

namespace ChannelCounters

/-- A state that is drained or observed. -/
def observe (c : ChannelCounters) (state : Text) : ChannelCounters :=
  { c with
    reconnectCount := if c.observedChannelState = text "OPEN" ∧ state ≠ text "OPEN" then c.reconnectCount + 1
      else c.reconnectCount
    observedChannelState := state }

/-- The limit is checked after the states have been counted. -/
def checkReconnects (allowedReconnects : Nat) (c : ChannelCounters) : Except SoakError Unit × ChannelCounters :=
  if allowedReconnects < c.reconnectCount then
    (.error (.connection "observed reconnect/disconnect episodes exceed profile"), c)
  else (.ok (), c)

/-- `observe_channel_events`, after its drain. -/
def observeChannelEvents (allowedReconnects : Nat) (states : List Text) (dropped : Nat) (c : ChannelCounters) :
    Except SoakError Unit × ChannelCounters :=
  let c := { c with
    channelEventCount := c.channelEventCount + states.length
    channelEventDroppedTotal := max c.channelEventDroppedTotal dropped }
  if dropped ≠ 0 then
    (.error (.connection "channel event queue overflow makes reconnect history incomplete"), c)
  else checkReconnects allowedReconnects (states.foldl observe c)

/-- The first drain of the run. -/
def initialEvents (states : List Text) (dropped : Nat) (c : ChannelCounters) : Except SoakError Unit × ChannelCounters :=
  let c := { c with initialChannelEventCount := states.length, channelEventDroppedTotal := dropped }
  if dropped ≠ 0 then
    (.error (.connection "pre-existing channel event overflow makes reconnect history incomplete"), c)
  else (.ok (), c)

/-- The `state` of `status["channel"]`. -/
def statusState (status : Json) : Option Json := (status.get? "channel").bind fun channel => channel.get? "state"

/-- A status that must show an open channel: the baseline and the terminal one. -/
def requireOpen (message : String) (status : Json) : Except SoakError Unit :=
  rejectIf (statusState status ≠ some (.str (text "OPEN"))) (.connection message)

/-- The snapshot of a cycle. -/
def observeStatus (allowedReconnects : Nat) (status : Json) (c : ChannelCounters) :
    Except SoakError Unit × ChannelCounters :=
  match statusState status with
  | some (.str state) =>
    if .str state ∈ channelStates then checkReconnects allowedReconnects (c.observe state)
    else (.error (.connection "channel state snapshot is invalid"), c)
  | _ => (.error (.connection "channel state snapshot is unavailable"), c)

end ChannelCounters

/-! ## The counter of the runner -/

def isOpenText (state : Text) : Bool := state = text "OPEN"

/-- Reconnects are the falls of the tracked state. -/
def ChannelCounters.counter (c : ChannelCounters) : FallCounter :=
  { up := isOpenText c.observedChannelState, count := c.reconnectCount }

theorem counter_observe (c : ChannelCounters) (state : Text) :
    (c.observe state).counter = c.counter.note (isOpenText state) := by
  simp only [ChannelCounters.counter, ChannelCounters.observe, FallCounter.note, isOpenText]
  by_cases up : c.observedChannelState = text "OPEN" <;> by_cases now : state = text "OPEN" <;> simp [up, now]

/-- Observing states notes whether each is open. -/
theorem counter_observes (c : ChannelCounters) (states : List Text) :
    (states.foldl ChannelCounters.observe c).counter = (states.map isOpenText).foldl FallCounter.note c.counter := by
  induction states generalizing c with
  | nil => rfl
  | cons state rest ih => rw [List.foldl_cons, ih, counter_observe, List.map_cons, List.foldl_cons]

theorem checkReconnects_counters (allowed : Nat) (c : ChannelCounters) : (c.checkReconnects allowed).2 = c := by
  unfold ChannelCounters.checkReconnects
  split <;> rfl

/-! ## The runner between two answers -/

/-- Which drain it is. -/
inductive SoakStage where
  | initial
  | warmup
  | cycle
  | final
deriving DecidableEq

/-- Where `run_soak` is. -/
inductive SoakPhase where
  | drain (stage : SoakStage) (drain : Drain)
  | baseline
  | warmup
  | loop
  | snapshot
  | scenario
  | terminal
  | closing
  | ended
deriving DecidableEq

/-- What happens without an answer about the channel: an exception, or a decision of the runner. -/
inductive SoakChoice where
  | raised
  | warmUp
  | startLoop
  | cycle
  | leave (completed : Bool)
  | scenario (goOn : Bool)
  | close (running : Bool)
deriving DecidableEq

/-- What the runner waits for: a batch, a status or a choice. -/
inductive SoakInput where
  | batch (response : Json)
  | status (response : Json)
  | choice (choice : SoakChoice)
deriving DecidableEq

/-- The runner between two inputs. -/
structure SoakRunner where
  phase : SoakPhase := .drain .initial {}
  counters : ChannelCounters := {}
deriving DecidableEq

namespace SoakRunner

/-- Where a complete drain leads. -/
def afterDrain : SoakStage → SoakPhase
  | .initial => .baseline
  | .warmup => .warmup
  | .cycle => .snapshot
  | .final => .ended

/-- The runner goes on to `next` unless the step raised. -/
def proceed (next : SoakPhase) (result : Except SoakError Unit × ChannelCounters) : SoakRunner :=
  match result.1 with
  | .ok _ => { phase := next, counters := result.2 }
  | .error _ => { phase := .ended, counters := result.2 }

/-- A drain has all events. -/
def drained (allowedReconnects : Nat) (stage : SoakStage) (states : List Text) (dropped : Nat) (r : SoakRunner) : SoakRunner :=
  proceed (afterDrain stage)
    (if stage = .initial then r.counters.initialEvents states dropped
     else r.counters.observeChannelEvents allowedReconnects states dropped)

/-- A decision, where `run_soak` makes it. -/
def choose (r : SoakRunner) (choice : SoakChoice) : Option SoakRunner :=
  match r.phase, choice with
  | .ended, _ => none
  | _, .raised => some { r with phase := .ended }
  | .warmup, .warmUp => some { r with phase := .drain .warmup {} }
  | .warmup, .startLoop => some { r with phase := .loop }
  | .loop, .cycle => some { r with phase := .drain .cycle {} }
  | .loop, .leave completed => some { r with phase := if completed then .terminal else .closing }
  | .scenario, .scenario goOn => some { r with phase := if goOn then .loop else .closing }
  | .closing, .close running => some { r with phase := if running then .drain .final {} else .ended }
  | _, _ => none

/-- One step of `run_soak`; nothing where it is not at that point. -/
def step (allowedReconnects : Nat) (r : SoakRunner) (input : SoakInput) : Option SoakRunner :=
  match r.phase, input with
  | .drain stage d, .batch response =>
    match d.receive response with
    | .ok (.more d) => some { r with phase := .drain stage d }
    | .ok (.complete states dropped) => some (r.drained allowedReconnects stage states dropped)
    | .error _ => some { r with phase := .ended }
  | .baseline, .status response =>
    some (proceed .warmup (ChannelCounters.requireOpen "soak must start with an OPEN DNP3 channel" response,
      { r.counters with observedChannelState := text "OPEN" }))
  | .snapshot, .status response => some (proceed .scenario (r.counters.observeStatus allowedReconnects response))
  | .terminal, .status response =>
    some (proceed .closing (ChannelCounters.requireOpen "soak must finish with an OPEN DNP3 channel" response, r.counters))
  | _, .choice choice => r.choose choice
  | _, _ => none

end SoakRunner

end EmsDnp3.Python
