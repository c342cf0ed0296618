import EmsDnp3.Native.Backend

/-!
# Channel events on the wire

`ChannelEventStore::take` and `snapshot`, with the members of a response that are made from them.
-/

namespace EmsDnp3.Native

/-- A channel event as `wait_event` writes it. -/
def ChannelEvent.toJson (e : ChannelEvent) : Json :=
  .object [("sequence", .nat e.sequence), ("session_id", .nat e.sessionId), ("type", .str (text "channel_state")),
    ("state", .str (text e.state.name)), ("monotonic_ns", .nat e.monotonicNs)]

namespace ChannelEventStore

/-- `take`, at whatever moment its wait ends. -/
def take (config : WaitEventConfig) (s : ChannelEventStore) : Json × ChannelEventStore :=
  let selected := s.events.take config.maxEvents
  let left := { s with events := s.events.drop config.maxEvents }
  (.object [("events", .arr (selected.map ChannelEvent.toJson)), ("timed_out", .bool selected.isEmpty),
    ("remaining", .nat left.events.length), ("dropped_total", .nat left.droppedEvents)], left)

/-- The member `channel` of `status_result`. -/
def channelStatus (sessionActive : Bool) (s : ChannelEventStore) : Json :=
  .object [("state", .str (text s.currentState.name)), ("session_active", .bool sessionActive),
    ("session_id", .nat s.currentSessionId), ("last_event_sequence", .nat s.lastSequence),
    ("queued_events", .nat s.events.length), ("dropped_events", .nat s.droppedEvents)]

/-- `status_result`; what is read from the other stores is left out. -/
def statusResult (sessionActive : Bool) (s : ChannelEventStore) : Json :=
  .object [("channel", s.channelStatus sessionActive)]

end ChannelEventStore

theorem ChannelState.name_injective : Function.Injective ChannelState.name := by
  intro a b same
  cases a <;> cases b <;> first | rfl | simp [name] at same

@[simp] theorem ChannelState.name_eq_open {s : ChannelState} : s.name = "OPEN" ↔ s = .open_ :=
  name_injective.eq_iff (b := .open_)

end EmsDnp3.Native
