import EmsDnp3.Native.MeasurementCapture
import EmsDnp3.Native.Stack

/-!
# The queue of unsolicited measurements

`UnsolicitedStore`: stack callbacks open and close fragments and record measurements, request
threads begin and end sessions and take batches. Every method is one critical section; `take`
waits in between without changing anything, so it is the section in which it selects its batch,
at whatever moment that comes. The counters are `std::uint64_t`; no run is long enough to
overflow one.
-/

namespace EmsDnp3.Native

/-- What the store passes on to the measurement capture. -/
inductive CaptureCall where
  | fragment (source : CaptureSource) (receivedMonotonicNs : Nat)
  | object (m : CaptureMeasurement)

/-- `UnsolicitedStore`, with the fields its mutex guards. -/
structure UnsolicitedStore where
  capacity : Nat
  positive : 0 < capacity
  hasCapture : Bool := true
  events : List Json := []
  sessionActive : Bool := false
  sessionId : Nat := 0
  enabledMask : BitVec 8 := 0
  currentUnsolicited : Bool := false
  currentFragment : Nat := 0
  lastSequence : Nat := 0
  receivedTotal : Nat := 0
  droppedTotal : Nat := 0
  fragmentsTotal : Nat := 0
  byKind : Counts Text := []
  byGroupVariation : Counts Text := []

/-- The parameters of `wait_unsolicited`. -/
structure WaitUnsolicitedConfig where
  timeoutMs : Nat := 0
  maxEvents : Nat := 256
deriving DecidableEq

/-- `class_list` -/
def classList (mask : BitVec 8) : List Nat := [1, 2, 3].filter fun value => mask.getLsbD value

def countsJson (table : Counts Text) : Json := .obj (table.map fun e => (e.1, .nat e.2))

namespace UnsolicitedStore

/-- A new session starts with nothing queued and nothing counted. -/
def beginSession (session : Nat) (s : UnsolicitedStore) : UnsolicitedStore :=
  { s with
    events := [], sessionActive := true, sessionId := session, enabledMask := 0, currentUnsolicited := false
    currentFragment := 0, lastSequence := 0, receivedTotal := 0, droppedTotal := 0, fragmentsTotal := 0
    byKind := [], byGroupVariation := [] }

/-- The end of a session clears the queue but not the counters. -/
def endSession (s : UnsolicitedStore) : UnsolicitedStore :=
  { s with
    events := [], sessionActive := false, sessionId := 0, enabledMask := 0, currentUnsolicited := false
    currentFragment := 0 }

/-- The enabled classes, while a session is active. -/
def updateEnabled (mask : BitVec 8) (enabled : Bool) (s : UnsolicitedStore) : UnsolicitedStore :=
  if !s.sessionActive then s
  else { s with enabledMask := if enabled then s.enabledMask ||| mask else s.enabledMask &&& ~~~mask }

/-- A fragment is ours only if it is unsolicited and a session is active. -/
def beginFragment (now : Nat) (info : ResponseInfo) (s : UnsolicitedStore) : UnsolicitedStore × List CaptureCall :=
  let s := { s with currentUnsolicited := s.sessionActive && info.unsolicited }
  if s.currentUnsolicited then
    ({ s with currentFragment := s.fragmentsTotal + 1, fragmentsTotal := s.fragmentsTotal + 1 },
      if s.hasCapture then [.fragment .unsolicited now] else [])
  else (s, [])

def endFragment (s : UnsolicitedStore) : UnsolicitedStore :=
  { s with currentUnsolicited := false, currentFragment := 0 }

/-- `std::to_string(group) + ":" + std::to_string(variation)` -/
def groupVariationKey (info : HeaderInfo) : Text := decimal info.group.val ++ text ":" ++ decimal info.variation.val

/-- The record of a measurement, with what the measurement adds at the end. -/
def eventJson (receiveSequence receivedAt sessionId : Nat) (info : HeaderInfo) (r : Reading) (fragment : Nat) : Json :=
  .object <|
    [("receive_seq", .nat receiveSequence), ("received_monotonic_ns", .nat receivedAt), ("session_id", .nat sessionId)]
      ++ measurementFields info r .unsolicited fragment ++ r.extra

/-- An event of an open fragment is queued; the oldest makes room. -/
def record (now : Nat) (info : HeaderInfo) (r : Reading) (s : UnsolicitedStore) : UnsolicitedStore × List CaptureCall :=
  if !s.sessionActive || !s.currentUnsolicited then (s, [])
  else
    let event := eventJson (s.lastSequence + 1) now s.sessionId info r s.currentFragment
    let calls : List CaptureCall :=
      if s.hasCapture then [.object ⟨.unsolicited, r.kind, info.group, info.variation, r.index, r.value, now⟩] else []
    let s := { s with
      lastSequence := s.lastSequence + 1
      receivedTotal := s.receivedTotal + 1
      byKind := s.byKind.increment (text r.kind)
      byGroupVariation := s.byGroupVariation.increment (groupVariationKey info) }
    let s := if s.events.length = s.capacity then
        { s with events := s.events.tail, droppedTotal := s.droppedTotal + 1 }
      else s
    ({ s with events := s.events ++ [event] }, calls)

/-- How many events a `take` selects; none while a fragment is being processed. -/
def selected (maxEvents : Nat) (s : UnsolicitedStore) : Nat :=
  if s.currentUnsolicited then 0 else min maxEvents s.events.length

/-- What `wait_unsolicited` answers. -/
def takeReply (returned : List Json) (s : UnsolicitedStore) : BackendOperationResult :=
  if !s.sessionActive then
    .error { code := .notConnected, message := "no active DNP3 session is available for unsolicited events",
             details := .object [] }
  else .ok (.object
    [("session_id", .nat s.sessionId), ("enabled", .bool (s.enabledMask ≠ 0)),
     ("classes", .arr ((classList s.enabledMask).map .nat)), ("measurements", .arr returned),
     ("timed_out", .bool returned.isEmpty),
     ("summary", .object
       [("returned", .nat returned.length), ("remaining", .nat s.events.length),
        ("received_total", .nat s.receivedTotal), ("dropped_total", .nat s.droppedTotal),
        ("queue_capacity", .nat s.capacity), ("last_receive_seq", .nat s.lastSequence),
        ("fragments_total", .nat s.fragmentsTotal), ("by_kind", countsJson s.byKind),
        ("by_group_variation", countsJson s.byGroupVariation)])])

/-- The events that are taken leave the queue. -/
def take (config : WaitUnsolicitedConfig) (s : UnsolicitedStore) : UnsolicitedStore × BackendOperationResult :=
  let count := s.selected config.maxEvents
  let returned := s.events.take count
  let s := { s with events := s.events.drop count }
  (s, s.takeReply returned)

end UnsolicitedStore

end EmsDnp3.Native
