import EmsDnp3.Base.Rounding
import EmsDnp3.Native.JsonLineProtocol

/-!
# The event generator of the local outstation

`generate_events` of `local_outstation_main.cpp`, on unsigned 64-bit integers. The pauses between paced
events are left out: they decide when a batch is applied and not what is in it.
-/

namespace EmsDnp3.Native.LocalOutstation

/-- The limits on a generated sequence. -/
def kMaximumGeneratedEvents : Nat := 65535
def kMaximumGeneratedDurationUs : Nat := 55 * 1000 * 1000
def kMaximumDnp3Timestamp : Nat := 2 ^ 48 - 1

/-- What `parse_arguments` reads of the command line. -/
structure Options where
  pointCount : Nat
  pointCountOk : 1 ≤ pointCount ∧ pointCount ≤ 65535

/-- An unsigned integer up to a maximum. -/
def unsignedValue (value : Json) (maximum : Nat) : Option UInt64 :=
  match integer? value with
  | some n => if 0 ≤ n ∧ n ≤ maximum then some (UInt64.ofNat n.toNat) else none
  | none => none

def timestamp (value : Json) : Option UInt64 := unsignedValue value kMaximumDnp3Timestamp

def generatorFields : List String :=
  ["type", "count", "seed", "start_sequence", "timestamp_base_ms", "point_span", "interval_us"]

/-- The order in which an unordered set is walked through. -/
structure IterationOrder (fields : List String) where
  order : List String
  same : order.Perm fields

/-- `require_fields` without optional fields. -/
def requireFields {required : List String} (set : IterationOrder required) (request : Request) :
    Except ProtocolError Unit :=
  match set.order.find? fun field => (request.params.get? (text field)).isNone with
  | some field => .error (invalidRequest (some request.id) "params is missing a required field" "missing_field"
      [("field", .str field)])
  | none =>
    match request.params.keys.find? fun key => !(required.map text).contains key with
    | some key => .error (invalidRequest (some request.id) "params contains an unknown field" "unknown_field"
        [("field", .str key)])
    | none => .ok ()

/-- How an outstation database takes an update. -/
inductive EventMode where
  | detect
  | force
  | suppress
  | eventOnly
deriving DecidableEq, Repr

/-- What is put into the outstation database. -/
inductive Measurement where
  | binary (value : Bool)
  | analog (value : ℚ)
deriving DecidableEq

/-- One call of `UpdateBuilder::Update`. -/
structure Update where
  measurement : Measurement
  flags : UInt8
  time : UInt64
  index : UInt16
  mode : EventMode
deriving DecidableEq

/-- `UpdateBuilder::Update` queues and never refuses. -/
def UpdateBuilder.update (updates : List Update) (next : Update) : List Update × Bool := (updates ++ [next], true)

/-- The checked parameters of one request. -/
structure Generator where
  analog : Bool
  count : UInt64
  seed : UInt64
  startSequence : UInt64
  timestampBase : UInt64
  pointSpan : UInt64
  intervalUs : UInt64

namespace Generator

def typeName (g : Generator) : String := if g.analog then "analog_input" else "binary_input"

/-- The type of the events. -/
def readType (request : Request) : Except ProtocolError Bool :=
  match request.params.get? "type" with
  | some (.str type) =>
    if type = text "binary_input" then .ok false
    else if type = text "analog_input" then .ok true
    else .error ⟨some request.id, .invalidRequest, "generator supports binary_input or analog_input",
      .object [("reason", .str "unsupported_type"), ("type", .str type)]⟩
  | _ => .error (invalidRequest (some request.id) "type must be a string" "invalid_type" [])

/-- The numbers, each within its own range. -/
def readNumbers (options : Options) (params : Json) (analog : Bool) : Option Generator := do
  let count ← (params.get? "count").bind (unsignedValue · kMaximumGeneratedEvents)
  let seed ← (params.get? "seed").bind (unsignedValue · (2 ^ 63 - 1))
  let startSequence ← (params.get? "start_sequence").bind (unsignedValue · (2 ^ 63 - 1))
  let timestampBase ← (params.get? "timestamp_base_ms").bind timestamp
  let pointSpan ← (params.get? "point_span").bind (unsignedValue · options.pointCount)
  let intervalUs ← (params.get? "interval_us").bind (unsignedValue · kMaximumGeneratedDurationUs)
  if count = 0 ∨ pointSpan = 0 then none
  else some { analog, count, seed, startSequence, timestampBase, pointSpan, intervalUs }

/-- The sequence, the timestamps or the duration would overflow. -/
def overflows (g : Generator) : Bool :=
  let offset := g.count - 1
  let maximumSequence := UInt64.ofNat (2 ^ 63 - 1)
  maximumSequence - offset < g.startSequence || UInt64.ofNat kMaximumDnp3Timestamp - offset < g.timestampBase
    || (g.intervalUs ≠ 0 && UInt64.ofNat kMaximumGeneratedDurationUs / g.intervalUs < g.count)

/-- The checks of the request, in their order. -/
def read (set : IterationOrder generatorFields) (options : Options) (request : Request) :
    Except ProtocolError Generator := do
  requireFields set request
  let analog ← readType request
  match readNumbers options request.params analog with
  | none => .error (invalidRequest (some request.id) "generator numeric fields are outside their bounded ranges"
      "invalid_generator_range" [])
  | some g =>
    rejectIf g.overflows (invalidRequest (some request.id)
      "generated sequence, timestamp, or duration would overflow" "generator_overflow" [])
    return g

variable (g : Generator)

/-- The update of one turn of the loop. -/
def event (offsetIndex : UInt64) : Update :=
  let sequence := g.startSequence + offsetIndex
  { measurement :=
      if g.analog then
        .analog (binary64 ((sequence % 1000000).toNat + binary64 ((g.seed % 1000).toNat / 1000)))
      else .binary ((g.seed ^^^ sequence) &&& 1 != 0)
    flags := 0x01
    time := g.timestampBase + offsetIndex
    index := ((g.seed + sequence) % g.pointSpan).toUInt16
    mode := .force }

/-- Where the loop stands: what is queued and counted, what is applied, and the turn that failed. -/
structure Emission where
  updates : List Update := []
  pending : UInt64 := 0
  applied : List (List Update) := []
  rejected : Option UInt64 := none

/-- One turn of the loop. -/
def turn (e : Emission) (offsetIndex : UInt64) : Emission :=
  if e.rejected.isSome then e
  else
    let (updates, applied) := UpdateBuilder.update e.updates (g.event offsetIndex)
    if !applied then { e with rejected := some offsetIndex }
    else if g.intervalUs ≠ 0 || e.pending + 1 = 1024 || offsetIndex + 1 = g.count then
      { applied := e.applied ++ [updates] }
    else { e with updates, pending := e.pending + 1 }

/-- The loop over the offsets. -/
def emit : Emission := ((List.range g.count.toNat).map UInt64.ofNat).foldl g.turn {}

/-- The result of a request. -/
def result : Json :=
  .object [("generator", .str "local_deterministic_event_generator"), ("generator_version", .str "1"),
    ("type", .str g.typeName), ("event_total", .nat g.count.toNat), ("seed", .nat g.seed.toNat),
    ("start_sequence", .nat g.startSequence.toNat), ("end_sequence", .nat (g.startSequence + (g.count - 1)).toNat),
    ("timestamp_base_ms", .nat g.timestampBase.toNat), ("point_span", .nat g.pointSpan.toNat),
    ("interval_us", .nat g.intervalUs.toNat), ("event_mode", .str "force")]

end Generator

/-- The branch of `dispatch`: the response, and the batches that are applied. -/
def generateEvents (set : IterationOrder generatorFields) (options : Options) (request : Request) :
    Json × List (List Update) :=
  match Generator.read set options request with
  | .error error => (errorResponse error, [])
  | .ok g =>
    match g.emit.rejected with
    | some offset => (errorResponse ⟨some request.id, .internalError, "local generator rejected a validated event",
        .object [("offset", .nat offset.toNat)]⟩, g.emit.applied)
    | none => (successResponse request.id g.result, g.emit.applied)

namespace Generator

/-- What was handed over and what is still queued. -/
def Emission.stream (e : Emission) : List Update := e.applied.flatten ++ e.updates

/-- One turn appends one event, and the last turn leaves nothing queued. -/
theorem turn_spec (g : Generator) {e : Emission} (offsetIndex : UInt64) (going : e.rejected = none) :
    (g.turn e offsetIndex).rejected = none ∧ (g.turn e offsetIndex).stream = e.stream ++ [g.event offsetIndex] ∧
      (offsetIndex + 1 = g.count → (g.turn e offsetIndex).updates = []) := by
  unfold turn
  rw [going]
  simp only [Option.isSome_none, Bool.false_eq_true, if_false, UpdateBuilder.update, Bool.not_true]
  split
  · refine ⟨rfl, ?_, fun _ => rfl⟩
    simp only [Emission.stream, List.flatten_append, List.flatten_cons, List.flatten_nil, List.append_nil,
      List.append_assoc]
  · next keep =>
    refine ⟨rfl, ?_, fun last => ?_⟩
    · simp only [Emission.stream, List.append_assoc]
    · simp [last] at keep

/-- The loop hands over the events of all offsets, in order. -/
theorem emit_spec (g : Generator) : g.emit.rejected = none ∧
      g.emit.applied.flatten = (List.range g.count.toNat).map fun offset => g.event (.ofNat offset) := by
  have run : ∀ turns, turns ≤ g.count.toNat →
      (((List.range turns).map UInt64.ofNat).foldl g.turn {}).rejected = none ∧
        (((List.range turns).map UInt64.ofNat).foldl g.turn {}).stream =
          (List.range turns).map (fun offset => g.event (.ofNat offset)) ∧
        (turns = g.count.toNat → (((List.range turns).map UInt64.ofNat).foldl g.turn {}).updates = []) := by
    intro turns
    induction turns with
    | zero =>
      intro _
      exact ⟨rfl, rfl, fun _ => rfl⟩
    | succ turns ih =>
      intro inside
      obtain ⟨going, stream, -⟩ := ih (by omega)
      obtain ⟨still, more, last⟩ := g.turn_spec (.ofNat turns) going
      simp only [List.range_succ, List.map_append, List.map_cons, List.map_nil, List.foldl_append, List.foldl_cons,
        List.foldl_nil]
      refine ⟨still, by rw [more, stream], fun whole => last ?_⟩
      have bound := g.count.toNat_lt
      have one : (1 : UInt64).toNat = 1 := rfl
      apply UInt64.toNat_inj.mp
      rw [UInt64.toNat_add, UInt64.toNat_ofNat_of_lt' (by omega : turns < 2 ^ 64), ← whole]
      exact Nat.mod_eq_of_lt (by omega)
  obtain ⟨going, stream, last⟩ := run g.count.toNat le_rfl
  refine ⟨going, ?_⟩
  rw [Emission.stream, last rfl, List.append_nil] at stream
  exact stream

end Generator

end EmsDnp3.Native.LocalOutstation
