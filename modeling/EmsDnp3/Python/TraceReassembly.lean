import EmsDnp3.Python.TraceProvenance
import EmsDnp3.Python.TraceStream

/-!
# Reassembly of lossless traffic

One record of the log of some traffic, taken by the decoder. The invariant is about what is
still to come: each route's pending segments are the part of one fragment that the rest of the
traffic completes (`Awaits`), and at most one frame is pending, the one whose lines are being
shown (`Following`).
-/

namespace EmsDnp3.Python

/-- The transport header of the frame. -/
def Piece.transport (p : Piece) : TransportHeader := transportHeader (transportByte p.isFirst p.isLast p.sequence)

theorem Piece.transport_eq (p : Piece) : p.transport = ⟨transportByte p.isFirst p.isLast p.sequence, p.isFirst, p.isLast,
    (p.fragment.start.val + p.position) % 64⟩ := by
  rw [transport, transportHeader_transportByte, sequence, Nat.mod_mod]

/-- The decoded form of a frame. -/
structure Piece.Decoded (p : Piece) (f : TraceFrame) : Prop where
  sessionId : f.sessionId = p.sessionId
  direction : f.direction = p.direction
  raw : f.raw = p.wire
  payload : f.payload = p.payload
  source : f.link.source = p.source.val
  destination : f.link.destination = p.destination.val
  transport : f.transport = some p.transport
  crcValid : f.crcValid = true
  decodeError : f.decodeError = none

/-- The decoded form of a fragment. -/
structure Completed (sent : Route × Fragment) (a : TraceApplication) : Prop where
  sessionId : a.sessionId = sent.1.sessionId
  direction : a.direction = sent.1.direction
  raw : a.raw = sent.2.raw

/-- The issue is about an application fragment. -/
def Issue.isApplication : Issue → Bool
  | .application _ => true
  | _ => false

/-! ## The octets of a frame are decoded -/

/-- A record of a piece has its session and its direction. -/
theorem hexDirection_of_key {record : TraceRecord} {p : Piece} (key : TraceDecoder.linkKey record = p.key) :
    record.sessionId = p.sessionId ∧ record.hexDirection = p.direction := by
  simp only [TraceDecoder.linkKey, Piece.key, LinkKey.mk.injEq] at key
  exact ⟨key.1, key.2.1⟩

/-- The octets of a piece decode to it. -/
theorem linkFrame_decoded {p : Piece} {pending : LinkPending} {record : TraceRecord} (data : pending.data = p.wire)
    (key : TraceDecoder.linkKey record = p.key) : p.Decoded (linkFrame pending record) := by
  obtain ⟨session, direction⟩ := hexDirection_of_key key
  have body : p.wire.drop 10 = (payloadBlocks p.payload.length p.payload).flatMap wireBlock := by
    rw [p.wire_eq, List.drop_left' (by rw [length_wireBlock, p.length_header]), Piece.blocks, List.flatMap_def]
  have blocks : readBlocks p.wire.length (p.wire.drop 10) = (true, p.payload) := by
    rw [body]
    apply readBlocks_payloadBlocks le_rfl
    rw [← body, List.length_drop]
    omega
  have header : headerValid p.wire = true := by
    have first : p.wire.take 8 = p.header := by
      rw [p.wire_eq, wireBlock, List.append_assoc, List.take_left' p.length_header]
    have checksum : (p.wire.drop 8).take 2 = crcBytes p.header := by
      rw [p.wire_eq, wireBlock, List.append_assoc, List.drop_left' p.length_header]
      exact List.take_left' (length_crcBytes _)
    rw [headerValid, first, checksum, crcBytes, littleEndian_twoBytes]
    exact decide_eq_true rfl
  have control : byteAt p.wire 3 = p.control := rfl
  have outcome : classify true p.control p.payload =
      (none, some p.transport) :=
    classify_userData p.userData _ _
  have destination : (p.wire.drop 4).take 2 = twoBytes p.destination := rfl
  have source : (p.wire.drop 6).take 2 = twoBytes p.source := rfl
  constructor
  · exact session
  · exact direction
  · exact data
  · show (readBlocks pending.data.length (pending.data.drop 10)).2 = _
    rw [data, blocks]
  · show littleEndian ((pending.data.drop 6).take 2) = _
    rw [data, source, littleEndian_twoBytes]
  · show littleEndian ((pending.data.drop 4).take 2) = _
    rw [data, destination, littleEndian_twoBytes]
  · simp only [linkFrame, data, blocks, header, control, Bool.and_self, outcome]
  · simp only [linkFrame, data, blocks, header, Bool.and_self]
  · simp only [linkFrame, data, blocks, header, control, Bool.and_self, outcome]

/-! ## Segments of one route -/

/-- What is pending before the segment `k` of a fragment. -/
def Holds (pending : Option TransportPending) (f : Fragment) (k : Nat) : Prop :=
  match pending with
  | none => k = 0
  | some pending => 0 < k ∧ pending.nextSequence = (f.start.val + k) % 64 ∧
      pending.data = (f.segments.take k).flatten ∧ pending.frames.length = k

/-- The rest of a route's traffic completes what is pending on it. -/
def Awaits (pending : Option TransportPending) (rest : List (Fragment × Nat)) : Prop :=
  match pending with
  | none => ∃ fragments : List Fragment, rest = fragments.flatMap (·.places)
  | some _ => ∃ (f : Fragment) (k : Nat) (fragments : List Fragment), k < f.segments.length ∧
      rest = f.places.drop k ++ fragments.flatMap (·.places) ∧ Holds pending f k

/-- What is left of a fragment: this segment and those behind it. -/
theorem Fragment.drop_places (f : Fragment) {k : Nat} (inside : k < f.segments.length) :
    f.places.drop k = (f, k) :: f.places.drop (k + 1) := by
  have long : k < f.places.length := by simpa [places] using inside
  rw [List.drop_eq_getElem_cons long]
  simp [places]

theorem Fragment.drop_places_end (f : Fragment) : f.places.drop f.segments.length = [] := by
  apply List.drop_eq_nil_of_le
  simp [places]

/-- What is pending when the segment `(f, k)` comes. -/
theorem Awaits.next {pending : Option TransportPending} {f : Fragment} {k : Nat} {rest : List (Fragment × Nat)}
    (awaits : Awaits pending ((f, k) :: rest)) :
    (∃ fragments : List Fragment, rest = f.places.drop (k + 1) ++ fragments.flatMap (·.places)) ∧
      Holds pending f k := by
  cases pending with
  | none =>
    obtain ⟨fragments, split⟩ := awaits
    cases fragments with
    | nil => cases split
    | cons g fragments =>
      have positive : 0 < g.segments.length := List.length_pos_iff.mpr g.some_
      rw [List.flatMap_cons, ← List.drop_zero (l := g.places), g.drop_places positive, List.cons_append] at split
      obtain ⟨place, rfl⟩ := List.cons.inj split
      obtain ⟨rfl, rfl⟩ := Prod.mk.inj place
      exact ⟨⟨fragments, rfl⟩, rfl⟩
  | some pending =>
    obtain ⟨g, j, fragments, inside, split, holds⟩ := awaits
    rw [g.drop_places inside, List.cons_append] at split
    obtain ⟨place, rfl⟩ := List.cons.inj split
    obtain ⟨rfl, rfl⟩ := Prod.mk.inj place
    exact ⟨⟨fragments, rfl⟩, holds⟩

/-- Nothing is pending when nothing is to come. -/
theorem Awaits.finished {pending : Option TransportPending} (awaits : Awaits pending []) : pending = none := by
  cases pending with
  | none => rfl
  | some pending =>
    obtain ⟨f, k, fragments, inside, split, -⟩ := awaits
    rw [f.drop_places inside] at split
    cases split

/-- Reassembly: every route awaits its part of the frames to come. -/
structure Reassembling (routes : List Route) (transports : Transports) (pieces : List Piece) : Prop where
  few : routes.length ≤ maxRoutes
  routed : ∀ p ∈ pieces, p.route ∈ routes
  awaits : ∀ route, Awaits (transports.lookup route) ((pieces.filter (·.route = route)).map (·.place))

section
variable {routes : List Route} {transports : Transports} {p : Piece} {pieces : List Piece}

theorem Reassembling.here (r : Reassembling routes transports (p :: pieces)) :
    Awaits (transports.lookup p.route) (p.place :: (pieces.filter (·.route = p.route)).map (·.place)) := by
  simpa using r.awaits p.route

/-- A route that waits is one of the traffic's. -/
theorem Reassembling.known (r : Reassembling routes transports pieces) {route : Route}
    (pending : route ∈ transports.keys) : route ∈ routes := by
  have awaits := r.awaits route
  cases found : transports.lookup route with
  | none =>
    exact absurd pending (AList.lookup_eq_none.mp found)
  | some value =>
    rw [found] at awaits
    cases rest : pieces.filter (·.route = route) with
    | nil =>
      rw [rest] at awaits
      cases Awaits.finished awaits
    | cons q more =>
      have mem : q ∈ pieces.filter (·.route = route) := rest ▸ List.mem_cons_self
      obtain ⟨inside, same⟩ := List.mem_filter.mp mem
      exact of_decide_eq_true same ▸ r.routed q inside

/-- There is room for a new route. -/
theorem Reassembling.room (r : Reassembling routes transports (p :: pieces))
    (absent : transports.lookup p.route = none) : transports.entries.length < maxRoutes := by
  have fresh : p.route ∉ transports.keys := AList.lookup_eq_none.mp absent
  have nodup : (p.route :: transports.keys).Nodup := List.nodup_cons.mpr ⟨fresh, transports.keys_nodup⟩
  have subset : p.route :: transports.keys ⊆ routes := by
    intro route mem
    rcases List.mem_cons.mp mem with rfl | pending
    · exact r.routed p List.mem_cons_self
    · exact r.known pending
  have bound := (List.subperm_of_subset nodup subset).length_le
  have keys : transports.keys.length = transports.entries.length := by simp [AList.keys, List.keys]
  rw [List.length_cons, keys] at bound
  have := r.few
  omega

/-- Behind a piece its route waits for the next. -/
theorem Reassembling.update (r : Reassembling routes transports (p :: pieces)) {next : Transports}
    (others : ∀ route, route ≠ p.route → next.lookup route = transports.lookup route)
    (here : Awaits (next.lookup p.route) ((pieces.filter (·.route = p.route)).map (·.place))) :
    Reassembling routes next pieces := by
  refine ⟨r.few, fun q mem => r.routed q (List.mem_cons_of_mem _ mem), fun route => ?_⟩
  by_cases same : route = p.route
  · subst same
    exact here
  · rw [others route same]
    have := r.awaits route
    rwa [List.filter_cons_of_neg (by simpa using Ne.symm same)] at this

end

/-- What a decoded frame does to the decoder. -/
structure TransportRound (routes : List Route) (d d' : TraceDecoder) (p : Piece) (pieces : List Piece)
    (application : Option TraceApplication) : Prop where
  reassembling : Reassembling routes d'.transports pieces
  links : d'.links = d.links
  lastSequence : d'.lastSequence = d.lastSequence
  issues : (∀ i ∈ d.issues, i.isApplication = true) → ∀ i ∈ d'.issues, i.isApplication = true
  application : if p.isLast then ∃ a, application = some a ∧ Completed (p.route, p.fragment) a
    else application = none

/-- An issue of an application fragment is one. -/
theorem issues_issue {value : Issue} {d : TraceDecoder} (application : value.isApplication = true)
    (before : ∀ i ∈ d.issues, i.isApplication = true) : ∀ i ∈ (d.issue value).issues, i.isApplication = true := by
  unfold TraceDecoder.issue
  split
  · exact before
  · intro i mem
    rcases List.mem_append.mp mem with old | new
    · exact before i old
    · rwa [List.mem_singleton.mp new]

theorem Piece.take_succ (p : Piece) :
    p.fragment.segments.take (p.position + 1) = p.fragment.segments.take p.position ++ [p.segment] := by
  rw [List.take_succ_eq_append_getElem p.inside]
  rfl

/-- The next segment of a fragment is appended to it. -/
theorem appendSegment_round {routes : List Route} {d : TraceDecoder} {p : Piece} {pieces : List Piece}
    {f : TraceFrame} {pending : TransportPending} (decoded : p.Decoded f)
    (reassembling : Reassembling routes d.transports (p :: pieces))
    (sequence : pending.nextSequence = (p.fragment.start.val + p.position) % 64)
    (data : pending.data = (p.fragment.segments.take p.position).flatten)
    (frames : pending.frames.length = p.position) :
    TransportRound routes d
      (d.appendSegment f p.transport pending).1 p pieces
      (d.appendSegment f p.transport pending).2 := by
  have key : TraceDecoder.route f = p.route := by
    rw [TraceDecoder.route, decoded.sessionId, decoded.direction, decoded.source, decoded.destination, Piece.route]
  have segment : f.payload.drop 1 = p.segment := by
    rw [decoded.payload]
    rfl
  have appended : pending.data ++ p.segment = (p.fragment.segments.take (p.position + 1)).flatten := by
    rw [data, p.take_succ, List.flatten_append]
    simp
  have sized : pending.data.length + p.segment.length ≤ maxApdu := by
    rw [← List.length_append, appended]
    have whole := p.fragment.bounded
    rw [← List.take_append_drop (p.position + 1) p.fragment.segments, List.flatten_append, List.length_append] at whole
    omega
  have counted : pending.frames.length < maxSegments := by
    rw [frames]
    exact lt_of_lt_of_le p.inside p.fragment.few
  obtain ⟨fragments, rest⟩ := (Awaits.next reassembling.here).1
  unfold TraceDecoder.appendSegment
  simp only [p.transport_eq, key, segment, sequence, ne_eq, not_true, if_false]
  rw [if_neg (by omega)]
  by_cases last : p.isLast = true
  · -- the fragment is complete
    have complete : p.position + 1 = p.fragment.segments.length := of_decide_eq_true last
    rw [if_neg (by simp [last])]
    have here : Reassembling routes (d.transports.erase p.route) pieces := by
      refine reassembling.update (fun route other => AList.lookup_erase_ne other) ?_
      rw [AList.lookup_erase]
      refine ⟨fragments, ?_⟩
      rw [rest, complete, Fragment.drop_places_end, List.nil_append]
    have completed : Completed (p.route, p.fragment)
        (decodeApplication (pending.data ++ p.segment) f.sessionId f.direction
          (pending.frames ++ [f.firstSequence])) := by
      have fields : ∀ data session direction frames,
          (decodeApplication data session direction frames).sessionId = session ∧
          (decodeApplication data session direction frames).direction = direction ∧
          (decodeApplication data session direction frames).raw = data := by
        intro data session direction frames
        unfold decodeApplication
        split <;> exact ⟨rfl, rfl, rfl⟩
      obtain ⟨session, direction, raw⟩ := fields (pending.data ++ p.segment) f.sessionId f.direction
        (pending.frames ++ [f.firstSequence])
      refine ⟨session.trans decoded.sessionId, direction.trans decoded.direction, ?_⟩
      rw [raw, appended, complete, List.take_length, Fragment.raw]
    split
    · refine ⟨by simpa using here, by simp, by simp, fun before => issues_issue rfl before, ?_⟩
      rw [if_pos last]
      exact ⟨_, rfl, completed⟩
    · refine ⟨here, rfl, rfl, id, ?_⟩
      rw [if_pos last]
      exact ⟨_, rfl, completed⟩
  · have more : p.position + 1 < p.fragment.segments.length := by
      have notLast : p.position + 1 ≠ p.fragment.segments.length := fun same => last (decide_eq_true same)
      have := p.inside
      omega
    rw [if_pos (by simpa using last)]
    refine ⟨reassembling.update (fun route other => AList.lookup_insert_ne other) ?_, rfl, rfl, id, ?_⟩
    · rw [AList.lookup_insert]
      refine ⟨p.fragment, p.position + 1, fragments, more, rest, Nat.succ_pos _, ?_, appended, ?_⟩
      · show ((p.fragment.start.val + p.position) % 64 + 1) % 64 = _
        omega
      · rw [List.length_append, frames, List.length_singleton]
    · rw [if_neg last]

/-- A piece completes its fragment or goes on with it. -/
theorem consumeTransport_round {routes : List Route} {d : TraceDecoder} {p : Piece} {pieces : List Piece}
    {f : TraceFrame} (decoded : p.Decoded f) (reassembling : Reassembling routes d.transports (p :: pieces)) :
    TransportRound routes d (d.consumeTransport f).1 p pieces (d.consumeTransport f).2 := by
  have key : TraceDecoder.route f = p.route := by
    rw [TraceDecoder.route, decoded.sessionId, decoded.direction, decoded.source, decoded.destination, Piece.route]
  have fir : p.transport.fir = p.isFirst := by
    rw [p.transport_eq]
  have next := (Awaits.next reassembling.here).2
  unfold TraceDecoder.consumeTransport
  rw [decoded.decodeError, decoded.transport, key]
  simp only [Option.isSome_none, Bool.false_eq_true, if_false, fir]
  cases found : d.transports.lookup p.route with
  | none =>
    rw [found] at next
    have zero : p.position = 0 := next
    have first : p.isFirst = true := decide_eq_true zero
    have room := reassembling.room found
    simp only [first, if_true]
    rw [if_neg (by omega)]
    refine appendSegment_round decoded reassembling ?_ ?_ ?_
    · rw [p.transport_eq]
    · rw [zero]
      rfl
    · rw [zero]
      rfl
  | some pending =>
    rw [found] at next
    obtain ⟨positive, sequence, data, frames⟩ := next
    have later : p.isFirst = false := decide_eq_false (by omega)
    simp only [later, Bool.false_eq_true, if_false]
    exact appendSegment_round decoded reassembling sequence data frames

/-! ## Lines of one frame -/

/-- Where the decoder stands in the lines to come: between frames, or behind the first lines of
one. -/
inductive Following (links : Links) : List Piece → List (Piece × List Byte) → Prop where
  | between (pieces : List Piece) (empty : links = ∅) : Following links pieces (pieces.flatMap (·.lines))
  | inside (p : Piece) (pieces : List Piece) (first : TraceRecord) {before after : List (List Byte)} {chunk : List Byte}
      (split : p.blocks = before ++ chunk :: after)
      (pending : links = (∅ : Links).insert p.key ⟨first, p.wire.length, wireBlock p.header ++ before.flatten⟩) :
      Following links (p :: pieces) ((chunk :: after).map (fun c => (p, c)) ++ pieces.flatMap (·.lines))

/-- The decoder between two records of the log. -/
structure Tracks (routes : List Route) (d : TraceDecoder) (pieces : List Piece) (lines : List (Piece × List Byte)) :
    Prop where
  following : Following d.links pieces lines
  reassembling : Reassembling routes d.transports pieces
  issues : ∀ i ∈ d.issues, i.isApplication = true

/-- What a record contributes: a frame if it is the last line of one, and a fragment if the frame is
the last one of it. -/
inductive Contributes : List Piece → List Piece → TraceDecoder.Emitted → Prop where
  | none {pieces : List Piece} : Contributes pieces pieces {}
  | frame {p : Piece} {pieces : List Piece} {f : TraceFrame} {application : Option TraceApplication}
      (decoded : p.Decoded f)
      (completed : if p.isLast then ∃ a, application = some a ∧ Completed (p.route, p.fragment) a
        else application = none) :
      Contributes (p :: pieces) pieces ⟨some f, application⟩

theorem linkHex?_hexLine {chunk : List Byte} (some_ : chunk ≠ []) (short : chunk.length ≤ 18) :
    linkHex? (hexLine chunk) = some chunk := by
  rw [linkHex?, hexLine?_hexLine some_]
  exact if_pos short

theorem advanceLink_more {record : TraceRecord} {pending : LinkPending} {d : TraceDecoder}
    (more : pending.data.length ≠ pending.expected) : d.advanceLink record pending =
      ({ d with links := d.links.insert (TraceDecoder.linkKey record) pending }, none) := by
  rw [TraceDecoder.advanceLink, if_pos more]

theorem advanceLink_done {record : TraceRecord} {pending : LinkPending} {d : TraceDecoder}
    (complete : pending.data.length = pending.expected) (ok : (linkFrame pending record).decodeError = none) :
    d.advanceLink record pending =
      ({ d with links := d.links.erase (TraceDecoder.linkKey record) }, some (linkFrame pending record)) := by
  rw [TraceDecoder.advanceLink, if_neg (not_not_intro complete)]
  simp only [ok]

section
variable {d : TraceDecoder} {record : TraceRecord} {p : Piece} {chunk : List Byte}

/-- The header line starts a frame. -/
theorem consumeLink_header (shown : record.ShowsLine p (wireBlock p.header)) (empty : d.links = ∅) :
    d.consumeLink record =
      ({ d with links := (∅ : Links).insert p.key ⟨record, p.wire.length, wireBlock p.header⟩ }, none) := by
  have size : (wireBlock p.header).length = 10 := by rw [length_wireBlock, p.length_header]
  have nonempty : wireBlock p.header ≠ [] := by
    intro nil
    rw [nil] at size
    cases size
  have positive : 0 < p.blocks.flatten.length := by
    have := p.length_payload
    rw [p.length_blocks, blocksSize]
    omega
  have more : (wireBlock p.header).length ≠ p.wire.length := by
    rw [p.wire_eq, List.length_append]
    omega
  have none_ : d.links.lookup p.key = none := by rw [empty, AList.lookup_empty]
  have room : ¬ maxRoutes ≤ d.links.entries.length := by rw [empty]; decide
  rw [TraceDecoder.consumeLink, shown.message, linkHex?_hexLine nonempty (by omega), shown.key]
  dsimp only
  rw [none_]
  dsimp only
  rw [p.isFrameStart_header, p.expectedSize_eq, if_neg (by simp), if_neg room, advanceLink_more more, shown.key, empty]

/-- A line inside a frame continues it. -/
theorem consumeLink_block {first : TraceRecord} {before after : List (List Byte)}
    (shown : record.ShowsLine p chunk) (split : p.blocks = before ++ chunk :: after)
    (pending : d.links = (∅ : Links).insert p.key ⟨first, p.wire.length, wireBlock p.header ++ before.flatten⟩) :
    d.consumeLink record =
      d.advanceLink record ⟨first, p.wire.length, wireBlock p.header ++ (before ++ [chunk]).flatten⟩ := by
  obtain ⟨nonempty, short, full⟩ := p.blocks_fullLines before chunk after split
  have found : d.links.lookup p.key = some ⟨first, p.wire.length, wireBlock p.header ++ before.flatten⟩ := by
    rw [pending, AList.lookup_insert]
  have size : p.wire.length = (wireBlock p.header ++ before.flatten).length + (chunk.length + after.flatten.length) := by
    rw [p.wire_eq, split]
    simp only [List.flatten_append, List.flatten_cons, List.length_append]
    omega
  have fits : chunk.length = min 18 (p.wire.length - (wireBlock p.header ++ before.flatten).length) := by
    rcases full with full | rfl
    · omega
    · rw [size, List.flatten_nil, List.length_nil]
      omega
  rw [TraceDecoder.consumeLink, shown.message, linkHex?_hexLine nonempty short, shown.key]
  dsimp only
  rw [found]
  dsimp only
  rw [if_neg (not_not_intro fits), List.flatten_append, List.flatten_singleton, List.append_assoc]

theorem erase_insert_empty (key : LinkKey) (pending : LinkPending) :
    ((∅ : Links).insert key pending).erase key = ∅ := by
  apply AList.ext
  simp [AList.erase, List.kerase, AList.insert]

end

section
variable {d d' : TraceDecoder} {record : TraceRecord} (next : record.sequence = d.lastSequence + 1)
  (whole : record.messageTruncated = false) (hex : isHex record = true)
include next whole hex

/-- A line inside a frame emits nothing. -/
theorem consume_line (link : ({ d with lastSequence := record.sequence } : TraceDecoder).consumeLink record = (d', none)) :
    d.consume record = (d', {}) := by
  have loud : ¬ (record.level ≠ .linkRxHex ∧ record.level ≠ .linkTxHex) := by
    rintro ⟨notRx, notTx⟩
    simp [isHex, notRx, notTx] at hex
  rw [TraceDecoder.consume, if_neg (not_not_intro next), whole]
  simp only [Bool.false_eq_true, if_false, if_neg loud, link]

/-- The last line of a frame emits it, and what it completes. -/
theorem consume_lastLine {frame : TraceFrame}
    (link : ({ d with lastSequence := record.sequence } : TraceDecoder).consumeLink record = (d', some frame)) :
    d.consume record = ((d'.consumeTransport frame).1, ⟨some frame, (d'.consumeTransport frame).2⟩) := by
  have loud : ¬ (record.level ≠ .linkRxHex ∧ record.level ≠ .linkTxHex) := by
    rintro ⟨notRx, notTx⟩
    simp [isHex, notRx, notTx] at hex
  rw [TraceDecoder.consume, if_neg (not_not_intro next), whole]
  simp only [Bool.false_eq_true, if_false, if_neg loud, link]

end

/-- A quiet record only advances the sequence. -/
theorem consume_quiet {d : TraceDecoder} {record : TraceRecord} (next : record.sequence = d.lastSequence + 1)
    (whole : record.messageTruncated = false) (other : isHex record = false) :
    d.consume record = ({ d with lastSequence := record.sequence }, {}) := by
  have quiet : record.level ≠ .linkRxHex ∧ record.level ≠ .linkTxHex := by
    simpa [isHex] using other
  rw [TraceDecoder.consume, if_neg (not_not_intro next), whole]
  simp only [Bool.false_eq_true, if_false, if_pos quiet]

/-- **One line of the log.** -/
theorem Tracks.line {routes : List Route} {d : TraceDecoder} {pieces : List Piece} {lines : List (Piece × List Byte)}
    {p : Piece} {chunk : List Byte} {record : TraceRecord} (tracks : Tracks routes d pieces ((p, chunk) :: lines))
    (shown : record.ShowsLine p chunk) (next : record.sequence = d.lastSequence + 1)
    (whole : record.messageTruncated = false) :
    (d.consume record).1.lastSequence = record.sequence ∧
      ∃ rest, Tracks routes (d.consume record).1 rest lines ∧ Contributes pieces rest (d.consume record).2 := by
  obtain ⟨following, reassembling, issues⟩ := tracks
  generalize todo : (p, chunk) :: lines = remaining at following
  cases following with
  | between _ empty =>
    cases pieces with
    | nil => cases todo
    | cons q pieces =>
      rw [List.flatMap_cons, Piece.lines, Piece.chunks, List.map_cons, List.cons_append] at todo
      obtain ⟨here, rfl⟩ := List.cons.inj todo
      obtain ⟨rfl, rfl⟩ := Prod.mk.inj here
      rw [consume_line next whole shown.hex (consumeLink_header shown empty)]
      refine ⟨rfl, p :: pieces, ⟨?_, reassembling, issues⟩, .none⟩
      obtain ⟨block, after, split⟩ := List.exists_cons_of_ne_nil p.blocks_ne_nil
      have start : p.blocks = [] ++ block :: after := split
      have := Following.inside p pieces record start rfl
      rw [← split, List.flatten_nil, List.append_nil] at this
      exact this
  | inside q pieces first split pending =>
    rw [List.map_cons, List.cons_append] at todo
    obtain ⟨here, rfl⟩ := List.cons.inj todo
    obtain ⟨rfl, rfl⟩ := Prod.mk.inj here
    rename_i before after
    have taken := consumeLink_block (d := { d with lastSequence := record.sequence }) shown split pending
    cases after with
    | nil =>
      -- the last line: the frame is complete
      have data : wireBlock p.header ++ (before ++ [chunk]).flatten = p.wire := by
        rw [p.wire_eq, split]
      have decoded : p.Decoded (linkFrame ⟨first, p.wire.length, _⟩ record) := linkFrame_decoded data shown.key
      rw [advanceLink_done (congrArg List.length data) decoded.decodeError] at taken
      rw [consume_lastLine next whole shown.hex taken]
      have empty : d.links.erase (TraceDecoder.linkKey record) = ∅ := by
        rw [shown.key, pending, erase_insert_empty]
      dsimp only
      rw [empty]
      have round := consumeTransport_round (d := { d with lastSequence := record.sequence, links := ∅ })
        decoded reassembling
      refine ⟨round.lastSequence, pieces, ⟨?_, round.reassembling, round.issues issues⟩, .frame decoded round.application⟩
      rw [round.links]
      exact .between pieces rfl
    | cons block after =>
      have more : (wireBlock p.header ++ (before ++ [chunk]).flatten).length ≠ p.wire.length := by
        have split' : p.blocks = (before ++ [chunk]) ++ block :: after := by rw [split, List.append_assoc]; rfl
        have positive := List.length_pos_iff.mpr (p.blocks_fullLines _ _ _ split').1
        rw [p.wire_eq, split']
        simp only [List.flatten_append, List.flatten_cons, List.length_append]
        omega
      rw [advanceLink_more more] at taken
      rw [consume_line next whole shown.hex taken]
      refine ⟨rfl, p :: pieces, ⟨?_, reassembling, issues⟩, .none⟩
      have links : d.links.insert (TraceDecoder.linkKey record)
          ⟨first, p.wire.length, wireBlock p.header ++ (before ++ [chunk]).flatten⟩ =
          (∅ : Links).insert p.key ⟨first, p.wire.length, wireBlock p.header ++ (before ++ [chunk]).flatten⟩ := by
        rw [shown.key, pending, AList.insert_insert]
      dsimp only
      rw [links]
      exact .inside p pieces first (by rw [split, List.append_assoc]; rfl) rfl

end EmsDnp3.Python
