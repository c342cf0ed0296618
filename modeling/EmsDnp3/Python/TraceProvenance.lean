import EmsDnp3.Python.TraceFrames

/-!
# Where application fragments come from

Every fragment the decoder emits is the content of intact frames of one route, taken from
records that were delivered one after the other, none of them truncated. The decoder keeps
partial frames and fragments from record to record and from batch to batch; the invariant
(`Sourced`) says of each of them which delivered records it was collected from.
-/

namespace EmsDnp3.Python

/-- Delivered one after the other, none truncated. -/
structure Unbroken (run : List TraceRecord) (first last : Nat) : Prop where
  starts : run.head?.map (·.sequence) = some first
  ends : run.getLast?.map (·.sequence) = some last
  consecutive : run.IsChain fun a b => b.sequence = a.sequence + 1
  whole : ∀ r ∈ run, r.messageTruncated = false

theorem Unbroken.single {record : TraceRecord} (whole : record.messageTruncated = false) :
    Unbroken [record] record.sequence record.sequence :=
  ⟨rfl, rfl, .singleton _, by simpa using whole⟩

/-- The next whole record keeps it so. -/
theorem Unbroken.concat {run : List TraceRecord} {first last : Nat} {record : TraceRecord}
    (u : Unbroken run first last) (next : record.sequence = last + 1) (whole : record.messageTruncated = false) :
    Unbroken (run ++ [record]) first record.sequence := by
  obtain ⟨final, isLast, rfl⟩ := Option.map_eq_some_iff.mp u.ends
  refine ⟨?_, by simp, ?_, ?_⟩
  · obtain ⟨head, isHead, rfl⟩ := Option.map_eq_some_iff.mp u.starts
    rw [List.head?_append, isHead]
    rfl
  · refine List.isChain_append.mpr ⟨u.consecutive, .singleton _, ?_⟩
    intro a memA b memB
    rw [isLast] at memA
    obtain rfl := Option.mem_some_iff.mp memA
    obtain rfl := Option.mem_some_iff.mp memB
    exact next
  · intro r mem
    rcases List.mem_append.mp mem with old | new
    · exact u.whole r old
    · rwa [List.mem_singleton.mp new]

/-- A hexadecimal link record of the key. -/
def isChunkOf (key : LinkKey) (record : TraceRecord) : Bool :=
  (record.level = .linkRxHex || record.level = .linkTxHex) && TraceDecoder.linkKey record = key

/-- The octets that the records of `run` show for the key. -/
def collected (key : LinkKey) (run : List TraceRecord) : List Byte :=
  (run.filter (isChunkOf key)).flatMap fun r => (linkHex? r.message).getD []

theorem collected_concat (key : LinkKey) (run : List TraceRecord) (record : TraceRecord) :
    collected key (run ++ [record]) =
      collected key run ++ if isChunkOf key record then (linkHex? record.message).getD [] else [] := by
  simp only [collected, List.filter_append, List.flatMap_append]
  by_cases chunk : isChunkOf key record <;> simp [chunk]

/-- The octets of a frame are those of unbroken delivered records, from its first to its last. -/
def FrameFrom (log : List TraceRecord) (f : TraceFrame) : Prop :=
  ∃ logger run, run <:+: log ∧ Unbroken run f.firstSequence f.lastSequence ∧
    f.raw = collected ⟨f.sessionId, f.direction, logger⟩ run

namespace TraceFrame

/-- The transport octet of user data. -/
def transportOctet (f : TraceFrame) : Byte := f.payload.headD (.ofNat 0)

def fir (f : TraceFrame) : Bool := hasBits f.transportOctet 0x40

def fin (f : TraceFrame) : Bool := hasBits f.transportOctet 0x80

def transportSequence (f : TraceFrame) : Nat := f.transportOctet.val &&& 0x3F

/-- What the frame carries of an application fragment. -/
def segment (f : TraceFrame) : List Byte := f.payload.drop 1

end TraceFrame

/-- Segments of one route from a first segment on, in sequence. The route is the one that the octets of each frame name. -/
structure Segments (key : Route) (frames : List TraceFrame) : Prop where
  intact : ∀ f ∈ frames, IntactFrame f
  routed : ∀ f ∈ frames, wireRoute f = key
  first : ∃ f rest, frames = f :: rest ∧ f.fir = true ∧ ∀ g ∈ rest, g.fir = false
  consecutive : frames.IsChain fun f g => g.transportSequence = (f.transportSequence + 1) % 64

theorem Segments.single {f : TraceFrame} (intact : IntactFrame f) (fir : f.fir = true) :
    Segments (TraceDecoder.route f) [f] :=
  ⟨by simpa using intact, by simp [intact.route], ⟨f, [], rfl, fir, by simp⟩, .singleton _⟩

/-- The next segment of the route continues it. -/
theorem Segments.concat {key : Route} {frames : List TraceFrame} {last f : TraceFrame}
    (s : Segments key (frames ++ [last])) (intact : IntactFrame f) (routed : TraceDecoder.route f = key)
    (fir : f.fir = false) (next : f.transportSequence = (last.transportSequence + 1) % 64) :
    Segments key (frames ++ [last] ++ [f]) := by
  refine ⟨?_, ?_, ?_, ?_⟩
  · intro g mem
    rcases List.mem_append.mp mem with old | new
    · exact s.intact g old
    · rwa [List.mem_singleton.mp new]
  · intro g mem
    rcases List.mem_append.mp mem with old | new
    · exact s.routed g old
    · rw [List.mem_singleton.mp new, ← intact.route]
      exact routed
  · obtain ⟨first, rest, split, isFir, others⟩ := s.first
    refine ⟨first, rest ++ [f], by rw [split]; rfl, isFir, ?_⟩
    intro g mem
    rcases List.mem_append.mp mem with old | new
    · exact others g old
    · rwa [List.mem_singleton.mp new]
  · refine List.isChain_append.mpr ⟨s.consecutive, .singleton _, ?_⟩
    intro a memA b memB
    rw [List.getLast?_append_of_ne_nil _ (by simp)] at memA
    obtain rfl := Option.mem_some_iff.mp memA
    obtain rfl := Option.mem_some_iff.mp memB
    exact next

/-- The source of a partial frame: unbroken records at the end of the log. -/
def LinkSourced (log : List TraceRecord) (last : Nat) (key : LinkKey) (pending : LinkPending) : Prop :=
  pending.expected = expectedSize (byteAt pending.data 2) ∧ 10 ≤ pending.data.length ∧
    ∃ run, run <:+ log ∧ Unbroken run pending.first.sequence last ∧ pending.data = collected key run

/-- The source of a partial fragment: segments without a final one among the frames emitted so far,
and unbroken records from the first of them to the end of the log. -/
def TransportSourced (log : List TraceRecord) (out : List TraceFrame) (last : Nat) (key : Route)
    (pending : TransportPending) : Prop :=
  ∃ init final, (init ++ [final]).Sublist out ∧ Segments key (init ++ [final]) ∧
    (∀ f ∈ init ++ [final], f.fin = false ∧ FrameFrom log f) ∧
    pending.data = (init ++ [final]).flatMap (·.segment) ∧
    pending.nextSequence = (final.transportSequence + 1) % 64 ∧
    ∃ run first, (init ++ [final]).head?.map (·.firstSequence) = some first ∧ run <:+ log ∧ Unbroken run first last

/-- **The source of a fragment.** -/
structure FragmentFrom (log : List TraceRecord) (out : List TraceFrame) (app : TraceApplication) (key : Route)
    (frames : List TraceFrame) : Prop where
  session : app.sessionId = key.sessionId
  direction : app.direction = key.direction
  emitted : frames.Sublist out
  segments : Segments key frames
  fin : ∃ init final, frames = init ++ [final] ∧ final.fin = true ∧ ∀ f ∈ init, f.fin = false
  raw : app.raw = frames.flatMap (·.segment)
  frameRecords : ∀ f ∈ frames, FrameFrom log f
  records : ∃ run first last, frames.head?.map (·.firstSequence) = some first ∧
    frames.getLast?.map (·.lastSequence) = some last ∧ run <:+: log ∧ Unbroken run first last

/-! ## More of the log -/

section
variable {log : List TraceRecord} {out : List TraceFrame} {last : Nat} {record : TraceRecord}

theorem FrameFrom.mono {f : TraceFrame} (from_ : FrameFrom log f) (more : List TraceRecord) :
    FrameFrom (log ++ more) f := by
  obtain ⟨logger, run, part, rest⟩ := from_
  exact ⟨logger, run, part.trans (List.prefix_append _ _).isInfix, rest⟩

theorem suffix_concat {run : List TraceRecord} (suffix : run <:+ log) (record : TraceRecord) :
    run ++ [record] <:+ log ++ [record] := by
  obtain ⟨before, rfl⟩ := suffix
  exact ⟨before, by rw [List.append_assoc]⟩

/-- A record that is no chunk of the key goes by. -/
theorem LinkSourced.skip {key : LinkKey} {pending : LinkPending} (sourced : LinkSourced log last key pending)
    (next : record.sequence = last + 1) (whole : record.messageTruncated = false)
    (other : isChunkOf key record = false) : LinkSourced (log ++ [record]) record.sequence key pending := by
  obtain ⟨size, long, run, suffix, unbroken, data⟩ := sourced
  refine ⟨size, long, run ++ [record], suffix_concat suffix record, unbroken.concat next whole, ?_⟩
  rw [collected_concat, other, data]
  simp

/-- A record that adds no segment keeps a fragment sourced. -/
theorem TransportSourced.skip {key : Route} {pending : TransportPending}
    (sourced : TransportSourced log out last key pending) (next : record.sequence = last + 1)
    (whole : record.messageTruncated = false) :
    TransportSourced (log ++ [record]) out record.sequence key pending := by
  obtain ⟨init, final, emitted, segments, frames, data, sequence, run, first, head, suffix, unbroken⟩ := sourced
  exact ⟨init, final, emitted, segments, fun f mem => ⟨(frames f mem).1, (frames f mem).2.mono _⟩, data, sequence,
    run ++ [record], first, head, suffix_concat suffix record, unbroken.concat next whole⟩

/-- A frame that was emitted keeps a fragment sourced. -/
theorem TransportSourced.emit {key : Route} {pending : TransportPending}
    (sourced : TransportSourced log out last key pending) (f : TraceFrame) :
    TransportSourced log (out ++ [f]) last key pending := by
  obtain ⟨init, final, emitted, rest⟩ := sourced
  exact ⟨init, final, emitted.trans (List.sublist_append_left _ _), rest⟩

/-- A fragment stays one of the log. -/
theorem FragmentFrom.mono {app : TraceApplication} {key : Route} {frames : List TraceFrame}
    (from_ : FragmentFrom log out app key frames) (moreLog : List TraceRecord) (moreOut : List TraceFrame) :
    FragmentFrom (log ++ moreLog) (out ++ moreOut) app key frames := by
  obtain ⟨run, first, final, head, end_, part, unbroken⟩ := from_.records
  exact { from_ with
    emitted := from_.emitted.trans (List.sublist_append_left _ _)
    frameRecords := fun f mem => (from_.frameRecords f mem).mono _
    records := ⟨run, first, final, head, end_, part.trans (List.prefix_append _ _).isInfix, unbroken⟩ }

end

/-! ## One record -/

namespace TraceDecoder

variable (value : Issue) (d : TraceDecoder)

@[simp] theorem issue_links : (d.issue value).links = d.links := by unfold issue; split <;> rfl

@[simp] theorem issue_transports : (d.issue value).transports = d.transports := by unfold issue; split <;> rfl

@[simp] theorem issue_lastSequence : (d.issue value).lastSequence = d.lastSequence := by
  unfold issue; split <;> rfl

@[simp] theorem issue_lastSummary : (d.issue value).lastSummary = d.lastSummary := by
  unfold issue; split <;> rfl

@[simp] theorem issue_traceId : (d.issue value).traceId = d.traceId := by unfold issue; split <;> rfl

end TraceDecoder

/-- A frame completed by the last record of the log. -/
structure NewFrame (log : List TraceRecord) (last : Nat) (f : TraceFrame) : Prop where
  ends : f.lastSequence = last
  source : ∃ logger run, run <:+ log ∧ Unbroken run f.firstSequence f.lastSequence ∧
    f.raw = collected ⟨f.sessionId, f.direction, logger⟩ run
  userData : ∀ header, f.transport = some header → IntactFrame f ∧ header = transportHeader f.transportOctet

theorem NewFrame.from {log : List TraceRecord} {last : Nat} {f : TraceFrame} (new : NewFrame log last f) :
    FrameFrom log f := by
  obtain ⟨logger, run, suffix, rest⟩ := new.source
  exact ⟨logger, run, suffix.isInfix, rest⟩

section
variable {log : List TraceRecord} {d : TraceDecoder} {record : TraceRecord}

/-- Every partial frame has its source. -/
def LinksSourced (log : List TraceRecord) (last : Nat) (links : Links) : Prop :=
  ∀ key pending, links.lookup key = some pending → LinkSourced log last key pending

/-- A frame under way that is sourced keeps all of them so. -/
theorem LinksSourced.insert {last : Nat} {links : Links} {key : LinkKey} {pending : LinkPending}
    (sourced : LinksSourced log last (links.erase key)) (here : LinkSourced log last key pending) :
    LinksSourced log last (links.insert key pending) := by
  intro other found present
  by_cases same : other = key
  · subst same
    rw [AList.lookup_insert] at present
    exact Option.some.inj present ▸ here
  · rw [AList.lookup_insert_ne same] at present
    exact sourced other found (by rwa [AList.lookup_erase_ne same])

/-- What consuming a link record guarantees. -/
structure LinkStep (log : List TraceRecord) (last : Nat) (d d' : TraceDecoder) (frame : Option TraceFrame) : Prop where
  links : LinksSourced log last d'.links
  transports : d'.transports = d.transports
  lastSequence : d'.lastSequence = d.lastSequence
  frame : ∀ f, frame = some f → NewFrame log last f

/-- A chunk completes a frame or goes on with it. -/
theorem advanceLink_step {pending : LinkPending}
    (others : LinksSourced (log ++ [record]) record.sequence (d.links.erase (TraceDecoder.linkKey record)))
    (here : LinkSourced (log ++ [record]) record.sequence (TraceDecoder.linkKey record) pending) :
    LinkStep (log ++ [record]) record.sequence d (d.advanceLink record pending).1
      (d.advanceLink record pending).2 := by
  unfold TraceDecoder.advanceLink
  split
  · exact ⟨others.insert here, rfl, rfl, by simp⟩
  · next complete =>
    obtain ⟨size, -, run, suffix, unbroken, data⟩ := here
    have new : NewFrame (log ++ [record]) record.sequence (linkFrame pending record) := by
      refine ⟨rfl, ⟨record.logger, run, suffix, unbroken, data⟩, fun header found => ?_⟩
      obtain ⟨valid, first, rest, payload, rfl⟩ := classify_transport found
      refine ⟨linkFrame_intact ((not_not.mp complete).trans size) valid, ?_⟩
      have octet : (linkFrame pending record).transportOctet = first := by
        show (readBlocks _ _).2.headD (.ofNat 0) = first
        rw [payload]
        rfl
      rw [octet]
    dsimp only
    split
    · refine ⟨by simpa using others, by simp, by simp, ?_⟩
      rintro f ⟨⟩
      exact new
    · refine ⟨others, rfl, rfl, ?_⟩
      rintro f ⟨⟩
      exact new

theorem isChunkOf_linkKey (hex : record.level = .linkRxHex ∨ record.level = .linkTxHex) (key : LinkKey) :
    isChunkOf key record = decide (TraceDecoder.linkKey record = key) := by
  rcases hex with level | level <;> simp [isChunkOf, level]

/-- A record of the link is a chunk or starts over. -/
theorem consumeLink_step {last : Nat} (links : LinksSourced log last d.links)
    (follows : d.links = ∅ ∨ record.sequence = last + 1) (whole : record.messageTruncated = false)
    (hex : record.level = .linkRxHex ∨ record.level = .linkTxHex) :
    LinkStep (log ++ [record]) record.sequence d (d.consumeLink record).1 (d.consumeLink record).2 := by
  have next : ∀ {key pending}, d.links.lookup key = some pending → record.sequence = last + 1 := by
    intro key pending found
    rcases follows with empty | next
    · rw [empty, AList.lookup_empty] at found
      cases found
    · exact next
  -- the partial frames of other keys
  have others : LinksSourced (log ++ [record]) record.sequence (d.links.erase (TraceDecoder.linkKey record)) := by
    intro key pending found
    by_cases same : key = TraceDecoder.linkKey record
    · subst same
      rw [AList.lookup_erase] at found
      cases found
    · rw [AList.lookup_erase_ne same] at found
      refine (links key pending found).skip (next found) whole ?_
      rw [isChunkOf_linkKey hex, decide_eq_false (Ne.symm same)]
  have mine : isChunkOf (TraceDecoder.linkKey record) record = true := by
    rw [isChunkOf_linkKey hex, decide_eq_true rfl]
  -- without a partial frame under this key nothing was erased
  have noChange : d.links.lookup (TraceDecoder.linkKey record) = none →
      LinksSourced (log ++ [record]) record.sequence d.links := by
    intro none key pending found
    by_cases same : key = TraceDecoder.linkKey record
    · subst same
      rw [none] at found
      cases found
    · exact others key pending (by rwa [AList.lookup_erase_ne same])
  unfold TraceDecoder.consumeLink
  dsimp only
  split
  · exact ⟨others, by simp, by simp, by simp⟩
  · next chunk hexOk =>
    split
    · next absent =>
      split
      · exact ⟨by simpa using noChange absent, by simp, by simp, by simp⟩
      · next start =>
        split
        · exact ⟨by simpa using noChange absent, by simp, by simp, by simp⟩
        · refine advanceLink_step others ⟨rfl, ?_, [record], ⟨log, rfl⟩, .single whole, ?_⟩
          · simp only [TraceDecoder.isFrameStart, Bool.not_eq_true', Bool.not_eq_false, Bool.and_eq_true,
              decide_eq_true_eq] at start
            exact start.1.1.1.ge
          · rw [← List.nil_append [record], collected_concat, mine, hexOk]
            rfl
    · next pending present =>
      split
      · exact ⟨others, by simp, by simp, by simp⟩
      · obtain ⟨size, long, run, suffix, unbroken, data⟩ := links _ _ present
        refine advanceLink_step others ⟨?_, ?_, run ++ [record], suffix_concat suffix record,
          unbroken.concat (next present) whole, ?_⟩
        · have octet : byteAt (pending.data ++ chunk) 2 = byteAt pending.data 2 := by
            simp only [byteAt, List.getD_eq_getElem?_getD]
            rw [List.getElem?_append_left (by omega)]
          rw [octet]
          exact size
        · rw [List.length_append]
          omega
        · rw [collected_concat, mine, hexOk, ← data]
          rfl

end

section
variable {log : List TraceRecord} {out : List TraceFrame} {last : Nat} {d : TraceDecoder} {f : TraceFrame}
  {header : TransportHeader}

/-- Every partial fragment has its source. -/
def TransportsSourced (log : List TraceRecord) (out : List TraceFrame) (last : Nat) (transports : Transports) : Prop :=
  ∀ key pending, transports.lookup key = some pending → TransportSourced log out last key pending

/-- Dropping a fragment keeps the others sourced. -/
theorem TransportsSourced.erase {transports : Transports} (sourced : TransportsSourced log out last transports)
    (key : Route) : TransportsSourced log out last (transports.erase key) := by
  intro other pending found
  by_cases same : other = key
  · subst same
    rw [AList.lookup_erase] at found
    cases found
  · rw [AList.lookup_erase_ne same] at found
    exact sourced other pending found

/-- A fragment under way that is sourced keeps all of them so. -/
theorem TransportsSourced.insert {transports : Transports} {key : Route} {pending : TransportPending}
    (sourced : TransportsSourced log out last transports) (here : TransportSourced log out last key pending) :
    TransportsSourced log out last (transports.insert key pending) := by
  intro other found present
  by_cases same : other = key
  · subst same
    rw [AList.lookup_insert] at present
    exact Option.some.inj present ▸ here
  · rw [AList.lookup_insert_ne same] at present
    exact sourced other found present

/-- What consuming a frame guarantees. -/
structure TransportStep (log : List TraceRecord) (out : List TraceFrame) (last : Nat) (d d' : TraceDecoder)
    (app : Option TraceApplication) : Prop where
  transports : TransportsSourced log out last d'.transports
  links : d'.links = d.links
  lastSequence : d'.lastSequence = d.lastSequence
  application : ∀ a, app = some a → ∃ key frames, FragmentFrom log out a key frames

/-- A decoded fragment keeps its octets and where it was seen. -/
theorem decodeApplication_fields (data : List Byte) (sessionId : Nat) (direction : Direction) (frames : List Nat) :
    (decodeApplication data sessionId direction frames).sessionId = sessionId ∧
    (decodeApplication data sessionId direction frames).direction = direction ∧
    (decodeApplication data sessionId direction frames).raw = data := by
  unfold decodeApplication
  split <;> exact ⟨rfl, rfl, rfl⟩

/-- The frames of a fragment with `f` as the newest, and its source. -/
structure Collecting (log : List TraceRecord) (out : List TraceFrame) (last : Nat) (f : TraceFrame)
    (pending : TransportPending) (init : List TraceFrame) : Prop where
  emitted : (init ++ [f]).Sublist out
  segments : Segments (TraceDecoder.route f) (init ++ [f])
  open_ : ∀ g ∈ init, g.fin = false
  frames : ∀ g ∈ init ++ [f], FrameFrom log g
  data : pending.data ++ f.segment = (init ++ [f]).flatMap (·.segment)
  records : ∃ run first, (init ++ [f]).head?.map (·.firstSequence) = some first ∧ run <:+ log ∧ Unbroken run first last

/-- A first segment starts a fragment. -/
theorem NewFrame.start (new : NewFrame log last f) (user : f.transport = some header) (fir : header.fir = true) :
    Collecting log (out ++ [f]) last f { nextSequence := header.sequence } [] := by
  obtain ⟨intact, rfl⟩ := new.userData header user
  obtain ⟨logger, run, suffix, unbroken, raw⟩ := new.source
  exact ⟨List.sublist_append_right _ _, .single intact fir, by simp, by simpa using new.from, by simp,
    run, f.firstSequence, rfl, suffix, new.ends ▸ unbroken⟩

/-- A segment that is not a first one continues a fragment. -/
theorem TransportSourced.continue {pending : TransportPending}
    (sourced : TransportSourced log out last (TraceDecoder.route f) pending) (new : NewFrame log last f)
    (user : f.transport = some header) (later : header.fir = false)
    (inSequence : pending.nextSequence = header.sequence) :
    ∃ init, Collecting log (out ++ [f]) last f pending init := by
  obtain ⟨intact, rfl⟩ := new.userData header user
  obtain ⟨init, final, emitted, segments, frames, data, sequence, run, first, head, suffix, unbroken⟩ := sourced
  refine ⟨init ++ [final], emitted.append (List.Sublist.refl _),
    segments.concat intact rfl later (sequence ▸ inSequence.symm), fun g mem => (frames g mem).1, ?_, ?_,
    run, first, ?_, suffix, unbroken⟩
  · intro g mem
    rcases List.mem_append.mp mem with old | new'
    · exact (frames g old).2
    · rw [List.mem_singleton.mp new']
      exact new.from
  · rw [List.flatMap_append, ← data]
    simp
  · rw [List.head?_append_of_ne_nil _ (by simp)]
    exact head

/-- Appending a segment keeps every partial fragment sourced, and a final one completes it. -/
theorem appendSegment_step {pending : TransportPending} {init : List TraceFrame}
    (others : TransportsSourced log (out ++ [f]) last d.transports) (new : NewFrame log last f)
    (user : f.transport = some header)
    (here : pending.nextSequence = header.sequence → Collecting log (out ++ [f]) last f pending init) :
    TransportStep log (out ++ [f]) last d (d.appendSegment f header pending).1
      (d.appendSegment f header pending).2 := by
  obtain ⟨intact, rfl⟩ := new.userData header user
  unfold TraceDecoder.appendSegment
  dsimp only
  split
  · exact ⟨others.erase _, by simp, by simp, by simp⟩
  next inSequence =>
  obtain ⟨emitted, segments, open_, frames, data, records⟩ := here (not_not.mp inSequence)
  split
  · exact ⟨others.erase _, by simp, by simp, by simp⟩
  split
  · next notFin =>
    have notFin : f.fin = false := Bool.not_eq_true' _ |>.mp notFin
    refine ⟨others.insert ⟨init, f, emitted, segments, ?_, data, rfl, records⟩, rfl, rfl, by simp⟩
    intro g mem
    refine ⟨?_, frames g mem⟩
    rcases List.mem_append.mp mem with old | new'
    · exact open_ g old
    · rwa [List.mem_singleton.mp new']
  · next fin =>
    have fin : f.fin = true := by
      rw [Bool.not_eq_true', Bool.not_eq_false] at fin
      exact fin
    have fields := decodeApplication_fields (pending.data ++ f.payload.drop 1) f.sessionId f.direction
      (pending.frames ++ [f.firstSequence])
    have complete : FragmentFrom log (out ++ [f]) (decodeApplication (pending.data ++ f.payload.drop 1) f.sessionId
        f.direction (pending.frames ++ [f.firstSequence])) (TraceDecoder.route f) (init ++ [f]) := by
      obtain ⟨run, first, head, suffix, unbroken⟩ := records
      refine ⟨fields.1, fields.2.1, emitted, segments, ⟨init, f, rfl, fin, open_⟩, fields.2.2.trans data, frames,
        run, first, last, head, ?_, suffix.isInfix, unbroken⟩
      simp [new.ends]
    split
    · refine ⟨by simpa using others.erase _, by simp, by simp, ?_⟩
      rintro a ⟨⟩
      exact ⟨_, _, complete⟩
    · refine ⟨others.erase _, rfl, rfl, ?_⟩
      rintro a ⟨⟩
      exact ⟨_, _, complete⟩

/-- A frame completes a fragment or goes on with it. -/
theorem consumeTransport_step (transports : TransportsSourced log out last d.transports) (new : NewFrame log last f) :
    TransportStep log (out ++ [f]) last d (d.consumeTransport f).1 (d.consumeTransport f).2 := by
  have others : TransportsSourced log (out ++ [f]) last d.transports := fun key pending found =>
    (transports key pending found).emit f
  unfold TraceDecoder.consumeTransport
  dsimp only
  split
  · exact ⟨others.erase _, rfl, rfl, by simp⟩
  split
  · exact ⟨others, rfl, rfl, by simp⟩
  next header user =>
  split
  · next pending present =>
    split
    · next fir =>
      have step := appendSegment_step (d := d.issue .transportRestartBeforeFin) (by simpa using others) new user
        fun _ => new.start user fir
      exact ⟨step.transports, by simpa using step.links, by simpa using step.lastSequence, step.application⟩
    · next later =>
      have later : header.fir = false := by simpa using later
      by_cases inSequence : pending.nextSequence = header.sequence
      · obtain ⟨init, here⟩ := (transports _ _ present).continue new user later inSequence
        exact appendSegment_step others new user fun _ => here
      · have here : pending.nextSequence = header.sequence → Collecting log (out ++ [f]) last f pending [] :=
          fun same => absurd same inSequence
        exact appendSegment_step others new user here
  · split
    · next fir =>
      split
      · exact ⟨by simpa using others, by simp, by simp, by simp⟩
      · exact appendSegment_step others new user fun _ => new.start user fir
    · exact ⟨by simpa using others, by simp, by simp, by simp⟩

end

/-! ## Batches -/

/-- The decoder after `log` was delivered and `out` emitted. -/
structure Sourced (log : List TraceRecord) (out : List TraceFrame) (d : TraceDecoder) : Prop where
  links : LinksSourced log d.lastSequence d.links
  transports : TransportsSourced log out d.lastSequence d.transports

section
variable {log : List TraceRecord} {out : List TraceFrame} {d : TraceDecoder}

/-- Nothing pending needs no source. -/
theorem Sourced.clear (d : TraceDecoder) : Sourced log out d.clearPending := by
  refine ⟨fun key pending found => ?_, fun key pending found => ?_⟩
  · cases found
  · cases found

/-- Only what is under way has to be sourced. -/
theorem Sourced.congr {d' : TraceDecoder} (s : Sourced log out d) (links : d'.links = d.links)
    (transports : d'.transports = d.transports) (last : d'.lastSequence = d.lastSequence) : Sourced log out d' := by
  constructor
  · rw [links, last]
    exact s.links
  · rw [transports, last]
    exact s.transports

/-- One record. -/
theorem Sourced.consume (s : Sourced log out d) (record : TraceRecord) :
    Sourced (log ++ [record]) (out ++ (d.consume record).2.frame.toList) (d.consume record).1 ∧
      ∀ a ∈ (d.consume record).2.application, ∃ key frames,
        FragmentFrom (log ++ [record]) (out ++ (d.consume record).2.frame.toList) a key frames := by
  obtain ⟨d0, gapped, ready, follows⟩ : ∃ d0 : TraceDecoder,
      (if record.sequence ≠ d.lastSequence + 1 then (d.issue .recordSequenceGap).clearPending else d) = d0 ∧
      Sourced log out d0 ∧ (d0.links = ∅ ∧ d0.transports = ∅ ∨ record.sequence = d0.lastSequence + 1) := by
    by_cases gap : record.sequence ≠ d.lastSequence + 1
    · exact ⟨_, if_pos gap, .clear _, Or.inl ⟨rfl, rfl⟩⟩
    · exact ⟨_, if_neg gap, s, Or.inr (not_not.mp gap)⟩
  unfold TraceDecoder.consume
  rw [gapped]
  dsimp only
  split
  · exact ⟨.clear _, by simp⟩
  next whole =>
  have whole : record.messageTruncated = false := by simpa using whole
  have transports : TransportsSourced (log ++ [record]) out record.sequence d0.transports := by
    intro key pending found
    refine (ready.transports key pending found).skip ?_ whole
    rcases follows with empty | next
    · rw [empty.2, AList.lookup_empty] at found
      cases found
    · exact next
  split
  · next quiet =>
    refine ⟨⟨fun key pending found => ?_, by simpa using transports⟩, by simp⟩
    refine (ready.links key pending found).skip ?_ whole (by simp [isChunkOf, quiet])
    rcases follows with empty | next
    · rw [show ({ d0 with lastSequence := record.sequence } : TraceDecoder).links = ∅ from empty.1,
        AList.lookup_empty] at found
      cases found
    · exact next
  · next loud =>
    have hex : record.level = .linkRxHex ∨ record.level = .linkTxHex := by
      by_contra neither
      exact loud (not_or.mp neither)
    have linkStep := consumeLink_step (d := { d0 with lastSequence := record.sequence }) ready.links
      (follows.imp_left And.left) whole hex
    generalize TraceDecoder.consumeLink record { d0 with lastSequence := record.sequence } = step at linkStep ⊢
    obtain ⟨d1, frame⟩ := step
    cases frame with
    | none =>
      refine ⟨⟨?_, ?_⟩, by simp⟩
      · rw [linkStep.lastSequence]
        exact linkStep.links
      · rw [linkStep.lastSequence, linkStep.transports]
        simpa using transports
    | some f =>
      have transportStep := consumeTransport_step (d := d1) (linkStep.transports ▸ transports) (linkStep.frame f rfl)
      dsimp only
      refine ⟨⟨?_, ?_⟩, fun a mem => transportStep.application a (Option.mem_def.mp mem)⟩
      · rw [transportStep.lastSequence, linkStep.lastSequence, transportStep.links]
        exact linkStep.links
      · rw [transportStep.lastSequence, linkStep.lastSequence]
        exact transportStep.transports

/-- The records of a batch. -/
theorem Sourced.consumeAll (records : List TraceRecord) (s : Sourced log out d) :
    Sourced (log ++ records) (out ++ (d.consumeAll records).2.filterMap (·.frame)) (d.consumeAll records).1 ∧
      ∀ a ∈ (d.consumeAll records).2.filterMap (·.application), ∃ key frames,
        FragmentFrom (log ++ records) (out ++ (d.consumeAll records).2.filterMap (·.frame)) a key frames := by
  induction records generalizing log out d with
  | nil => simpa [TraceDecoder.consumeAll] using s
  | cons record rest ih =>
    obtain ⟨first, apps⟩ := s.consume record
    obtain ⟨later, moreApps⟩ := ih first
    have frames : out ++ (d.consumeAll (record :: rest)).2.filterMap (·.frame) =
        out ++ (d.consume record).2.frame.toList ++ ((d.consume record).1.consumeAll rest).2.filterMap (·.frame) := by
      rw [TraceDecoder.consumeAll, List.append_assoc]
      cases emitted : (d.consume record).2.frame <;> simp [emitted]
    have log_eq : log ++ record :: rest = log ++ [record] ++ rest := by simp
    rw [frames, log_eq]
    refine ⟨later, fun a mem => ?_⟩
    rw [TraceDecoder.consumeAll] at mem
    obtain ⟨e, emitted, application⟩ := List.mem_filterMap.mp mem
    rcases List.mem_cons.mp emitted with rfl | tail
    · obtain ⟨key, fs, from_⟩ := apps a application
      exact ⟨key, fs, from_.mono _ _⟩
    · exact moreApps a (List.mem_filterMap.mpr ⟨e, tail, application⟩)

/-- Noting a loss keeps it sourced. -/
theorem Sourced.noteLoss (s : Sourced log out d) (counter : TraceSummary → Nat) (value : Issue)
    (summary : TraceSummary) : Sourced log out (d.noteLoss counter value summary) := by
  unfold TraceDecoder.noteLoss
  split
  · exact s
  · dsimp only
    split
    · exact .clear _
    · exact s.congr (by simp) (by simp) (by simp)

/-- The end of a batch keeps it sourced. -/
theorem Sourced.finishBatch (s : Sourced log out d) (summary : TraceSummary) :
    Sourced log out (d.finishBatch summary) := by
  unfold TraceDecoder.finishBatch
  dsimp only
  generalize boundary : (if (d.lastSequence : Int) ≠ summary.lastSequence - summary.queuedRecords then
    (d.issue .recordSequenceGap).clearPending else d) = d0
  have ready : Sourced log out d0 := by
    rw [← boundary]
    split
    · exact .clear _
    · exact s
  split
  · exact (Sourced.clear _).congr rfl rfl rfl
  · exact ready.congr rfl rfl rfl

/-- One batch. -/
theorem Sourced.decodeRecords (s : Sourced log out d) (summary : TraceSummary) (records : List TraceRecord)
    (timedOut : Bool) :
    Sourced (log ++ records) (out ++ (d.decodeRecords summary records timedOut).2.frames)
        (d.decodeRecords summary records timedOut).1 ∧
      ∀ a ∈ (d.decodeRecords summary records timedOut).2.applications, ∃ key frames,
        FragmentFrom (log ++ records) (out ++ (d.decodeRecords summary records timedOut).2.frames) a key frames := by
  have start : Sourced log out { d with traceId := summary.traceId } := s.congr rfl rfl rfl
  obtain ⟨later, apps⟩ := ((start.noteLoss (·.droppedRecords) .droppedRecords summary).noteLoss
    (·.truncatedRecords) .truncatedRecords summary).consumeAll records
  exact ⟨later.finishBatch summary, apps⟩

/-- What a batch that is accepted does. -/
theorem decodeBatch_ok {value : Json} {d' : TraceDecoder} {batch : TraceBatch}
    (ok : d.decodeBatch value = .ok (d', batch)) :
    ∃ summary records timedOut, d.decodeRecords summary records timedOut = (d', batch) := by
  unfold TraceDecoder.decodeBatch at ok
  obtain ⟨⟨summary, records, timedOut⟩, -, ok⟩ := ok_bind_iff.mp ok
  obtain ⟨_, -, ok⟩ := ok_bind_iff.mp ok
  obtain ⟨_, -, ok⟩ := ok_bind_iff.mp ok
  exact ⟨summary, records, timedOut, ok_pure_iff.mp ok⟩

/-- Any number of accepted batches. -/
theorem Sourced.decodeBatches {values : List Json} {d' : TraceDecoder} {batches : List TraceBatch}
    (s : Sourced log out d) (ok : d.decodeBatches values = .ok (d', batches)) :
    ∀ a ∈ batches.flatMap (·.applications), ∃ key frames,
      FragmentFrom (log ++ batches.flatMap (·.records)) (out ++ batches.flatMap (·.frames)) a key frames := by
  induction values generalizing log out d d' batches with
  | nil =>
    obtain ⟨-, rfl⟩ := Prod.mk.inj (Except.ok.inj ok)
    simp
  | cons value rest ih =>
    obtain ⟨⟨d1, batch⟩, first, ok⟩ := ok_bind_iff.mp ok
    obtain ⟨⟨d2, more⟩, later, ok⟩ := ok_bind_iff.mp ok
    obtain ⟨-, rfl⟩ := Prod.mk.inj (ok_pure_iff.mp ok)
    obtain ⟨summary, records, timedOut, decoded⟩ := decodeBatch_ok first
    obtain ⟨sourced, apps⟩ := s.decodeRecords summary records timedOut
    have batchRecords : batch.records = records := by rw [← (Prod.mk.inj decoded).2]
    rw [decoded] at sourced apps
    intro a mem
    rw [List.flatMap_cons, List.flatMap_cons, batchRecords, ← List.append_assoc, ← List.append_assoc]
    rw [List.flatMap_cons] at mem
    rcases List.mem_append.mp mem with here | there
    · obtain ⟨key, frames, from_⟩ := apps a here
      exact ⟨key, frames, from_.mono _ _⟩
    · exact ih sourced later a there

end

/-- **No fragment is fabricated.** Whatever batches one decoder accepts, each application fragment it
emits consists of the segments of emitted frames with valid checksums on one route, from a first
segment to a final one in sequence, and the records from the first of the first frame to the last of
the last were delivered one after the other with none truncated. -/
theorem application_provenance {values : List Json} {d : TraceDecoder} {batches : List TraceBatch}
    (accepted : ({} : TraceDecoder).decodeBatches values = .ok (d, batches)) (app : TraceApplication)
    (emitted : app ∈ batches.flatMap (·.applications)) :
    ∃ key frames, FragmentFrom (batches.flatMap (·.records)) (batches.flatMap (·.frames)) app key frames := by
  have start : Sourced [] [] {} := (Sourced.clear {}).congr rfl rfl rfl
  simpa using start.decodeBatches accepted app emitted

/-- A log line of the master's transmitter. -/
def exampleRecord (sequence : Nat) (bytes : List Byte) : TraceRecord :=
  ⟨sequence, 1, 10 * sequence, "pytest-tcp-client", .linkTxHex, hexLine bytes, false⟩

/-- The two records of an unconfirmed read request, as one drained batch. -/
def exampleBatch : Json :=
  batchValue ⟨some "trace-1", .stopped, 16384, 0, 0, 0, 2, true⟩
    [exampleRecord 1 (wireBlock (octets [0x05, 0x64, 0x0B, 0xC4, 0x00, 0x04, 0x01, 0x00])),
     exampleRecord 2 (wireBlock (octets [0xC0, 0xC0, 0x01, 0x3C, 0x01, 0x06]))]

/-- One frame that carries a whole fragment. -/
theorem application_provenance_example : ∃ d batches app,
    ({} : TraceDecoder).decodeBatches [exampleBatch] = .ok (d, batches) ∧
    app.raw = octets [0xC0, 0x01, 0x3C, 0x01, 0x06] ∧
    ∃ key frames, FragmentFrom (batches.flatMap (·.records)) (batches.flatMap (·.frames)) app key frames := by
  have fragments : (match ({} : TraceDecoder).decodeBatches [exampleBatch] with
      | .ok (_, batches) => (batches.flatMap (·.applications)).map (·.raw)
      | .error _ => []) = [octets [0xC0, 0x01, 0x3C, 0x01, 0x06]] := by
    decide +kernel
  cases run : ({} : TraceDecoder).decodeBatches [exampleBatch] with
  | error e => simp [run] at fragments
  | ok result =>
    obtain ⟨d, batches⟩ := result
    simp only [run] at fragments
    obtain ⟨app, emitted, raw⟩ := List.mem_map.mp (fragments ▸ List.mem_singleton_self _)
    exact ⟨d, batches, app, rfl, raw, application_provenance run app emitted⟩

end EmsDnp3.Python
