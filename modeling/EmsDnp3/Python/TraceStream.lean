import EmsDnp3.Python.TraceFrames

/-!
# What a lossless trace shows

The sender's side of a trace, to be compared with what the decoder makes of it: application
fragments are cut into transport segments, each segment travels in one user data frame of
its route, and the log shows a frame as a header line and one line per block. `Traffic` is
what was sent, `Shows` says that a log shows it, and `LossFree` that batches deliver the log.
-/

namespace EmsDnp3.Python

/-! ## Fragments and their frames -/

/-- An application fragment, cut into the segments that carry it. -/
structure Fragment where
  start : Fin 64
  segments : List (List Byte)
  some_ : segments ≠ []
  few : segments.length ≤ maxSegments
  short : ∀ segment ∈ segments, segment.length ≤ 249
  bounded : segments.flatten.length ≤ maxApdu

namespace Fragment

def raw (f : Fragment) : List Byte := f.segments.flatten

/-- The places of the fragment's segments, in the order in which they are sent. -/
def places (f : Fragment) : List (Fragment × Nat) := (List.range f.segments.length).map fun k => (f, k)

end Fragment

/-- The transport octet of a segment. -/
def transportByte (fir fin : Bool) (sequence : Nat) : Byte :=
  Byte.ofNat ((if fin then 0x80 else 0) + (if fir then 0x40 else 0) + sequence % 64)

/-- User data with a consistent FCV bit. -/
def isUserData (control : Byte) : Bool :=
  (control.val &&& 0x4F = 0x43 && hasBits control 0x10) || (control.val &&& 0x4F = 0x44 && !hasBits control 0x10)

/-- One segment of a fragment in its frame. -/
structure Piece where
  sessionId : Nat
  direction : Direction
  source : Fin 65536
  destination : Fin 65536
  logger : Text
  control : Byte
  fragment : Fragment
  position : Nat
  inside : position < fragment.segments.length
  userData : isUserData control = true

namespace Piece

def route (p : Piece) : Route := ⟨p.sessionId, p.direction, p.source.val, p.destination.val⟩

def key (p : Piece) : LinkKey := ⟨p.sessionId, p.direction, p.logger⟩

def place (p : Piece) : Fragment × Nat := (p.fragment, p.position)

def isFirst (p : Piece) : Bool := p.position = 0

def isLast (p : Piece) : Bool := p.position + 1 = p.fragment.segments.length

def segment (p : Piece) : List Byte := p.fragment.segments.get ⟨p.position, p.inside⟩

def sequence (p : Piece) : Nat := (p.fragment.start.val + p.position) % 64

def payload (p : Piece) : List Byte := transportByte p.isFirst p.isLast p.sequence :: p.segment

def header (p : Piece) : List Byte :=
  [.ofNat 0x05, .ofNat 0x64, .ofNat (5 + p.payload.length), p.control] ++ twoBytes p.destination ++ twoBytes p.source

/-- The blocks after the header. -/
def blocks (p : Piece) : List (List Byte) := (payloadBlocks p.payload.length p.payload).map wireBlock

/-- The lines that show the frame. -/
def chunks (p : Piece) : List (List Byte) := wireBlock p.header :: p.blocks

/-- The octets of the frame. -/
def wire (p : Piece) : List Byte := p.chunks.flatten

/-- The lines of the frame, each with the frame it belongs to. -/
def lines (p : Piece) : List (Piece × List Byte) := p.chunks.map fun chunk => (p, chunk)

end Piece

/-- What was sent: the frames in the order of the log, on at most sixteen routes, such that the
frames of every route are those of its fragments one after the other. -/
structure Traffic where
  pieces : List Piece
  routes : List Route
  few : routes.length ≤ maxRoutes
  routed : ∀ p ∈ pieces, p.route ∈ routes
  fragments : Route → List Fragment
  complete : ∀ route, (pieces.filter (·.route = route)).map (·.place) = (fragments route).flatMap (·.places)

/-- The fragments in the order in which their last frames were sent. -/
def completions (pieces : List Piece) : List (Route × Fragment) :=
  (pieces.filter (·.isLast)).map fun p => (p.route, p.fragment)

/-! ## The log -/

def isHex (r : TraceRecord) : Bool := r.level = .linkRxHex || r.level = .linkTxHex

/-- The record shows the line of the frame. -/
structure TraceRecord.ShowsLine (r : TraceRecord) (p : Piece) (chunk : List Byte) : Prop where
  hex : isHex r = true
  key : TraceDecoder.linkKey r = p.key
  message : r.message = hexLine chunk

/-- The log shows the lines in order, with other records anywhere. -/
inductive Shows : List (Piece × List Byte) → List TraceRecord → Prop where
  | nil : Shows [] []
  | quiet {lines : List (Piece × List Byte)} {log : List TraceRecord} (r : TraceRecord) (other : isHex r = false)
      (rest : Shows lines log) : Shows lines (r :: log)
  | line {p : Piece} {chunk : List Byte} {lines : List (Piece × List Byte)} {log : List TraceRecord}
      (r : TraceRecord) (shown : r.ShowsLine p chunk) (rest : Shows lines log) :
      Shows ((p, chunk) :: lines) (r :: log)

/-- A whole log of the traffic: valid records, numbered from one, none truncated. -/
structure TraceLog (t : Traffic) (log : List TraceRecord) : Prop where
  shows_ : Shows (t.pieces.flatMap (·.lines)) log
  valid : ∀ r ∈ log, r.Valid
  whole : ∀ r ∈ log, r.messageTruncated = false
  numbered : log.map (·.sequence) = List.range' 1 log.length

/-- A read result that takes the log on from its first `read` records. -/
structure LossFree (total : Nat) (id : Text) (capacity : Nat) (read : Nat) (s : TraceSummary)
    (records : List TraceRecord) : Prop where
  valid : BatchValid s records
  traceId : s.traceId = some id
  queueCapacity : s.queueCapacity = capacity
  dropped : s.droppedRecords = 0
  truncated : s.truncatedRecords = 0
  boundary : s.lastSequence = read + records.length + s.queuedRecords
  stopped : s.state = .stopped → s.lastSequence = total

/-- The later of two summaries. -/
def NonDecreasing (previous next : TraceSummary) : Prop :=
  previous.lastSequence ≤ next.lastSequence ∧ (previous.state = .stopped → next.state = .stopped)

/-- Read results that deliver the log from `read` on, one after the other. -/
def LossFreeFrom (total : Nat) (id : Text) (capacity : Nat) : Nat → List (TraceSummary × List TraceRecord) → Prop
  | _, [] => True
  | read, (s, records) :: rest =>
    LossFree total id capacity read s records ∧ LossFreeFrom total id capacity (read + records.length) rest

/-- The log, delivered in loss-free batches. -/
structure Delivered (log : List TraceRecord) (batches : List (TraceSummary × List TraceRecord)) : Prop where
  split : batches.flatMap (·.2) = log
  lossFree : ∃ id capacity, LossFreeFrom log.length id capacity 0 batches
  nonDecreasing : (batches.map (·.1)).IsChain NonDecreasing

/-! ## Facts about the octets of a frame -/

theorem transportHeader_transportByte (fir fin : Bool) (sequence : Nat) :
    transportHeader (transportByte fir fin sequence) =
      ⟨transportByte fir fin sequence, fir, fin, sequence % 64⟩ := by
  have small : ∀ (fir fin : Bool) (n : Fin 64), transportHeader (transportByte fir fin n.val) =
      ⟨transportByte fir fin n.val, fir, fin, n.val⟩ := by
    decide +kernel
  have reduce : transportByte fir fin sequence = transportByte fir fin (sequence % 64) := by
    rw [transportByte, transportByte, Nat.mod_mod]
  rw [reduce]
  exact small fir fin ⟨sequence % 64, Nat.mod_lt _ (by decide)⟩

/-- User data is classified as such. -/
theorem classify_userData {control : Byte} (userData : isUserData control = true) (first : Byte) (rest : List Byte) :
    classify true control (first :: rest) = (none, some (transportHeader first)) := by
  have all : ∀ control : Byte, isUserData control = true →
      (linkFunctionName? (control.val &&& 0x4F)).isNone = false ∧
      (hasBits control 0x40 && hasBits control 0x10 ≠ (control.val &&& 0x4F = 0x42 || control.val &&& 0x4F = 0x43)) = false ∧
      (!hasBits control 0x40 && hasBits control 0x20) = false ∧
      (control.val &&& 0x4F = 0x43 || control.val &&& 0x4F = 0x44) = true := by
    decide +kernel
  obtain ⟨known, fcv, fcb, function⟩ := all control userData
  simp only [classify, known, fcv, fcb, function]
  simp

/-- Blocks as lines: sixteen octets and their checksum, only the last one shorter. -/
def FullLines (chunks : List (List Byte)) : Prop :=
  ∀ before chunk after, chunks = before ++ chunk :: after →
    chunk ≠ [] ∧ chunk.length ≤ 18 ∧ (chunk.length = 18 ∨ after = [])

theorem length_wireBlock (block : List Byte) : (wireBlock block).length = block.length + 2 := by
  rw [wireBlock, List.length_append, length_crcBytes]

theorem fullLines_nil : FullLines [] := by
  intro before chunk after split
  cases before <;> cases split

theorem fullLines_cons {chunk : List Byte} {rest : List (List Byte)} (some_ : chunk ≠ []) (short : chunk.length ≤ 18)
    (full : chunk.length = 18 ∨ rest = []) (more : FullLines rest) : FullLines (chunk :: rest) := by
  intro before found after split
  cases before with
  | nil =>
    obtain ⟨rfl, rfl⟩ := List.cons.inj split
    exact ⟨some_, short, full⟩
  | cons head before =>
    obtain ⟨-, tail⟩ := List.cons.inj split
    exact more before found after tail

/-- All blocks but the last fill a line. -/
theorem payloadBlocks_fullLines (count : Nat) (payload : List Byte) :
    FullLines ((payloadBlocks count payload).map wireBlock) := by
  induction count generalizing payload with
  | zero => exact fullLines_nil
  | succ count ih =>
    cases payload with
    | nil => exact fullLines_nil
    | cons a tail =>
      have positive : 0 < (a :: tail).length := Nat.succ_pos _
      have step : payloadBlocks (count + 1) (a :: tail) =
          (a :: tail).take 16 :: payloadBlocks count ((a :: tail).drop 16) := rfl
      rw [step, List.map_cons]
      generalize a :: tail = payload at *
      have size : (wireBlock (payload.take 16)).length = min 16 payload.length + 2 := by
        rw [length_wireBlock, List.length_take]
      refine fullLines_cons ?_ (by omega) ?_ (ih _)
      · intro empty
        rw [empty] at size
        simp at size
      · by_cases long : 16 ≤ payload.length
        · exact Or.inl (by omega)
        · rw [List.drop_eq_nil_of_le (by omega)]
          exact Or.inr (by cases count <;> rfl)

/-- How many octets the blocks of a payload take. -/
theorem blocksSize_eq (count : Nat) (payload : List Byte) (counted : payload.length ≤ count) :
    ((payloadBlocks count payload).map wireBlock).flatten.length = blocksSize payload.length := by
  induction count generalizing payload with
  | zero =>
    obtain rfl := List.length_eq_zero_iff.mp (Nat.le_zero.mp counted)
    rfl
  | succ count ih =>
    cases payload with
    | nil => rfl
    | cons a tail =>
      have positive : 0 < (a :: tail).length := Nat.succ_pos _
      have step : payloadBlocks (count + 1) (a :: tail) =
          (a :: tail).take 16 :: payloadBlocks count ((a :: tail).drop 16) := rfl
      rw [step, List.map_cons, List.flatten_cons, List.length_append]
      generalize a :: tail = payload at *
      have shorter : (payload.drop 16).length = payload.length - 16 := List.length_drop
      rw [ih _ (by omega), length_wireBlock, List.length_take, shorter, blocksSize, blocksSize]
      omega

namespace Piece

variable (p : Piece)

theorem length_payload : 1 ≤ p.payload.length ∧ p.payload.length ≤ 250 := by
  have short : p.segment.length ≤ 249 := p.fragment.short _ (List.get_mem _ _)
  rw [payload, List.length_cons]
  omega

theorem length_header : p.header.length = 8 := rfl

theorem blocks_ne_nil : p.blocks ≠ [] := by
  have step : payloadBlocks p.payload.length p.payload =
      p.payload.take 16 :: payloadBlocks p.segment.length (p.payload.drop 16) := rfl
  rw [blocks, step]
  simp

theorem blocks_fullLines : FullLines p.blocks := payloadBlocks_fullLines _ _

theorem length_blocks : p.blocks.flatten.length = blocksSize p.payload.length := blocksSize_eq _ _ le_rfl

theorem wire_eq : p.wire = wireBlock p.header ++ p.blocks.flatten := rfl

/-- The announced size is the size of the frame. -/
theorem expectedSize_eq : expectedSize (byteAt (wireBlock p.header) 2) = p.wire.length := by
  have bounds := p.length_payload
  have octet : (byteAt (wireBlock p.header) 2).val = 5 + p.payload.length := by
    show (5 + p.payload.length) % 256 = 5 + p.payload.length
    omega
  rw [wire_eq, List.length_append, length_wireBlock, length_header, length_blocks, expectedSize, octet, blocksSize]
  omega

/-- A header starts a frame. -/
theorem isFrameStart_header : TraceDecoder.isFrameStart (wireBlock p.header) = true := by
  have bounds := p.length_payload
  have octet : (byteAt (wireBlock p.header) 2).val = (5 + p.payload.length) % 256 := rfl
  have long : decide (5 ≤ (byteAt (wireBlock p.header) 2).val) = true := by
    rw [octet]
    exact decide_eq_true (by omega)
  rw [TraceDecoder.isFrameStart, long]
  rfl

end Piece

end EmsDnp3.Python
