import EmsDnp3.Python.TraceRecords

/-!
# Link frames in a trace

The link layer of `trace.py`: the DNP3 checksum, the log line regular expression, and the
decoding of a complete frame. A frame is a ten-byte header, its last two bytes a checksum,
followed by blocks of at most sixteen payload bytes with a checksum each.
-/

namespace EmsDnp3.Python

/-- One bit of the reflected polynomial division. -/
def crcShift (value : BitVec 16) : BitVec 16 :=
  (value >>> 1) ^^^ (if value.getLsbD 0 then 0xA6BC#16 else 0#16)

def crcByte (value : BitVec 16) (octet : Byte) : BitVec 16 :=
  Nat.iterate crcShift 8 (value ^^^ BitVec.ofNat 16 octet.val)

/-- `_crc` -/
def crc (data : List Byte) : Fin 65536 := (~~~ data.foldl crcByte 0#16).toFin

/-- A checksum as it stands on the wire, `crc(..).to_bytes(2, "little")`. -/
def crcBytes (data : List Byte) : List Byte := twoBytes (crc data)

/-- A pattern match on `[0-9A-Fa-f]{2}(?: [0-9A-Fa-f]{2}){0,17}`, and `bytes.fromhex` of it. -/
def linkHex? (message : Text) : Option (List Byte) :=
  match hexLine? message with
  | some bytes => if bytes.length ≤ 18 then some bytes else none
  | none => none

/-- Whether a frame was received or sent. -/
inductive Direction where
  | rx
  | tx
deriving DecidableEq, Repr

/-- The `decode_error` of a frame. -/
inductive LinkError where
  | crcMismatch
  | unsupportedLinkFunction
  | invalidLinkFcv
  | invalidLinkFcb
  | missingTransportHeader
  | unexpectedLinkPayload
deriving DecidableEq, Repr

/-- `_LINK_FUNCTIONS` -/
def linkFunctionName? (function : Nat) : Option String :=
  match function with
  | 0x40 => some "RESET_LINK_STATES"
  | 0x42 => some "TEST_LINK_STATES"
  | 0x43 => some "CONFIRMED_USER_DATA"
  | 0x44 => some "UNCONFIRMED_USER_DATA"
  | 0x49 => some "REQUEST_LINK_STATUS"
  | 0 => some "ACK"
  | 1 => some "NACK"
  | 11 => some "LINK_STATUS"
  | 15 => some "NOT_SUPPORTED"
  | _ => none

/-- `bool(control & mask)` -/
def hasBits (control : Byte) (mask : Nat) : Bool := control.val &&& mask ≠ 0

/-- The header of a link frame. -/
structure LinkHeader where
  length : Byte
  controlRaw : Byte
  dir : Bool
  prm : Bool
  fcb : Bool
  fcvDfc : Bool
  functionCode : Nat
  functionName : String
  destination : Nat
  source : Nat
  headerCrc : List Byte
deriving DecidableEq

/-- The transport octet. -/
structure TransportHeader where
  raw : Byte
  fir : Bool
  fin : Bool
  sequence : Nat
deriving DecidableEq

/-- A decoded frame; `raw` and `payload` are printed as `raw_hex` and `payload_hex`. -/
structure TraceFrame where
  sessionId : Nat
  direction : Direction
  firstSequence : Nat
  lastSequence : Nat
  monotonicNs : Nat
  raw : List Byte
  payload : List Byte
  link : LinkHeader
  transport : Option TransportHeader
  crcValid : Bool
  decodeError : Option LinkError
deriving DecidableEq

/-- `raw[index]` of a frame long enough for it. -/
def byteAt (raw : List Byte) (index : Nat) : Byte := raw.getD index (.ofNat 0)

/-- The header's own checksum. -/
def headerValid (raw : List Byte) : Bool := (crc (raw.take 8)).val = littleEndian ((raw.drop 8).take 2)

/-- The loop over the blocks after the header: whether every checksum holds, and the payload. Each
round takes at least two bytes, so `fuel` is not less than their number. -/
def readBlocks : Nat → List Byte → Bool × List Byte
  | 0, _ => (true, [])
  | _, [] => (true, [])
  | fuel + 1, rest =>
    let size := min 16 (rest.length - 2)
    let block := rest.take size
    let more := readBlocks fuel (rest.drop (size + 2))
    (((crc block).val = littleEndian ((rest.drop size).take 2)) && more.1, block ++ more.2)

/-- The header that stands in the first ten octets. -/
def linkHeader (raw : List Byte) : LinkHeader :=
  let control := byteAt raw 3
  { length := byteAt raw 2
    controlRaw := control
    dir := hasBits control 0x80
    prm := hasBits control 0x40
    fcb := hasBits control 0x20
    fcvDfc := hasBits control 0x10
    functionCode := control.val &&& 0x0F
    functionName := (linkFunctionName? (control.val &&& 0x4F)).getD "UNKNOWN"
    destination := littleEndian ((raw.drop 4).take 2)
    source := littleEndian ((raw.drop 6).take 2)
    headerCrc := (raw.drop 8).take 2 }

/-- The bits of the transport octet. -/
def transportHeader (first : Byte) : TransportHeader where
  raw := first
  fir := hasBits first 0x40
  fin := hasBits first 0x80
  sequence := first.val &&& 0x3F

/-- The classification of a complete frame: an error, or the transport header of user data. -/
def classify (valid : Bool) (control : Byte) (payload : List Byte) :
    Option LinkError × Option TransportHeader :=
  let function := control.val &&& 0x4F
  if !valid then (some .crcMismatch, none)
  else if (linkFunctionName? function).isNone then (some .unsupportedLinkFunction, none)
  else if hasBits control 0x40 && hasBits control 0x10 ≠ (function = 0x42 || function = 0x43) then
    (some .invalidLinkFcv, none)
  else if !hasBits control 0x40 && hasBits control 0x20 then (some .invalidLinkFcb, none)
  else if function = 0x43 || function = 0x44 then
    match payload with
    | [] => (some .missingTransportHeader, none)
    | first :: _ => (none, some (transportHeader first))
  else if payload ≠ [] then (some .unexpectedLinkPayload, none)
  else (none, none)

/-- A frame under way. -/
structure LinkPending where
  first : TraceRecord
  expected : Nat
  data : List Byte
deriving DecidableEq

/-- The size of a frame whose length octet is `length`. -/
def expectedSize (length : Byte) : Nat :=
  let payloadSize := length.val - 5
  10 + payloadSize + (payloadSize + 15) / 16 * 2

/-- The direction of a hexadecimal link record. -/
def TraceRecord.hexDirection (record : TraceRecord) : Direction :=
  if record.level = .linkRxHex then .rx else .tx

/-- The frame whose last record is `record`. -/
def linkFrame (pending : LinkPending) (record : TraceRecord) : TraceFrame :=
  let raw := pending.data
  let blocks := readBlocks raw.length (raw.drop 10)
  let valid := headerValid raw && blocks.1
  let outcome := classify valid (byteAt raw 3) blocks.2
  { sessionId := record.sessionId
    direction := record.hexDirection
    firstSequence := pending.first.sequence
    lastSequence := record.sequence
    monotonicNs := pending.first.monotonicNs
    raw
    payload := blocks.2
    link := linkHeader raw
    transport := outcome.2
    crcValid := valid
    decodeError := outcome.1 }

end EmsDnp3.Python
