import EmsDnp3.Python.TraceLink

/-!
# Application fragments in a trace

`_decode_application` of `trace.py`: the application header, the object headers with their
qualifiers, and the values of the supported layouts. A fragment that cannot be decoded to its
end keeps what was decoded and the unread bytes. Floating-point values are kept as their bits.
-/

namespace EmsDnp3.Python

/-- The part of a `decode_error` before the colon, which is also the issue it raises. -/
inductive AppCategory where
  | truncatedApplicationObject
  | unsupportedApplicationFunction
  | unexpectedConfirmPayload
  | objectHeaderLimit
  | unsupportedQualifier
  | invalidObjectRange
  | unboundedObjectValues
  | objectValueLimit
  | unsupportedPackedIndexPrefix
  | unsupportedObject
deriving DecidableEq, Repr

/-- A `_DecodeError`: its category and the numbers printed after the colon. -/
structure AppError where
  category : AppCategory
  detail : List Nat := []
deriving DecidableEq, Repr

/-- A value of a decoded item's dictionary. -/
inductive Field where
  | none
  | int (value : Int)
  | bool (value : Bool)
  | str (value : String)
  | hex (bytes : List Byte)
  | float32 (bits : Nat)
  | float64 (bits : Nat)
  | bits (members : List (String × Bool))
deriving DecidableEq, Repr

abbrev Item := List (String × Field)

/-- `_Reader`: how much was read and what is left. -/
structure Reader where
  offset : Nat
  rest : List Byte
deriving DecidableEq

/-- A reading step; a `_DecodeError` leaves the reader where it stopped. -/
abbrev Read := EStateM AppError Reader

/-- `_Reader.take` -/
def take (size : Nat) : Read (List Byte) := fun r =>
  if r.rest.length < size then .error ⟨.truncatedApplicationObject, []⟩ r
  else .ok (r.rest.take size) ⟨r.offset + size, r.rest.drop size⟩

/-- `_Reader.integer` -/
def takeInteger (size : Nat) : Read Nat := do return littleEndian (← take size)

/-- `_FUNCTIONS` -/
def functionName? (function : Nat) : Option String :=
  match function with
  | 0 => some "CONFIRM"
  | 1 => some "READ"
  | 2 => some "WRITE"
  | 3 => some "SELECT"
  | 4 => some "OPERATE"
  | 5 => some "DIRECT_OPERATE"
  | 6 => some "DIRECT_OPERATE_NR"
  | 7 => some "IMMED_FREEZE"
  | 8 => some "IMMED_FREEZE_NR"
  | 9 => some "FREEZE_CLEAR"
  | 10 => some "FREEZE_CLEAR_NR"
  | 11 => some "FREEZE_AT_TIME"
  | 12 => some "FREEZE_AT_TIME_NR"
  | 13 => some "COLD_RESTART"
  | 14 => some "WARM_RESTART"
  | 15 => some "INITIALIZE_DATA"
  | 16 => some "INITIALIZE_APPLICATION"
  | 17 => some "START_APPLICATION"
  | 18 => some "STOP_APPLICATION"
  | 19 => some "SAVE_CONFIGURATION"
  | 20 => some "ENABLE_UNSOLICITED"
  | 21 => some "DISABLE_UNSOLICITED"
  | 22 => some "ASSIGN_CLASS"
  | 23 => some "DELAY_MEASURE"
  | 24 => some "RECORD_CURRENT_TIME"
  | 25 => some "OPEN_FILE"
  | 26 => some "CLOSE_FILE"
  | 27 => some "DELETE_FILE"
  | 28 => some "GET_FILE_INFO"
  | 29 => some "AUTHENTICATE_FILE"
  | 30 => some "ABORT_FILE"
  | 32 => some "AUTH_REQUEST"
  | 33 => some "AUTH_REQUEST_NO_ACK"
  | 129 => some "RESPONSE"
  | 130 => some "UNSOLICITED_RESPONSE"
  | 131 => some "AUTH_RESPONSE"
  | _ => none

/-- `_IIN_NAMES` -/
def iinNames : List String :=
  ["BROADCAST", "CLASS1_EVENTS", "CLASS2_EVENTS", "CLASS3_EVENTS", "NEED_TIME", "LOCAL_CONTROL",
   "DEVICE_TROUBLE", "DEVICE_RESTART", "NO_FUNC_CODE_SUPPORT", "OBJECT_UNKNOWN", "PARAMETER_ERROR",
   "EVENT_BUFFER_OVERFLOW", "ALREADY_EXECUTING", "CONFIG_CORRUPT", "RESERVED_2", "RESERVED_1"]

/-- `_STATUS_NAMES` -/
def statusName (raw : Nat) : String :=
  match raw with
  | 0 => "SUCCESS"
  | 1 => "TIMEOUT"
  | 2 => "NO_SELECT"
  | 3 => "FORMAT_ERROR"
  | 4 => "NOT_SUPPORTED"
  | 5 => "ALREADY_ACTIVE"
  | 6 => "HARDWARE_ERROR"
  | 7 => "LOCAL"
  | 8 => "TOO_MANY_OBJS"
  | 9 => "NOT_AUTHORIZED"
  | 10 => "AUTOMATION_INHIBIT"
  | 11 => "PROCESSING_LIMITED"
  | 12 => "OUT_OF_RANGE"
  | 126 => "NON_PARTICIPATING"
  | 127 => "UNDEFINED"
  | _ => "RESERVED"

/-- How the bits of a flag octet are named. -/
inductive FlagKind where
  | binary
  | binaryOutput
  | doubleBit
  | analog
  | counter
deriving DecidableEq, Repr

/-- The bit names of a flag octet, with the bit each names. -/
def flagNames (kind : FlagKind) : List (Nat × String) :=
  [(0, "ONLINE"), (1, "RESTART"), (2, "COMM_LOST"), (3, "REMOTE_FORCED"), (4, "LOCAL_FORCED")] ++
    match kind with
    | .binary => [(5, "CHATTER_FILTER"), (6, "RESERVED"), (7, "STATE")]
    | .binaryOutput => [(5, "RESERVED_5"), (6, "RESERVED_6"), (7, "STATE")]
    | .doubleBit => [(5, "CHATTER_FILTER")]
    | .analog => [(5, "OVER_RANGE"), (6, "REFERENCE_ERR"), (7, "RESERVED")]
    | .counter => [(5, "ROLLOVER"), (6, "DISCONTINUITY"), (7, "RESERVED")]

/-- `_flags` -/
def flags (raw : Nat) (kind : FlagKind) : Item :=
  [("flags", .int raw), ("flag_bits", .bits ((flagNames kind).map fun n => (n.2, raw.testBit n.1)))]

/-- `_status` -/
def status (raw : Nat) : Item :=
  [("status_wire_raw", .int raw), ("status", .str (statusName raw)), ("status_edition", .str "IEEE1815-2012")]

/-- The `struct` formats in use. -/
inductive NumberFormat where
  | int32
  | int16
  | uint32
  | uint16
  | float
  | double
deriving DecidableEq, Repr

/-- How many octets a number takes. -/
def NumberFormat.size : NumberFormat → Nat
  | .int32 | .uint32 | .float => 4
  | .int16 | .uint16 => 2
  | .double => 8

/-- Two's complement of `width` bits. -/
def signed (width n : Nat) : Int := if n < 2 ^ (width - 1) then n else n - 2 ^ width

/-- A float of `mantissa` fraction bits and `width` bits in all: `NaN` and the infinities have an
exponent of ones. -/
def floatItem (mantissa width bits : Nat) (finite : Field) : Item :=
  if (bits / 2 ^ mantissa) % 2 ^ (width - 1 - mantissa) = 2 ^ (width - 1 - mantissa) - 1 then
    [("value", .none), ("value_non_finite", .str
      (if bits % 2 ^ mantissa ≠ 0 then "NaN" else if bits.testBit (width - 1) then "-Infinity" else "+Infinity"))]
  else [("value", finite)]

/-- `_number` -/
def number (format : NumberFormat) : Read Item := do
  let bits ← takeInteger format.size
  return match format with
    | .int32 => [("value", .int (signed 32 bits))]
    | .int16 => [("value", .int (signed 16 bits))]
    | .uint32 | .uint16 => [("value", .int bits)]
    | .float => floatItem 23 32 bits (.float32 bits)
    | .double => floatItem 52 64 bits (.float64 bits)

/-- A field read only where the layout has it. -/
def optional (present : Bool) (read : Read Item) : Read Item := if present then read else return []

def takeFlags (kind : FlagKind) : Read Item := do return flags (← takeInteger 1) kind

def takeTime (name : String) (size : Nat) : Read Item := do return [(name, .int (← takeInteger size))]

/-- Binary and double-bit values: one octet of flags and state, and a time for events. -/
def binaryValue (group variation : Nat) : Read Item := do
  let raw ← takeInteger 1
  let double := group = 3 || group = 4
  let kind := if double then FlagKind.doubleBit else if group = 10 then .binaryOutput else .binary
  let value : Field := if double then .int (raw / 64 : Nat) else .bool (raw.testBit 7)
  let event := group = 2 || group = 4
  let time ←
    if event && variation = 2 then takeTime "time_ms" 6
    else if event && variation = 3 then takeTime "relative_time_ms" 2
    else return []
  return flags raw kind ++ [("value", value)] ++ time

/-- The operation of a control code. -/
def operationName (code : Nat) : String :=
  match code with
  | 0 => "NULL"
  | 1 => "PULSE_ON"
  | 2 => "PULSE_OFF"
  | 3 => "LATCH_ON"
  | 4 => "LATCH_OFF"
  | _ => "RESERVED"

/-- The trip/close code of a control code. -/
def tripCloseName (code : Nat) : String :=
  match code with
  | 0 => "NULL"
  | 1 => "CLOSE"
  | 2 => "TRIP"
  | _ => "RESERVED"

/-- The fields of a relay command. -/
def crobItem (control count onTime offTime statusRaw : Nat) : Item :=
  let control : Item :=
    [("control_code", .int control), ("operation_raw", .int (control % 16 : Nat)),
     ("operation", .str (operationName (control % 16))), ("trip_close_raw", .int (control / 64 : Nat)),
     ("trip_close", .str (tripCloseName (control / 64))), ("queue", .bool (control.testBit 4)),
     ("clear", .bool (control.testBit 5)), ("count", .int count), ("on_time_ms", .int onTime),
     ("off_time_ms", .int offTime)]
  control ++ status statusRaw

/-- A control relay output block. -/
def crobValue : Read Item := do
  let control ← takeInteger 1
  let count ← takeInteger 1
  let onTime ← takeInteger 4
  let offTime ← takeInteger 4
  let statusRaw ← takeInteger 1
  return crobItem control count onTime offTime statusRaw

/-- The layouts of `_decode_value` that are flags, a number, a time or a status, in this order. -/
structure NumberLayout where
  flags : Option FlagKind
  format : NumberFormat
  time : Bool
  status : Bool

/-- Group and variation of the number layouts. -/
def numberLayouts : List ((Nat × Nat) × NumberLayout) :=
  [((30, 1), ⟨some .analog, .int32, false, false⟩),
   ((30, 2), ⟨some .analog, .int16, false, false⟩),
   ((30, 3), ⟨none, .int32, false, false⟩),
   ((30, 4), ⟨none, .int16, false, false⟩),
   ((30, 5), ⟨some .analog, .float, false, false⟩),
   ((30, 6), ⟨some .analog, .double, false, false⟩),
   ((32, 1), ⟨some .analog, .int32, false, false⟩),
   ((32, 2), ⟨some .analog, .int16, false, false⟩),
   ((32, 3), ⟨some .analog, .int32, true, false⟩),
   ((32, 4), ⟨some .analog, .int16, true, false⟩),
   ((32, 5), ⟨some .analog, .float, false, false⟩),
   ((32, 6), ⟨some .analog, .double, false, false⟩),
   ((32, 7), ⟨some .analog, .float, true, false⟩),
   ((32, 8), ⟨some .analog, .double, true, false⟩),
   ((40, 1), ⟨some .analog, .int32, false, false⟩),
   ((40, 2), ⟨some .analog, .int16, false, false⟩),
   ((40, 3), ⟨some .analog, .float, false, false⟩),
   ((40, 4), ⟨some .analog, .double, false, false⟩),
   ((41, 1), ⟨none, .int32, false, true⟩),
   ((41, 2), ⟨none, .int16, false, true⟩),
   ((41, 3), ⟨none, .float, false, true⟩),
   ((41, 4), ⟨none, .double, false, true⟩),
   ((20, 1), ⟨some .counter, .uint32, false, false⟩),
   ((20, 2), ⟨some .counter, .uint16, false, false⟩),
   ((20, 5), ⟨none, .uint32, false, false⟩),
   ((20, 6), ⟨none, .uint16, false, false⟩),
   ((22, 1), ⟨some .counter, .uint32, false, false⟩),
   ((22, 2), ⟨some .counter, .uint16, false, false⟩),
   ((22, 5), ⟨some .counter, .uint32, true, false⟩),
   ((22, 6), ⟨some .counter, .uint16, true, false⟩)]

def numberLayout? (group variation : Nat) : Option NumberLayout := numberLayouts.lookup (group, variation)

/-- The fields of a numeric object. -/
def numberValue (layout : NumberLayout) : Read Item := do
  let head ← match layout.flags with
    | some kind => takeFlags kind
    | none => return []
  let value ← number layout.format
  let time ← optional layout.time (takeTime "time_ms" 6)
  let tail ← optional layout.status (do return status (← takeInteger 1))
  return head ++ value ++ time ++ tail

/-- The flag layouts at the head of `_decode_value`. -/
def isBinary (group variation : Nat) : Bool :=
  [(1, 2), (2, 1), (2, 2), (2, 3), (3, 2), (4, 1), (4, 2), (4, 3), (10, 2)].contains (group, variation)

/-- `_decode_value` -/
def decodeValue (group variation : Nat) : Read Item :=
  if isBinary group variation then binaryValue group variation
  else if group = 12 ∧ variation = 1 then crobValue
  else if group = 50 ∧ (variation = 1 ∨ variation = 3) then takeTime "time_ms" 6
  else
    match numberLayout? group variation with
    | some layout => numberValue layout
    | none => throw ⟨.unsupportedObject, [group, variation]⟩

/-- The range field of an object header. -/
inductive ObjectRange where
  | span (start stop : Nat)
  | all
  | count (n : Nat)
deriving DecidableEq, Repr

/-- How many objects a range has. -/
def ObjectRange.size : ObjectRange → Option Nat
  | .span start stop => some (stop - start + 1)
  | .all => none
  | .count n => some n

/-- The index of the first value where indices run from the range. -/
def ObjectRange.base : ObjectRange → Option Nat
  | .span start _ => some start
  | _ => none

/-- One object header and what was decoded of it. -/
structure TraceObject where
  group : Byte
  variation : Byte
  qualifier : Byte
  range : Option ObjectRange := none
  headerOnly : Bool := false
  indices : Option (List Nat) := none
  values : List Item := []
  packed : Option (List Byte) := none
deriving DecidableEq

def maxObjects : Nat := 65536

def prefixCode (qualifier : Byte) : Nat := qualifier.val / 16 % 8

/-- The octets of an index or object prefix. -/
def prefixWidth (code : Nat) : Nat := if code = 0 then 0 else 2 ^ (code - 1)

/-- The range field the qualifier calls for. -/
def readRange (qualifier : Byte) : Read ObjectRange := do
  let unsupported : AppError := ⟨.unsupportedQualifier, [qualifier.val]⟩
  let code := prefixCode qualifier
  let rangeCode := qualifier.val % 16
  if 128 ≤ qualifier.val ∨ 3 < code then throw unsupported
  if rangeCode ≤ 2 then
    if code ≠ 0 then throw unsupported
    let start ← takeInteger (2 ^ rangeCode)
    let stop ← takeInteger (2 ^ rangeCode)
    if stop < start then throw ⟨.invalidObjectRange, []⟩
    return .span start stop
  else if rangeCode = 6 ∧ code = 0 then return .all
  else if 7 ≤ rangeCode ∧ rangeCode ≤ 9 then return .count (← takeInteger (2 ^ (rangeCode - 7)))
  else throw unsupported

/-- `count` index prefixes in a row. -/
def takeIndices (width : Nat) : Nat → Read (List Nat)
  | 0 => return []
  | count + 1 => do
    let index ← takeInteger width
    let more ← takeIndices width count
    return index :: more

/-- The values of an object, one after the other; those read before an error are kept. -/
def decodeValues (object : TraceObject) (code : Nat) (base : Option Nat) :
    Nat → Nat → Reader → List Item × Reader × Option AppError
  | 0, _, r => ([], r, none)
  | count + 1, ordinal, r =>
    let indexed : Read (Option Nat) :=
      if code ≠ 0 then do return some (← takeInteger (prefixWidth code)) else return base.map (· + ordinal)
    match indexed r with
    | .error e r => ([], r, some e)
    | .ok index before =>
      match decodeValue object.group.val object.variation.val before with
      | .error e r => ([], r, some e)
      | .ok item after =>
        let item := item ++ [("index", match index with | some i => .int i | none => .none),
          ("raw_hex", .hex (before.rest.take (after.offset - before.offset)))]
        let (items, r, e) := decodeValues object code base count (ordinal + 1) after
        (item :: items, r, e)

def isPacked (group variation : Nat) : Bool :=
  [(1, 1), (3, 1), (10, 1), (80, 1)].contains (group, variation)

/-- The values of a packed object, `bits` to a value. -/
def unpack (group : Nat) (base : Option Nat) (count : Nat) (packed : List Byte) : List Item :=
  let bits := if group = 3 then 2 else 1
  (List.range count).map fun ordinal =>
    let value := (byteAt packed (ordinal * bits / 8)).val / 2 ^ (ordinal * bits % 8) % 2 ^ bits
    [("index", .int (base.getD 0 + ordinal : Nat)), ("value", if bits = 1 then .bool (value = 1) else .int value)]

/-- What an object header adds: the object, the values counted so far, and an error that ends the fragment. -/
structure Decoded where
  object : TraceObject
  total : Nat
  reader : Reader
  error : Option AppError

/-- The indices of a header-only object. -/
def headerOnlyObject (object : TraceObject) (range : ObjectRange) (total : Nat) (r : Reader) : Decoded :=
  let object := { object with headerOnly := true }
  let code := prefixCode object.qualifier
  if code = 0 then ⟨object, total, r, none⟩
  else
    match range.size with
    | none => ⟨object, total, r, some ⟨.truncatedApplicationObject, []⟩⟩
    | some count =>
      if maxObjects < count ∨ r.rest.length < count * prefixWidth code then
        ⟨object, total, r, some ⟨.truncatedApplicationObject, []⟩⟩
      else
        match takeIndices (prefixWidth code) count r with
        | .error e r => ⟨object, total, r, some e⟩
        | .ok indices r => ⟨{ object with indices := some indices }, total, r, none⟩

/-- The values of an object that has some. -/
def valueObject (object : TraceObject) (range : ObjectRange) (total : Nat) (r : Reader) : Decoded :=
  match range.size with
  | none => ⟨object, total, r, some ⟨.unboundedObjectValues, []⟩⟩
  | some count =>
    let total := total + count
    let code := prefixCode object.qualifier
    if maxObjects < total then ⟨object, total, r, some ⟨.objectValueLimit, []⟩⟩
    else if isPacked object.group.val object.variation.val then
      if code ≠ 0 then ⟨object, total, r, some ⟨.unsupportedPackedIndexPrefix, []⟩⟩
      else
        match take ((count * (if object.group.val = 3 then 2 else 1) + 7) / 8) r with
        | .error e r => ⟨object, total, r, some e⟩
        | .ok packed r =>
          ⟨{ object with values := unpack object.group.val range.base count packed, packed := some packed },
            total, r, none⟩
    else
      let (values, r, error) := decodeValues object code range.base count 0 r
      ⟨{ object with values }, total, r, error⟩

/-- The body of the loop over the object headers. -/
def decodeObject (headerOnly : Bool) (group variation qualifier : Byte) (total : Nat) (r : Reader) : Decoded :=
  let object : TraceObject := { group, variation, qualifier }
  match readRange qualifier r with
  | .error e r => ⟨object, total, r, some e⟩
  | .ok range r =>
    let object := { object with range := some range }
    if headerOnly then headerOnlyObject object range total r else valueObject object range total r

/-- The loop over the object headers. A header takes three bytes, so the number of bytes is enough
`fuel`. -/
def decodeObjects (headerOnly : Bool) : Nat → List TraceObject → Nat → Reader →
    List TraceObject × Reader × Option AppError
  | 0, objects, _, r => (objects, r, none)
  | fuel + 1, objects, total, r =>
    if r.rest = [] then (objects, r, none)
    else if 4096 ≤ objects.length then (objects, r, some ⟨.objectHeaderLimit, []⟩)
    else
      match take 3 r with
      | .ok [group, variation, qualifier] r =>
        let decoded := decodeObject headerOnly group variation qualifier total r
        match decoded.error with
        | some e => (objects ++ [decoded.object], decoded.reader, some e)
        | none => decodeObjects headerOnly fuel (objects ++ [decoded.object]) decoded.total decoded.reader
      | .ok _ r => (objects, r, none)
      | .error e r => (objects, r, some e)

/-- The internal indications of a response. -/
structure Iin where
  iin1 : Byte
  iin2 : Byte
  bits : List (String × Bool)
deriving DecidableEq

/-- The application header. -/
structure AppHeader where
  controlRaw : Byte
  fir : Bool
  fin : Bool
  con : Bool
  uns : Bool
  sequence : Nat
  functionCode : Byte
  functionName : String
  iin : Option Iin := none
deriving DecidableEq

/-- The header of an application fragment. -/
def appHeader (control function : Byte) : AppHeader where
  controlRaw := control
  fir := hasBits control 0x80
  fin := hasBits control 0x40
  con := hasBits control 0x20
  uns := hasBits control 0x10
  sequence := control.val &&& 0x0F
  functionCode := function
  functionName := (functionName? function.val).getD "UNKNOWN"

/-- `TraceApplication`: `raw` is printed as `raw_hex`; `remaining` is there after an error. -/
structure TraceApplication where
  sessionId : Nat
  direction : Direction
  frameSequences : List Nat
  raw : List Byte
  header : Option AppHeader
  decodedBytes : Nat
  remaining : Option (List Byte)
  objects : List TraceObject
  decodeError : Option AppError
deriving DecidableEq

def isHeaderOnly (function : Nat) : Bool := [1, 7, 8, 9, 10, 20, 21, 22].contains function

def hasObjectValues (function : Nat) : Bool := [2, 3, 4, 5, 6, 129, 130].contains function

/-- The internal indications after the header of a response. -/
def takeIin : Read (Option Iin) := do
  match ← take 2 with
  | [iin1, iin2] =>
    let numeric := littleEndian [iin1, iin2]
    return some { iin1, iin2, bits := iinNames.zipIdx.map fun n => (n.1, numeric.testBit n.2) }
  | _ => return none

/-- The body of `_decode_application` after the two header octets. -/
def decodeBody (control function : Byte) (r : Reader) :
    AppHeader × List TraceObject × Reader × Option AppError :=
  let header := appHeader control function
  let unsupported : AppError := ⟨.unsupportedApplicationFunction, [function.val]⟩
  if (functionName? function.val).isNone then (header, [], r, some unsupported)
  else
    let withIin : Read (Option Iin) :=
      if [129, 130, 131].contains function.val then takeIin else return none
    match withIin r with
    | .error e r => (header, [], r, some e)
    | .ok iin r =>
      let header := { header with iin }
      if function.val = 0 ∧ r.rest ≠ [] then (header, [], r, some ⟨.unexpectedConfirmPayload, []⟩)
      else if r.rest ≠ [] ∧ isHeaderOnly function.val = false ∧ hasObjectValues function.val = false then
        (header, [], r, some unsupported)
      else (header, decodeObjects (isHeaderOnly function.val) r.rest.length [] 0 r)

/-- `_decode_application` -/
def decodeApplication (data : List Byte) (sessionId : Nat) (direction : Direction) (frames : List Nat) :
    TraceApplication :=
  match data with
  | control :: function :: rest =>
    let (header, objects, r, error) := decodeBody control function ⟨2, rest⟩
    { sessionId, direction, frameSequences := frames, raw := data, header := some header
      decodedBytes := r.offset, remaining := error.map fun _ => r.rest, objects, decodeError := error }
  | short =>
    { sessionId, direction, frameSequences := frames, raw := data, header := none, decodedBytes := 0
      remaining := some short, objects := [], decodeError := some ⟨.truncatedApplicationObject, []⟩ }

end EmsDnp3.Python
