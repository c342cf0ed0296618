import EmsDnp3.Base.Bytes
import EmsDnp3.Base.Tally
import EmsDnp3.Native.CaptureConfig

/-!
# What the DNP3 stack reports

The enumerations of OpenDNP3 that the host prints, the header and response information of its
callbacks, and the twelve kinds of measurement that the two SOE handlers turn into records. The
handlers of a read task and of the unsolicited queue make the same record of a measurement.
-/

namespace EmsDnp3.Native

/-- How OpenDNP3 says a task ended. -/
inductive TaskCompletion where
  | success
  | failureBadResponse
  | failureResponseTimeout
  | failureStartTimeout
  | failureMessageFormatError
  | failureNoComms
deriving DecidableEq, Repr

/-- `TaskCompletionSpec::to_string` -/
def TaskCompletion.name : TaskCompletion → String
  | .success => "SUCCESS"
  | .failureBadResponse => "FAILURE_BAD_RESPONSE"
  | .failureResponseTimeout => "FAILURE_RESPONSE_TIMEOUT"
  | .failureStartTimeout => "FAILURE_START_TIMEOUT"
  | .failureMessageFormatError => "FAILURE_MESSAGE_FORMAT_ERROR"
  | .failureNoComms => "FAILURE_NO_COMMS"

/-- The status codes of a command. -/
inductive CommandStatus where
  | success
  | timeout
  | noSelect
  | formatError
  | notSupported
  | alreadyActive
  | hardwareError
  | local_
  | tooManyOps
  | notAuthorized
  | automationInhibit
  | processingLimited
  | outOfRange
  | downstreamLocal
  | alreadyComplete
  | blocked
  | cancelled
  | blockedOtherMaster
  | downstreamFail
  | nonParticipating
  | undefined
deriving DecidableEq, Repr

/-- `CommandStatusSpec::to_type` -/
def CommandStatus.raw : CommandStatus → Nat
  | .success => 0
  | .timeout => 1
  | .noSelect => 2
  | .formatError => 3
  | .notSupported => 4
  | .alreadyActive => 5
  | .hardwareError => 6
  | .local_ => 7
  | .tooManyOps => 8
  | .notAuthorized => 9
  | .automationInhibit => 10
  | .processingLimited => 11
  | .outOfRange => 12
  | .downstreamLocal => 13
  | .alreadyComplete => 14
  | .blocked => 15
  | .cancelled => 16
  | .blockedOtherMaster => 17
  | .downstreamFail => 18
  | .nonParticipating => 126
  | .undefined => 127

/-- `CommandStatusSpec::to_string` -/
def CommandStatus.name : CommandStatus → String
  | .success => "SUCCESS"
  | .timeout => "TIMEOUT"
  | .noSelect => "NO_SELECT"
  | .formatError => "FORMAT_ERROR"
  | .notSupported => "NOT_SUPPORTED"
  | .alreadyActive => "ALREADY_ACTIVE"
  | .hardwareError => "HARDWARE_ERROR"
  | .local_ => "LOCAL"
  | .tooManyOps => "TOO_MANY_OPS"
  | .notAuthorized => "NOT_AUTHORIZED"
  | .automationInhibit => "AUTOMATION_INHIBIT"
  | .processingLimited => "PROCESSING_LIMITED"
  | .outOfRange => "OUT_OF_RANGE"
  | .downstreamLocal => "DOWNSTREAM_LOCAL"
  | .alreadyComplete => "ALREADY_COMPLETE"
  | .blocked => "BLOCKED"
  | .cancelled => "CANCELLED"
  | .blockedOtherMaster => "BLOCKED_OTHER_MASTER"
  | .downstreamFail => "DOWNSTREAM_FAIL"
  | .nonParticipating => "NON_PARTICIPATING"
  | .undefined => "UNDEFINED"

/-! ## `Ieee1815_2012.h` -/

def kTargetProtocolEdition : String := "IEEE1815-2012"

/-- `command_status_name_2012` -/
def commandStatusName2012 : Nat → String
  | 0 => "SUCCESS"
  | 1 => "TIMEOUT"
  | 2 => "NO_SELECT"
  | 3 => "FORMAT_ERROR"
  | 4 => "NOT_SUPPORTED"
  | 5 => "ALREADY_ACTIVE"
  | 6 => "HARDWARE_ERROR"
  | 7 => "LOCAL"
  | 8 => "TOO_MANY_OBJS"
  | 9 => "NOT_AUTHORIZED"
  | 10 => "AUTOMATION_INHIBIT"
  | 11 => "PROCESSING_LIMITED"
  | 12 => "OUT_OF_RANGE"
  | 126 => "NON_PARTICIPATING"
  | 127 => "UNDEFINED"
  | _ => "RESERVED"

/-- `command_status_is_reserved_2012` -/
def commandStatusIsReserved2012 (raw : Nat) : Bool := 13 ≤ raw && raw ≤ 125

/-- `command_status_wire_raw_unambiguous` -/
def commandStatusWireRawUnambiguous (raw : Nat) : Bool := raw ≠ 127

/-- `command_status_requires_manual_readback_2012` -/
def commandStatusRequiresManualReadback2012 (raw : Nat) : Bool :=
  raw = 1 || commandStatusIsReserved2012 raw || !commandStatusWireRawUnambiguous raw

/-! ## Headers and responses -/

/-- The qualifier codes the host reports. -/
inductive QualifierCode where
  | uint8StartStop
  | uint16StartStop
  | allObjects
  | uint8Cnt
  | uint16Cnt
  | uint8CntUint8Index
  | uint16CntUint16Index
  | undefined
deriving DecidableEq, Repr

def QualifierCode.name : QualifierCode → String
  | .uint8StartStop => "UINT8_START_STOP"
  | .uint16StartStop => "UINT16_START_STOP"
  | .allObjects => "ALL_OBJECTS"
  | .uint8Cnt => "UINT8_CNT"
  | .uint16Cnt => "UINT16_CNT"
  | .uint8CntUint8Index => "UINT8_CNT_UINT8_INDEX"
  | .uint16CntUint16Index => "UINT16_CNT_UINT16_INDEX"
  | .undefined => "UNDEFINED"

/-- The code on the wire. -/
def QualifierCode.raw : QualifierCode → Nat
  | .uint8StartStop => 0x00
  | .uint16StartStop => 0x01
  | .allObjects => 0x06
  | .uint8Cnt => 0x07
  | .uint16Cnt => 0x08
  | .uint8CntUint8Index => 0x17
  | .uint16CntUint16Index => 0x28
  | .undefined => 0xFF

/-- How far a timestamp can be trusted. -/
inductive TimestampQuality where
  | synchronized
  | unsynchronized
  | invalid
deriving DecidableEq, Repr

def TimestampQuality.name : TimestampQuality → String
  | .synchronized => "SYNCHRONIZED"
  | .unsynchronized => "UNSYNCHRONIZED"
  | .invalid => "INVALID"

/-- `HeaderInfo`; the group and variation are the two octets of its `gv`. -/
structure HeaderInfo where
  group : Fin 256
  variation : Fin 256
  qualifier : QualifierCode
  tsquality : TimestampQuality
  isEventVariation : Bool
  flagsValid : Bool
  headerIndex : Nat
deriving DecidableEq

/-- What OpenDNP3 says of a fragment. -/
structure ResponseInfo where
  unsolicited : Bool
  fir : Bool
  fin : Bool
deriving DecidableEq

/-! ## Measurements -/

/-- The states of a double-bit input. -/
inductive DoubleBit where
  | intermediate
  | determinedOff
  | determinedOn
  | indeterminate
deriving DecidableEq, Repr

def DoubleBit.name : DoubleBit → String
  | .intermediate => "INTERMEDIATE"
  | .determinedOff => "DETERMINED_OFF"
  | .determinedOn => "DETERMINED_ON"
  | .indeterminate => "INDETERMINATE"

/-- The state on the wire. -/
def DoubleBit.raw : DoubleBit → Nat
  | .intermediate => 0
  | .determinedOff => 1
  | .determinedOn => 2
  | .indeterminate => 3

/-- A `double`; a finite one is known by the text it is printed as. -/
inductive AnalogValue where
  | finite (value : FloatLit)
  | nan
  | positiveInfinity
  | negativeInfinity
deriving DecidableEq

/-- `IntervalUnitsSpec::to_string` of `GetUnitsEnum()`. -/
def intervalUnitsName (units : Fin 256) : String :=
  (["NoRepeat", "Milliseconds", "Seconds", "Minutes", "Hours", "Days", "Weeks", "Months7", "Months8", "Months9",
    "Seasons"][units.val]?).getD "Undefined"

/-- One item of a `Process` callback. -/
inductive SoeItem where
  | binary (index : PointIndex) (value : Bool) (flags : Fin 256) (time : Nat)
  | doubleBitBinary (index : PointIndex) (value : DoubleBit) (flags : Fin 256) (time : Nat)
  | analog (index : PointIndex) (value : AnalogValue) (flags : Fin 256) (time : Nat)
  | counter (index : PointIndex) (value : Nat) (flags : Fin 256) (time : Nat)
  | frozenCounter (index : PointIndex) (value : Nat) (flags : Fin 256) (time : Nat)
  | binaryOutputStatus (index : PointIndex) (value : Bool) (flags : Fin 256) (time : Nat)
  | analogOutputStatus (index : PointIndex) (value : AnalogValue) (flags : Fin 256) (time : Nat)
  | octetString (index : PointIndex) (bytes : List Byte)
  | timeAndInterval (index : PointIndex) (time interval : Nat) (units : Fin 256)
  | binaryCommandEvent (index : PointIndex) (value : Bool) (status : CommandStatus) (flags : Fin 256) (time : Nat)
  | analogCommandEvent (index : PointIndex) (value : AnalogValue) (status : CommandStatus) (time : Nat)
  | dnpTime (time : Nat)
deriving DecidableEq

/-- The arguments of `record`, after the header. -/
structure Reading where
  index : Option PointIndex
  kind : String
  value : Json
  flags : Option (Fin 256)
  time : Nat
  extra : List (String × Json)
deriving DecidableEq

/-- `finite_number`: the printed value, and the class of one that cannot be printed. -/
def finiteNumber : AnalogValue → Json × List (String × Json)
  | .finite value => (.float value, [])
  | .nan => (.null, [("value_class", .str "nan")])
  | .positiveInfinity => (.null, [("value_class", .str "positive_infinity")])
  | .negativeInfinity => (.null, [("value_class", .str "negative_infinity")])

/-- The further fields of a command event. -/
def commandStatusFields (status : CommandStatus) : List (String × Json) :=
  [("command_status", .str (commandStatusName2012 status.raw)), ("command_status_raw", .nat status.raw),
   ("command_status_edition", .str kTargetProtocolEdition), ("command_status_backend", .str status.name),
   ("command_status_reserved_2012", .bool (commandStatusIsReserved2012 status.raw)),
   ("command_status_wire_raw_unambiguous", .bool (commandStatusWireRawUnambiguous status.raw))]

/-- `bytes_hex` -/
def bytesHex (bytes : List Byte) : Text := bytes.flatMap hexPair

/-- The `Process` overloads: what each passes on to `record`. -/
def SoeItem.reading : SoeItem → Reading
  | .binary index value flags time => ⟨some index, "binary_input", .bool value, some flags, time, []⟩
  | .doubleBitBinary index value flags time =>
    ⟨some index, "double_bit_binary_input", .str value.name, some flags, time, [("value_raw", .nat value.raw)]⟩
  | .analog index value flags time =>
    ⟨some index, "analog_input", (finiteNumber value).1, some flags, time, (finiteNumber value).2⟩
  | .counter index value flags time => ⟨some index, "counter", .nat value, some flags, time, []⟩
  | .frozenCounter index value flags time => ⟨some index, "frozen_counter", .nat value, some flags, time, []⟩
  | .binaryOutputStatus index value flags time =>
    ⟨some index, "binary_output_status", .bool value, some flags, time, []⟩
  | .analogOutputStatus index value flags time =>
    ⟨some index, "analog_output_status", (finiteNumber value).1, some flags, time, (finiteNumber value).2⟩
  | .octetString index bytes =>
    ⟨some index, "octet_string", .str (bytesHex bytes), none, 0,
      [("encoding", .str "hex"), ("length", .nat bytes.length)]⟩
  | .timeAndInterval index time interval units =>
    ⟨some index, "time_and_interval",
      .object [("time_ms", .nat time), ("interval", .nat interval), ("units", .str (intervalUnitsName units)),
        ("units_raw", .nat units.val)], none, time, []⟩
  | .binaryCommandEvent index value status flags time =>
    ⟨some index, "binary_command_event", .bool value, some flags, time, commandStatusFields status⟩
  | .analogCommandEvent index value status time =>
    ⟨some index, "analog_command_event", (finiteNumber value).1, none, time,
      commandStatusFields status ++ (finiteNumber value).2⟩
  | .dnpTime time => ⟨none, "time", .nat time, none, time, []⟩

/-- The fields that both records have after the receive sequence and the time of receipt. -/
def measurementFields (info : HeaderInfo) (r : Reading) (source : CaptureSource) (fragmentIndex : Nat) :
    List (String × Json) :=
  [("kind", .str r.kind), ("group", .nat info.group.val), ("variation", .nat info.variation.val),
   ("qualifier", .str info.qualifier.name), ("qualifier_raw", .nat info.qualifier.raw),
   ("index", .ofOption (fun i : PointIndex => .nat i.val) r.index), ("value", r.value),
   ("flags_raw", .ofOption (fun f : Fin 256 => .nat f.val) r.flags), ("flags_valid", .bool info.flagsValid),
   ("dnp3_timestamp_ms", if info.tsquality = .invalid then .null else .nat r.time),
   ("timestamp_quality", .str info.tsquality.name), ("is_event", .bool info.isEventVariation),
   ("header_index", .nat info.headerIndex), ("source", .str source.name), ("fragment_index", .nat fragmentIndex)]

end EmsDnp3.Native
