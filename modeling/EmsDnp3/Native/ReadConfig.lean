import EmsDnp3.Native.ReadOperation
import EmsDnp3.Native.RequestConfig

/-!
# Read configuration

`ReadConfig.cpp`: the parameters of `integrity_poll`, `class_poll`, `read`, `enable_unsolicited`,
`disable_unsolicited` and `wait_unsolicited`. An absent member leaves the default of its field.
-/

namespace EmsDnp3.Native

/-- The qualifiers of a read header. -/
inductive ReadQualifier where
  | allObjects
  | range8
  | range16
  | count8
  | count16
deriving DecidableEq, Repr

/-- A header of a read request. -/
structure ReadHeader where
  group : Nat := 0
  variation : Nat := 0
  qualifier : ReadQualifier := .allObjects
  start : Nat := 0
  stop : Nat := 0
  count : Nat := 0
deriving DecidableEq

/-- The parameters of `class_poll`, with their defaults. -/
structure ClassPollConfig where
  options : ReadOptions := {}
  classMask : BitVec 8 := 0x0E#8
deriving DecidableEq

/-- The parameters of `read`. -/
structure ReadConfig where
  options : ReadOptions := {}
  headers : List ReadHeader := []
deriving DecidableEq

/-- The parameters of the two unsolicited switches. -/
structure UnsolicitedControlConfig where
  timeoutMs : Nat := 5000
  classMask : BitVec 8 := 0x0E#8
deriving DecidableEq

namespace Request

/-- The return mode of a protocol name. -/
def ReturnMode.ofName (name : Text) : Option ReturnMode :=
  if name = text "detail" then some .detail
  else if name = text "summary" then some .summary
  else none

/-- The return mode, or the default. -/
def parseReturnMode (params : Json) (output : ReturnMode) : Except BackendError ReturnMode :=
  match params.get? "return_mode" with
  | none => .ok output
  | some (.str value) =>
    match ReturnMode.ofName value with
    | some mode => .ok mode
    | none => .error (invalidParameter "return_mode" "invalid_enum"
        [("allowed", .arr [.str "detail", .str "summary"]), ("received", .str value)])
  | some _ => .error (invalidParameter "return_mode" "invalid_type" [("expected", .str "string")])

/-- The options all reads share. -/
def parseOptions (params : Json) (output : ReadOptions) : Except BackendError ReadOptions := do
  let timeoutMs ← readUnsigned params "timeout_ms" "timeout_ms" 50 300000 output.timeoutMs false
  let maxMeasurements ←
    readUnsigned params "max_measurements" "max_measurements" 1 1000000 output.maxMeasurements false
  let returnMode ← parseReturnMode params output.returnMode
  return { timeoutMs, maxMeasurements, returnMode }

/-- `item.get<int>()` of an integer: the low 32 bits. -/
def getInt (n : Int) : Int := n.bmod (2 ^ 32)

/-- The loop of `parse_event_classes` from item `index`, with the classes seen before it. -/
def parseClassItems : Nat → BitVec 8 → List Json → Except BackendError (BitVec 8)
  | _, mask, [] => .ok mask
  | index, mask, item :: items =>
    match integer? item with
    | none => .error (invalidParameter (itemPath "classes" index) "invalid_type" [("expected", .str "integer")])
    | some n => do
      let value := getInt n
      rejectIf (value < 1 || 3 < value)
        (invalidParameter (itemPath "classes" index) "out_of_range"
          [("minimum", .nat 1), ("maximum", .nat 3), ("received", .int value)])
      let bit : BitVec 8 := 1#8 <<< value.toNat
      rejectIf (mask &&& bit ≠ 0#8)
        (invalidParameter (itemPath "classes" index) "duplicate_value" [("received", .int value)])
      parseClassItems (index + 1) (mask ||| bit) items

/-- One to three distinct classes as a mask. -/
def parseEventClasses (params : Json) (output : BitVec 8) : Except BackendError (BitVec 8) :=
  match params.get? "classes" with
  | none => .ok output
  | some (.arr classes) => do
    rejectIf (classes = [] || 3 < classes.length)
      (invalidParameter "classes" "invalid_length"
        [("minimum_items", .nat 1), ("maximum_items", .nat 3), ("received_items", .nat classes.length)])
    parseClassItems 0 0#8 classes
  | some _ => .error (invalidParameter "classes" "invalid_type" [("expected", .str "array")])

/-- `reject_field_for_qualifier` over the listed fields. -/
def rejectFieldsForQualifier (object : Json) (parent qualifier : Text) : List String → Except BackendError Unit
  | [] => .ok ()
  | key :: keys => do
    rejectIf (object.get? key).isSome
      (invalidParameter (memberPath parent key) "unexpected_for_qualifier" [("qualifier", .str qualifier)])
    rejectFieldsForQualifier object parent qualifier keys

/-- The branch of `range8` and `range16`. -/
def parseRange (value : Json) (parent name : Text) (qualifier : ReadQualifier) (maximum : Nat) :
    Except BackendError ReadHeader := do
  rejectFieldsForQualifier value parent name ["count"]
  let start ← readUnsigned value "start" (memberPath parent "start") 0 maximum 0 true
  let stop ← readUnsigned value "stop" (memberPath parent "stop") 0 maximum 0 true
  rejectIf (stop < start) (invalidParameter parent "invalid_range" [("start", .nat start), ("stop", .nat stop)])
  return { qualifier, start, stop }

/-- The branch of `count8` and `count16`. -/
def parseCount (value : Json) (parent name : Text) (qualifier : ReadQualifier) (maximum : Nat) :
    Except BackendError ReadHeader := do
  rejectFieldsForQualifier value parent name ["start", "stop"]
  let count ← readUnsigned value "count" (memberPath parent "count") 1 maximum 0 true
  return { qualifier, count }

/-- The branches on `qualifier`. -/
def parseQualified (value : Json) (parent name : Text) : Except BackendError ReadHeader :=
  if name = text "all_objects" then do
    rejectFieldsForQualifier value parent name ["start", "stop", "count"]
    return {}
  else if name = text "range8" then parseRange value parent name .range8 255
  else if name = text "range16" then parseRange value parent name .range16 65535
  else if name = text "count8" then parseCount value parent name .count8 255
  else if name = text "count16" then parseCount value parent name .count16 65535
  else
    .error (invalidParameter (memberPath parent "qualifier") "invalid_enum"
      [("allowed", .arr [.str "all_objects", .str "range8", .str "range16", .str "count8", .str "count16"]),
       ("received", .str name)])

/-- The member `qualifier`. -/
def readQualifier (value : Json) (parent : Text) : Except BackendError Text :=
  match value.get? "qualifier" with
  | none => .error (invalidParameter (memberPath parent "qualifier") "missing_field" [])
  | some (.str name) => .ok name
  | some _ => .error (invalidParameter (memberPath parent "qualifier") "invalid_type" [("expected", .str "string")])

/-- A class of events or static data, requested by a range. -/
def isClassRange (header : ReadHeader) : Bool :=
  header.group = 60 && 1 ≤ header.variation && header.variation ≤ 4 &&
    (header.qualifier = .range8 || header.qualifier = .range16)

def headerFields : List String := ["group", "variation", "qualifier", "start", "stop", "count", "reserved"]

/-- One header: its object, its qualifier and what the qualifier asks for. -/
def parseHeader (index : Nat) (value : Json) : Except BackendError ReadHeader := do
  let parent := itemPath "headers" index
  rejectIf (!value.isObj) (invalidParameter parent "invalid_type" [("expected", .str "object")])
  rejectUnknownFields value headerFields parent
  rejectIf (value.get? "reserved").isSome (invalidParameter (memberPath parent "reserved") "reserved_field" [])
  let group ← readUnsigned value "group" (memberPath parent "group") 0 255 0 true
  let variation ← readUnsigned value "variation" (memberPath parent "variation") 0 255 0 true
  let name ← readQualifier value parent
  let qualified ← parseQualified value parent name
  let output := { qualified with group := group, variation := variation }
  rejectIf (isClassRange output)
    (invalidParameter (memberPath parent "qualifier") "unsupported_combination"
      [("group", .nat group), ("variation", .nat variation),
       ("reason_detail", .str "class data requests do not use range qualifiers")])
  return output

/-- The loop of `parse_read_config` from header `index`. -/
def parseHeaders : Nat → List Json → Except BackendError (List ReadHeader)
  | _, [] => .ok []
  | index, value :: values => do
    let header ← parseHeader index value
    return header :: (← parseHeaders (index + 1) values)

end Request

/-- `parse_read_options` on a default-initialised output. -/
def parseReadOptions (params : Json) : Except BackendError ReadOptions := do
  Request.rejectUnknownFields params ["timeout_ms", "max_measurements", "return_mode"] []
  Request.parseOptions params {}

/-- `parse_class_poll_config` on a default-initialised output. -/
def parseClassPollConfig (params : Json) : Except BackendError ClassPollConfig := do
  Request.rejectUnknownFields params ["timeout_ms", "max_measurements", "return_mode", "classes"] []
  let options ← Request.parseOptions params {}
  let classMask ← Request.parseEventClasses params 0x0E#8
  return { options, classMask }

/-- `parse_read_config` on a default-initialised output. -/
def parseReadConfig (params : Json) : Except BackendError ReadConfig := do
  Request.rejectUnknownFields params ["timeout_ms", "max_measurements", "return_mode", "headers"] []
  let options ← Request.parseOptions params {}
  let items ← (readArray params "headers" "headers").mapError Request.withMessage
  rejectIf (items = [] || 64 < items.length)
    (Request.invalidParameter "headers" "invalid_length"
      [("minimum_items", .nat 1), ("maximum_items", .nat 64), ("received_items", .nat items.length)])
  let headers ← Request.parseHeaders 0 items
  return { options, headers }

/-- `parse_unsolicited_control_config` on a default-initialised output. -/
def parseUnsolicitedControlConfig (params : Json) : Except BackendError UnsolicitedControlConfig := do
  Request.rejectUnknownFields params ["timeout_ms", "classes"] []
  let timeoutMs ← Request.readUnsigned params "timeout_ms" "timeout_ms" 50 300000 5000 false
  let classMask ← Request.parseEventClasses params 0x0E#8
  return { timeoutMs, classMask }

/-- `parse_wait_unsolicited_config` on a default-initialised output. -/
def parseWaitUnsolicitedConfig (params : Json) : Except BackendError WaitUnsolicitedConfig := do
  Request.rejectUnknownFields params ["timeout_ms", "max_events"] []
  let timeoutMs ← Request.readUnsigned params "timeout_ms" "timeout_ms" 0 60000 0 false
  let maxEvents ← Request.readUnsigned params "max_events" "max_events" 1 256 256 false
  return { timeoutMs, maxEvents }

end EmsDnp3.Native
