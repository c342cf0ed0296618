import EmsDnp3.Base.Except
import EmsDnp3.Native.Models

/-!
# Trace configuration

`TraceConfig.cpp`: the parameters of `trace.start`, `trace.read` and `trace.stop`.
-/

namespace EmsDnp3.Native

/-- The parameters of `trace.start`. -/
structure TraceStartConfig where
  queueCapacity : Nat := 16384
deriving DecidableEq

/-- The parameters of the calls that name a trace. -/
structure TraceReferenceConfig where
  traceId : Text
  maxRecords : Nat := 256
  timeoutMs : Nat := 0
deriving DecidableEq

namespace TraceConfig

/-- Every refusal names the field and the reason. -/
def invalid (field : Text) (reason : String) : BackendError :=
  { code := .invalidRequest, message := "invalid protocol trace parameter",
    details := .object [("field", .str field), ("reason", .str reason)] }

/-- The first member that is not allowed is refused. -/
def rejectUnknown (params : Json) (allowed : List String) : Except BackendError Unit :=
  match params with
  | .obj members =>
    match members.find? fun m => !(allowed.map text).contains m.1 with
    | some m => .error (invalid m.1 "unknown_field")
    | none => .ok ()
  | _ => .error (invalid "params" "invalid_type")

/-- A number within its bounds, or the default. -/
def readNumber (params : Json) (key : String) (minimum maximum value : Nat) : Except BackendError Nat :=
  match params.get? key with
  | none => .ok value
  | some found =>
    match integer? found with
    | none => .error (invalid key "invalid_type")
    | some received =>
      if received < minimum ∨ maximum < received then .error (invalid key "out_of_range") else .ok received.toNat

def isDigitPoint (c : CodePoint) : Bool := 0x30 ≤ c.val && c.val ≤ 0x39

/-- `trace-` and a number without a leading zero. -/
def isTraceId (value : Text) : Bool :=
  7 ≤ value.length && value.length ≤ 64 && value.take 6 = text "trace-"
    && (value.drop 6).head?.all (fun c => 0x31 ≤ c.val && c.val ≤ 0x39) && (value.drop 6).all isDigitPoint

/-- The trace id: a token of the form the host gives out. -/
def readTraceId (params : Json) : Except BackendError Text :=
  match params.get? "trace_id" with
  | none => .error (invalid "trace_id" "missing_field")
  | some (.str value) => if isTraceId value then .ok value else .error (invalid "trace_id" "invalid_token")
  | some _ => .error (invalid "trace_id" "invalid_type")

end TraceConfig

/-- `parse_trace_start_config` -/
def parseTraceStartConfig (params : Json) : Except BackendError TraceStartConfig := do
  TraceConfig.rejectUnknown params ["queue_capacity"]
  let queueCapacity ← TraceConfig.readNumber params "queue_capacity" 1 65536 16384
  return { queueCapacity }

/-- `parse_trace_reference_config` -/
def parseTraceReferenceConfig (params : Json) (acceptReadOptions : Bool) : Except BackendError TraceReferenceConfig := do
  TraceConfig.rejectUnknown params (if acceptReadOptions then ["trace_id", "max_records", "timeout_ms"] else ["trace_id"])
  let traceId ← TraceConfig.readTraceId params
  let maxRecords ← TraceConfig.readNumber params "max_records" 1 1024 256
  let timeoutMs ← TraceConfig.readNumber params "timeout_ms" 0 60000 0
  return { traceId, maxRecords, timeoutMs }

end EmsDnp3.Native
