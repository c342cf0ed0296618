import EmsDnp3.Json.Value

/-!
# Host models: error codes, backend results and the JSON envelope

`Models.h`, `Backend.h` and the response builders of `JsonLineProtocol.cpp`. Every
request ends in one envelope, a success with a result or an error with a code, a
message and a details object.
-/

namespace EmsDnp3.Native

/-- The error codes of the host. -/
inductive ErrorCode where
  | invalidRequest
  | requestTooLarge
  | schemaMismatch
  | invalidState
  | notConnected
  | alreadyConnected
  | connectionTimeout
  | safetyInterlock
  | alreadyExecuting
  | responseTimeout
  | taskFailed
  | commandFailed
  | unsupportedByBackend
  | unsupportedByDeviceProfile
  | protocolError
  | queueOverflow
  | processShuttingDown
  | internalError
deriving DecidableEq, Repr

/-- `to_string(ErrorCode)`. -/
def ErrorCode.name : ErrorCode → String
  | .invalidRequest => "INVALID_REQUEST"
  | .requestTooLarge => "REQUEST_TOO_LARGE"
  | .schemaMismatch => "SCHEMA_MISMATCH"
  | .invalidState => "INVALID_STATE"
  | .notConnected => "NOT_CONNECTED"
  | .alreadyConnected => "ALREADY_CONNECTED"
  | .connectionTimeout => "CONNECTION_TIMEOUT"
  | .safetyInterlock => "SAFETY_INTERLOCK"
  | .alreadyExecuting => "ALREADY_EXECUTING"
  | .responseTimeout => "RESPONSE_TIMEOUT"
  | .taskFailed => "TASK_FAILED"
  | .commandFailed => "COMMAND_FAILED"
  | .unsupportedByBackend => "UNSUPPORTED_BY_BACKEND"
  | .unsupportedByDeviceProfile => "UNSUPPORTED_BY_DEVICE_PROFILE"
  | .protocolError => "PROTOCOL_ERROR"
  | .queueOverflow => "QUEUE_OVERFLOW"
  | .processShuttingDown => "PROCESS_SHUTTING_DOWN"
  | .internalError => "INTERNAL_ERROR"

/-- `BackendError`. -/
structure BackendError where
  code : ErrorCode
  message : String
  details : Json
deriving DecidableEq

/-- `BackendOperationResult`: `failure` carries the error, `success` the result object. -/
abbrev BackendOperationResult := Except BackendError Json

/-- `ProtocolError`, the payload of an error envelope. -/
structure ProtocolError where
  id : Option Text
  error : BackendError

/-- `JsonLineProtocol::success_response`. -/
def successResponse (id : Text) (result : Json) : Json :=
  .object [("schema_version", .nat 1), ("id", .str id), ("ok", .bool true), ("result", result)]

/-- `JsonLineProtocol::error_response`. -/
def errorResponse (e : ProtocolError) : Json :=
  .object [("schema_version", .nat 1), ("id", .ofOption .str e.id), ("ok", .bool false),
    ("error", .object [("code", .str e.error.code.name), ("message", .str e.error.message),
      ("details", e.error.details)])]

/-- `nlohmann::json` keeps an integer only when it fits `int64_t` or `uint64_t`; a larger
literal is parsed as a double. -/
def integer? : Json → Option Int
  | .int n => if -(2 ^ 63) ≤ n ∧ n < 2 ^ 64 then some n else none
  | _ => none

theorem integer?_nat {n : Nat} (machine : n < 2 ^ 64) : integer? (.nat n) = some (n : Int) := by
  have above : -(2 ^ 63 : Int) ≤ n := (neg_nonpos.mpr (by positivity)).trans (Int.natCast_nonneg n)
  have below : (n : Int) < 2 ^ 64 := by exact_mod_cast machine
  unfold integer? Json.nat
  dsimp only
  rw [if_pos ⟨above, below⟩]

/-- An integer is read when it fits 64 bits. -/
theorem integer?_some {value : Json} {n : Int} :
    integer? value = some n ↔ value = .int n ∧ -(2 ^ 63) ≤ n ∧ n < 2 ^ 64 := by
  unfold integer?
  constructor
  · intro read
    split at read
    · split at read
      · next fits =>
        obtain rfl := Option.some.inj read
        exact ⟨rfl, fits⟩
      · cases read
    · cases read
  · rintro ⟨rfl, fits⟩
    exact if_pos fits

end EmsDnp3.Native
