import EmsDnp3.Python.Client
import EmsDnp3.Python.CommandResult
import EmsDnp3.Python.JsonDepth

/-!
# Responses of the host

`_parse_response` of `client.py`: a line of the host is a violation of the protocol, the result of the request it
answers, or a `HostCommandError`. What the JSON loader and its two hooks find wrong is one violation here.
-/

namespace EmsDnp3.Python

/-- `HostCommandError` -/
structure HostCommandError where
  requestId : Text
  code : Text
  message : Text
  details : Json
deriving DecidableEq

/-- How reading a response fails. -/
inductive ResponseError where
  | violation (message : String)
  | command (error : HostCommandError)
deriving DecidableEq

def violation {α : Type} (message : String) : Except ResponseError α := .error (.violation message)

def utf8ByteOrderMark : List Byte := [.ofNat 0xEF, .ofNat 0xBB, .ofNat 0xBF]

/-- The text of a payload. -/
def decodePayload (payload : List Byte) : Except ResponseError Text := do
  rejectIf (payload.take 3 = utf8ByteOrderMark) (.violation "response contains a UTF-8 BOM")
  match Utf8.decode payload with
  | some t => return t
  | none => violation "response is not valid UTF-8"

/-- `_validate_json_depth` and `json.loads` -/
def loadResponse (t : Text) : Except ResponseError Json := do
  (validateJsonDepth t).mapError .violation
  match Json.loads t with
  | some v => return v
  | none => violation "response is not valid JSON"

/-- The code of an error, which must have a name. -/
def errorCode (code : Json) : Except ResponseError Text :=
  match code with
  | .str s => if s = [] then violation "error code must be a non-empty string" else .ok s
  | _ => violation "error code must be a non-empty string"

/-- The body of an error response. -/
def readError (error : Json) (expectedId : Text) : Except ResponseError HostCommandError := do
  rejectIf (!Package.hasFields error ["code", "message", "details"]) (.violation "error response body is invalid")
  let code ← errorCode (field error "code")
  match field error "message", field error "details" with
  | .str message, .obj details => return { requestId := expectedId, code, message, details := .obj details }
  | _, _ => violation "error message/details types are invalid"

/-- The envelope of a response. -/
def readEnvelope (response : Json) (expectedId : Text) : Except ResponseError Json := do
  rejectIf (!response.isObj) (.violation "response root must be an object")
  rejectIf (field response "schema_version" ≠ .int 1) (.violation "response schema_version must be 1")
  rejectIf (field response "id" ≠ .str expectedId) (.violation "response id does not match the in-flight request")
  match field response "ok" with
  | .bool true =>
    rejectIf (!Package.hasFields response ["schema_version", "id", "ok", "result"])
      (.violation "success response envelope has unexpected fields")
    return field response "result"
  | .bool false =>
    rejectIf (!Package.hasFields response ["schema_version", "id", "ok", "error"])
      (.violation "error response envelope has unexpected fields")
    .error (.command (← readError (field response "error") expectedId))
  | _ => violation "response ok field must be a boolean"

/-- `_parse_response` -/
def parseResponse (raw : List Byte) (expectedId : Text) : Except ResponseError Json :=
  match responsePayload raw with
  | some payload => do readEnvelope (← loadResponse (← decodePayload payload)) expectedId
  | none => violation "response is not terminated by LF"

/-! ## What is accepted -/

section
variable {response : Json} {expectedId : Text}

/-- What comes out of a response, but for violations. -/
def ResponseError.IsAnswer (expectedId : Text) : Except ResponseError Json → Prop
  | .ok _ => True
  | .error (.command error) => error.requestId = expectedId
  | .error (.violation _) => False

/-- An error is of the request that was waited for. -/
theorem readError_requestId {v : Json} {error : HostCommandError} (read : readError v expectedId = .ok error) :
    error.requestId = expectedId := by
  obtain ⟨_, -, read⟩ := ok_bind_iff.mp read
  obtain ⟨code, -, read⟩ := ok_bind_iff.mp read
  split at read
  · obtain rfl := ok_pure_iff.mp read
    rfl
  · cases read

/-- A host error names the request that it answers. -/
theorem parseResponse_command {raw : List Byte} {error : HostCommandError}
    (raised : parseResponse raw expectedId = .error (.command error)) : error.requestId = expectedId := by
  let Named : ResponseError → Prop := fun
    | .command error => error.requestId = expectedId
    | .violation _ => True
  suffices ErrorsAre Named (parseResponse raw expectedId) from this _ raised
  have quiet {α : Type} (message : String) : ErrorsAre Named (violation message : Except ResponseError α) :=
    errorsAre_error trivial
  have reject (bad : Bool) (message : String) : ErrorsAre Named (rejectIf bad (.violation message)) :=
    errorsAre_rejectIf trivial
  have decode (payload : List Byte) : ErrorsAre Named (decodePayload payload) := by
    refine errorsAre_bind (reject _ _) fun _ _ => ?_
    split
    · exact errorsAre_ok
    · exact quiet _
  have load (t : Text) : ErrorsAre Named (loadResponse t) := by
    refine errorsAre_bind (errorsAre_mapError fun _ _ => trivial) fun _ _ => ?_
    split
    · exact errorsAre_ok
    · exact quiet _
  have code (v : Json) : ErrorsAre Named (errorCode v) := by
    unfold errorCode
    split
    · split
      · exact quiet _
      · exact errorsAre_ok
    · exact quiet _
  have body (v : Json) : ErrorsAre Named (readError v expectedId) := by
    refine errorsAre_bind (reject _ _) fun _ _ => errorsAre_bind (code _) fun _ _ => ?_
    split
    · exact errorsAre_ok
    · exact quiet _
  unfold parseResponse
  split
  · refine errorsAre_bind (decode _) fun t _ => errorsAre_bind (load t) fun response _ =>
      errorsAre_bind (reject _ _) fun _ _ => errorsAre_bind (reject _ _) fun _ _ => errorsAre_bind (reject _ _) fun _ _ => ?_
    split
    · exact errorsAre_bind (reject _ _) fun _ _ => errorsAre_ok
    · refine errorsAre_bind (reject _ _) fun _ _ => errorsAre_bind (body _) fun error read => ?_
      exact errorsAre_error (readError_requestId read)
    · exact quiet _
  · exact quiet _

end

end EmsDnp3.Python
