import EmsDnp3.Json.Sorted
import EmsDnp3.Python.Loading
import EmsDnp3.Python.PackageVerify
import EmsDnp3.Python.Requests

/-!
# Records of uncertain controls

The record of `safety_incidents.py` and `_validate_incident`, which is what every reading of a record and every new
record go through. A record that passed carries what was checked.
-/

namespace EmsDnp3.Python

open Package (DecimalDigits equalsNat hasFields)

/-! ## Patterns -/

/-- `re.fullmatch` of a pattern of so many characters. -/
def fullmatch : List (CodePoint → Bool) → Text → Bool
  | [], [] => true
  | holds :: rest, c :: t => holds c && fullmatch rest t
  | _, _ => false

def exactly (c : Char) (d : CodePoint) : Bool := d = CodePoint.ofChar c

/-- `[0-9a-f]` -/
def isLowerHex (c : CodePoint) : Bool := isDigit c || (0x61 ≤ c.val && c.val ≤ 0x66)

/-- `str(uuid.uuid4())` -/
def isUuid : Text → Bool :=
  fullmatch (List.replicate 8 isLowerHex ++ exactly '-' :: (List.replicate 4 isLowerHex ++ exactly '-' ::
    (List.replicate 4 isLowerHex ++ exactly '-' :: (List.replicate 4 isLowerHex ++ exactly '-' ::
      List.replicate 12 isLowerHex))))

abbrev Uuid := {t : Text // isUuid t = true}

/-- `_INCIDENT_ID_PATTERN` -/
def isIncidentId (t : Text) : Bool := t.take 4 = text "INC-" && isUuid (t.drop 4)

abbrev IncidentId := {t : Text // isIncidentId t = true}

/-- `f"INC-{uuid.uuid4()}"` -/
def incidentId (u : Uuid) : IncidentId :=
  ⟨text "INC-" ++ u.val, by
    rw [isIncidentId, show 4 = (text "INC-").length from rfl, List.take_left, List.drop_left, u.property]
    simp⟩

/-- The end of a timestamp: `(?:\.\d{1,6})?Z` -/
def isTimestampEnd (digits : DecimalDigits) (t : Text) : Bool :=
  t = text "Z" ||
    t.head? = some (CodePoint.ofChar '.') && 3 ≤ t.length && t.length ≤ 8 && t.getLast? = some (CodePoint.ofChar 'Z') &&
      t.tail.dropLast.all digits.digit

/-- `_TIMESTAMP_PATTERN` -/
def isTimestamp (digits : DecimalDigits) (t : Text) : Bool :=
  let number (n : Nat) := List.replicate n digits.digit
  fullmatch (number 4 ++ exactly '-' :: (number 2 ++ exactly '-' :: (number 2 ++ exactly 'T' :: (number 2 ++
    exactly ':' :: (number 2 ++ exactly ':' :: number 2))))) (t.take 19) && isTimestampEnd digits (t.drop 19)

abbrev Timestamp (digits : DecimalDigits) := {t : Text // isTimestamp digits t = true}

abbrev Sha256 := {t : Text // isLowerSha256 t = true}

/-- `_bounded_text`: it encodes to so many bytes, and has no control characters but blanks. -/
def isBounded (maximum : Nat) (t : Text) : Bool :=
  (Utf8.encode t).any (fun bytes => bytes ≠ [] && bytes.length ≤ maximum) &&
    t.all fun c => 0x20 ≤ c.val || c ∈ text "\t\n\r"

/-- A text that is not empty, bounded in octets and free of control characters. -/
abbrev BoundedText (maximum : Nat) := {t : Text // isBounded maximum t = true}

/-- `UnresolvedSafetyIncidentError`, `SafetyIncidentPersistenceError`, `SafetyIncidentAcknowledgmentError`,
`FileExistsError`, and the exceptions of the validators. -/
inductive StoreError where
  | unresolved (message : String) (incidentId : Option Text)
  | persistence (message : String)
  | acknowledgment (message : String) (incidentId : Text)
  | fileExists
  | python (error : PyError)
deriving DecidableEq

/-- What the module takes from the interpreter: the digits that `\d` matches, SHA-256 in hexadecimal, how deep
`json.loads` goes, and the text of an exception, which ends with what the operating system says. -/
structure Runtime where
  digits : DecimalDigits
  digitsPlain : ∀ c, digits.digit c = true → Utf8.isSurrogate c = false ∧ 0x20 ≤ c.val
  sha256 : List Byte → Sha256
  depth : Nat
  room : 4 ≤ depth
  /-- `str(error)` -/
  errorText : StoreError → Text

/-! ## Records -/

/-- `document["schema_version"] == 1` -/
inductive SchemaVersion where
  | int
  | bool
  | float
deriving DecidableEq

/-- The types of a command. -/
inductive CommandType where
  | crob
  | analog (type : AnalogCommandType)
deriving DecidableEq, Repr

def CommandType.name : CommandType → String
  | .crob => "crob"
  | .analog type => type.name

/-- `_COMMAND_TYPES` -/
def commandTypes : List CommandType := [.crob, .analog .int16, .analog .int32, .analog .float32, .analog .double64]

/-- A point the command was for. -/
structure IncidentPoint where
  type : CommandType
  index : Nat
  bounded : index ≤ 65535
deriving DecidableEq

/-- The operations that leave a doubt. -/
inductive ControlOperation where
  | selectAndOperate
  | directOperate
deriving DecidableEq, Repr

def ControlOperation.name : ControlOperation → String
  | .selectAndOperate => "select_and_operate"
  | .directOperate => "direct_operate"

/-- The command of an incident, with what `_validate_incident` checks. -/
structure IncidentCommand where
  operation : ControlOperation
  points : List IncidentPoint
  payloadSha256 : Sha256
  counted : 1 ≤ points.length ∧ points.length ≤ 256
  distinct : points.Nodup
deriving DecidableEq

def responseTimeout : Text := text "RESPONSE_TIMEOUT"

/-- The error of the host: it must leave the execution uncertain. -/
structure IncidentHostError where
  code : BoundedText 128
  requestId : BoundedText 256
  executionUncertain : Bool
  mayStillExecute : Bool
  uncertain : executionUncertain || mayStillExecute || code.val = responseTimeout
deriving DecidableEq

/-- The four values that an acknowledgment supplies. -/
structure AcknowledgmentData where
  acknowledgedBy : BoundedText 128
  readbackSummary : BoundedText 4096
  readbackPayloadSha256 : Sha256
  evidenceReference : BoundedText 4096
deriving DecidableEq

variable (digits : DecimalDigits)

/-- Who read the device back, and when. -/
structure Acknowledgment extends AcknowledgmentData where
  acknowledgedAt : Timestamp digits
deriving DecidableEq

/-- An open record may have an acknowledgment of `null`. -/
inductive IncidentStatus where
  | opened (nulled : Bool)
  | acknowledged (acknowledgment : Acknowledgment digits)
deriving DecidableEq

/-- A safety incident, with what `_validate_incident` checks. -/
structure Incident where
  schemaVersion : SchemaVersion
  incidentId : IncidentId
  status : IncidentStatus digits
  createdAt : Timestamp digits
  updatedAt : Timestamp digits
  dutIdentitySha256 : Sha256
  command : IncidentCommand
  hostError : IncidentHostError
deriving DecidableEq

/-- `a == b` of two dictionaries: `1`, `True` and `1.0` are the same. -/
def Incident.same {digits : DecimalDigits} (a b : Incident digits) : Prop :=
  { a with schemaVersion := .int } = { b with schemaVersion := .int }

instance {digits : DecimalDigits} (a b : Incident digits) : Decidable (a.same b) :=
  inferInstanceAs (Decidable (_ = _))

/-- The incident was acknowledged. -/
def Incident.isAcknowledged {digits : DecimalDigits} (i : Incident digits) : Bool :=
  match i.status with
  | .opened _ => false
  | .acknowledged _ => true

/-! ## Documents, their keys sorted -/

variable {digits}

def one : FloatLit := ⟨false, 1, [0], none, FloatLit.zero_isFloat⟩

/-- The version as it was written: Python takes `1`, `true` and `1.0` for equal. -/
def SchemaVersion.json : SchemaVersion → Json
  | .int => .int 1
  | .bool => .bool true
  | .float => .float one

def IncidentPoint.json (p : IncidentPoint) : Json := .object [("index", .nat p.index), ("type", .str p.type.name)]

def IncidentCommand.json (c : IncidentCommand) : Json :=
  .object [("operation", .str c.operation.name), ("payload_sha256", .str c.payloadSha256),
    ("points", .arr (c.points.map (·.json)))]

def IncidentHostError.json (e : IncidentHostError) : Json :=
  .object [("code", .str e.code), ("execution_uncertain", .bool e.executionUncertain),
    ("may_still_execute", .bool e.mayStillExecute), ("request_id", .str e.requestId)]

def Acknowledgment.json (a : Acknowledgment digits) : Json :=
  .object [("acknowledged_at_utc", .str a.acknowledgedAt), ("acknowledged_by", .str a.acknowledgedBy),
    ("evidence_reference", .str a.evidenceReference), ("readback_payload_sha256", .str a.readbackPayloadSha256),
    ("readback_summary", .str a.readbackSummary)]

namespace IncidentStatus

def name : IncidentStatus digits → String
  | .opened _ => "OPEN"
  | .acknowledged _ => "ACKNOWLEDGED"

/-- The member `acknowledgment`, when there is one. -/
def members : IncidentStatus digits → List (String × Json)
  | .opened nulled => if nulled then [("acknowledgment", .null)] else []
  | .acknowledged a => [("acknowledgment", a.json)]

end IncidentStatus

def requiredAction : String := "READBACK_THEN_EXPLICIT_ACKNOWLEDGMENT"

def Incident.json (i : Incident digits) : Json :=
  .object (i.status.members ++
    [("command", i.command.json), ("created_at_utc", .str i.createdAt),
     ("dut_identity_sha256", .str i.dutIdentitySha256), ("host_error", i.hostError.json),
     ("incident_id", .str i.incidentId), ("required_action", .str requiredAction),
     ("schema_version", i.schemaVersion.json), ("status", .str i.status.name), ("updated_at_utc", .str i.updatedAt)])

/-! ## Validation -/

/-- A text that a pattern or a bound lets through. -/
def textIf (value : Json) (holds : Text → Bool) (message : String) : Except PyError {t : Text // holds t = true} :=
  match value with
  | .str t => do
    let ⟨h⟩ ← require (holds t = true) (.value message)
    return ⟨t, h⟩
  | _ => .error (.value message)

/-- `_bounded_text` -/
def boundedIncidentText (value : Json) (name : String) (maximum : Nat) : Except PyError (BoundedText maximum) :=
  match value with
  | .str t => do
    let length ← encodedLength t
    rejectIf (length = 0 || maximum < length) (.value s!"{name} must contain between 1 and {maximum} UTF-8 bytes")
    let ⟨h⟩ ← require (isBounded maximum t = true) (.value s!"{name} must not contain control characters")
    return ⟨t, h⟩
  | _ => .error (.value s!"{name} must be a string")

/-- `document["schema_version"] != 1` -/
def schemaVersion? (value : Json) : Option SchemaVersion :=
  match value with
  | .int n => if n = 1 then some .int else none
  | .bool b => if b then some .bool else none
  | .float x => if equalsNat (.float x) 1 then some .float else none
  | _ => none

/-- A value that must be a boolean. -/
def incidentBoolean (value : Json) (message : String) : Except PyError Bool :=
  match value with
  | .bool b => .ok b
  | _ => .error (.value message)

def commandType? (value : Json) : Option CommandType := commandTypes.find? fun type => value = .str type.name

/-- A point of a record. -/
def incidentPoint (point : Json) : Except PyError IncidentPoint := do
  rejectIf (!hasFields point ["type", "index"]) (.value "incident command point is invalid")
  let value := (point.get? "type").getD .null
  let known ← inSet value (commandTypes.map fun type => .str type.name)
  rejectIf (!known) (.value "incident command point type is invalid")
  match commandType? value, (point.get? "index").getD .null with
  | some type, .int n =>
    let ⟨inside⟩ ← require (0 ≤ n ∧ n ≤ 65535) (.value "incident command point index is invalid")
    return ⟨type, n.toNat, by omega⟩
  | _, _ => .error (.value "incident command point index is invalid")

/-- The points one after the other; a point that was seen is refused. -/
def incidentPoints (seen : List IncidentPoint) : (items : List Json) →
    Except PyError {ps : List IncidentPoint // ps.length = items.length ∧ (∀ p ∈ ps, p ∉ seen) ∧ ps.Nodup}
  | [] => .ok ⟨[], by simp⟩
  | point :: rest => do
    let p ← incidentPoint point
    let ⟨new⟩ ← require (p ∉ seen) (.value "incident command repeats a point")
    let ⟨others, facts⟩ ← incidentPoints (p :: seen) rest
    return ⟨p :: others, by simpa using facts.1, by
      obtain ⟨-, apart, distinct⟩ := facts
      constructor
      · rintro q mem
        obtain rfl | mem := List.mem_cons.mp mem
        · exact new
        · exact fun inside => apart q mem (List.mem_cons_of_mem _ inside)
      · exact List.nodup_cons.mpr ⟨fun mem => apart p mem List.mem_cons_self, distinct⟩⟩

def controlOperations : List ControlOperation := [.selectAndOperate, .directOperate]

def controlOperation? (value : Json) : Option ControlOperation :=
  controlOperations.find? fun operation => value = .str operation.name

/-- The command of a record. -/
def incidentCommand (command : Json) : Except PyError IncidentCommand := do
  rejectIf (!hasFields command ["operation", "points", "payload_sha256"])
    (.value "incident command metadata is invalid")
  let value := (command.get? "operation").getD .null
  let known ← inSet value (controlOperations.map fun operation => .str operation.name)
  rejectIf (!known) (.value "incident command operation is invalid")
  match controlOperation? value with
  | none => .error (.value "incident command operation is invalid")
  | some operation =>
    let payloadSha256 ← textIf ((command.get? "payload_sha256").getD .null) isLowerSha256
      "incident command payload_sha256 is invalid"
    match (command.get? "points").getD .null with
    | .arr items =>
      let ⟨counted⟩ ← require (1 ≤ items.length ∧ items.length ≤ 256) (.value "incident command points are invalid")
      let ⟨points, facts⟩ ← incidentPoints [] items
      return ⟨operation, points, payloadSha256, facts.1 ▸ counted, facts.2.2⟩
    | _ => .error (.value "incident command points are invalid")

/-- The host's error of a record. -/
def incidentHostError (error : Json) : Except PyError IncidentHostError := do
  rejectIf (!hasFields error ["code", "execution_uncertain", "may_still_execute", "request_id"])
    (.value "incident host_error metadata is invalid")
  let code ← boundedIncidentText ((error.get? "code").getD .null) "host_error.code" 128
  let requestId ← boundedIncidentText ((error.get? "request_id").getD .null) "host_error.request_id" 256
  let executionUncertain ← incidentBoolean ((error.get? "execution_uncertain").getD .null)
    "incident host_error.execution_uncertain must be boolean"
  let mayStillExecute ← incidentBoolean ((error.get? "may_still_execute").getD .null)
    "incident host_error.may_still_execute must be boolean"
  let ⟨uncertain⟩ ← require ((executionUncertain || mayStillExecute || code.val = responseTimeout) = true)
    (.value "incident host_error does not describe uncertainty")
  return ⟨code, requestId, executionUncertain, mayStillExecute, uncertain⟩

def acknowledgmentFields : List String :=
  ["acknowledged_at_utc", "acknowledged_by", "evidence_reference", "readback_payload_sha256", "readback_summary"]

/-- The acknowledgment of a record. -/
def acknowledgment (digits : DecimalDigits) (value : Json) : Except PyError (Acknowledgment digits) := do
  rejectIf (!hasFields value acknowledgmentFields) (.value "acknowledged incident metadata is invalid")
  let acknowledgedAt ← textIf ((value.get? "acknowledged_at_utc").getD .null) (isTimestamp digits)
    "acknowledgment timestamp is invalid"
  let acknowledgedBy ← boundedIncidentText ((value.get? "acknowledged_by").getD .null) "acknowledged_by" 128
  let readbackSummary ← boundedIncidentText ((value.get? "readback_summary").getD .null) "readback_summary" 4096
  let evidenceReference ← boundedIncidentText ((value.get? "evidence_reference").getD .null) "evidence_reference" 4096
  let readbackPayloadSha256 ← textIf ((value.get? "readback_payload_sha256").getD .null) isLowerSha256
    "acknowledgment readback_payload_sha256 is invalid"
  return { acknowledgedAt, acknowledgedBy, readbackSummary, evidenceReference, readbackPayloadSha256 }

/-- The status of a record with its acknowledgment. -/
def incidentStatus (digits : DecimalDigits) (opened : Bool) (member : Option Json) :
    Except PyError (IncidentStatus digits) :=
  if opened then
    match member with
    | none => .ok (.opened false)
    | some .null => .ok (.opened true)
    | some _ => .error (.value "an OPEN incident must not contain acknowledgment data")
  else .acknowledged <$> acknowledgment digits (member.getD .null)

def requiredFields : List String :=
  ["schema_version", "incident_id", "status", "created_at_utc", "updated_at_utc", "dut_identity_sha256", "command",
    "host_error", "required_action"]

/-- `_validate_incident` -/
def validateIncident (digits : DecimalDigits) (document : Json) : Except PyError (Incident digits) := do
  rejectIf (!document.isObj) (.value "incident root must be an object")
  rejectIf (!(document.keys.all (("acknowledgment" :: requiredFields).map text).contains &&
    (requiredFields.map text).all document.keys.contains)) (.value "incident contains missing or unknown root fields")
  let field (key : String) : Json := (document.get? key).getD .null
  match schemaVersion? (field "schema_version") with
  | none => .error (.value "incident schema_version must be 1")
  | some schemaVersion =>
    let incidentId ← textIf (field "incident_id") isIncidentId "incident_id has an invalid format"
    let known ← inSet (field "status") [.str "OPEN", .str "ACKNOWLEDGED"]
    rejectIf (!known) (.value "incident status is invalid")
    let createdAt ← textIf (field "created_at_utc") (isTimestamp digits) "incident created_at_utc is invalid"
    let updatedAt ← textIf (field "updated_at_utc") (isTimestamp digits) "incident updated_at_utc is invalid"
    let dutIdentitySha256 ← textIf (field "dut_identity_sha256") isLowerSha256 "incident dut_identity_sha256 is invalid"
    rejectIf (field "required_action" ≠ .str requiredAction) (.value "incident required_action is invalid")
    let command ← incidentCommand (field "command")
    let hostError ← incidentHostError (field "host_error")
    let status ← incidentStatus digits (field "status" = .str "OPEN") (document.get? "acknowledgment")
    return { schemaVersion, incidentId, status, createdAt, updatedAt, dutIdentitySha256, command, hostError }

end EmsDnp3.Python
