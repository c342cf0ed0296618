import EmsDnp3.Base.Disk
import EmsDnp3.Python.IncidentBytes

/-!
# The store of safety incidents

`SafetyIncidentStore` of `safety_incidents.py` as programs on files. What a call takes from `uuid.uuid4()` and from the
clock is an argument of it. Error messages leave out the texts that they quote.
-/

namespace EmsDnp3.Python

/-- The files of the store: the lock of a device, the archive of an incident, and the file that replaces a lock. -/
inductive StorePath where
  | active (dutHash : Sha256)
  | archive (incidentId : IncidentId)
  | temporary (dutHash : Sha256) (uuid : Uuid)
deriving DecidableEq

abbrev StoreProgram (α : Type) := FileProgram StorePath StoreError α

def ofPython {α : Type} (x : Except PyError α) : StoreProgram α := .ofExcept (x.mapError .python)

/-- `hashlib.sha256(b"dnp3-safety-dut-v1\0" + encoded)` of a text that the checks let through. -/
def dutIdentitySha256 (rt : Runtime) (dutId : Text) : Except PyError Sha256 :=
  match Utf8.encode dutId with
  | none => .error (.value "'utf-8' codec can't encode character: surrogates not allowed")
  | some encoded => do
    rejectIf (encoded.length = 0 || 128 < encoded.length) (.value "dut_id must contain between 1 and 128 UTF-8 bytes")
    rejectIf (!isPrintable dutId) (.value "dut_id must contain printable non-space ASCII")
    return rt.sha256 ("dnp3-safety-dut-v1\x00".toUTF8.toList.map (fun b => .ofNat b.toNat) ++ encoded)

/-- `_sha256_json` -/
def sha256Json (rt : Runtime) (value : Json) : Except PyError Sha256 :=
  match Json.canonical value with
  | some encoded => .ok (rt.sha256 encoded)
  | none => .error (.value "value must be finite and JSON serializable")

section
variable (rt : Runtime)

def ensureDirectories : StoreProgram Unit := do
  match ← Program.perform .mkdirs with
  | .ok _ => return
  | .error _ => .raise (.persistence "cannot create persistent safety-incident directory")

def unreadable : String := "safety-incident record is unreadable or invalid; control remains locked"

/-- `_read_document`; a name that leads nowhere is not an absent record. -/
def readDocument (path : StorePath) (problem : StoreError) (missingOk : Bool) : StoreProgram (Option (Incident rt.digits)) := do
  match ← Program.perform (.openFile path) with
  | .ok node =>
    match ← Program.perform (.read node (maxIncidentBytes + 1)) with
    | .ok encoded =>
      match readRecord rt encoded with
      | .ok i => return some i
      | .error .invalid => .raise problem
      | .error (.type message) => .raise (.python (.type message))
    | .error _ => .raise problem
  | .error .fileNotFound =>
    if missingOk then
      match ← Program.perform (.lstat path) with
      | .error .fileNotFound => return none
      | _ => .raise problem
    else .raise problem
  | .error _ => .raise problem

variable {rt} in
/-- `_write_exclusive` -/
def writeExclusive (path : StorePath) (document : Incident rt.digits) : StoreProgram Unit :=
  match recordBytes document with
  | none => .raise (.python (.value "value must be finite and JSON serializable"))
  | some encoded =>
    if maxIncidentBytes < encoded.length then .raise (.persistence "safety-incident record is too large")
    else (Disk.writeNew path encoded).handle fun
      | .fileExists => .raise .fileExists
      | _ => .raise (.persistence "cannot persist safety-incident lock")

variable {rt} in
/-- `_replace_document` -/
def replaceDocument (path temporary : StorePath) (document : Incident rt.digits) : StoreProgram Unit :=
  Program.ensuring
    (Program.handle (do
        writeExclusive temporary document
        match ← Program.perform (.rename temporary path) with
        | .ok _ => return
        | .error _ => .raise (.persistence "cannot update safety-incident record"))
      fun
        | .fileExists => .raise (.persistence "cannot update safety-incident record")
        | e => .raise e)
    (Disk.tryUnlink temporary)

/-- `get_active`: the incident of the lock, which must be this device's. -/
def getActive (dutId : Text) : StoreProgram (Option (Incident rt.digits)) := do
  ensureDirectories
  let dutHash ← ofPython (dutIdentitySha256 rt dutId)
  match ← readDocument rt (.active dutHash) (.unresolved unreadable none) true with
  | none => return none
  | some document =>
    if document.dutIdentitySha256 = dutHash then return some document
    else .raise (.unresolved "safety-incident record does not match the DUT; control remains locked"
      (some document.incidentId.val))

def blocked : String := "control is blocked by an unresolved uncertain-result incident; perform an independent readback and explicitly acknowledge it"

def assertClear (dutId : Text) : StoreProgram Unit := do
  match ← getActive rt dutId with
  | none => return
  | some incident => .raise (.unresolved blocked (some incident.incidentId.val))

/-! ## A new incident -/

/-- The arguments of `record_uncertain`. -/
structure UncertainCommand where
  operation : Text
  commandPayload : Json
  points : List (String × Nat)
  requestId : Text
  errorCode : Text
  executionUncertain : Bool
  mayStillExecute : Bool

/-- The dictionary `incident`. -/
def newIncident (uuid : Uuid) (now : Timestamp rt.digits) (dutHash payloadSha256 : Sha256) (c : UncertainCommand) : Json :=
  .object
    [("schema_version", .nat 1), ("incident_id", .str (incidentId uuid).val), ("status", .str "OPEN"),
     ("created_at_utc", .str now.val), ("updated_at_utc", .str now.val), ("dut_identity_sha256", .str dutHash.val),
     ("command", .object [("operation", .str c.operation),
       ("points", .arr (c.points.map fun p => .object [("type", .str p.1), ("index", .nat p.2)])),
       ("payload_sha256", .str payloadSha256.val)]),
     ("host_error", .object [("code", .str c.errorCode), ("request_id", .str c.requestId),
       ("execution_uncertain", .bool c.executionUncertain), ("may_still_execute", .bool c.mayStillExecute)]),
     ("required_action", .str requiredAction)]

/-- The checks of `record_uncertain` and its record, when there is no lock. -/
def checkedIncident (uuid : Uuid) (now : Timestamp rt.digits) (dutHash : Sha256) (c : UncertainCommand) :
    Except PyError (Incident rt.digits) := do
  rejectIf (!(controlOperations.any fun operation => c.operation = text operation.name))
    (.value "operation is not a supported control operation")
  let payloadSha256 ← sha256Json rt c.commandPayload
  validateIncident rt.digits (newIncident rt uuid now dutHash payloadSha256 c)

/-- `IncidentRecordResult` -/
structure IncidentRecordResult where
  incident : Incident rt.digits
  created : Bool

/-- `record_uncertain`: an incident that is already there is kept. -/
def recordUncertain (uuid : Uuid) (now : Timestamp rt.digits) (dutId : Text) (c : UncertainCommand) :
    StoreProgram (IncidentRecordResult rt) := do
  ensureDirectories
  let dutHash ← ofPython (dutIdentitySha256 rt dutId)
  match ← getActive rt dutId with
  | some existing => return ⟨existing, false⟩
  | none =>
    let incident ← ofPython (checkedIncident rt uuid now dutHash c)
    Program.handle (do
        writeExclusive (.active dutHash) incident
        return ⟨incident, true⟩)
      fun
        | .fileExists => do
          match ← getActive rt dutId with
          | none => .raise (.persistence "a concurrent incident lock disappeared before it could be read")
          | some existing => return ⟨existing, false⟩
        | e => .raise e

/-! ## Acknowledgment -/

/-- The argument `readback`: a JSON value, or a mapping that `json.dumps` refuses. -/
inductive Readback where
  | json (value : Json)
  | unserializable

/-- The arguments of `acknowledge`. -/
structure AcknowledgeRequest where
  dutId : Text
  incidentId : Text
  acknowledgedBy : Json
  readbackSummary : Json
  readback : Readback
  evidenceReference : Json

/-- The hash of the observed data. -/
def readbackSha256 (r : AcknowledgeRequest) : Except StoreError Sha256 :=
  match r.readback with
  | .json value => do
    rejectIf (!value.isObj || value.keys = [])
      (.acknowledgment "readback must be a non-empty object containing independently observed data" r.incidentId)
    (sha256Json rt value).mapError fun _ => .acknowledgment "readback is invalid" r.incidentId
  | .unserializable => .error (.acknowledgment "readback is invalid" r.incidentId)

/-- `supplied_acknowledgment` -/
def suppliedAcknowledgment (r : AcknowledgeRequest) : Except StoreError AcknowledgmentData := do
  let acknowledgedBy ← (boundedIncidentText r.acknowledgedBy "acknowledged_by" 128).mapError .python
  let readbackSummary ← (boundedIncidentText r.readbackSummary "readback_summary" 4096).mapError .python
  let evidenceReference ← (boundedIncidentText r.evidenceReference "evidence_reference" 4096).mapError .python
  let readbackPayloadSha256 ← readbackSha256 rt r
  return { acknowledgedBy, readbackSummary, readbackPayloadSha256, evidenceReference }

variable {rt}

/-- The record with the acknowledgment; `_validate_incident` lets it through as it is. -/
def Incident.acknowledge (i : Incident rt.digits) (now : Timestamp rt.digits) (data : AcknowledgmentData) :
    Incident rt.digits :=
  { i with status := .acknowledged ⟨data, now⟩, updatedAt := now }

/-- The acknowledged record, in the place of the lock if it was open. -/
def acknowledgedRecord (active temporary : StorePath) (now : Timestamp rt.digits) (incidentId : Text)
    (incident : Incident rt.digits) (supplied : AcknowledgmentData) : StoreProgram (Incident rt.digits) :=
  match incident.status with
  | .acknowledged a =>
    if a.toAcknowledgmentData = supplied then return incident
    else .raise (.acknowledgment "incident acknowledgment retry does not match the persisted data" incidentId)
  | .opened _ => do
    replaceDocument active temporary (incident.acknowledge now supplied)
    return incident.acknowledge now supplied

/-- The archive holds the record afterwards. -/
def archiveRecord (archive : StorePath) (incidentId : Text) (acknowledged : Incident rt.digits) : StoreProgram Unit :=
  (writeExclusive archive acknowledged).handle fun
    | .fileExists => do
      match ← readDocument rt archive (.persistence unreadable) false with
      | some archived =>
        if archived.same acknowledged then return
        else .raise (.acknowledgment "archive collision detected; control remains locked" incidentId)
      | none => .raise (.acknowledgment "archive collision detected; control remains locked" incidentId)
    | e => .raise e

/-- `active_path.unlink(missing_ok=True)` -/
def removeActive (active : StorePath) : StoreProgram Unit := do
  match ← Program.perform (.unlink active) with
  | .error .other => .raise (.persistence "incident was archived but its active lock remains")
  | .error .fileExists => .raise (.persistence "incident was archived but its active lock remains")
  | _ => return

variable (rt) in
/-- `acknowledge` -/
def acknowledge (uuid : Uuid) (now : Timestamp rt.digits) (r : AcknowledgeRequest) : StoreProgram (Incident rt.digits) := do
  ensureDirectories
  let dutHash ← ofPython (dutIdentitySha256 rt r.dutId)
  if named : isIncidentId r.incidentId = true then
    let archive : StorePath := .archive ⟨r.incidentId, named⟩
    match ← readDocument rt (.active dutHash) (.unresolved unreadable none) true with
    | none =>
      match ← readDocument rt archive (.persistence unreadable) true with
      | some archived =>
        if archived.dutIdentitySha256 = dutHash then return archived
        else .raise (.acknowledgment "no active safety incident exists for this DUT" r.incidentId)
      | none => .raise (.acknowledgment "no active safety incident exists for this DUT" r.incidentId)
    | some incident =>
      if incident.dutIdentitySha256 ≠ dutHash then
        .raise (.acknowledgment "active incident does not match this DUT" r.incidentId)
      else if incident.incidentId.val ≠ r.incidentId then
        .raise (.acknowledgment "incident_id does not match the active DUT lock" r.incidentId)
      else
        let supplied ← .ofExcept (suppliedAcknowledgment rt r)
        let acknowledged ← acknowledgedRecord (.active dutHash) (.temporary dutHash uuid) now r.incidentId incident supplied
        archiveRecord archive r.incidentId acknowledged
        removeActive (.active dutHash)
        return acknowledged
  else .raise (.acknowledgment "incident_id has an invalid format" r.incidentId)

end

end EmsDnp3.Python
