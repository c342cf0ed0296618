import EmsDnp3.Python.SafetyIncidents

/-!
# Reading back a record

A record is written with sorted keys and a line feed behind it. It is read back as it was, and no start of the file
is read as another record.
-/

namespace EmsDnp3.Python

open Package (DecimalDigits equalsNat hasFields)

/-! ## Validation accepts what was validated -/

theorem inSet_names {ι : Type} (items : List ι) (name : ι → String) {i : ι} (mem : i ∈ items) :
    inSet (.str (name i)) (items.map fun i => .str (name i)) = .ok true := by
  rw [inSet]
  · exact congrArg Except.ok (List.contains_iff_mem.mpr (List.mem_map_of_mem mem))
  · simp
  · simp

theorem keys_object (members : List (String × Json)) : (Json.object members).keys = (members.map (·.1)).map text := by
  simp [Json.object, Json.keys]

theorem contains_text (names : List String) (name : String) : (names.map text).contains (text name) = names.contains name := by
  rw [Bool.eq_iff_iff, List.contains_iff_mem, List.contains_iff_mem]
  simp [text_inj]

/-- The fields of an object, as strings. -/
theorem hasFields_object (members : List (String × Json)) (fields : List String) :
    hasFields (Json.object members) fields =
      ((members.map (·.1)).all fields.contains && fields.all (members.map (·.1)).contains) := by
  rw [hasFields, keys_object]
  simp only [List.all_map, Function.comp_def, contains_text]
  rfl

theorem textIf_ok {holds : Text → Bool} (t : {t : Text // holds t = true}) (message : String) :
    textIf (.str t.val) holds message = .ok t := by
  simp [textIf, require, t.property, pure, Except.pure]

/-- A bounded text is accepted. -/
theorem boundedIncidentText_ok {maximum : Nat} (t : BoundedText maximum) (name : String) :
    boundedIncidentText (.str t.val) name maximum = .ok t := by
  have bounded := t.property
  rw [isBounded, Bool.and_eq_true, Option.any_eq_true] at bounded
  obtain ⟨⟨bytes, encoded, size⟩, -⟩ := bounded
  simp only [Bool.and_eq_true, decide_eq_true_eq] at size
  have inside : ¬ (bytes.length = 0 ∨ maximum < bytes.length) := by
    rw [not_or, List.length_eq_zero_iff]
    exact ⟨size.1, Nat.not_lt.mpr size.2⟩
  simp [boundedIncidentText, encodedLength, encoded, rejectIf, size.1, Nat.not_lt.mpr size.2, require, t.property, pure, Except.pure]

theorem commandType?_name (type : CommandType) : commandType? (.str type.name) = some type := by
  obtain _ | _ | _ | _ | _ := type <;> decide +kernel

theorem mem_commandTypes (type : CommandType) : type ∈ commandTypes := by
  obtain _ | _ | _ | _ | _ := type <;> decide

theorem controlOperation?_name (operation : ControlOperation) :
    controlOperation? (.str operation.name) = some operation := by
  cases operation <;> decide +kernel

theorem mem_controlOperations (operation : ControlOperation) : operation ∈ controlOperations := by
  cases operation <;> decide

theorem incidentPoint_json (p : IncidentPoint) : incidentPoint p.json = .ok p := by
  have fields : hasFields p.json ["type", "index"] = true := hasFields_object _ _
  have type : (p.json.get? "type").getD .null = .str p.type.name := by simp [IncidentPoint.json]
  have index : (p.json.get? "index").getD .null = .int p.index := by simp [IncidentPoint.json, Json.nat]
  have inside : (0 : Int) ≤ p.index ∧ (p.index : Int) ≤ 65535 := by
    have := p.bounded
    omega
  simp only [incidentPoint, fields, type, index, inSet_names commandTypes CommandType.name (mem_commandTypes p.type),
    commandType?_name, rejectIf, require, dif_pos inside, ok_bind]
  rfl

/-- Distinct points are read back in order. -/
theorem incidentPoints_json {points : List IncidentPoint} (distinct : points.Nodup) {seen : List IncidentPoint}
    (apart : ∀ p ∈ points, p ∉ seen) :
    ∃ proof, incidentPoints seen (points.map (·.json)) = .ok ⟨points, proof⟩ := by
  induction points generalizing seen with
  | nil => exact ⟨_, rfl⟩
  | cons p points ih =>
    obtain ⟨first, distinct⟩ := List.nodup_cons.mp distinct
    have new : p ∉ seen := apart p List.mem_cons_self
    have apart' : ∀ q ∈ points, q ∉ p :: seen := by
      intro q mem
      rw [List.mem_cons, not_or]
      exact ⟨fun same => first (same ▸ mem), apart q (List.mem_cons_of_mem _ mem)⟩
    obtain ⟨⟨length, later, unique⟩, others⟩ := ih distinct apart'
    refine ⟨⟨by simp, apart, List.nodup_cons.mpr ⟨first, distinct⟩⟩, ?_⟩
    change incidentPoints seen (p.json :: points.map (·.json)) = _
    simp only [incidentPoints, incidentPoint_json, ok_bind, require, dif_pos new, others]
    rfl

theorem incidentCommand_json (c : IncidentCommand) : incidentCommand c.json = .ok c := by
  have fields : hasFields c.json ["operation", "points", "payload_sha256"] = true := hasFields_object _ _
  have operation : (c.json.get? "operation").getD .null = .str c.operation.name := by simp [IncidentCommand.json]
  have payload : (c.json.get? "payload_sha256").getD .null = .str c.payloadSha256.val := by simp [IncidentCommand.json]
  have points : (c.json.get? "points").getD .null = .arr (c.points.map (·.json)) := by simp [IncidentCommand.json]
  have counted : 1 ≤ (c.points.map (·.json)).length ∧ (c.points.map (·.json)).length ≤ 256 := by
    rw [List.length_map]
    exact c.counted
  have apart : ∀ p ∈ c.points, p ∉ [] := fun _ _ => List.not_mem_nil
  obtain ⟨⟨length, new, distinct⟩, read⟩ := incidentPoints_json c.distinct apart
  simp only [incidentCommand, fields, operation, payload, points,
    inSet_names controlOperations ControlOperation.name (mem_controlOperations c.operation), controlOperation?_name,
    textIf_ok, rejectIf, require, dif_pos counted, ok_bind, read]
  rfl

theorem incidentHostError_json (e : IncidentHostError) : incidentHostError e.json = .ok e := by
  have fields : hasFields e.json ["code", "execution_uncertain", "may_still_execute", "request_id"] = true :=
    hasFields_object _ _
  have code : (e.json.get? "code").getD .null = .str e.code.val := by simp [IncidentHostError.json]
  have requestId : (e.json.get? "request_id").getD .null = .str e.requestId.val := by simp [IncidentHostError.json]
  have uncertain : (e.json.get? "execution_uncertain").getD .null = .bool e.executionUncertain := by
    simp [IncidentHostError.json]
  have may : (e.json.get? "may_still_execute").getD .null = .bool e.mayStillExecute := by simp [IncidentHostError.json]
  simp only [incidentHostError, fields, code, requestId, uncertain, may, boundedIncidentText_ok, incidentBoolean, rejectIf, require,
    dif_pos e.uncertain, ok_bind]
  rfl

variable {digits : DecimalDigits}

theorem acknowledgment_json (a : Acknowledgment digits) : acknowledgment digits a.json = .ok a := by
  have fields : hasFields a.json acknowledgmentFields = true := hasFields_object _ _
  have at_ : (a.json.get? "acknowledged_at_utc").getD .null = .str a.acknowledgedAt.val := by simp [Acknowledgment.json]
  have by_ : (a.json.get? "acknowledged_by").getD .null = .str a.acknowledgedBy.val := by simp [Acknowledgment.json]
  have evidence : (a.json.get? "evidence_reference").getD .null = .str a.evidenceReference.val := by
    simp [Acknowledgment.json]
  have payload : (a.json.get? "readback_payload_sha256").getD .null = .str a.readbackPayloadSha256.val := by
    simp [Acknowledgment.json]
  have summary : (a.json.get? "readback_summary").getD .null = .str a.readbackSummary.val := by simp [Acknowledgment.json]
  simp only [acknowledgment, fields, at_, by_, evidence, payload, summary, textIf_ok, boundedIncidentText_ok, rejectIf, ok_bind]
  rfl

theorem schemaVersion?_json (version : SchemaVersion) : schemaVersion? version.json = some version := by
  cases version <;> decide +kernel

/-- The status is read back with its acknowledgment. -/
theorem incidentStatus_members (status : IncidentStatus digits) :
    incidentStatus digits (status.name = "OPEN") ((Json.object status.members).get? "acknowledgment") = .ok status := by
  cases status with
  | opened nulled => cases nulled <;> rfl
  | acknowledged a =>
    have member : (Json.object (IncidentStatus.acknowledged a).members).get? "acknowledgment" = some a.json := by
      simp [IncidentStatus.members]
    have name : (IncidentStatus.acknowledged a).name ≠ "OPEN" := by simp [IncidentStatus.name]
    rw [member]
    simp only [incidentStatus, decide_eq_true_eq, if_neg name, Option.getD_some, acknowledgment_json]
    rfl

/-- A member is found in the first part or in the second. -/
theorem get?_object_append (front back : List (String × Json)) (key : String) :
    (Json.object (front ++ back)).get? key = ((Json.object front).get? key).or ((Json.object back).get? key) := by
  induction front with
  | nil => rfl
  | cons member front ih =>
    obtain ⟨k, v⟩ := member
    rw [List.cons_append, Json.get?_object_cons, Json.get?_object_cons, ih]
    split <;> rfl

/-- The status adds no member but the acknowledgment. -/
theorem get?_members (status : IncidentStatus digits) {key : String} (other : key ≠ "acknowledgment") :
    (Json.object status.members).get? key = none := by
  cases status with
  | opened nulled => cases nulled <;> simp [IncidentStatus.members, other.symm]
  | acknowledged a => simp [IncidentStatus.members, other.symm]

/-- The members of a record behind its acknowledgment. -/
def Incident.members (i : Incident digits) : List (String × Json) :=
  [("command", i.command.json), ("created_at_utc", .str i.createdAt),
   ("dut_identity_sha256", .str i.dutIdentitySha256), ("host_error", i.hostError.json),
   ("incident_id", .str i.incidentId), ("required_action", .str requiredAction),
   ("schema_version", i.schemaVersion.json), ("status", .str i.status.name), ("updated_at_utc", .str i.updatedAt)]

theorem Incident.field_json (i : Incident digits) {key : String} {v : Json} (other : key ≠ "acknowledgment")
    (here : (Json.object i.members).get? key = some v) : (i.json.get? key).getD .null = v := by
  have split : i.json = Json.object (i.status.members ++ i.members) := rfl
  rw [split, get?_object_append, get?_members _ other, Option.none_or, here, Option.getD_some]

theorem Incident.acknowledgment_json (i : Incident digits) :
    i.json.get? "acknowledgment" = (Json.object i.status.members).get? "acknowledgment" := by
  rw [Incident.json, get?_object_append]
  simp

/-- An incident has its fields and no others. -/
theorem Incident.fields_json (i : Incident digits) :
    (i.json.keys.all (("acknowledgment" :: requiredFields).map text).contains &&
      (requiredFields.map text).all i.json.keys.contains) = true := by
  rw [Incident.json, keys_object]
  simp only [List.all_map, Function.comp_def, contains_text]
  obtain (_ | _) | _ := i.status <;> rfl

theorem inSet_status (status : IncidentStatus digits) :
    inSet (.str status.name) [.str "OPEN", .str "ACKNOWLEDGED"] = .ok true := by
  cases status with
  | opened => exact inSet_names ["OPEN", "ACKNOWLEDGED"] id (List.mem_cons_self)
  | acknowledged => exact inSet_names ["OPEN", "ACKNOWLEDGED"] id (List.mem_cons_of_mem _ List.mem_cons_self)

/-- What is written of an incident is accepted as the same incident. -/
theorem validateIncident_json (i : Incident digits) : validateIncident digits i.json = .ok i := by
  have version : (i.json.get? "schema_version").getD .null = i.schemaVersion.json :=
    i.field_json (by decide) (by simp [Incident.members])
  have incidentId : (i.json.get? "incident_id").getD .null = .str i.incidentId.val :=
    i.field_json (by decide) (by simp [Incident.members])
  have status : (i.json.get? "status").getD .null = .str i.status.name :=
    i.field_json (by decide) (by simp [Incident.members])
  have created : (i.json.get? "created_at_utc").getD .null = .str i.createdAt.val :=
    i.field_json (by decide) (by simp [Incident.members])
  have updated : (i.json.get? "updated_at_utc").getD .null = .str i.updatedAt.val :=
    i.field_json (by decide) (by simp [Incident.members])
  have dut : (i.json.get? "dut_identity_sha256").getD .null = .str i.dutIdentitySha256.val :=
    i.field_json (by decide) (by simp [Incident.members])
  have action : (i.json.get? "required_action").getD .null = .str requiredAction :=
    i.field_json (by decide) (by simp [Incident.members])
  have command : (i.json.get? "command").getD .null = i.command.json :=
    i.field_json (by decide) (by simp [Incident.members])
  have hostError : (i.json.get? "host_error").getD .null = i.hostError.json :=
    i.field_json (by decide) (by simp [Incident.members])
  have opened : decide (Json.str (text i.status.name) = .str "OPEN") = decide (i.status.name = "OPEN") := by
    rw [decide_eq_decide, Json.str.injEq, text_inj]
  simp only [validateIncident, i.fields_json, show i.json.isObj = true from rfl, version, incidentId, status, created,
    updated, dut, action, command, hostError, schemaVersion?_json, textIf_ok, inSet_status, incidentCommand_json,
    incidentHostError_json, opened, i.acknowledgment_json, incidentStatus_members, rejectIf, ok_bind]
  rfl

end EmsDnp3.Python
