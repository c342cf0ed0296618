import EmsDnp3.Python.IncidentHistory

/-!
# Uncertain controls in the client

`_handle_uncertain_command` of `client.py`: what a client does when it cannot tell whether a control was executed. The
text of the error that it quotes is the interpreter's.
-/

namespace EmsDnp3.Python

open Disk (Does outcome)
open Package (DecimalDigits)
open Program (Reaches)

/-- What the handler uses of a client. -/
structure ControlClient where
  simulatorMode : Bool
  hasIncidentStore : Bool
  activeDutId : Option Text
  safetyToken : Option Text
  broken : Bool
deriving DecidableEq

/-- `_abort_process`, as far as the client itself goes. -/
def ControlClient.abortProcess (client : ControlClient) : ControlClient :=
  { client with safetyToken := none, broken := true }

/-- How the handler ends: the original error has these details now, a `SafetyIncidentPersistenceError` is raised, or
another exception goes through. -/
inductive Handled where
  | returned (details : Json)
  | persistence (message : String) (details : Json)
  | raised (error : StoreError)
deriving DecidableEq

/-- `except (SafetyIncidentError, OSError, TypeError, ValueError)` -/
def StoreError.isCaught : StoreError → Bool
  | .python (.overflow _) => false
  | _ => true

/-- The message of a lock that could not be verified. -/
def notVerified : String :=
  "an uncertain command outcome invalidated the host, but the persistent safety lock could not be verified; do not issue another control until manual readback and incident-store repair"

section
variable (rt : Runtime)

def incidentDetails (r : IncidentRecordResult rt) : Json :=
  .object [("incident_id", .str r.incident.incidentId.val), ("persistent_safety_lock", .bool true),
    ("incident_lock_created", .bool r.created), ("required_action", .str requiredAction)]

/-- What an error says where there is no device. -/
def simulatorDetails (c : UncertainCommand) : Json :=
  .object [("environment", .str "SIMULATOR"), ("execution_uncertain", .bool c.executionUncertain),
    ("may_still_execute", .bool c.mayStillExecute), ("persistent_safety_lock", .bool false),
    ("required_action", .str "START_NEW_SESSION")]

/-- What an error says of a lock that could not be verified. -/
def persistenceDetails (c : UncertainCommand) (persistenceError : Text) : Json :=
  .object [("operation", .str c.operation), ("persistence_error", .str persistenceError),
    ("required_action", .str "MANUAL_READBACK_AND_STORE_REPAIR")]

/-- `_incident_context` -/
def incidentContext (client : ControlClient) : Except String Text :=
  if client.hasIncidentStore then
    match client.activeDutId with
    | some dutId => .ok dutId
    | none => .error "a DUT identity is required to inspect or update a safety incident"
  else .error "state-changing operations require HostProcessConfig.safety_incident_directory so uncertain results remain locked across Python processes"

/-- `_handle_uncertain_command` and the client behind it. -/
def handleUncertainCommand (uuid : Uuid) (now : Timestamp rt.digits) (client : ControlClient) (c : UncertainCommand) :
    FileProgram StorePath Empty (Handled × ControlClient) :=
  if client.simulatorMode then .ok (.returned (simulatorDetails c), client.abortProcess)
  else
    match incidentContext client with
    | .error message => .ok (.persistence notVerified (persistenceDetails c (text message)), client.abortProcess)
    | .ok dutId =>
      Program.handle (do
          let recorded ← recordUncertain rt uuid now dutId c
          return (.returned (incidentDetails rt recorded), client.abortProcess))
        fun e =>
          if e.isCaught then .ok (.persistence notVerified (persistenceDetails c (rt.errorText e)), client.abortProcess)
          else .ok (.raised e, client.abortProcess)

end

/-! ## What the recording of an incident raises -/

section
variable {digits : DecimalDigits}

/-- Exceptions of the validators that the handler catches. -/
abbrev Quiet {α : Type} (x : Except PyError α) : Prop := ErrorsAre (fun e => (StoreError.python e).isCaught = true) x

theorem quiet_value {α : Type} (message : String) : Quiet (.error (.value message) : Except PyError α) :=
  errorsAre_error rfl

/-- A check that raises a value error leaves no command in doubt. -/
theorem quiet_rejectIf (b : Bool) (message : String) : Quiet (rejectIf b (.value message)) := by
  unfold rejectIf
  split
  · exact quiet_value message
  · exact errorsAre_ok

theorem quiet_require (p : Prop) [Decidable p] (message : String) : Quiet (require p (.value message)) := by
  unfold require
  split
  · exact errorsAre_ok
  · exact quiet_value message

/-- A comparison with names leaves no command in doubt. -/
theorem quiet_inSet (value : Json) (names : List Json) : Quiet (inSet value names) := by
  unfold inSet
  split
  · exact errorsAre_error rfl
  · exact errorsAre_error rfl
  · exact errorsAre_ok

theorem quiet_textIf (value : Json) (holds : Text → Bool) (message : String) : Quiet (textIf value holds message) := by
  unfold textIf
  split
  · exact errorsAre_bind (quiet_require _ _) fun _ _ => errorsAre_ok
  · exact quiet_value message

theorem quiet_boundedIncidentText (value : Json) (name : String) (maximum : Nat) : Quiet (boundedIncidentText value name maximum) := by
  unfold boundedIncidentText
  split
  · next t =>
    have length : Quiet (encodedLength t) := by
      unfold encodedLength
      split
      · exact errorsAre_ok
      · exact quiet_value _
    exact errorsAre_bind length fun _ _ => errorsAre_bind (quiet_rejectIf _ _) fun _ _ =>
      errorsAre_bind (quiet_require _ _) fun _ _ => errorsAre_ok
  · exact quiet_value _

theorem quiet_incidentBoolean (value : Json) (message : String) : Quiet (incidentBoolean value message) := by
  unfold incidentBoolean
  split
  · exact errorsAre_ok
  · exact quiet_value message

theorem quiet_incidentPoint (point : Json) : Quiet (incidentPoint point) := by
  refine errorsAre_bind (quiet_rejectIf _ _) fun _ _ => errorsAre_bind (quiet_inSet _ _) fun _ _ =>
    errorsAre_bind (quiet_rejectIf _ _) fun _ _ => ?_
  split
  · exact errorsAre_bind (quiet_require _ _) fun _ _ => errorsAre_ok
  · exact quiet_value _

theorem quiet_incidentPoints (seen : List IncidentPoint) (items : List Json) : Quiet (incidentPoints seen items) := by
  induction items generalizing seen with
  | nil => exact errorsAre_ok
  | cons point rest ih =>
    exact errorsAre_bind (quiet_incidentPoint point) fun p _ => errorsAre_bind (quiet_require _ _) fun _ _ =>
      errorsAre_bind (ih (p :: seen)) fun _ _ => errorsAre_ok

theorem quiet_incidentCommand (command : Json) : Quiet (incidentCommand command) := by
  refine errorsAre_bind (quiet_rejectIf _ _) fun _ _ => errorsAre_bind (quiet_inSet _ _) fun _ _ =>
    errorsAre_bind (quiet_rejectIf _ _) fun _ _ => ?_
  split
  · exact quiet_value _
  · refine errorsAre_bind (quiet_textIf _ _ _) fun _ _ => ?_
    split
    · exact errorsAre_bind (quiet_require _ _) fun _ _ => errorsAre_bind (quiet_incidentPoints _ _) fun _ _ => errorsAre_ok
    · exact quiet_value _

theorem quiet_incidentHostError (error : Json) : Quiet (incidentHostError error) :=
  errorsAre_bind (quiet_rejectIf _ _) fun _ _ => errorsAre_bind (quiet_boundedIncidentText _ _ _) fun _ _ =>
    errorsAre_bind (quiet_boundedIncidentText _ _ _) fun _ _ => errorsAre_bind (quiet_incidentBoolean _ _) fun _ _ =>
      errorsAre_bind (quiet_incidentBoolean _ _) fun _ _ => errorsAre_bind (quiet_require _ _) fun _ _ => errorsAre_ok

theorem quiet_acknowledgment (value : Json) : Quiet (acknowledgment digits value) :=
  errorsAre_bind (quiet_rejectIf _ _) fun _ _ => errorsAre_bind (quiet_textIf _ _ _) fun _ _ =>
    errorsAre_bind (quiet_boundedIncidentText _ _ _) fun _ _ => errorsAre_bind (quiet_boundedIncidentText _ _ _) fun _ _ =>
      errorsAre_bind (quiet_boundedIncidentText _ _ _) fun _ _ => errorsAre_bind (quiet_textIf _ _ _) fun _ _ => errorsAre_ok

theorem quiet_incidentStatus (opened : Bool) (member : Option Json) : Quiet (incidentStatus digits opened member) := by
  unfold incidentStatus
  split
  · split
    · exact errorsAre_ok
    · exact errorsAre_ok
    · exact quiet_value _
  · exact errorsAre_bind (quiet_acknowledgment _) fun _ _ => errorsAre_ok

/-- Reading a record leaves no command in doubt. -/
theorem quiet_validateIncident (document : Json) : Quiet (validateIncident digits document) := by
  refine errorsAre_bind (quiet_rejectIf _ _) fun _ _ => errorsAre_bind (quiet_rejectIf _ _) fun _ _ => ?_
  dsimp only
  split
  · exact quiet_value _
  · exact errorsAre_bind (quiet_textIf _ _ _) fun _ _ => errorsAre_bind (quiet_inSet _ _) fun _ _ =>
      errorsAre_bind (quiet_rejectIf _ _) fun _ _ => errorsAre_bind (quiet_textIf _ _ _) fun _ _ =>
        errorsAre_bind (quiet_textIf _ _ _) fun _ _ => errorsAre_bind (quiet_textIf _ _ _) fun _ _ =>
          errorsAre_bind (quiet_rejectIf _ _) fun _ _ => errorsAre_bind (quiet_incidentCommand _) fun _ _ =>
            errorsAre_bind (quiet_incidentHostError _) fun _ _ => errorsAre_bind (quiet_incidentStatus _ _) fun _ _ =>
              errorsAre_ok

end

section
variable {rt : Runtime} {d s : StoreDisk} {dutHash : Sha256} {dutId : Text}

/-- Every exception of the program is one that the handler catches. -/
abbrev QuietProgram {α : Type} (p : StoreProgram α) : Prop := p.Raises fun e => e.isCaught = true

theorem quiet_ofPython {α : Type} {x : Except PyError α} (quiet : Quiet x) : QuietProgram (ofPython x) :=
  Program.raises_ofExcept (errorsAre_mapError quiet)

theorem quiet_ensureDirectories : QuietProgram ensureDirectories := by
  rintro (_ | _)
  · exact rfl
  · trivial

/-- Reading a document whose problem is caught is quiet. -/
theorem quiet_readDocument (path : StorePath) {problem : StoreError} (caught : problem.isCaught = true) (missingOk : Bool) :
    QuietProgram (readDocument rt path problem missingOk) := by
  rintro ((_ | _ | _) | node)
  · cases missingOk with
    | false => exact caught
    | true =>
      rintro ((_ | _ | _) | _)
      · trivial
      · exact caught
      · exact caught
      · exact caught
  · exact caught
  · exact caught
  · rintro (_ | encoded)
    · exact caught
    · simp only [Program.bind_ok]
      split
      · trivial
      · exact caught
      · exact rfl

theorem quiet_dutIdentitySha256 (dutId : Text) : Quiet (dutIdentitySha256 rt dutId) := by
  unfold dutIdentitySha256
  split
  · exact quiet_value _
  · exact errorsAre_bind (quiet_rejectIf _ _) fun _ _ => errorsAre_bind (quiet_rejectIf _ _) fun _ _ => errorsAre_ok

theorem quiet_getActive (dutId : Text) : QuietProgram (getActive rt dutId) := by
  refine Program.raises_bind quiet_ensureDirectories fun _ =>
    Program.raises_bind (quiet_ofPython (quiet_dutIdentitySha256 dutId)) fun _ =>
      Program.raises_bind (quiet_readDocument _ rfl _) fun found => ?_
  cases found with
  | none => trivial
  | some document =>
    dsimp only
    split
    · trivial
    · exact rfl

theorem quiet_checkedIncident (uuid : Uuid) (now : Timestamp rt.digits) (dutHash : Sha256) (c : UncertainCommand) :
    Quiet (checkedIncident rt uuid now dutHash c) := by
  have hashed : Quiet (sha256Json rt c.commandPayload) := by
    unfold sha256Json
    split
    · exact errorsAre_ok
    · exact quiet_value _
  exact errorsAre_bind (quiet_rejectIf _ _) fun _ _ => errorsAre_bind hashed fun _ _ => quiet_validateIncident _

theorem quiet_writeExclusive (path : StorePath) (i : Incident rt.digits) : QuietProgram (writeExclusive path i) := by
  have any (p : FileProgram StorePath OsError Unit) : p.Raises fun _ => True := by
    induction p with
    | ok _ => trivial
    | raise _ => trivial
    | act _ _ ih => exact ih
  unfold writeExclusive
  split
  · exact rfl
  · split
    · exact rfl
    · refine Program.raises_handle (any _) ?_
      rintro (_ | _ | _) -
      · exact rfl
      · exact rfl
      · exact rfl

theorem quiet_recordUncertain (uuid : Uuid) (now : Timestamp rt.digits) (dutId : Text) (c : UncertainCommand) :
    QuietProgram (recordUncertain rt uuid now dutId c) := by
  refine Program.raises_bind quiet_ensureDirectories fun _ =>
    Program.raises_bind (quiet_ofPython (quiet_dutIdentitySha256 dutId)) fun dutHash =>
      Program.raises_bind (quiet_getActive dutId) fun found => ?_
  cases found with
  | some existing => trivial
  | none =>
    refine Program.raises_bind (quiet_ofPython (quiet_checkedIncident uuid now dutHash c)) fun incident =>
      Program.raises_handle (Program.raises_bind (quiet_writeExclusive _ incident) fun _ => trivial) fun e caught => ?_
    cases e with
    | fileExists =>
      refine Program.raises_bind (quiet_getActive dutId) fun found => ?_
      cases found with
      | none => exact rfl
      | some existing => trivial
    | unresolved => exact caught
    | persistence => exact caught
    | acknowledgment => exact caught
    | python => exact caught

/-! ## What the handler leaves behind -/

variable (rt) in
/-- The token is gone and the host is closed. The incident is locked, or the failure is raised and no lock was removed. -/
structure FailsClosed (d : StoreDisk) (dutHash : Sha256) (client : ControlClient) (c : UncertainCommand) (h : Handled)
    (client' : ControlClient) (s : StoreDisk) : Prop where
  aborted : client' = client.abortProcess
  handled : (∃ r : IncidentRecordResult rt, h = .returned (incidentDetails rt r) ∧ Reads rt s (.active dutHash) r.incident) ∨
    ∃ persistenceError, h = .persistence notVerified (persistenceDetails c persistenceError)
  kept : d.slot (.active dutHash) ≠ .absent → s.slot (.active dutHash) = d.slot (.active dutHash)

theorem Recording.kept {checked : Except PyError (Incident rt.digits)} (recording : Recording d dutHash checked s)
    (there : d.slot (.active dutHash) ≠ .absent) : s.slot (.active dutHash) = d.slot (.active dutHash) := by
  obtain rfl | ⟨_, _, absent, _⟩ := recording
  · rfl
  · exact absurd absent there

/-- Wherever it stops, the lock was there, was made or could not be. -/
theorem always_handleUncertainCommand (formed : d.WellFormed) (hashed : dutIdentitySha256 rt dutId = .ok dutHash)
    (uuid : Uuid) (now : Timestamp rt.digits) {client : ControlClient} (lab : client.simulatorMode = false)
    (stored : client.hasIncidentStore = true) (active : client.activeDutId = some dutId) (c : UncertainCommand) :
    (handleUncertainCommand rt uuid now client c).Always Does (fun _ => True)
      (fun r s => ∀ h client', r = .ok (h, client') → FailsClosed rt d dutHash client c h client' s) d := by
  have context : incidentContext client = .ok dutId := by simp [incidentContext, stored, active]
  unfold handleUncertainCommand
  rw [lab, context]
  have recorded := (always_recordUncertain formed hashed uuid now c).raises (quiet_recordUncertain uuid now dutId c)
  refine Program.always_handle (Program.always_bind (recorded.mono (fun _ _ => trivial) ?_))
  rintro (e | ⟨i, created⟩) s ⟨after, quiet⟩
  · show Program.Always _ _ _ (if e.isCaught then _ else _) s
    rw [if_pos (quiet e rfl)]
    rintro h client' ⟨⟩
    exact ⟨rfl, .inr ⟨_, rfl⟩, Recording.kept after⟩
  · rintro h client' ⟨⟩
    cases created with
    | false =>
      obtain ⟨rfl, lock, -⟩ := after
      exact ⟨rfl, .inl ⟨_, rfl, lock⟩, fun _ => rfl⟩
    | true =>
      obtain ⟨-, absent, -, whole⟩ := after
      exact ⟨rfl, .inl ⟨_, rfl, reads_bytes whole⟩, fun there => absurd absent there⟩

/-- An uncertain control in lab mode clears the token and closes the host. Its incident is recorded, or the failure is
raised. The gate lets a later client through only where no lock stood before, none stands now, and the failure was raised. -/
theorem uncertain_command_fails_closed (uuid : Uuid) (now : Timestamp rt.digits) {client client' : ControlClient}
    {c : UncertainCommand} {h : Handled} (lab : client.simulatorMode = false) (stored : client.hasIncidentStore = true)
    (active : client.activeDutId = some dutId) (hashed : dutIdentitySha256 rt dutId = .ok dutHash) (formed : d.WellFormed)
    (run : Reaches Does (handleUncertainCommand rt uuid now client c) d (.ok (h, client')) s) :
    client'.safetyToken = none ∧ client'.broken = true ∧
    ((∃ r : IncidentRecordResult rt, h = .returned (incidentDetails rt r) ∧ Reads rt s (.active dutHash) r.incident) ∨
      ∃ persistenceError, h = .persistence notVerified (persistenceDetails c persistenceError)) ∧
    (d.slot (.active dutHash) ≠ .absent → s.slot (.active dutHash) = d.slot (.active dutHash)) ∧
    ∀ q t, Reaches Does (assertClear rt dutId) s q t → q = .ok () →
      d.slot (.active dutHash) = .absent ∧ s.slot (.active dutHash) = .absent ∧
      ∃ persistenceError, h = .persistence notVerified (persistenceDetails c persistenceError) := by
  have closed := (always_handleUncertainCommand formed hashed uuid now lab stored active c).reached run h client' rfl
  obtain ⟨rfl, handled, kept⟩ := closed
  refine ⟨rfl, rfl, handled, kept, ?_⟩
  rintro q t clear rfl
  have absent : s.slot (.active dutHash) = .absent := ((always_assertClear hashed).reached clear).2 rfl
  refine ⟨by_contra fun there => ?_, absent, ?_⟩
  · rw [kept there] at absent
    exact there absent
  · obtain ⟨_, -, lock⟩ | raised := handled
    · exact absurd absent lock.not_absent
    · exact raised

end

/-! ## The disk is full -/

/-- A client with a store and a device. -/
def exampleClient : ControlClient where
  simulatorMode := false
  hasIncidentStore := true
  activeDutId := some (text "D1")
  safetyToken := some (text "token")
  broken := false

/-- `os.open` fails, and so does the removal behind it. -/
theorem reaches_unwritten (path : StorePath) (i : Incident exampleRuntime.digits) (s : StoreDisk) :
    Reaches Does (writeExclusive path i) s (.raise (.persistence "cannot persist safety-incident lock")) s := by
  have short : ¬ maxIncidentBytes < i.bytes.length := Nat.not_lt.mpr i.bytes_short.2
  rw [writeExclusive, recordBytes_eq]
  dsimp only
  rw [if_neg short]
  exact .act (.inr ⟨rfl, rfl⟩) (.act (.inr ⟨rfl, rfl⟩) (.refl _ _))

/-- A lock that cannot be made is reported. -/
theorem reaches_unrecorded :
    Reaches Does (handleUncertainCommand exampleRuntime exampleUuid exampleTime exampleClient exampleCommand) emptyStore
      (.ok (.persistence notVerified (persistenceDetails exampleCommand
        (text "cannot persist safety-incident lock: [Errno 28] No space left on device")), exampleClient.abortProcess))
      emptyStore := by
  have recorded : Reaches Does (recordUncertain exampleRuntime exampleUuid exampleTime (text "D1") exampleCommand) emptyStore
      (.raise (.persistence "cannot persist safety-incident lock")) emptyStore := by
    refine .bind_ok (.of_run Disk.does_outcome run_ensureDirectories) ?_
    refine .bind_ok (.of_run Disk.does_outcome (run_ofPython exampleHashed)) ?_
    refine .bind_ok (.of_run Disk.does_outcome (run_getActive_absent exampleHashed rfl)) ?_
    refine .bind_ok (.of_run Disk.does_outcome (run_ofPython exampleChecked)) ?_
    exact (reaches_unwritten _ exampleIncident emptyStore).bind.handle
  exact recorded.bind.handle

/-- The file of the incident cannot be made, and nothing is left that shuts the gate. -/
theorem uncertain_command_not_locked :
    ¬ ∀ h client' s, Reaches Does (handleUncertainCommand exampleRuntime exampleUuid exampleTime exampleClient exampleCommand)
        emptyStore (.ok (h, client')) s →
      ∀ t, ¬ Reaches Does (assertClear exampleRuntime (text "D1")) s (.ok ()) t := by
  intro closed
  exact closed _ _ emptyStore reaches_unrecorded emptyStore (.of_run Disk.does_outcome (run_assertClear exampleHashed rfl))

/-- The failure is raised, and the client that saw it has no token any more. -/
theorem uncertain_command_fails_closed_example :
    exampleClient.abortProcess.safetyToken = none ∧
    ∀ q t, Reaches Does (assertClear exampleRuntime (text "D1")) emptyStore q t → q = .ok () →
      emptyStore.slot (.active exampleHash) = .absent := by
  have closed := uncertain_command_fails_closed exampleUuid exampleTime rfl rfl rfl exampleHashed wellFormed_emptyStore
    reaches_unrecorded
  exact ⟨closed.1, fun q t clear ok => (closed.2.2.2.2 q t clear ok).2.1⟩

end EmsDnp3.Python
