import EmsDnp3.Base.Runs
import EmsDnp3.Python.ControlCall

/-!
# What a control leaves behind

Whatever the host answers, and whatever other processes do to the incident store meanwhile: a control is refused, answered
with certainty, declined by the host, or its session is given up with an incident on record. In a run of calls nothing
follows a control of the last kind.
-/

namespace EmsDnp3.Python

open Disk (Does)
open Program (Reaches)

/-! ## Results -/

section
variable {α : Type}

/-- Reading a field of a reply leaves no command in doubt. -/
theorem quiet_naturalField (value : Json) (key message : String) : Quiet (naturalField value key message) := by
  unfold naturalField
  split
  · exact errorsAre_ok
  · exact quiet_value _

theorem quiet_nameField (value : Json) (key message : String) : Quiet (nameField value key message) := by
  unfold nameField
  split
  · split
    · exact quiet_value _
    · exact errorsAre_ok
  · exact quiet_value _

theorem quiet_booleanField (value : Json) (key message : String) : Quiet (booleanField value key message) := by
  unfold booleanField
  split
  · exact errorsAre_ok
  · exact quiet_value _

theorem quiet_objectField (value : Json) (key message : String) : Quiet (objectField value key message) := by
  unfold objectField
  split
  · exact errorsAre_ok
  · exact quiet_value _

theorem quiet_arrayField (value : Json) (key message : String) : Quiet (arrayField value key message) := by
  unfold arrayField
  split
  · exact errorsAre_ok
  · exact quiet_value _

/-- Reading a list of objects leaves no command in doubt. -/
theorem quiet_parseObjects {parse : Json → Except PyError α} (each : ∀ item, Quiet (parse item)) (items : List Json)
    (message : String) : Quiet (parseObjects parse items message) := by
  have all (objects : List Json) : Quiet (objects.mapM parse) := by
    induction objects with
    | nil => exact errorsAre_ok
    | cons item rest ih =>
      rw [List.mapM_cons]
      exact errorsAre_bind (each item) fun _ _ => errorsAre_bind ih fun _ _ => errorsAre_ok
  exact errorsAre_bind (all _) fun _ _ => errorsAre_bind (quiet_rejectIf _ _) fun _ _ => errorsAre_ok

/-- Reading a point leaves no command in doubt. -/
theorem quiet_point (value : Json) : Quiet (CommandPointResult.fromMapping value) := by
  have requested : Quiet (CommandPointResult.requestedOf value) := by
    unfold CommandPointResult.requestedOf
    split
    · exact errorsAre_ok
    · exact errorsAre_ok
    · exact quiet_value _
  refine errorsAre_bind (quiet_rejectIf _ _) fun _ _ => errorsAre_bind (quiet_naturalField _ _ _) fun _ _ =>
    errorsAre_bind (quiet_naturalField _ _ _) fun _ _ => errorsAre_bind (quiet_naturalField _ _ _) fun _ _ =>
    errorsAre_bind (quiet_naturalField _ _ _) fun _ _ => errorsAre_bind (quiet_nameField _ _ _) fun _ _ =>
    errorsAre_bind (quiet_nameField _ _ _) fun _ _ => errorsAre_bind (quiet_require _ _) fun _ _ =>
    errorsAre_bind (quiet_require _ _) fun _ _ => errorsAre_bind (quiet_rejectIf _ _) fun _ _ =>
    errorsAre_bind (quiet_nameField _ _ _) fun _ _ => errorsAre_bind (quiet_rejectIf _ _) fun _ _ =>
    errorsAre_bind (quiet_rejectIf _ _) fun _ _ => errorsAre_bind requested fun _ _ => errorsAre_ok

/-- Whatever is wrong with a result, the handler of `_execute_command_task` catches it. -/
theorem quiet_result (value : Json) : Quiet (CommandTaskResult.fromMapping value) := by
  refine errorsAre_bind (quiet_rejectIf _ _) fun _ _ => errorsAre_bind (quiet_naturalField _ _ _) fun _ _ =>
    errorsAre_bind (quiet_require _ _) fun _ _ => errorsAre_bind (quiet_nameField _ _ _) fun _ _ =>
    errorsAre_bind (quiet_nameField _ _ _) fun _ _ => errorsAre_bind (quiet_rejectIf _ _) fun _ _ =>
    errorsAre_bind (quiet_booleanField _ _ _) fun _ _ => errorsAre_bind (quiet_booleanField _ _ _) fun _ _ =>
    errorsAre_bind (quiet_booleanField _ _ _) fun _ _ => errorsAre_bind (quiet_booleanField _ _ _) fun _ _ =>
    errorsAre_bind (quiet_arrayField _ _ _) fun _ _ => errorsAre_bind (quiet_objectField _ _ _) fun _ _ =>
    errorsAre_bind (quiet_objectField _ _ _) fun _ _ => errorsAre_bind (quiet_parseObjects quiet_point _ _) fun _ _ =>
    errorsAre_bind (quiet_naturalField _ _ _) fun _ _ => errorsAre_bind (quiet_naturalField _ _ _) fun _ _ =>
    errorsAre_bind (quiet_naturalField _ _ _) fun _ _ => errorsAre_bind (quiet_naturalField _ _ _) fun _ _ =>
    errorsAre_bind (quiet_rejectIf _ _) fun _ _ => errorsAre_bind (quiet_rejectIf _ _) fun _ _ =>
    errorsAre_bind (quiet_rejectIf _ _) fun _ _ => errorsAre_bind (quiet_rejectIf _ _) fun _ _ =>
    errorsAre_bind (quiet_require _ _) fun _ _ => errorsAre_ok

/-- A reply that does not correlate is an error of its own, which `_validate_control_batch` raises. -/
theorem quiet_correlation (operation : Text) (commands : List Command) (result : CommandTaskResult) :
    Quiet (validateCommandCorrelation operation commands result) := by
  have ordinal (requested : Json) : Quiet (ordinalOf requested commands.length) := by
    unfold ordinalOf
    split
    · split
      · exact errorsAre_ok
      · exact quiet_value _
    · exact quiet_value _
  have point (seen : List Nat) (p : CommandPointResult) : Quiet (correlatePoint commands seen p) := by
    unfold correlatePoint
    split
    · exact quiet_value _
    · refine errorsAre_bind (ordinal _) fun _ _ => errorsAre_bind (quiet_rejectIf _ _) fun _ _ => ?_
      split
      · exact quiet_value _
      · exact errorsAre_bind (quiet_rejectIf _ _) fun _ _ => errorsAre_ok
  have points (seen : List Nat) (ps : List CommandPointResult) : Quiet (correlatePoints commands seen ps) := by
    induction ps generalizing seen with
    | nil => exact errorsAre_ok
    | cons p rest ih => exact errorsAre_bind (point seen p) fun _ _ => ih _
  exact errorsAre_bind (quiet_rejectIf _ _) fun _ _ => errorsAre_bind (quiet_rejectIf _ _) fun _ _ =>
    errorsAre_bind (points _ _) fun _ _ => quiet_rejectIf _ _

end

/-- A result that leaves no doubt: it answers the batch, and no point has to be read back. -/
structure Certain (operation : Text) (commands : List Command) (result : CommandTaskResult) : Prop where
  answers : AnswersBatch operation commands result
  sure : result.executionUncertain = false
  points : ∀ p ∈ result.pointResults, p.requiresManualReadback = false

/-- A result is certain, or its session is not used any more. -/
theorem judgeResult_cases (operation : Text) (commands : List Command) (simulatorMode : Bool) (raw : Json) :
    (∃ result, judgeResult operation commands simulatorMode raw = .certain result ∧ Certain operation commands result) ∨
      ∃ error doubt, judgeResult operation commands simulatorMode raw = .doubtful error doubt := by
  have quiet : Quiet (CommandTaskResult.fromMapping raw >>= fun parsed => do
      validateCommandCorrelation operation commands parsed
      return parsed) :=
    errorsAre_bind (quiet_result raw) fun _ _ => errorsAre_bind (quiet_correlation _ _ _) fun _ _ => errorsAre_ok
  unfold judgeResult
  split
  · next message raised => exact absurd (quiet _ raised) (by simp [StoreError.isCaught])
  · exact .inr ⟨_, _, rfl⟩
  · next parsed read =>
    obtain ⟨result, -, read⟩ := ok_bind_iff.mp read
    obtain ⟨_, correlated, read⟩ := ok_bind_iff.mp read
    obtain rfl := ok_pure_iff.mp read
    by_cases unsafe_ : (result.executionUncertain || result.unsafePoints ≠ []) = true
    · rw [if_pos unsafe_]
      exact .inr ⟨_, _, rfl⟩
    · rw [if_neg unsafe_]
      simp only [Bool.or_eq_true, decide_eq_true_eq, not_or, not_not, Bool.not_eq_true] at unsafe_
      refine .inl ⟨result, rfl, validateCommandCorrelation_ok.mp correlated, unsafe_.1, ?_⟩
      simpa [CommandTaskResult.unsafePoints, List.filter_eq_nil_iff] using unsafe_.2

/-! ## The exchange -/

/-- What the exchange of a control leaves for its verdict. -/
inductive Executed (operation : Text) (commands : List Command) (client : Client) (sent : Option (List Byte)) :
    Verdict × Client → Prop
  | certain {result : CommandTaskResult} {client' : Client} (same : client.Same client') (queued : sent.isSome)
      (certain : Certain operation commands result) : Executed operation commands client sent (.certain result, client')
  | unsent {error : CallError} {client' : Client} (same : client.Same client') (queued : sent = none) :
      Executed operation commands client sent (.failed error, client')
  | declined {error : HostCommandError} {client' : Client} (same : client.Same client') (queued : sent.isSome)
      (plain : error.isUncertain = false) : Executed operation commands client sent (.failed (.command error), client')
  | doubtful {error : CallError} {doubt : Doubt} {client' : Client} (left : client.Same client' ∨ client.GivenUp client') :
      Executed operation commands client sent (.doubtful error doubt, client')

/-- A lost exchange leaves the command in doubt. -/
theorem judgeError_lost {error : CallError} (how : error = .timeout ∨ (∃ message, error = .exited message) ∨
    (∃ message, error = .protocol message) ∨ ∃ by_, error = .interrupted by_) :
    ∃ doubt, judgeError error = .doubtful error doubt := by
  rcases how with rfl | ⟨message, rfl⟩ | ⟨message, rfl⟩ | ⟨by_, rfl⟩
  · exact ⟨_, rfl⟩
  · exact ⟨_, rfl⟩
  · exact ⟨_, rfl⟩
  · exact ⟨_, rfl⟩

/-- The request of a control is what it says in front of the exchange, and nothing else is sent. -/
theorem executeCommandTask_cases (operation : Text) (batch : ControlBatch) (token : SafetyToken) (client : Client)
    (timeout : Json) (pipes : Pipes) :
    ∃ sent : Option (List Byte),
      (client.executeCommandTask operation batch token timeout pipes).2.queued = client.queued ++ sent.toList ∧
      (∀ bytes ∈ sent, (client.executeCommandTask operation batch token timeout pipes).2.line operation
        (batch.request token).params = some bytes) ∧
      Executed operation batch.commands client sent (client.executeCommandTask operation batch token timeout pipes) := by
  have outcome := Client.outcome_request operation (batch.request token).params timeout pipes client
  unfold Client.executeCommandTask
  generalize client.request operation (batch.request token).params timeout pipes = called at outcome
  cases outcome with
  | refused same queue before =>
    refine ⟨none, by simpa [Client.mappingResult] using queue, by simp, ?_⟩
    rcases before with ⟨message, rfl⟩ | ⟨message, rfl⟩
    · exact .unsent same rfl
    · exact .unsent same rfl
  | @interrupted by_ client' bytes control same sent queue =>
    exact ⟨some bytes, queue, by simpa [Client.mappingResult] using sent, .doubtful (.inl same)⟩
  | @lost error client' givenUp queue how =>
    obtain ⟨doubt, doubtful⟩ := judgeError_lost (how.imp_right (.imp_right (.imp_right And.right)))
    have ends (sent : Option (List Byte)) : Executed operation batch.commands client sent (judgeError error, client') := by
      rw [doubtful]
      exact .doubtful (.inr givenUp)
    obtain queue | ⟨bytes, sent, queue⟩ := queue
    · exact ⟨none, by simpa [Client.mappingResult] using queue, by simp, ends none⟩
    · exact ⟨some bytes, queue, by simpa [Client.mappingResult] using sent, ends (some bytes)⟩
  | @answered called bytes same sent queue raw answer noViolation =>
    obtain ⟨result, client'⟩ := called
    cases parsed : parseResponse raw client'.requestId with
    | ok value =>
      obtain rfl : result = .ok value := by simpa [parsed, Except.mapError] using answer
      unfold Client.mappingResult
      dsimp only at same sent queue ⊢
      by_cases object : value.isObj = true
      · rw [if_pos object]
        refine ⟨some bytes, queue, by simpa using sent, ?_⟩
        dsimp only
        obtain ⟨result, judged, certain⟩ | ⟨error, doubt, judged⟩ :=
          judgeResult_cases operation batch.commands client'.simulatorMode value
        · rw [judged]
          exact .certain same rfl certain
        · rw [judged]
          exact .doubtful (.inl same)
      · rw [if_neg object]
        refine ⟨some bytes, queue, ?_, .doubtful (.inr (Client.givenUp_abortProcess (.inl same)))⟩
        rintro _ ⟨⟩
        exact sent
    | error e =>
      rw [parsed] at answer noViolation
      cases e with
      | violation message => exact noViolation.elim
      | command error =>
        obtain rfl : result = .error (.command error) := by simpa [Except.mapError, CallError.ofResponse] using answer
        refine ⟨some bytes, queue, by simpa [Client.mappingResult] using sent, ?_⟩
        unfold Client.mappingResult judgeError
        dsimp only
        by_cases uncertain : error.isUncertain = true
        · rw [if_pos uncertain]
          exact .doubtful (.inl same)
        · rw [if_neg uncertain]
          exact .declined same rfl (by simpa using uncertain)

/-! ## The gate -/

/-- The error stands for a control that may have been executed. -/
def ControlError.isDoubt : ControlError → Bool
  | .doubtful _ _ | .persistence _ _ => true
  | _ => false

section
variable {rt : Runtime} {commands : List Command} {timeout responseMode : Json} {client : Client} {d : StoreDisk}

/-- What the gate has seen of a control that it lets through. In lab mode no incident was open. -/
structure Cleared (rt : Runtime) (commands : List Command) (timeout responseMode : Json) (client : Client) (d : StoreDisk)
    (token : SafetyToken) (batch : ControlBatch) : Prop where
  token : client.safetyToken = some token
  arguments : checkControl commands timeout responseMode = .ok batch
  clear : client.simulatorMode = false → client.config.hasIncidentDirectory = true ∧ ∃ dutId dutHash,
    client.activeDutId = some dutId ∧ dutIdentitySha256 rt dutId = .ok dutHash ∧ d.slot (.active dutHash) = .absent

/-- With a context there is a store and a device. -/
theorem incidentContext_ok {client : ControlClient} {dutId : Text} (context : incidentContext client = .ok dutId) :
    client.hasIncidentStore = true ∧ client.activeDutId = some dutId := by
  unfold incidentContext at context
  split at context
  · next stored =>
    cases active : client.activeDutId with
    | none => simp [active] at context
    | some other =>
      rw [active] at context
      exact ⟨stored, congrArg some (Except.ok.inj context)⟩
  · cases context

/-- A DUT that is not named well is refused by the store. -/
theorem always_assertClear_any (dutId : Text) : (assertClear rt dutId).Always Does (· = d) (fun r s => s = d ∧ (r = .ok () →
    ∃ dutHash, dutIdentitySha256 rt dutId = .ok dutHash ∧ d.slot (.active dutHash) = .absent)) d := by
  cases hashed : dutIdentitySha256 rt dutId with
  | ok dutHash =>
    refine (always_assertClear hashed).mono (fun _ => id) ?_
    rintro r s ⟨same, clear⟩
    exact ⟨same, fun passed => ⟨dutHash, rfl, clear passed⟩⟩
  | error e =>
    refine Program.always_bind (Program.always_bind ((always_ensureDirectories rfl).mono (fun _ => Eq.symm) ?_))
    rintro (e' | _) s ⟨rfl, -⟩
    · exact ⟨rfl, by simp⟩
    · rw [hashed]
      exact ⟨rfl, by simp⟩

/-- The gate changes nothing. -/
theorem always_commandGate : (commandGate rt commands timeout responseMode client).Always Does (· = d) (fun r s => s = d ∧
    (∀ error, r = .error error → error.isDoubt = false) ∧
    ∀ token batch, r = .ok (token, batch) → Cleared rt commands timeout responseMode client d token batch) d := by
  unfold commandGate
  cases held : client.safetyToken with
  | none => exact ⟨rfl, by simp [ControlError.isDoubt], by simp⟩
  | some token =>
    dsimp only
    cases checked : checkControl commands timeout responseMode with
    | error e => exact ⟨rfl, by simp [ControlError.isDoubt], by simp⟩
    | ok batch =>
      dsimp only
      by_cases simulated : client.simulatorMode = true
      · rw [if_pos simulated]
        refine ⟨rfl, by simp, ?_⟩
        rintro _ _ ⟨⟩
        exact ⟨held, checked, by simp [simulated]⟩
      · rw [if_neg simulated]
        cases context : incidentContext client.control with
        | error message => exact ⟨rfl, by simp [ControlError.isDoubt], by simp⟩
        | ok dutId =>
          refine Program.always_handle (Program.always_bind ((always_assertClear_any dutId).mono (fun _ => id) ?_))
          rintro (e | _) s ⟨rfl, clear⟩
          · exact ⟨rfl, by simp [ControlError.isDoubt], by simp⟩
          · refine ⟨rfl, by simp, ?_⟩
            rintro _ _ ⟨⟩
            obtain ⟨dutHash, hashed, absent⟩ := clear rfl
            obtain ⟨stored, active⟩ := incidentContext_ok context
            exact ⟨held, checked, fun _ => ⟨stored, dutId, dutHash, active, hashed, absent⟩⟩

end

/-! ## The end of a control -/

section
variable {rt : Runtime} {operation : Text} {commands : List Command} {batch : ControlBatch} {client : Client}
  {sent : Option (List Byte)} {d : StoreDisk}

/-- The incident is on record, or the failure to record it is what is raised. -/
def OnRecord (rt : Runtime) (client : Client) (error : ControlError) (d : StoreDisk) : Prop :=
  ∃ dutId dutHash, client.activeDutId = some dutId ∧ dutIdentitySha256 rt dutId = .ok dutHash ∧
    ((∃ (cause : CallError) (r : IncidentRecordResult rt), error = .doubtful cause (incidentDetails rt r) ∧
        Reads rt d (.active dutHash) r.incident) ∨
      ∃ details, error = .persistence notVerified details)

/-- How a control ends, and what is left of its session. -/
inductive Ending (rt : Runtime) (operation : Text) (commands : List Command) (client : Client) (sent : Option (List Byte)) :
    Controlled → StoreDisk → Prop
  | refused {error : ControlError} {client' : Client} {d : StoreDisk} (same : client.Same client') (unsent : sent = none)
      (plain : error.isDoubt = false) : Ending rt operation commands client sent (.error error, client') d
  | certain {result : CommandTaskResult} {client' : Client} {d : StoreDisk} (same : client.Same client') (queued : sent.isSome)
      (certain : Certain operation commands result) : Ending rt operation commands client sent (.ok result, client') d
  | declined {error : HostCommandError} {client' : Client} {d : StoreDisk} (same : client.Same client') (queued : sent.isSome)
      (plain : error.isUncertain = false) :
      Ending rt operation commands client sent (.error (.call (.command error)), client') d
  | doubtful {error : ControlError} {client' : Client} {d : StoreDisk} (givenUp : client.GivenUp client')
      (doubt : error.isDoubt = true) (record : client.simulatorMode = false → OnRecord rt client error d) :
      Ending rt operation commands client sent (.error error, client') d

/-- The verdict decides what the client has to do with the store. -/
theorem always_settle (uuid : Uuid) (now : Timestamp rt.digits) (formed : d.WellFormed) {verdict : Verdict × Client}
    (executed : Executed operation batch.commands client sent verdict)
    (lab : client.simulatorMode = false → client.config.hasIncidentDirectory = true ∧ ∃ dutId dutHash,
      client.activeDutId = some dutId ∧ dutIdentitySha256 rt dutId = .ok dutHash) :
    (settle rt uuid now operation batch verdict).Always Does (fun _ => True)
      (fun r s => ∀ out, r = .ok out → out.2.queued = verdict.2.queued ∧ out.2.requestId = verdict.2.requestId ∧
        Ending rt operation batch.commands client sent out s) d := by
  cases executed with
  | certain same queued certain =>
    rintro _ ⟨⟩
    exact ⟨rfl, rfl, .certain same queued certain⟩
  | unsent same queued =>
    rintro _ ⟨⟩
    exact ⟨rfl, rfl, .refused same queued rfl⟩
  | declined same queued plain =>
    rintro _ ⟨⟩
    exact ⟨rfl, rfl, .declined same queued plain⟩
  | @doubtful error doubt client' left =>
    have kept : client'.config = client.config ∧ client'.activeDutId = client.activeDutId ∧
        client'.simulatorMode = client.simulatorMode := by
      obtain same | givenUp := left
      · exact ⟨same.config, same.dut, same.simulator⟩
      · exact ⟨givenUp.config, givenUp.dut, givenUp.simulator⟩
    obtain ⟨config, dut, simulator⟩ := kept
    have givenUp : client.GivenUp (client'.adopt client'.control.abortProcess) := Client.givenUp_abortProcess left
    unfold settle
    apply Program.always_bind
    cases simulated : client.simulatorMode with
    | true =>
      have mode : client'.control.simulatorMode = true := simulator.trans simulated
      unfold handleUncertainCommand
      rw [if_pos mode]
      rintro _ ⟨⟩
      exact ⟨rfl, rfl, .doubtful givenUp rfl (by simp [simulated])⟩
    | false =>
      obtain ⟨stored, dutId, dutHash, active, hashed⟩ := lab simulated
      have mode : client'.control.simulatorMode = false := simulator.trans simulated
      have store : client'.control.hasIncidentStore = true := by simpa [Client.control, config] using stored
      have closes := always_handleUncertainCommand formed hashed uuid now mode store (dut.trans active)
        (uncertainCommand operation batch doubt)
      refine closes.mono (fun _ => id) ?_
      rintro (impossible | ⟨handled, after⟩) s closed
      · exact impossible.elim
      · obtain ⟨rfl, handled, -⟩ := closed handled after rfl
        rintro _ ⟨⟩
        refine ⟨rfl, rfl, ?_⟩
        rcases handled with ⟨r, rfl, lock⟩ | ⟨_, rfl⟩
        · exact .doubtful givenUp rfl fun _ => ⟨dutId, dutHash, active, hashed, .inl ⟨error, r, rfl, lock⟩⟩
        · exact .doubtful givenUp rfl fun _ => ⟨dutId, dutHash, active, hashed, .inr ⟨_, rfl⟩⟩

variable {timeout responseMode requestTimeout : Json} {pipes : Pipes} {out : Controlled} {d' : StoreDisk}

/-- A line that is sent for a control is the request of its batch, under the token that the gate saw. -/
def Sends (rt : Runtime) (operation : Text) (commands : List Command) (timeout responseMode : Json) (client client' : Client)
    (d : StoreDisk) (bytes : List Byte) : Prop :=
  ∃ token batch, Cleared rt commands timeout responseMode client d token batch ∧
    client'.line operation (batch.request token).params = some bytes

/-- The batch has the commands of the call. -/
theorem checkControl_commands (checked : checkControl commands timeout responseMode = .ok batch) :
    batch.commands = commands := by
  obtain ⟨_, -, checked⟩ := ok_bind_iff.mp checked
  obtain ⟨_, -, checked⟩ := ok_bind_iff.mp checked
  obtain ⟨_, -, checked⟩ := ok_bind_iff.mp checked
  obtain ⟨_, -, checked⟩ := ok_bind_iff.mp checked
  obtain rfl := ok_pure_iff.mp checked
  rfl

/-- Every run of a control: what it sends, and how it ends. -/
theorem controls_end (run : Controls rt operation commands timeout responseMode requestTimeout pipes client d out d') :
    ∃ sent : Option (List Byte), out.2.queued = client.queued ++ sent.toList ∧
      (∀ bytes ∈ sent, Sends rt operation commands timeout responseMode client out.2 d bytes) ∧
      Ending rt operation commands client sent out d' := by
  cases run with
  | @refused error _ gate =>
    obtain ⟨-, plain, -⟩ := always_commandGate.reached gate
    exact ⟨none, by simp, by simp, .refused (.refl client) rfl (plain error rfl)⟩
  | @carried token batch d₁ d₂ _ uuid now _ gate others settled =>
    obtain ⟨-, -, cleared⟩ := always_commandGate.reached gate
    have cleared := cleared token batch rfl
    obtain ⟨sent, queue, line, executed⟩ := executeCommandTask_cases operation batch token client requestTimeout pipes
    have lab : client.simulatorMode = false → client.config.hasIncidentDirectory = true ∧ ∃ dutId dutHash,
        client.activeDutId = some dutId ∧ dutIdentitySha256 rt dutId = .ok dutHash := by
      intro simulated
      obtain ⟨stored, dutId, dutHash, active, hashed, -⟩ := cleared.clear simulated
      exact ⟨stored, dutId, dutHash, active, hashed⟩
    obtain ⟨queued, id, ending⟩ := (always_settle uuid now others executed lab).reached settled out rfl
    rw [checkControl_commands cleared.arguments] at ending
    refine ⟨sent, queued.trans queue, fun bytes member => ⟨token, batch, cleared, ?_⟩, ending⟩
    rw [← line bytes member]
    unfold Client.line
    rw [id]

end

end EmsDnp3.Python
